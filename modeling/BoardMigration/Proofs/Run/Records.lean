import BoardMigration.Proofs.Resolution.Delivery
import BoardMigration.Proofs.Run.Logged

/-! No record is lost on its way from the files to the target, and none goes twice. A post without a
topic may go at once, with a later file or at the very end, and any write may fail; the target is still
asked for each record once. -/
namespace BoardMigration

def Item.record? : Item → Option Record
  | .record found => some found
  | .malformed _ => none

def Item.registration? : Item → Option Call
  | .record (.topic topic) => some (.register topic.lastPost topic.id)
  | _ => none

def Record.isPending : Record → Bool
  | .post p => p.isPending
  | _ => false

/-- What the target is given for a record: the record itself, or a post without a topic with one. -/
def Record.Completes (found given : Record) : Prop :=
  match found with
  | .post p => if p.isPending then ∃ topic, given = .post (p.withTopic topic) else given = .post p
  | _ => given = found

namespace Contents

def records : Contents → List Record
  | .items found => found.filterMap Item.record?
  | _ => []

def pending : Contents → List Post
  | .items found => Target.pendingPosts found
  | _ => []

/-- The records of a file that are written as they come. -/
def direct (contents : Contents) : List Record := contents.records.filter (!·.isPending)

def calls : Contents → List Call
  | .items found => found.filterMap Item.registration? ++ [.file (Target.pendingPosts found)]
  | _ => []

end Contents

theorem append_shuffle {α : Type} (a b c d : List α) :
    ((a ++ b) ++ (c ++ d)).Perm ((a ++ c) ++ (b ++ d)) := by
  rw [List.append_assoc, List.append_assoc, ← List.append_assoc b, ← List.append_assoc c]
  exact (List.perm_append_comm.append_right d).append_left a

def resolvedRecords (assigned : List Assignment) : List Record :=
  assigned.map fun a => .post a.resolved

@[simp] theorem resolvedRecords_append (first second : List Assignment) :
    resolvedRecords (first ++ second) = resolvedRecords first ++ resolvedRecords second :=
  List.map_append

namespace Resolution

theorem performAll_append (r : Resolution) (first second : List Call) :
    r.performAll (first ++ second) =
      (((r.performAll first).1.performAll second).1,
        (r.performAll first).2 ++ ((r.performAll first).1.performAll second).2) := by
  induction first generalizing r with
  | nil => rfl
  | cons call rest ih => simp only [List.cons_append, performAll, ih, List.append_assoc]

theorem performAll_flushed (r : Resolution) (calls : List Call) :
    (r.performAll calls).1.flushed = r.flushed := by
  induction calls generalizing r with
  | nil => rfl
  | cons call rest ih => exact (ih _).trans (perform_flushed r call)

/-- An item acts on the resolution as its registration does, and writes itself before what leaves. -/
theorem route_eq (r : Resolution) (item : Item) :
    (r.route item).1 = (r.performAll item.registration?.toList).1 ∧
    Effect.records (r.route item).2 =
      item.record?.toList.filter (!·.isPending) ++
        resolvedRecords (r.performAll item.registration?.toList).2 := by
  cases item with
  | malformed error => exact ⟨rfl, rfl⟩
  | record record =>
    cases record with
    | post post =>
      refine ⟨rfl, ?_⟩
      cases pending : post.isPending <;>
        simp [route, Item.record?, Item.registration?, Record.isPending, pending, Effect.records,
          Effect.record?, performAll, resolvedRecords]
    | topic topic =>
      cases done : r.register topic.lastPost topic.id <;>
        simp [route, Item.record?, Item.registration?, Record.isPending, done, Effect.records,
          Effect.record?, performAll, resolvedRecords, Call.perform, Effect.ofAssigned,
          Function.comp_def]
    | _ => exact ⟨rfl, rfl⟩

theorem routeItems_eq (r : Resolution) (items : List Item) :
    (r.routeItems items).1 = (r.performAll (items.filterMap Item.registration?)).1 ∧
    (Effect.records (r.routeItems items).2).Perm
      ((items.filterMap Item.record?).filter (!·.isPending) ++
        resolvedRecords (r.performAll (items.filterMap Item.registration?)).2) := by
  induction items generalizing r with
  | nil => exact ⟨rfl, .nil⟩
  | cons item rest ih =>
    obtain ⟨table, written⟩ := route_eq r item
    obtain ⟨restTable, restWritten⟩ := ih (r.route item).1
    rw [filterMap_cons_toList, filterMap_cons_toList, performAll_append]
    simp only [routeItems, Effect.records_append, List.filter_append, resolvedRecords_append, written]
    rw [← table]
    exact ⟨restTable, (restWritten.append_left _).trans (append_shuffle _ _ _ _)⟩

theorem routeItems_flushed (r : Resolution) (items : List Item) :
    (r.routeItems items).1.flushed = r.flushed := by
  rw [(routeItems_eq r items).1, performAll_flushed]

theorem routePage_eq {r : Resolution} (open_ : r.flushed = false) (posts : List Post) :
    (r.routePage posts).1 = (Call.perform r (.file posts)).1 ∧
    Effect.records (r.routePage posts).2 =
      resolvedRecords (Call.perform r (.file posts)).2 := by
  rcases file_cases r posts with ⟨rfl, done⟩ | ⟨-, late, -⟩ | ⟨-, -, topic, found, done⟩ |
    ⟨-, -, unknown, done⟩
  · simp [routePage, topicOf?, done, Call.perform, resolvedRecords]
  · exact absurd (open_.symm.trans late) (by simp)
  · simp [routePage, found, done, Call.perform, resolvedRecords]
  · simp [routePage, unknown, done, Call.perform, resolvedRecords, Effect.records, Effect.record?]

theorem routeContents_eq {r : Resolution} (open_ : r.flushed = false) (contents : Contents) :
    (r.routeContents contents).1 = (r.performAll contents.calls).1 ∧
    (Effect.records (r.routeContents contents).2).Perm
      (contents.direct ++ resolvedRecords (r.performAll contents.calls).2) := by
  cases contents with
  | items items =>
    obtain ⟨table, written⟩ := routeItems_eq r items
    have still : (r.routeItems items).1.flushed = false := by rw [routeItems_flushed, open_]
    obtain ⟨pageTable, pageWritten⟩ := routePage_eq still (Target.pendingPosts items)
    have whole : r.routeContents (.items items) =
        (((r.routeItems items).1.routePage (Target.pendingPosts items)).1,
          (r.routeItems items).2 ++
            ((r.routeItems items).1.routePage (Target.pendingPosts items)).2) := by
      cases pending : Target.pendingPosts items with
      | nil => simp [routeContents, pending, routePage, topicOf?, file, Effect.ofAssigned]
      | cons post rest => simp only [routeContents, pending]
    rw [whole, Contents.calls, performAll_append, ← table]
    refine ⟨pageTable, ?_⟩
    simp only [Effect.records_append, pageWritten, resolvedRecords_append, ← List.append_assoc,
      performAll, List.append_nil]
    exact written.append_right _
  | _ => exact ⟨rfl, .nil⟩

theorem routeContents_flushed {r : Resolution} (open_ : r.flushed = false) (contents : Contents) :
    (r.routeContents contents).1.flushed = false := by
  rw [(routeContents_eq open_ contents).1, performAll_flushed, open_]

/-- The records written while files are gone through are those without need of a topic, and the posts
that the resolution hands out. -/
theorem routeAll_eq {r : Resolution} (open_ : r.flushed = false) (files : List SourceFile) :
    (r.routeAll files).1 = (r.performAll (files.flatMap (·.contents.calls))).1 ∧
    ((r.routeAll files).2.flatMap Effect.records).Perm
      (files.flatMap (·.contents.direct) ++
        resolvedRecords (r.performAll (files.flatMap (·.contents.calls))).2) := by
  induction files generalizing r with
  | nil => exact ⟨rfl, .nil⟩
  | cons file rest ih =>
    obtain ⟨table, written⟩ := routeContents_eq open_ file.contents
    obtain ⟨restTable, restWritten⟩ := ih (routeContents_flushed open_ file.contents)
    simp only [List.flatMap_cons, performAll_append, resolvedRecords_append, routeAll]
    rw [← table]
    exact ⟨restTable, (written.append restWritten).trans (append_shuffle _ _ _ _)⟩

end Resolution

/-- Records are those written as they come and those that need a topic. -/
theorem records_split (contents : Contents) :
    contents.records.Perm (contents.direct ++ contents.pending.map .post) := by
  have pending : contents.records.filter Record.isPending = contents.pending.map .post := by
    cases contents with
    | items items =>
      simp only [Contents.records, Contents.pending]
      induction items with
      | nil => rfl
      | cons item rest ih =>
        rcases item with (c | f | t | p | u) | error
        case record.post =>
          cases waits : p.isPending <;>
            simp [Item.record?, Record.isPending, Target.pendingPosts, waits] <;>
            simpa [Target.pendingPosts] using ih
        all_goals
          simpa [List.filterMap_cons, Item.record?, Record.isPending, Target.pendingPosts] using ih
    | _ => rfl
  have split := List.filter_append_perm (fun found : Record => !found.isPending) contents.records
  rw [← pending]
  simpa [Contents.direct] using split.symm

/-- Pages of posts that have no topic of their own. -/
def pagesOf (files : List SourceFile) : List (List Post) :=
  (files.map (·.contents.pending)).filter (!·.isEmpty)

theorem pages_calls (files : List SourceFile) :
    Resolution.pages (files.flatMap (·.contents.calls)) = pagesOf files := by
  unfold pagesOf
  induction files with
  | nil => rfl
  | cons file rest ih =>
    have none (items : List Item) :
        (items.filterMap Item.registration?).filterMap Call.page? = [] := by
      rw [List.filterMap_filterMap, List.filterMap_eq_nil_iff]
      intro item _
      rcases item with (c | f | t | p | u) | error <;> rfl
    rw [List.flatMap_cons, Resolution.pages, List.filterMap_append, ← Resolution.pages,
      ← Resolution.pages, ih, List.map_cons, List.filter_cons]
    cases kind : file.contents with
    | items items =>
      cases pending : Target.pendingPosts items <;>
        simp [Resolution.pages, Contents.calls, Contents.pending, none, Call.page?, pending]
    | _ => simp [Resolution.pages, Contents.calls, Contents.pending]

/-- The resolution keeps its books while files are gone through. -/
theorem ledger_files {files : List SourceFile}
    (distinct : ∀ file ∈ files, (file.contents.pending.map Post.id).Nodup) :
    let calls := files.flatMap (·.contents.calls)
    Resolution.Ledger (pagesOf files) (({} : Resolution).registered calls)
      (Resolution.performAll {} calls).2 (Resolution.performAll {} calls).1 := by
  intro calls
  have pagesDistinct : ∀ page ∈ [] ++ Resolution.pages calls, (page.map Post.id).Nodup := by
    intro page member
    rw [List.nil_append, pages_calls, pagesOf, List.mem_filter, List.mem_map] at member
    obtain ⟨⟨file, inside, rfl⟩, -⟩ := member
    exact distinct file inside
  have ledger := Resolution.ledger_empty.performAll calls pagesDistinct
  simpa only [List.nil_append, pages_calls, calls] using ledger

/-- What files put into a target: what they write as it comes, and their pages, each with its topic. -/
theorem insertions_delivered (files : List SourceFile) (fallback : Int)
    (distinct : ∀ file ∈ files, (file.contents.pending.map Post.id).Nodup) :
    ∃ delivered : List Delivery,
      (insertions files fallback).Perm (files.flatMap (·.contents.direct) ++
        resolvedRecords (delivered.flatMap Delivery.assignments)) ∧
      (delivered.map Delivery.posts).Perm (pagesOf files) ∧
      ∀ d ∈ delivered, d.Settled
        (({} : Resolution).registered (files.flatMap (·.contents.calls))) fallback := by
  obtain ⟨table, written⟩ := Resolution.routeAll_eq (r := {}) rfl files
  obtain ⟨delivered, handed, pages, settled⟩ := (ledger_files distinct).flush fallback
  refine ⟨delivered, ?_, pages, settled⟩
  have late : latePosts files fallback = resolvedRecords (Resolution.flush
      (Resolution.performAll {} (files.flatMap (·.contents.calls))).1 fallback).2 := by
    rw [latePosts, table, resolvedRecords]
  rw [insertions, late, ← handed, resolvedRecords_append, ← List.append_assoc]
  exact written.append_right _

theorem completes_self {found : Record} (ready : found.isPending = false) : found.Completes found := by
  cases found with
  | post p =>
    have settled : p.isPending = false := ready
    simp [Record.Completes, settled]
  | _ => rfl

theorem completes_resolved (post : Post) (topic : Int) (waits : post.isPending = true) :
    (Record.post post).Completes (.post (post.withTopic topic)) := by
  simp only [Record.Completes, waits, if_true]
  exact ⟨topic, rfl⟩

theorem ready_of_completes {found given : Record} (completes : found.Completes given) :
    given.isPending = false := by
  cases found with
  | post p =>
    cases waits : p.isPending with
    | true =>
      simp only [Record.Completes, waits, if_true] at completes
      obtain ⟨topic, rfl⟩ := completes
      rfl
    | false =>
      simp only [Record.Completes, waits] at completes
      exact completes ▸ waits
  | _ =>
    simp only [Record.Completes] at completes
    exact completes ▸ rfl

theorem ready_of_all_complete {found given : List Record}
    (completes : List.Forall₂ Record.Completes found given) :
    ∀ record ∈ given, record.isPending = false := by
  induction completes with
  | nil => simp
  | cons first _ ih => exact List.forall_mem_cons.mpr ⟨ready_of_completes first, ih⟩

theorem isPending_of_pending {contents : Contents} {post : Post} (member : post ∈ contents.pending) :
    post.isPending = true := by
  have inside : Record.post post ∈ contents.direct ++ contents.pending.map .post :=
    List.mem_append_right _ (List.mem_map_of_mem member)
  cases contents with
  | items items =>
    obtain ⟨item, -, found⟩ := List.mem_filterMap.mp member
    split at found
    · split at found
      · next waits => exact Option.some.inj found ▸ waits
      · cases found
    · cases found
  | _ => cases member

/-- What reaches the target is what the files hold, with topics where they lacked. -/
theorem insertions_complete (files : List SourceFile) (fallback : Int)
    (distinct : ∀ file ∈ files, (file.contents.pending.map Post.id).Nodup) :
    ∃ given, List.Forall₂ Record.Completes (files.flatMap (·.contents.records)) given ∧
      given.Perm (insertions files fallback) := by
  obtain ⟨delivered, inserted, pages, -⟩ := insertions_delivered files fallback distinct
  have assigned : (delivered.flatMap Delivery.assignments).map Assignment.post =
      (delivered.map Delivery.posts).flatten := by
    simp [List.flatMap, List.map_flatten, Delivery.assignments, Function.comp_def]
  have waiting : (files.flatMap fun file => file.contents.pending.map Record.post).Perm
      ((delivered.flatMap Delivery.assignments).map fun a => Record.post a.post) := by
    have flat := pages.flatten.map Record.post
    rw [pagesOf, List.flatten_filter_not_isEmpty, ← assigned, List.map_map] at flat
    simpa [List.flatMap, List.map_flatten, Function.comp_def] using flat.symm
  have found : (files.flatMap (·.contents.records)).Perm
      (files.flatMap (·.contents.direct) ++
        (delivered.flatMap Delivery.assignments).map fun a => Record.post a.post) := by
    have each := List.Perm.flatMap_left files fun file _ => records_split file.contents
    exact (each.trans (List.flatMap_append_perm files _ _).symm).trans (waiting.append_left _)
  have completes : List.Forall₂ Record.Completes
      (files.flatMap (·.contents.direct) ++
        (delivered.flatMap Delivery.assignments).map fun a => Record.post a.post)
      (files.flatMap (·.contents.direct) ++
        resolvedRecords (delivered.flatMap Delivery.assignments)) := by
    apply List.rel_append
    · rw [List.forall₂_same]
      intro record member
      obtain ⟨file, -, inside⟩ := List.mem_flatMap.mp member
      exact completes_self (by simpa using (List.mem_filter.mp inside).2)
    · rw [resolvedRecords, List.forall₂_map_left_iff, List.forall₂_map_right_iff, List.forall₂_same]
      intro a member
      have inside : Record.post a.post ∈ files.flatMap fun file => file.contents.pending.map .post :=
        waiting.symm.subset (List.mem_map_of_mem member)
      simp only [List.mem_flatMap, List.mem_map, Record.post.injEq] at inside
      obtain ⟨file, -, post, pending, rfl⟩ := inside
      exact completes_resolved _ a.topic (isPending_of_pending pending)
  obtain ⟨given, related, same⟩ := List.perm_comp_forall₂ found completes
  exact ⟨given, related, same.trans inserted.symm⟩

/-- A whole run asks its target for `inserted` and ends with `summary`. -/
structure Target.InsertsOnce {σ : Type} (target : Target σ) (sink : σ) (fallback : Int)
    (files : List SourceFile) (inserted : List Record) (summary : Summary) : Prop where
  /-- Keeping a log shows what is inserted and changes nothing else. -/
  watched : target.logged.run (sink, []) fallback files .never =
    ⟨((target.run sink fallback files .never).sink, inserted),
      (target.run sink fallback files .never).reports, some summary⟩
  ends : (target.run sink fallback files .never).summary = some summary
  /-- Each record of the files goes once, a post without a topic with one. -/
  complete : ∃ given, List.Forall₂ Record.Completes (files.flatMap (·.contents.records)) given ∧
    given.Perm inserted
  ready : ∀ record ∈ inserted, record.isPending = false
  /-- Each is counted as written, as present or by an error. -/
  counted : summary.written + summary.present + summary.errors.countP (·.2.tellsOfWrite) =
    (files.flatMap (·.contents.records)).length

/-- Whatever files hold and however the target answers, a run loses no record and repeats none. The
posts of a page differ, since a page that named one twice would be handed out twice. -/
theorem run_inserts_once {σ : Type} (target : Target σ) (sink : σ) (fallback : Int)
    (files : List SourceFile)
    (distinct : ∀ file ∈ files, (file.contents.pending.map Post.id).Nodup) :
    ∃ inserted summary, target.InsertsOnce sink fallback files inserted summary := by
  obtain ⟨given, completes, same⟩ := insertions_complete files fallback distinct
  have watched := target.run_logged sink fallback files .never (by simp [Halt.ending])
  have ends := target.run_summary sink fallback files
  have counted : (files.flatMap (·.contents.records)).length = (insertions files fallback).length :=
    completes.length_eq.trans same.length_eq
  exact ⟨insertions files fallback, target.account sink fallback files, {
    watched := by rw [← ends]; exact watched
    ends
    complete := ⟨given, completes, same⟩
    ready := fun record member => ready_of_all_complete completes record (same.symm.subset member)
    counted := by rw [counted]; exact target.account_tally sink fallback files }⟩

/-- A page waits, leaves in the middle of a later file, and every third write fails. -/
theorem run_inserts_once_refused :
    let post (n : Int) : Item := .record (.post { id := n, poster := "Bob" })
    let topic (n last : Int) : Item := .record (.topic { id := n, subject := "News", lastPost := last })
    let files : List SourceFile := [⟨"a", .items [post 1, post 2]⟩,
      ⟨"b", .items [topic 7 2, .malformed ⟨"no id"⟩, topic 8 2]⟩, ⟨"c", .items [post 2, post 3]⟩,
      ⟨"d", .items [post 9]⟩, ⟨"e", .broken "gone"⟩]
    let target : Target Nat := {
      insert := fun n _ => (if n % 3 = 2 then .error (.refused "full") else .ok (n % 2 = 0), n + 1)
      close := id }
    (∀ file ∈ files, (file.contents.pending.map Post.id).Nodup) ∧
    ∃ inserted summary, target.InsertsOnce 0 0 files inserted summary := by
  intro post topic files target
  have distinct : ∀ file ∈ files, (file.contents.pending.map Post.id).Nodup := by decide
  exact ⟨distinct, run_inserts_once target 0 0 files distinct⟩

end BoardMigration
