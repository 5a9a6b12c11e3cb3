import BoardMigration.Proofs.Run.Memory

/-! The order of files. Where files do not contradict each other, a run leaves the same rows in memory
whichever file comes first, and its summary differs in nothing but the order of errors. A page may wait
in one run and not in the other; either way it goes home. -/
namespace BoardMigration

def Record.topic? : Record → Option Topic
  | .topic t => some t
  | _ => none

def Record.post? : Record → Option Post
  | .post p => some p
  | _ => none

def recordsOf (files : List SourceFile) : List Record := files.flatMap (·.contents.records)

def topicsOf (files : List SourceFile) : List Topic := (recordsOf files).filterMap Record.topic?

def postsOf (files : List SourceFile) : List Post := (recordsOf files).filterMap Record.post?

/-- Files that do not contradict each other. -/
structure Harmonious (files : List SourceFile) : Prop where
  /-- A post is the last one of one topic only. -/
  topics : ∀ s ∈ topicsOf files, ∀ t ∈ topicsOf files, s.lastPost = t.lastPost → s.id = t.id
  /-- Posts of a page that are last ones are so of one topic. -/
  pages : ∀ file ∈ files, ∀ a ∈ file.contents.pending, ∀ b ∈ file.contents.pending,
    ∀ s ∈ topicsOf files, ∀ t ∈ topicsOf files, s.lastPost = a.id → t.lastPost = b.id → s.id = t.id
  posts : ((postsOf files).map Post.id).Nodup
  /-- Other records of one identity have one row. -/
  rows : ∀ a ∈ recordsOf files, ∀ b ∈ recordsOf files, a.post? = none → b.post? = none →
    a.identity = b.identity → a.row = b.row

def claimsOf (files : List SourceFile) : List (Int × Int) :=
  Resolution.claims (files.flatMap (·.contents.calls))

theorem claims_calls (contents : Contents) :
    Resolution.claims contents.calls =
      (contents.records.filterMap Record.topic?).map fun t => (t.lastPost, t.id) := by
  cases contents with
  | items items =>
    have filed : Resolution.claims [.file (Target.pendingPosts items)] = [] := rfl
    rw [Contents.calls, Contents.records, Resolution.claims_append, filed, List.append_nil]
    clear filed
    induction items with
    | nil => rfl
    | cons item rest ih =>
      rw [filterMap_cons_toList, filterMap_cons_toList, Resolution.claims_append,
        List.filterMap_append, List.map_append, ← ih]
      rcases item with (c | f | t | p | u) | error <;> rfl
  | _ => rfl

theorem claimsOf_eq (files : List SourceFile) :
    claimsOf files = (topicsOf files).map fun t => (t.lastPost, t.id) := by
  simp only [claimsOf, Resolution.claims, topicsOf, recordsOf, List.filterMap_flatMap,
    List.map_flatMap, ← claims_calls]

theorem mem_claimsOf {files : List SourceFile} {key topic : Int} :
    (key, topic) ∈ claimsOf files ↔ ∃ t ∈ topicsOf files, t.lastPost = key ∧ t.id = topic := by
  simp [claimsOf_eq]

theorem Harmonious.consistent {files : List SourceFile} (harmonious : Harmonious files) :
    Resolution.Consistent (claimsOf files) := by
  intro key first second one other
  obtain ⟨s, named, rfl, rfl⟩ := mem_claimsOf.mp one
  obtain ⟨t, again, same, rfl⟩ := mem_claimsOf.mp other
  exact harmonious.topics s named t again same.symm

/-- Where topics agree, all of them are registered. -/
theorem Harmonious.registered {files : List SourceFile} (harmonious : Harmonious files) :
    ({} : Resolution).registered (files.flatMap (·.contents.calls)) = claimsOf files := by
  have inside : ∀ claim ∈ Resolution.claims (files.flatMap (·.contents.calls)),
      claim ∈ claimsOf files := fun _ claimed => claimed
  exact ((Resolution.within_empty _).performAll harmonious.consistent _ inside).2

theorem pending_sublist (contents : Contents) :
    contents.pending.Sublist (contents.records.filterMap Record.post?) := by
  cases contents with
  | items items =>
    simp only [Contents.pending, Contents.records]
    induction items with
    | nil => exact .slnil
    | cons item rest ih =>
      rcases item with (c | f | t | p | u) | error
      case record.post =>
        cases waits : p.isPending
        · simpa [Target.pendingPosts, Item.record?, Record.post?, waits] using ih.cons p
        · simpa [Target.pendingPosts, Item.record?, Record.post?, waits] using ih
      all_goals
        simpa [Target.pendingPosts, Item.record?, Record.post?, List.filterMap_cons] using ih
  | _ => exact .slnil

theorem Harmonious.distinct {files : List SourceFile} (harmonious : Harmonious files) :
    ∀ file ∈ files, (file.contents.pending.map Post.id).Nodup := by
  intro file member
  have inside : (file.contents.records.filterMap Record.post?).Sublist (postsOf files) := by
    rw [postsOf, recordsOf, List.filterMap_flatMap, List.flatMap_def]
    exact List.sublist_flatten_of_mem (List.mem_map_of_mem member)
  exact harmonious.posts.sublist (((pending_sublist _).trans inside).map Post.id)

def sentHome (claims : List (Int × Int)) (fallback : Int) (page : List Post) : List Assignment :=
  page.map (⟨·, home claims fallback page⟩)

/-- What a run inserts is settled by its files, whatever their order: what they write as it comes, and
their pages sent home. -/
theorem Harmonious.insertions_home {files : List SourceFile} (harmonious : Harmonious files)
    (fallback : Int) {claims : List (Int × Int)} (same : ∀ c, c ∈ claims ↔ c ∈ claimsOf files) :
    (insertions files fallback).Perm (files.flatMap (·.contents.direct) ++
      resolvedRecords ((pagesOf files).flatMap (sentHome claims fallback))) := by
  obtain ⟨delivered, inserted, pages, settled⟩ :=
    insertions_delivered files fallback harmonious.distinct
  have goesHome : ∀ d ∈ delivered, d.assignments = sentHome claims fallback d.posts := by
    intro d member
    have known : d.Settled claims fallback := by
      have here := settled d member
      rw [harmonious.registered] at here
      simpa only [Delivery.Settled, same] using here
    obtain ⟨file, inside, posts⟩ : ∃ file ∈ files, file.contents.pending = d.posts := by
      have filed := pages.subset (List.mem_map_of_mem member)
      exact List.mem_map.mp (List.mem_filter.mp filed).1
    rw [Delivery.assignments, sentHome, ← known.topic_eq]
    intro a here b there s t one other
    rw [same] at one other
    obtain ⟨first, named, lastA, rfl⟩ := mem_claimsOf.mp one
    obtain ⟨second, again, lastB, rfl⟩ := mem_claimsOf.mp other
    exact harmonious.pages file inside a (posts ▸ here) b (posts ▸ there) first named second again
      lastA lastB
  have whole : delivered.flatMap Delivery.assignments =
      (delivered.map Delivery.posts).flatMap (sentHome claims fallback) := by
    rw [List.flatMap_map]
    exact List.flatMap_congr goesHome
  rw [whole] at inserted
  refine inserted.trans (List.Perm.append_left _ ?_)
  exact (pages.flatMap_right (sentHome claims fallback)).map _

/-- A page waits to the end of a run if no topic ends with a post of it. -/
def waitsToEnd (claims : List (Int × Int)) (page : List Post) : Bool :=
  page.all fun post => !(claims.map (·.1)).contains post.id

/-- The posts that fall back are those of the pages whose topic is not known in the end. -/
theorem length_flush {files : List SourceFile}
    (distinct : ∀ file ∈ files, (file.contents.pending.map Post.id).Nodup) (fallback : Int) :
    ((Resolution.routeAll {} files).1.flush fallback).2.length = ((pagesOf files).filter fun page =>
      ((Resolution.routeAll {} files).1.topicOf? page).isNone).flatten.length := by
  have ledger := ledger_files distinct
  rw [(Resolution.routeAll_eq (r := {}) rfl files).1, ← ledger.waiting.flatten.length_eq]
  simp [Resolution.flush, ledger.unflushed, Batch.assign, List.length_flatMap, Function.comp_def]

/-- The posts that fall back are those of the pages that no file helps. -/
theorem Harmonious.flushed {files : List SourceFile} (harmonious : Harmonious files) (fallback : Int) :
    ((Resolution.routeAll {} files).1.flush fallback).2.length =
      ((pagesOf files).filter (waitsToEnd (claimsOf files))).flatten.length := by
  have ledger := ledger_files harmonious.distinct
  have unknown (page : List Post) :
      ((Resolution.performAll {} (files.flatMap (·.contents.calls))).1.topicOf? page).isNone =
        waitsToEnd (claimsOf files) page := by
    rw [Bool.eq_iff_iff, Option.isNone_iff_eq_none, Resolution.topicOf?_eq_none, waitsToEnd,
      List.all_eq_true]
    refine forall₂_congr fun post _ => ?_
    rw [Option.eq_none_iff_forall_ne_some]
    simp only [ne_eq, ← ledger.known, harmonious.registered]
    simp
  rw [length_flush harmonious.distinct, (Resolution.routeAll_eq (r := {}) rfl files).1]
  simp only [unknown]

theorem post?_eq_some_iff {record : Record} {p : Post} : record.post? = some p ↔ record = .post p := by
  cases record <;> simp [Record.post?]

theorem post?_of_identity {a b : Record} (same : a.identity = b.identity) {p : Post}
    (isPost : a.post? = some p) : ∃ q, b.post? = some q ∧ p.id = q.id := by
  obtain rfl := post?_eq_some_iff.mp isPost
  cases b with
  | post q => exact ⟨q, rfl, by simpa [Record.identity, Record.key, Record.table] using same⟩
  | forum f => cases number : f.id <;> simp [Record.identity, Record.key, Record.table, number] at same
  | _ => simp [Record.identity, Record.key, Record.table] at same

theorem completes_ids {found given : List Record}
    (completes : List.Forall₂ Record.Completes found given) :
    (given.filterMap Record.post?).map Post.id = (found.filterMap Record.post?).map Post.id := by
  induction completes with
  | nil => rfl
  | @cons a b _ _ first _ ih =>
    rw [filterMap_cons_toList, filterMap_cons_toList, List.map_append, List.map_append, ih]
    congr 1
    cases a with
    | post p =>
      simp only [Record.Completes] at first
      split at first
      · obtain ⟨topic, rfl⟩ := first
        rfl
      · rw [first]
    | _ => rw [show b = _ from first]

/-- Records other than posts are inserted as they were found. -/
theorem completes_other {found given : List Record}
    (completes : List.Forall₂ Record.Completes found given) {record : Record}
    (member : record ∈ given) (other : record.post? = none) : record ∈ found := by
  induction completes with
  | nil => exact member
  | @cons a b _ _ first _ ih =>
    rcases List.mem_cons.mp member with rfl | later
    · cases a with
      | post p =>
        simp only [Record.Completes] at first
        split at first
        · obtain ⟨topic, rfl⟩ := first
          cases other
        · rw [first] at other
          cases other
      | _ => exact List.mem_cons.mpr (.inl first)
    · exact List.mem_cons_of_mem _ (ih later)

/-- Insertions of one identity have one row. -/
theorem Harmonious.rows_agree {files : List SourceFile} (harmonious : Harmonious files)
    (fallback : Int) :
    ∀ a ∈ insertions files fallback, ∀ b ∈ insertions files fallback,
      a.identity = b.identity → a.row = b.row := by
  obtain ⟨given, completes, whole⟩ := insertions_complete files fallback harmonious.distinct
  have ids : ((given.filterMap Record.post?).map Post.id).Nodup := by
    rw [completes_ids completes]
    exact harmonious.posts
  intro a memberA b memberB same
  have givenA := whole.symm.subset memberA
  have givenB := whole.symm.subset memberB
  cases kind : a.post? with
  | some p =>
    obtain ⟨q, other, number⟩ := post?_of_identity same kind
    have one : p = q := List.inj_on_of_nodup_map ids (List.mem_filterMap.mpr ⟨a, givenA, kind⟩)
      (List.mem_filterMap.mpr ⟨b, givenB, other⟩) number
    rw [post?_eq_some_iff.mp kind, post?_eq_some_iff.mp other, one]
  | none =>
    have other : b.post? = none := by
      cases found : b.post? with
      | none => rfl
      | some q =>
        obtain ⟨p, isPost, -⟩ := post?_of_identity same.symm found
        exact absurd (kind.symm.trans isPost) (by simp)
    exact harmonious.rows a (completes_other completes givenA kind) b
      (completes_other completes givenB other) kind other same

def Memory.row? (memory : Memory) (i : Identity) : Option (List (String × Value)) :=
  (memory.find? (·.identity == i)).map Record.row

/-- Summaries that count the same and tell the same errors, in whatever order. -/
structure Summary.Alike (first second : Summary) : Prop where
  written : first.written = second.written
  present : first.present = second.present
  flushed : first.flushed = second.flushed
  processed : first.processed = second.processed
  failed : first.failed = second.failed
  errors : first.errors.Perm second.errors

/-- Runs that leave the same rows and tell the same. -/
structure Memory.Alike (first second : Completed Memory) : Prop where
  rows : ∀ i, first.sink.row? i = second.sink.row? i
  summaries : ∃ s t, first.summary = some s ∧ second.summary = some t ∧ s.Alike t

variable {files other : List SourceFile}

theorem mem_claimsOf_perm (same : files.Perm other) (claim : Int × Int) :
    claim ∈ claimsOf files ↔ claim ∈ claimsOf other := by
  rw [claimsOf_eq, claimsOf_eq]
  exact ((((same.flatMap_right _).filterMap _)).map _).mem_iff

theorem Harmonious.perm (harmonious : Harmonious files) (same : files.Perm other) :
    Harmonious other := by
  have records : (recordsOf files).Perm (recordsOf other) := same.flatMap_right _
  have topics (t : Topic) : t ∈ topicsOf other ↔ t ∈ topicsOf files :=
    (records.filterMap _).symm.mem_iff
  constructor
  · simpa only [topics] using harmonious.topics
  · simpa only [topics, same.symm.mem_iff] using harmonious.pages
  · exact ((records.filterMap _).map _).nodup_iff.mp harmonious.posts
  · simpa only [records.symm.mem_iff] using harmonious.rows

theorem Harmonious.insertions_perm (harmonious : Harmonious files) (same : files.Perm other)
    (fallback : Int) : (insertions files fallback).Perm (insertions other fallback) := by
  have first := harmonious.insertions_home fallback (fun _ => Iff.rfl)
  have second := (harmonious.perm same).insertions_home fallback (mem_claimsOf_perm same)
  have direct : (files.flatMap (·.contents.direct)).Perm (other.flatMap (·.contents.direct)) :=
    same.flatMap_right _
  have pages : (pagesOf files).Perm (pagesOf other) := (same.map _).filter _
  have sent := (pages.flatMap_right (sentHome (claimsOf files) fallback)).map
    fun a : Assignment => Record.post a.resolved
  exact first.trans ((direct.append sent).trans second.symm)

theorem Harmonious.flushed_perm (harmonious : Harmonious files) (same : files.Perm other)
    (fallback : Int) : ((Resolution.routeAll {} files).1.flush fallback).2.length =
      ((Resolution.routeAll {} other).1.flush fallback).2.length := by
  have keys (key : Int) : key ∈ (claimsOf files).map (·.1) ↔ key ∈ (claimsOf other).map (·.1) := by
    simp only [List.mem_map, mem_claimsOf_perm same]
  have unhelped : waitsToEnd (claimsOf files) = waitsToEnd (claimsOf other) := by
    funext page
    simp only [waitsToEnd, List.contains_eq_mem, keys]
  have pages : (pagesOf files).Perm (pagesOf other) := (same.map _).filter _
  rw [harmonious.flushed, (harmonious.perm same).flushed, unhelped]
  exact (pages.filter _).flatten.length_eq

/-- The order of files does not matter where they do not contradict each other: the same rows are left,
with the same topics for posts, and the same is told. -/
theorem run_alike (harmonious : Harmonious files) (same : files.Perm other) (fallback : Int) :
    Memory.Alike (Memory.target.run [] fallback files .never)
      (Memory.target.run [] fallback other .never) where
  rows := by
    intro i
    have kept (fs : List SourceFile) : (Memory.target.run [] fallback fs .never).sink =
        keepFirst Record.identity [] (insertions fs fallback) := by
      rw [Target.run_sink _ _ _ _ _ (by simp [Halt.ending]), Memory.insertAll_eq]
      rfl
    simp only [Memory.row?, kept, find?_keepFirst, List.nil_append]
    exact find?_map_perm (harmonious.insertions_perm same fallback) Record.row
      (harmonious.rows_agree fallback) i
  summaries := by
    refine ⟨_, _, Target.run_summary _ _ _ _, Target.run_summary _ _ _ _, ?_⟩
    have inserted := harmonious.insertions_perm same fallback
    obtain ⟨errors, processed, failed⟩ :=
      Memory.willing.account_errors [] fallback files harmonious.consistent
    obtain ⟨errors', processed', failed'⟩ :=
      Memory.willing.account_errors [] fallback other (harmonious.perm same).consistent
    have told : (Memory.target.account [] fallback files).errors.Perm
        (Memory.target.account [] fallback other).errors := by
      rw [errors, errors']
      exact same.flatMap_right _
    have written : (Memory.target.account [] fallback files).written =
        (Memory.target.account [] fallback other).written := by
      rw [Memory.account_written, Memory.account_written]
      exact length_keepFirst_perm (inserted.map _)
    have tally := Memory.target.account_tally [] fallback files
    have tally' := Memory.target.account_tally [] fallback other
    have length := inserted.length_eq
    have failures := told.countP_eq (·.2.tellsOfWrite)
    exact {
      written
      present := by
        simp only at tally tally'
        omega
      flushed := harmonious.flushed_perm same fallback
      processed := by rw [processed, processed', same.countP_eq]
      failed := by rw [failed, failed', same.countP_eq]
      errors := told }

/-- A page that waits in one order is helped at once in the other; another is never helped. -/
theorem run_alike_reversed :
    let post (n : Int) : Item := .record (.post { id := n, poster := "Bob" })
    let files : List SourceFile := [⟨"a", .items [post 1, post 2]⟩,
      ⟨"b", .items [.record (.category { name := "General" }),
        .record (.topic { id := 7, subject := "News", lastPost := 2 })]⟩,
      ⟨"c", .items [post 3, .malformed ⟨"no id"⟩]⟩, ⟨"d", .broken "gone"⟩,
      ⟨"e", .items [.record (.category { name := "General" })]⟩]
    Harmonious files ∧ files.Perm files.reverse ∧
    Memory.Alike (Memory.target.run [] 0 files .never)
      (Memory.target.run [] 0 files.reverse .never) := by
  intro post files
  have harmonious : Harmonious files := by
    constructor <;> decide
  exact ⟨harmonious, files.reverse_perm.symm, run_alike harmonious files.reverse_perm.symm 0⟩

end BoardMigration
