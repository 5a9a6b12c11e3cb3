import BoardMigration.Proofs.Run.Conflicts

/-! Pages of posts that have to wait. A page waits if no topic that is known when its file has been read ends
with one of its posts; then a later topic gets it, or it is left to the end. Which of these comes to pass can
be seen from the files alone. -/
namespace BoardMigration

/-- Whether no topic ends with a post of a page. -/
def unclaimed (topics : List Topic) (page : List Post) : Bool :=
  waitsToEnd (topics.map fun t => (t.lastPost, t.id)) page

/-- Pages of posts, each with the topics that are known once its file has been read. -/
def arrivals (earlier : List Topic) : List SourceFile → List (List Topic × List Post)
  | [] => []
  | file :: files =>
    (earlier ++ file.contents.topics, file.contents.pending) ::
      arrivals (earlier ++ file.contents.topics) files

/-- Pages whose topic is known when they come. -/
def readyPages (files : List SourceFile) : List (List Post) :=
  ((arrivals [] files).filter fun page => !unclaimed page.1 page.2).map (·.2)

/-- Pages that have to wait. -/
def waitingPages (files : List SourceFile) : List (List Post) :=
  ((arrivals [] files).filter fun page => unclaimed page.1 page.2).map (·.2)

/-- Posts of pages that wait until a topic turns up for them. -/
def claimedLater (files : List SourceFile) : List Post :=
  ((waitingPages files).filter (!unclaimed (topicsOf files) ·)).flatten

/-- Posts that effects leave waiting. -/
def Effect.waits : List Effect → Nat
  | [] => 0
  | .wait posts :: rest => posts + waits rest
  | _ :: rest => waits rest

theorem Effect.waits_append (first second : List Effect) :
    waits (first ++ second) = waits first + waits second := by
  induction first with
  | nil => simp [waits]
  | cons effect rest ih => cases effect <;> simp [waits, ih, Nat.add_assoc]

theorem Effect.waits_ofAssigned (assigned : List Assignment) : waits (ofAssigned assigned) = 0 := by
  induction assigned with
  | nil => rfl
  | cons a rest ih => exact ih

namespace Resolution

variable {r : Resolution} {earlier : List Topic}

theorem Knows.topicOf? (knows : r.Knows earlier) (page : List Post) :
    (r.topicOf? page).isNone = unclaimed earlier page := by
  rw [Bool.eq_iff_iff, Option.isNone_iff_eq_none, topicOf?_eq_none, unclaimed, waitsToEnd,
    List.all_eq_true]
  refine forall₂_congr fun post _ => ?_
  rw [knows]
  simp

theorem waits_routeItems (r : Resolution) (items : List Item) : Effect.waits (r.routeItems items).2 = 0 := by
  induction items generalizing r with
  | nil => rfl
  | cons item rest ih =>
    have none : Effect.waits (r.route item).2 = 0 := by
      cases item with
      | malformed error => rfl
      | record record =>
        cases record with
        | post post => cases pending : post.isPending <;> simp [route, pending, Effect.waits]
        | topic topic =>
          cases done : r.register topic.lastPost topic.id <;>
            simp [route, done, Effect.waits, Effect.waits_ofAssigned]
        | _ => rfl
    simp only [routeItems, Effect.waits_append, none, ih]

theorem Knows.waits_routePage (knows : r.Knows earlier) (open_ : r.flushed = false) (posts : List Post) :
    Effect.waits (r.routePage posts).2 = bif unclaimed earlier posts then posts.length else 0 := by
  rw [← knows.topicOf?]
  rcases file_cases r posts with ⟨rfl, done⟩ | ⟨-, late, -⟩ | ⟨-, -, topic, found, done⟩ |
    ⟨-, -, unknown, done⟩
  · simp [Resolution.routePage, Resolution.topicOf?, done, Effect.waits_ofAssigned]
  · exact absurd (open_.symm.trans late) (by simp)
  · simp [Resolution.routePage, found, Effect.waits_ofAssigned]
  · simp [Resolution.routePage, unknown, done, Effect.waits]

/-- The posts of a file wait if no topic claims one of them by then. -/
theorem Knows.waits_routeContents (knows : r.Knows earlier) (open_ : r.flushed = false)
    (contents : Contents) : Effect.waits (r.routeContents contents).2 =
      bif unclaimed (earlier ++ contents.topics) contents.pending then contents.pending.length else 0 := by
  cases contents with
  | items items =>
    have next := (knows.routeItems items).1
    have still : (r.routeItems items).1.flushed = false := by rw [routeItems_flushed, open_]
    rw [topics_items]
    unfold Resolution.routeContents
    dsimp only
    split
    · next empty => simp [waits_routeItems, Contents.pending, empty]
    · rw [Effect.waits_append, waits_routeItems, next.waits_routePage still, Nat.zero_add]
      rfl
  | _ =>
    simp only [Resolution.routeContents, Effect.waits, Contents.pending, List.length_nil]
    exact (Bool.cond_self _ 0).symm

end Resolution

namespace Resolution

/-- The topics known at the end of files are theirs. -/
theorem Knows.routeAll {r : Resolution} {earlier : List Topic} (knows : r.Knows earlier)
    (open_ : r.flushed = false) (files : List SourceFile) :
    (r.routeAll files).1.Knows (earlier ++ topicsOf files) := by
  induction files generalizing r earlier with
  | nil => rwa [topicsOf_eq, List.flatMap_nil, List.append_nil]
  | cons file rest ih =>
    have next := (knows.routeContents open_ file.contents).1
    have still := routeContents_flushed open_ file.contents
    rw [topicsOf_eq, List.flatMap_cons, ← List.append_assoc, ← topicsOf_eq]
    exact ih next still

end Resolution

theorem topics_arrivals {earlier : List Topic} {files : List SourceFile} {page : List Topic × List Post}
    (member : page ∈ arrivals earlier files) : page.1 ⊆ earlier ++ topicsOf files := by
  induction files generalizing earlier with
  | nil => cases member
  | cons file rest ih =>
    rw [topicsOf_eq, List.flatMap_cons, ← List.append_assoc, ← topicsOf_eq]
    rcases List.mem_cons.mp member with rfl | later
    · exact List.subset_append_left _ _
    · exact ih later

theorem pages_arrivals (earlier : List Topic) (files : List SourceFile) :
    (arrivals earlier files).map (·.2) = files.map (·.contents.pending) := by
  induction files generalizing earlier with
  | nil => rfl
  | cons file rest ih => rw [arrivals, List.map_cons, List.map_cons, ih]

theorem unclaimed_anti {few many : List Topic} (more : few ⊆ many) {page : List Post}
    (none : unclaimed many page = true) : unclaimed few page = true := by
  simp only [unclaimed, waitsToEnd, List.all_eq_true, List.map_map] at none ⊢
  intro post member
  have absent := none post member
  simp only [Bool.not_eq_true', List.contains_eq_mem, decide_eq_false_iff_not, List.mem_map] at absent ⊢
  rintro ⟨t, inside, same⟩
  exact absent ⟨t, more inside, same⟩

theorem pages_arrive (files : List SourceFile) :
    (files.map (·.contents.pending)).Perm (readyPages files ++ waitingPages files) := by
  rw [← pages_arrivals [] files, readyPages, waitingPages, ← List.map_append]
  have split := List.filter_append_perm (fun page => unclaimed page.1 page.2) (arrivals [] files)
  exact (split.symm.trans List.perm_append_comm).map _

/-- Pages that wait do so until a topic turns up, or to the end. -/
theorem waiting_split (files : List SourceFile) : (waitingPages files).flatten.Perm
    (claimedLater files ++ ((pagesOf files).filter (unclaimed (topicsOf files))).flatten) := by
  -- What is ready has a topic to the end, so only pages that wait can be left.
  have claimed : (readyPages files).filter (unclaimed (topicsOf files)) = [] := by
    rw [List.filter_eq_nil_iff]
    intro page member none
    obtain ⟨⟨known, posts⟩, arrived, rfl⟩ := List.mem_map.mp member
    obtain ⟨inside, ready⟩ := List.mem_filter.mp arrived
    have still := unclaimed_anti (topics_arrivals inside) none
    simp [still] at ready
  have left : ((waitingPages files).filter (unclaimed (topicsOf files))).flatten.Perm
      ((pagesOf files).filter (unclaimed (topicsOf files))).flatten := by
    have same := (pages_arrive files).filter (unclaimed (topicsOf files))
    rw [List.filter_append, claimed, List.nil_append] at same
    rw [pagesOf, List.filter_comm, List.flatten_filter_not_isEmpty]
    exact same.flatten.symm
  have split := List.filter_append_perm (unclaimed (topicsOf files)) (waitingPages files)
  have parts := (split.symm.trans List.perm_append_comm).flatten
  rw [List.flatten_append] at parts
  exact parts.trans (left.append_left _)

theorem pages_split (files : List SourceFile) :
    (files.map (·.contents.pending)).flatten.Perm ((readyPages files).flatten ++ claimedLater files ++
      ((pagesOf files).filter (unclaimed (topicsOf files))).flatten) := by
  have flat := (pages_arrive files).flatten
  rw [List.flatten_append] at flat
  rw [List.append_assoc]
  exact flat.trans ((waiting_split files).append_left _)

/-- What is handed out before the end. -/
theorem handed_early (files : List SourceFile)
    (distinct : ∀ file ∈ files, (file.contents.pending.map Post.id).Nodup) :
    ∃ handed : List Assignment,
      (earlyRecords files).Perm (files.flatMap (·.contents.direct) ++ resolvedRecords handed) ∧
      (handed.map (·.post)).Perm ((readyPages files).flatten ++ claimedLater files) := by
  have ledger := ledger_files distinct
  obtain ⟨table, written⟩ := Resolution.routeAll_eq (r := {}) rfl files
  have knows := Resolution.knows_empty.routeAll rfl files
  rw [List.nil_append, table] at knows
  have left := ledger.waiting.flatten
  simp only [knows.topicOf?] at left
  obtain ⟨delivered, handed, split, -⟩ := ledger.accounted
  refine ⟨_, written, ?_⟩
  have posts : (Resolution.performAll {} (files.flatMap (·.contents.calls))).2.map (·.post) =
      (delivered.map Delivery.posts).flatten := by
    rw [handed]
    simp [List.flatMap, List.map_flatten, Delivery.assignments, Function.comp_def]
  rw [posts]
  have whole := split.flatten
  rw [List.flatten_append, pagesOf, List.flatten_filter_not_isEmpty] at whole
  have pages := (left.symm.append_left _).trans (whole.trans (pages_split files))
  exact (List.perm_append_right_iff _).mp pages

/-- What is left to the end are the pages that no topic claims. -/
theorem length_flush_unclaimed (files : List SourceFile) (fallback : Int)
    (distinct : ∀ file ∈ files, (file.contents.pending.map Post.id).Nodup) :
    ((Resolution.routeAll {} files).1.flush fallback).2.length =
      ((pagesOf files).filter (unclaimed (topicsOf files))).flatten.length := by
  have knows := Resolution.knows_empty.routeAll rfl files
  rw [List.nil_append] at knows
  simp only [length_flush distinct, knows.topicOf?]

end BoardMigration
