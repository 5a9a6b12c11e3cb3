import BoardMigration.Proofs.KeepFirst
import BoardMigration.Proofs.Resolution.Waiting

/-! What becomes of pages of posts. Whatever calls a resolution meets, each page goes out once, whole
and with one topic: the one registered for a post of it, whichever came first, or else the one to fall
back on when all is over. -/
namespace BoardMigration

/-- What is asked of a resolution before the end. -/
inductive Call where
  | register (key topic : Int)
  | file (posts : List Post)
  deriving DecidableEq, Repr

namespace Call

/-- The resolution after a call, and the posts handed out. A topic that contradicts an earlier one and
a page that comes too late hand out nothing. -/
def perform (r : Resolution) : Call → Resolution × List Assignment
  | register key topic =>
    match r.register key topic with
    | .ok done => done
    | .error _ => (r, [])
  | file posts =>
    match r.file posts with
    | (r, .assigned assigned) => (r, assigned)
    | (r, _) => (r, [])

/-- The topic that a call registers, unless it is refused. -/
def registers? (r : Resolution) : Call → Option (Int × Int)
  | register key topic =>
    match r.register key topic with
    | .ok _ => some (key, topic)
    | .error _ => none
  | file _ => none

/-- The page that a call files; an empty one is none. -/
def page? : Call → Option (List Post)
  | file posts => if posts.isEmpty then none else some posts
  | register _ _ => none

end Call

structure Delivery where
  posts : List Post
  topic : Int

def Delivery.assignments (d : Delivery) : List Assignment := d.posts.map (⟨·, d.topic⟩)

/-- The topic is registered for a post of the page; if none is, it is the one to fall back on. -/
def Delivery.Settled (registered : List (Int × Int)) (fallback : Int) (d : Delivery) : Prop :=
  (∃ post ∈ d.posts, (post.id, d.topic) ∈ registered) ∨
  (d.topic = fallback ∧ ∀ post ∈ d.posts, ∀ topic, (post.id, topic) ∉ registered)

namespace Resolution

def performAll (r : Resolution) : List Call → Resolution × List Assignment
  | [] => (r, [])
  | call :: calls =>
    let (r, handed) := call.perform r
    let (r, rest) := performAll r calls
    (r, handed ++ rest)

/-- The topics registered by calls that were not refused. -/
def registered (r : Resolution) : List Call → List (Int × Int)
  | [] => []
  | call :: calls => (call.registers? r).toList ++ registered (call.perform r).1 calls

def pages (calls : List Call) : List (List Post) := calls.filterMap Call.page?

/-- All posts handed out by calls on an empty resolution and at the end. -/
def handedOut (calls : List Call) (fallback : Int) : List Assignment :=
  let (r, handed) := performAll {} calls
  handed ++ (r.flush fallback).2

theorem perform_flushed (r : Resolution) (call : Call) : (call.perform r).1.flushed = r.flushed := by
  cases call with
  | register key topic =>
    rcases register_cases r key topic with ⟨existing, -, -, refused⟩ | ⟨-, done⟩
    · simp [Call.perform, refused]
    · simp [Call.perform, done, released]
  | file posts =>
    rcases file_cases r posts with ⟨-, done⟩ | ⟨-, -, done⟩ | ⟨-, -, topic, -, done⟩ | ⟨-, -, -, done⟩
    all_goals simp [Call.perform, done, withBatch]

/-- What was filed, registered and handed out so far. -/
structure Ledger (pages : List (List Post)) (registered : List (Int × Int))
    (handed : List Assignment) (r : Resolution) : Prop where
  valid : Valid r
  unflushed : r.flushed = false
  known : ∀ key topic, (key, topic) ∈ registered ↔ r.topic? key = some topic
  /-- A page is delivered or waits, and what is handed out is what is delivered. -/
  accounted : ∃ delivered : List Delivery,
    handed = delivered.flatMap Delivery.assignments ∧
    (delivered.map Delivery.posts ++ r.batches.map Batch.posts).Perm pages ∧
    ∀ d ∈ delivered, ∃ post ∈ d.posts, r.topic? post.id = some d.topic

theorem ledger_empty : Ledger [] [] [] {} where
  valid := valid_empty
  unflushed := rfl
  known := by simp [topic?]
  accounted := ⟨[], by simp [batches]⟩

/-- A page whose posts differ waits once under each of them. -/
theorem nodup_under {r : Resolution} (valid : Valid r)
    (distinct : ∀ batch ∈ r.batches, batch.keys.Nodup) (key : Int) : (r.under key).Nodup := by
  rw [List.nodup_iff_count_le_one]
  intro batch
  by_cases member : batch ∈ r.under key
  · rw [valid.complete key batch member]
    exact List.nodup_iff_count_le_one.mp
      (distinct batch ((mem_batches valid batch).mpr ⟨key, member⟩)) key
  · rw [List.count_eq_zero.mpr member]
    exact Nat.zero_le 1

variable {pages : List (List Post)} {registered : List (Int × Int)} {handed : List Assignment}
variable {r : Resolution}

theorem Ledger.keys_nodup (ledger : Ledger pages registered handed r)
    (distinct : ∀ page ∈ pages, (page.map Post.id).Nodup) :
    ∀ batch ∈ r.batches, batch.keys.Nodup := by
  intro batch member
  obtain ⟨delivered, -, split, -⟩ := ledger.accounted
  apply distinct
  apply split.subset
  exact List.mem_append_right _ (List.mem_map_of_mem member)

theorem Ledger.register (ledger : Ledger pages registered handed r)
    (distinct : ∀ page ∈ pages, (page.map Post.id).Nodup) {key topic : Int}
    (agrees : r.topic? key = none ∨ r.topic? key = some topic) :
    Ledger pages (registered ++ [(key, topic)])
      (handed ++ (r.under key).flatMap (·.assign topic)) (r.released key topic) where
  valid := released_valid ledger.valid agrees
  unflushed := ledger.unflushed
  known := by
    intro other found
    rw [List.mem_append, ledger.known, topic?_released r agrees, List.mem_singleton, Prod.mk.injEq]
    by_cases same : other = key
    · subst same
      rcases agrees with new | old
      · simp [new, eq_comm]
      · simp [old, eq_comm]
    · simp [same]
  accounted := by
    obtain ⟨delivered, rfl, split, topics⟩ := ledger.accounted
    refine ⟨delivered ++ (r.under key).map fun batch => ⟨batch.posts, topic⟩, ?_, ?_, ?_⟩
    · rw [List.flatMap_append, List.flatMap_map]
      rfl
    · have leave := batches_released ledger.valid agrees
        (nodup_under ledger.valid (ledger.keys_nodup distinct) key) (fun _ => Iff.rfl)
      have posts := (leave.map Batch.posts).append_left (delivered.map Delivery.posts)
      rw [List.map_append, ← List.append_assoc] at posts
      refine List.Perm.trans ?_ (posts.symm.trans split)
      simp [Function.comp_def]
    · intro d member
      rcases List.mem_append.mp member with old | new
      · obtain ⟨post, inside, found⟩ := topics d old
        refine ⟨post, inside, ?_⟩
        rw [topic?_released r agrees]
        split
        · next same =>
          rcases agrees with absent | known
          · rw [same, absent] at found
            cases found
          · rw [← known, ← same, found]
        · exact found
      · obtain ⟨batch, waits, rfl⟩ := List.mem_map.mp new
        have inside : key ∈ batch.keys :=
          (mem_under_iff ledger.valid ((mem_batches ledger.valid batch).mpr ⟨key, waits⟩) key).mp waits
        obtain ⟨post, member, here⟩ := List.mem_map.mp inside
        refine ⟨post, member, ?_⟩
        rw [topic?_released r agrees, if_pos here]

theorem Ledger.assign (ledger : Ledger pages registered handed r) {posts : List Post} {topic : Int}
    (found : r.topicOf? posts = some topic) :
    Ledger (pages ++ [posts]) registered (handed ++ posts.map (⟨·, topic⟩)) r where
  valid := ledger.valid
  unflushed := ledger.unflushed
  known := ledger.known
  accounted := by
    obtain ⟨delivered, rfl, split, topics⟩ := ledger.accounted
    refine ⟨delivered ++ [⟨posts, topic⟩], ?_, ?_, ?_⟩
    · simp [Delivery.assignments]
    · have more := split.append_right [posts]
      refine List.Perm.trans ?_ more
      simp only [List.map_append, List.map_cons, List.map_nil, List.append_assoc]
      exact (List.perm_append_comm).append_left _
    · intro d member
      rcases List.mem_append.mp member with old | new
      · exact topics d old
      · rw [List.mem_singleton.mp new]
        exact topicOf?_eq_some found

theorem Ledger.wait (ledger : Ledger pages registered handed r) {posts : List Post}
    (unknown : r.topicOf? posts = none) (filled : posts ≠ []) :
    Ledger (pages ++ [posts]) registered handed (r.withBatch posts) where
  valid := withBatch_valid ledger.valid ledger.unflushed unknown
  unflushed := ledger.unflushed
  known := ledger.known
  accounted := by
    obtain ⟨delivered, given, split, topics⟩ := ledger.accounted
    refine ⟨delivered, given, ?_, topics⟩
    have waits := batches_withBatch ledger.valid ledger.unflushed unknown filled
    have posts := (waits.map Batch.posts).append_left (delivered.map Delivery.posts)
    rw [List.map_append, ← List.append_assoc] at posts
    exact posts.trans (split.append_right _)

theorem Ledger.perform (ledger : Ledger pages registered handed r)
    (distinct : ∀ page ∈ pages, (page.map Post.id).Nodup) (call : Call) :
    Ledger (pages ++ call.page?.toList) (registered ++ (call.registers? r).toList)
      (handed ++ (call.perform r).2) (call.perform r).1 := by
  cases call with
  | register key topic =>
    rcases register_cases r key topic with ⟨existing, -, -, refused⟩ | ⟨agrees, done⟩
    · simpa [Call.perform, Call.registers?, Call.page?, refused] using ledger
    · simpa [Call.perform, Call.registers?, Call.page?, done] using ledger.register distinct agrees
  | file posts =>
    rcases file_cases r posts with ⟨rfl, done⟩ | ⟨-, late, -⟩ | ⟨filled, -, topic, found, done⟩ |
      ⟨filled, -, unknown, done⟩
    · simpa [Call.perform, Call.registers?, Call.page?, done] using ledger
    · exact absurd (ledger.unflushed.symm.trans late) (by simp)
    · simpa [Call.perform, Call.registers?, Call.page?, done, filled] using ledger.assign found
    · simpa [Call.perform, Call.registers?, Call.page?, done, filled] using
        ledger.wait unknown filled

theorem Ledger.performAll (ledger : Ledger pages registered handed r) (calls : List Call)
    (distinct : ∀ page ∈ pages ++ Resolution.pages calls, (page.map Post.id).Nodup) :
    Ledger (pages ++ Resolution.pages calls) (registered ++ r.registered calls)
      (handed ++ (r.performAll calls).2) (r.performAll calls).1 := by
  induction calls generalizing pages registered handed r with
  | nil => simpa [Resolution.pages, Resolution.registered, Resolution.performAll] using ledger
  | cons call calls ih =>
    have split : Resolution.pages (call :: calls) = call.page?.toList ++ Resolution.pages calls :=
      filterMap_cons_toList Call.page? call calls
    rw [split, ← List.append_assoc] at distinct ⊢
    have next := ledger.perform (fun page member => distinct page (by simp [member])) call
    simpa [Resolution.registered, Resolution.performAll] using ih next distinct

/-- When all is over, what waits goes out with the topic to fall back on. -/
theorem Ledger.flush (ledger : Ledger pages registered handed r) (fallback : Int) :
    ∃ delivered : List Delivery,
      handed ++ (r.flush fallback).2 = delivered.flatMap Delivery.assignments ∧
      (delivered.map Delivery.posts).Perm pages ∧
      ∀ d ∈ delivered, d.Settled registered fallback := by
  obtain ⟨delivered, rfl, split, topics⟩ := ledger.accounted
  refine ⟨delivered ++ r.batches.map fun batch => ⟨batch.posts, fallback⟩, ?_, ?_, ?_⟩
  · rw [List.flatMap_append, List.flatMap_map]
    simp [Resolution.flush, ledger.unflushed, Batch.assign, Delivery.assignments]
  · simpa [Function.comp_def] using split
  · intro d member
    rcases List.mem_append.mp member with early | last
    · obtain ⟨post, inside, found⟩ := topics d early
      exact .inl ⟨post, inside, (ledger.known _ _).mpr found⟩
    · obtain ⟨batch, waits, rfl⟩ := List.mem_map.mp last
      refine .inr ⟨rfl, fun post inside topic registered => ?_⟩
      have unknown := unknown_of_waits ledger.valid waits inside
      exact absurd (((ledger.known _ _).mp registered).symm.trans unknown) (by simp)

/-- Each page that is filed goes out exactly once, whole and with one topic, and nothing else goes out:
posts handed out are those of the pages, page by page. A topic registered for a post of the page wins
whether it comes before the page or after it; the topic to fall back on is left for pages without one.
Pages may share posts, and topics may contradict each other. -/
theorem handedOut_once (calls : List Call) (fallback : Int)
    (distinct : ∀ page ∈ Resolution.pages calls, (page.map Post.id).Nodup) :
    ∃ delivered : List Delivery,
      handedOut calls fallback = delivered.flatMap Delivery.assignments ∧
      (delivered.map Delivery.posts).Perm (Resolution.pages calls) ∧
      ∀ d ∈ delivered, d.Settled (({} : Resolution).registered calls) fallback := by
  have ledger := ledger_empty.performAll calls (by simpa using distinct)
  simpa [handedOut] using ledger.flush fallback

/-- Two pages share post 2, whose topic is contradicted; post 9 has none. -/
theorem handedOut_once_shared :
    let post (n : Int) : Post := { id := n, poster := "Bob" }
    let calls : List Call := [.file [post 1, post 2], .file [post 3, post 2], .register 2 7,
      .register 2 8, .file [post 2, post 4], .file [post 9], .file []]
    (∀ page ∈ Resolution.pages calls, (page.map Post.id).Nodup) ∧
    ∃ delivered : List Delivery,
      handedOut calls 0 = delivered.flatMap Delivery.assignments ∧
      (delivered.map Delivery.posts).Perm (Resolution.pages calls) ∧
      ∀ d ∈ delivered, d.Settled (({} : Resolution).registered calls) 0 := by
  intro post calls
  have distinct : ∀ page ∈ Resolution.pages calls, (page.map Post.id).Nodup := by decide
  exact ⟨distinct, handedOut_once calls 0 distinct⟩

end Resolution
end BoardMigration
