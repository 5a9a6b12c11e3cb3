import BoardMigration.Resolution
import Mathlib.Data.List.Nodup

/-! What waits in a resolution. A batch is filed under every post it holds and leaves all of them at
once; `Valid` says so, and every operation keeps it, for pages that share posts or repeat one. -/
namespace BoardMigration.Resolution

/-- Batches under a key of the waiting list. -/
def held (waiting : List (Int × List Batch)) (key : Int) : List Batch :=
  (waiting.lookup key).getD []

theorem under_eq_held (r : Resolution) (key : Int) : r.under key = held r.waiting key := rfl

@[simp] theorem held_nil (key : Int) : held [] key = [] := rfl

theorem held_cons (other : Int) (batches : List Batch) (rest : List (Int × List Batch)) (key : Int) :
    held ((other, batches) :: rest) key = if key = other then batches else held rest key := by
  by_cases same : key = other
  · simp [held, same]
  · simp [held, List.lookup_cons, beq_eq_false_iff_ne.mpr same, same]

theorem held_fileUnder (batch : Batch) (waiting : List (Int × List Batch)) (key other : Int) :
    held (fileUnder batch waiting key) other =
      held waiting other ++ if other = key then [batch] else [] := by
  induction waiting with
  | nil => simp [fileUnder, held_cons]
  | cons entry rest ih =>
    obtain ⟨first, batches⟩ := entry
    by_cases here : first = key
    · subst here
      by_cases same : other = first <;> simp [fileUnder, held_cons, same]
    · by_cases same : other = first
      · subst same
        simp [fileUnder, held_cons, here]
      · simp [fileUnder, held_cons, here, same, ih]

/-- A batch is added as often as its keys name the key. -/
theorem held_foldl (batch : Batch) (keys : List Int) (waiting : List (Int × List Batch)) (key : Int) :
    held (keys.foldl (fileUnder batch) waiting) key =
      held waiting key ++ List.replicate (keys.count key) batch := by
  induction keys generalizing waiting with
  | nil => simp
  | cons first rest ih =>
    rw [List.foldl_cons, ih, held_fileUnder, List.append_assoc]
    by_cases same : key = first
    · subst same
      simp [List.replicate_succ]
    · simp [same, Ne.symm same]

theorem keys_fileUnder (batch : Batch) (waiting : List (Int × List Batch)) (key : Int) :
    (fileUnder batch waiting key).map (·.1) =
      waiting.map (·.1) ++ if key ∈ waiting.map (·.1) then [] else [key] := by
  induction waiting with
  | nil => simp [fileUnder]
  | cons entry rest ih =>
    obtain ⟨first, batches⟩ := entry
    by_cases here : first = key
    · simp [fileUnder, here]
    · simp only [fileUnder, beq_iff_eq, here, if_false, List.map_cons, ih, List.cons_append,
        List.mem_cons, Ne.symm here, false_or]

theorem keys_foldl_nodup (batch : Batch) (keys : List Int) (waiting : List (Int × List Batch))
    (distinct : (waiting.map (·.1)).Nodup) :
    ((keys.foldl (fileUnder batch) waiting).map (·.1)).Nodup := by
  induction keys generalizing waiting with
  | nil => exact distinct
  | cons key rest ih =>
    apply ih
    rw [keys_fileUnder]
    split
    · simpa using distinct
    · next absent => exact distinct.append (List.nodup_singleton key) (by simpa using absent)

theorem fileUnder_nonempty (batch : Batch) (waiting : List (Int × List Batch)) (key : Int)
    (filled : ∀ entry ∈ waiting, entry.2 ≠ []) :
    ∀ entry ∈ fileUnder batch waiting key, entry.2 ≠ [] := by
  induction waiting with
  | nil => simp [fileUnder]
  | cons entry rest ih =>
    obtain ⟨first, batches⟩ := entry
    simp only [List.forall_mem_cons] at filled
    by_cases here : first = key
    · simp only [fileUnder, here, beq_self_eq_true, if_true, List.forall_mem_cons]
      exact ⟨by simp, filled.2⟩
    · simp only [fileUnder, beq_iff_eq, here, if_false, List.forall_mem_cons]
      exact ⟨filled.1, ih filled.2⟩

theorem foldl_nonempty (batch : Batch) (keys : List Int) (waiting : List (Int × List Batch))
    (filled : ∀ entry ∈ waiting, entry.2 ≠ []) :
    ∀ entry ∈ keys.foldl (fileUnder batch) waiting, entry.2 ≠ [] := by
  induction keys generalizing waiting with
  | nil => exact filled
  | cons key rest ih => exact ih _ (fileUnder_nonempty batch waiting key filled)

/-- The batches that `keep` lets stay under each key. Keys with none left go. -/
def sieve (keep : Int → Batch → Bool) (waiting : List (Int × List Batch)) : List (Int × List Batch) :=
  (waiting.map fun (key, batches) => (key, batches.filter (keep key))).filter (!·.2.isEmpty)

variable {keep : Int → Batch → Bool} {waiting : List (Int × List Batch)}

theorem sieve_cons (first : Int) (batches : List Batch) (rest : List (Int × List Batch)) :
    sieve keep ((first, batches) :: rest) =
      if (batches.filter (keep first)).isEmpty then sieve keep rest
      else (first, batches.filter (keep first)) :: sieve keep rest := by
  cases empty : (batches.filter (keep first)).isEmpty <;>
    simp only [sieve, List.map_cons, List.filter_cons, empty] <;> rfl

theorem keys_sieve (keep : Int → Batch → Bool) (waiting : List (Int × List Batch)) :
    ((sieve keep waiting).map (·.1)).Sublist (waiting.map (·.1)) := by
  refine (List.filter_sublist.map _).trans ?_
  rw [List.map_map]
  exact List.Sublist.refl (waiting.map (·.1))

theorem sieve_nonempty (keep : Int → Batch → Bool) (waiting : List (Int × List Batch)) :
    ∀ entry ∈ sieve keep waiting, entry.2 ≠ [] := by
  intro entry member
  have filled := (List.mem_filter.mp member).2
  simpa using filled

theorem sieve_congr {other : Int → Batch → Bool}
    (same : ∀ entry ∈ waiting, ∀ batch ∈ entry.2, keep entry.1 batch = other entry.1 batch) :
    sieve keep waiting = sieve other waiting := by
  rw [sieve, sieve]
  congr 1
  refine List.map_congr_left fun entry member => ?_
  exact Prod.ext rfl (List.filter_congr (same entry member))

theorem sieve_all (filled : ∀ entry ∈ waiting, entry.2 ≠ []) (all : ∀ key batch, keep key batch = true) :
    sieve keep waiting = waiting := by
  have kept : (fun entry : Int × List Batch => (entry.1, entry.2.filter (keep entry.1))) = id := by
    funext entry
    exact Prod.ext rfl (List.filter_eq_self.mpr fun batch _ => all entry.1 batch)
  have mapped : (waiting.map fun (key, batches) => (key, batches.filter (keep key))) = waiting :=
    (congrArg (List.map · waiting) kept).trans (List.map_id waiting)
  rw [sieve, mapped, List.filter_eq_self]
  simpa using filled

theorem sieve_sieve (keep more : Int → Batch → Bool) (waiting : List (Int × List Batch)) :
    sieve more (sieve keep waiting) = sieve (fun key batch => keep key batch && more key batch) waiting := by
  induction waiting with
  | nil => rfl
  | cons entry rest ih =>
    obtain ⟨first, batches⟩ := entry
    have twice : (batches.filter (keep first)).filter (more first) =
        batches.filter fun batch => keep first batch && more first batch := by
      rw [List.filter_filter]
      simp only [Bool.and_comm]
    rw [sieve_cons, sieve_cons, ← twice, ← ih]
    by_cases empty : (batches.filter (keep first)).isEmpty
    · rw [if_pos empty, List.isEmpty_iff.mp empty]
      rfl
    · rw [if_neg empty, sieve_cons]

/-- Keys are distinct, so that a key whose last batch goes uncovers no other entry of its own. -/
theorem held_sieve (keep : Int → Batch → Bool) (key : Int) (distinct : (waiting.map (·.1)).Nodup) :
    held (sieve keep waiting) key = (held waiting key).filter (keep key) := by
  induction waiting with
  | nil => rfl
  | cons entry rest ih =>
    obtain ⟨first, batches⟩ := entry
    rw [List.map_cons, List.nodup_cons] at distinct
    have tail := ih distinct.2
    have unlisted : first ∉ (sieve keep rest).map (·.1) :=
      fun member => distinct.1 ((keys_sieve keep rest).subset member)
    have absent : held (sieve keep rest) first = [] := by
      have missing : (sieve keep rest).lookup first = none := by
        rw [List.lookup_eq_none_iff]
        intro p member
        have : first ≠ p.1 := fun same => unlisted (same ▸ List.mem_map_of_mem member)
        simpa using this
      simp [held, missing]
    rw [sieve_cons]
    by_cases empty : (batches.filter (keep first)).isEmpty
    · rw [if_pos empty, held_cons]
      by_cases same : key = first
      · rw [if_pos same, same, absent, List.isEmpty_iff.mp empty]
      · rw [if_neg same, tail]
    · rw [if_neg empty, held_cons, held_cons]
      split
      · next same => rw [same]
      · exact tail

/-- A batch leaves one key, which has one entry. -/
theorem leave_eq (batch : Batch) (key : Int) (distinct : (waiting.map (·.1)).Nodup)
    (filled : ∀ entry ∈ waiting, entry.2 ≠ []) :
    leave batch waiting key = sieve (fun other waits => !(other == key && waits == batch)) waiting := by
  induction waiting with
  | nil => rfl
  | cons entry rest ih =>
    obtain ⟨first, batches⟩ := entry
    rw [List.map_cons, List.nodup_cons] at distinct
    rw [List.forall_mem_cons] at filled
    rw [leave, sieve_cons]
    by_cases here : first = key
    · subst here
      have others : sieve (fun other waits => !(other == first && waits == batch)) rest = rest := by
        have whole : sieve (fun _ _ => true) rest = rest := sieve_all filled.2 fun _ _ => rfl
        rw [← whole, sieve_sieve]
        refine sieve_congr fun entry member waits _ => ?_
        have apart : entry.1 ≠ first := by
          rintro rfl
          exact distinct.1 (List.mem_map.mpr ⟨entry, member, rfl⟩)
        simp [apart]
      have kept : (fun waits => !(first == first && waits == batch)) = (· != batch) := by
        funext waits
        simp [bne]
      rw [if_pos (beq_self_eq_true _), others, kept]
    · have all : batches.filter (fun waits => !(first == key && waits == batch)) = batches := by
        simp [here]
      rw [if_neg (by simpa using here), all, if_neg (by simpa using filled.1), ih distinct.2 filled.2]

theorem foldl_leave_eq (batch : Batch) (keys : List Int) (distinct : (waiting.map (·.1)).Nodup)
    (filled : ∀ entry ∈ waiting, entry.2 ≠ []) :
    keys.foldl (leave batch) waiting =
      sieve (fun other waits => !(keys.contains other && waits == batch)) waiting := by
  induction keys generalizing waiting with
  | nil => exact (sieve_all filled fun _ _ => rfl).symm
  | cons key rest ih =>
    rw [List.foldl_cons, leave_eq batch key distinct filled,
      ih (distinct.sublist (keys_sieve _ _)) (sieve_nonempty _ _), sieve_sieve]
    refine sieve_congr fun entry _ waits _ => ?_
    rw [List.contains_cons]
    cases entry.1 == key <;> cases rest.contains entry.1 <;> cases waits == batch <;> rfl

/-- Batches leave all their keys. -/
theorem detach_eq_sieve (gone : List Batch) (distinct : (waiting.map (·.1)).Nodup)
    (filled : ∀ entry ∈ waiting, entry.2 ≠ []) :
    detach gone waiting =
      sieve (fun other waits => !(gone.any fun batch => batch.keys.contains other && waits == batch)) waiting := by
  induction gone generalizing waiting with
  | nil => exact (sieve_all filled fun _ _ => rfl).symm
  | cons batch rest ih =>
    rw [detach, List.foldl_cons, foldl_leave_eq batch batch.keys distinct filled]
    refine (ih (distinct.sublist (keys_sieve _ _)) (sieve_nonempty _ _)).trans ?_
    rw [sieve_sieve]
    refine sieve_congr fun entry _ waits _ => ?_
    rw [List.any_cons, Bool.not_or]

/-- Lookups of topics and of batches agree on what is known, and each batch is under all its posts. -/
structure Valid (r : Resolution) : Prop where
  /-- A key has one entry. -/
  distinct : (r.waiting.map (·.1)).Nodup
  filled : ∀ entry ∈ r.waiting, entry.2 ≠ []
  /-- Nothing waits for a topic that is registered. -/
  apart : ∀ key topic, r.topic? key = some topic → r.under key = []
  /-- A batch is under each of its posts, as often as it holds it, and under nothing else. -/
  complete : ∀ key, ∀ batch ∈ r.under key, ∀ other,
    (r.under other).count batch = batch.keys.count other
  fresh : ∀ key, ∀ batch ∈ r.under key, batch.number < r.next
  final : r.flushed = true → r.waiting = []

theorem valid_empty : Valid {} := by
  constructor <;> simp [under, topic?]

@[simp] theorem topic?_cons (r : Resolution) (key topic other : Int) :
    topic? { r with topics := (key, topic) :: r.topics } other =
      if other = key then some topic else r.topic? other := by
  by_cases same : other = key
  · simp [topic?, same]
  · simp [topic?, List.lookup_cons, beq_eq_false_iff_ne.mpr same, same]

theorem mem_under {r : Resolution} (valid : Valid r) (key : Int) (batch : Batch) :
    batch ∈ r.under key ↔ ∃ entry ∈ r.waiting, entry.1 = key ∧ batch ∈ entry.2 := by
  rw [under_eq_held]
  have distinct := valid.distinct
  generalize r.waiting = waiting at distinct
  induction waiting with
  | nil => simp
  | cons entry rest ih =>
    obtain ⟨first, batches⟩ := entry
    rw [List.map_cons, List.nodup_cons] at distinct
    rw [held_cons]
    split
    · next same =>
      subst same
      constructor
      · exact fun member => ⟨(key, batches), List.mem_cons_self, rfl, member⟩
      · rintro ⟨found, member, here, inside⟩
        rcases List.mem_cons.mp member with rfl | later
        · exact inside
        · exact absurd (List.mem_map.mpr ⟨found, later, here⟩) distinct.1
    · next other => simp [ih distinct.2, Ne.symm other]

/-- Batches that leave all their keys are gone from every list: none waits under a key that is not its own. -/
theorem Valid.detach_eq {r : Resolution} (valid : Valid r) (gone : List Batch) :
    detach gone r.waiting =
      (r.waiting.map fun (key, batches) => (key, batches.filter (!gone.contains ·))).filter
        (!·.2.isEmpty) := by
  rw [detach_eq_sieve gone valid.distinct valid.filled]
  change _ = sieve (fun _ batch => !gone.contains batch) r.waiting
  refine sieve_congr fun entry member batch inside => ?_
  have waits : batch ∈ r.under entry.1 := (mem_under valid _ _).mpr ⟨entry, member, rfl, inside⟩
  have own : entry.1 ∈ batch.keys := by
    rw [← List.count_pos_iff, ← valid.complete _ _ waits, List.count_pos_iff]
    exact waits
  congr 1
  rw [List.contains_eq_any_beq, Bool.eq_iff_iff, List.any_eq_true, List.any_eq_true]
  constructor
  · rintro ⟨other, left, here⟩
    exact ⟨other, left, (Bool.and_eq_true_iff.mp here).2⟩
  · rintro ⟨other, left, same⟩
    obtain rfl := beq_iff_eq.mp same
    exact ⟨batch, left, by simpa using own⟩

theorem mem_batches {r : Resolution} (valid : Valid r) (batch : Batch) :
    batch ∈ r.batches ↔ ∃ key, batch ∈ r.under key := by
  simp only [batches, List.mem_eraseDups, List.mem_flatMap, mem_under valid]
  constructor
  · rintro ⟨entry, member, inside⟩
    exact ⟨entry.1, entry, member, rfl, inside⟩
  · rintro ⟨key, entry, member, -, inside⟩
    exact ⟨entry, member, inside⟩

theorem nodup_eraseDups (l : List Batch) : l.eraseDups.Nodup := by
  induction h : l.length using Nat.strongRecOn generalizing l with
  | ind n ih =>
    cases l with
    | nil => simp
    | cons a rest =>
      rw [List.eraseDups_cons, List.nodup_cons]
      refine ⟨by simp, ih _ ?_ _ rfl⟩
      have := List.length_filter_le (fun b => !b == a) rest
      simp only [List.length_cons] at h
      omega

theorem nodup_batches (r : Resolution) : r.batches.Nodup := nodup_eraseDups _

/-- A batch waits under each post it holds. -/
theorem mem_under_iff {r : Resolution} (valid : Valid r) {batch : Batch} (waits : batch ∈ r.batches)
    (key : Int) : batch ∈ r.under key ↔ key ∈ batch.keys := by
  obtain ⟨some, member⟩ := (mem_batches valid batch).mp waits
  have count := valid.complete some batch member key
  rw [← List.count_pos_iff, count, List.count_pos_iff]

/-- No post of a waiting batch names a topic that is known. -/
theorem unknown_of_waits {r : Resolution} (valid : Valid r) {batch : Batch}
    (waits : batch ∈ r.batches) {post : Post} (member : post ∈ batch.posts) :
    r.topic? post.id = none := by
  have inside : batch ∈ r.under post.id :=
    (mem_under_iff valid waits _).mpr (List.mem_map_of_mem member)
  cases known : r.topic? post.id with
  | none => rfl
  | some topic => simp [valid.apart _ _ known] at inside

theorem topicOf?_eq_none (r : Resolution) (posts : List Post) :
    r.topicOf? posts = none ↔ ∀ post ∈ posts, r.topic? post.id = none := by
  simp [topicOf?]

theorem topicOf?_eq_some {r : Resolution} {posts : List Post} {topic : Int}
    (found : r.topicOf? posts = some topic) : ∃ post ∈ posts, r.topic? post.id = some topic := by
  obtain ⟨post, member, known⟩ := List.exists_of_findSome?_eq_some found
  exact ⟨post, List.mem_reverse.mp member, known⟩

/-- The resolution with one more batch under the keys of its posts. -/
def withBatch (r : Resolution) (posts : List Post) : Resolution :=
  { r with
    waiting := (Batch.keys ⟨r.next, posts⟩).foldl (fileUnder ⟨r.next, posts⟩) r.waiting
    next := r.next + 1 }

/-- All that filing a page can come to. -/
theorem file_cases (r : Resolution) (posts : List Post) :
    (posts = [] ∧ r.file posts = (r, .assigned [])) ∨
    (posts ≠ [] ∧ r.flushed = true ∧ r.file posts = (r, .refused)) ∨
    (posts ≠ [] ∧ r.flushed = false ∧ ∃ topic, r.topicOf? posts = some topic ∧
      r.file posts = (r, .assigned (posts.map (⟨·, topic⟩)))) ∨
    (posts ≠ [] ∧ r.flushed = false ∧ r.topicOf? posts = none ∧
      r.file posts = (r.withBatch posts, .waits)) := by
  cases posts with
  | nil => exact .inl ⟨rfl, rfl⟩
  | cons post rest =>
    right
    cases late : r.flushed with
    | true => exact .inl ⟨by simp, rfl, by simp [file, late]⟩
    | false =>
      right
      cases found : r.topicOf? (post :: rest) with
      | some topic => exact .inl ⟨by simp, rfl, topic, rfl, by simp [file, late, found]⟩
      | none => exact .inr ⟨by simp, rfl, rfl, by simp [file, late, found, withBatch]⟩

/-- The resolution once a topic is registered and the batches that waited for it have left. -/
def released (r : Resolution) (key topic : Int) : Resolution :=
  { r with
    topics := if r.topic? key = some topic then r.topics else (key, topic) :: r.topics
    waiting := detach (r.under key) r.waiting }

/-- All that registering a topic can come to. -/
theorem register_cases (r : Resolution) (key topic : Int) :
    (∃ existing, r.topic? key = some existing ∧ existing ≠ topic ∧
      r.register key topic = .error ⟨key, existing, topic⟩) ∨
    ((r.topic? key = none ∨ r.topic? key = some topic) ∧
      r.register key topic =
        .ok (r.released key topic, (r.under key).flatMap (·.assign topic))) := by
  cases known : r.topic? key with
  | none => exact .inr ⟨.inl rfl, by simp [register, register.release, released, known, under]⟩
  | some existing =>
    by_cases same : existing = topic
    · subst same
      exact .inr ⟨.inr rfl, by simp [register, register.release, released, known]⟩
    · exact .inl ⟨existing, rfl, same, by simp [register, known, same]⟩

theorem topic?_released (r : Resolution) {key topic : Int}
    (agrees : r.topic? key = none ∨ r.topic? key = some topic) (other : Int) :
    (r.released key topic).topic? other = if other = key then some topic else r.topic? other := by
  rcases agrees with new | known
  · have cons : (r.released key topic).topics = (key, topic) :: r.topics := if_neg (by simp [new])
    rw [topic?, cons]
    exact topic?_cons r key topic other
  · have same : (r.released key topic).topics = r.topics := if_pos known
    rw [topic?, same]
    split
    · next here => exact here ▸ known
    · rfl

theorem under_released {r : Resolution} (valid : Valid r) (key topic other : Int) :
    (r.released key topic).under other = (r.under other).filter (!(r.under key).contains ·) := by
  rw [under_eq_held, released, valid.detach_eq]
  exact held_sieve (fun _ batch => !(r.under key).contains batch) other valid.distinct

theorem under_withBatch (r : Resolution) (posts : List Post) (key : Int) :
    (r.withBatch posts).under key =
      r.under key ++ List.replicate ((Batch.keys ⟨r.next, posts⟩).count key) ⟨r.next, posts⟩ :=
  held_foldl _ _ _ _

theorem released_valid {r : Resolution} (valid : Valid r) {key topic : Int}
    (agrees : r.topic? key = none ∨ r.topic? key = some topic) : Valid (r.released key topic) where
  distinct := by
    rw [released, valid.detach_eq]
    exact valid.distinct.sublist (keys_sieve (fun _ batch => !(r.under key).contains batch) _)
  filled := by
    rw [released, valid.detach_eq]
    exact sieve_nonempty (fun _ batch => !(r.under key).contains batch) _
  apart := by
    intro other found known
    rw [topic?_released r agrees] at known
    rw [under_released valid]
    split at known
    · next same => simp [same]
    · rw [valid.apart other found known, List.filter_nil]
  complete := by
    intro some batch member other
    rw [under_released valid, List.mem_filter] at member
    rw [under_released valid,
      List.count_filter (p := fun batch => !(r.under key).contains batch) member.2]
    exact valid.complete some batch member.1 other
  fresh := by
    intro some batch member
    rw [under_released valid, List.mem_filter] at member
    exact valid.fresh some batch member.1
  final := by
    intro late
    have under : r.under key = [] := by rw [under, valid.final late]; rfl
    simp [released, under, valid.final late, detach]

/-- The number of a new batch tells it apart from all that wait. -/
theorem count_new {r : Resolution} (valid : Valid r) (posts : List Post) (key : Int) :
    (r.under key).count ⟨r.next, posts⟩ = 0 := by
  rw [List.count_eq_zero]
  intro member
  exact absurd (valid.fresh key _ member) (Nat.lt_irrefl _)

theorem withBatch_valid {r : Resolution} (valid : Valid r) {posts : List Post}
    (open_ : r.flushed = false) (unknown : r.topicOf? posts = none) :
    Valid (r.withBatch posts) where
  distinct := keys_foldl_nodup _ _ _ valid.distinct
  filled := foldl_nonempty _ _ _ valid.filled
  apart := by
    intro key topic known
    have before : r.under key = [] := valid.apart key topic known
    have absent : key ∉ Batch.keys ⟨r.next, posts⟩ := by
      intro member
      obtain ⟨post, inside, rfl⟩ := List.mem_map.mp member
      have := (topicOf?_eq_none r posts).mp unknown post inside
      exact absurd (known.symm.trans this) (by simp)
    rw [under_withBatch, before, List.count_eq_zero.mpr absent]
    rfl
  complete := by
    intro key batch member other
    rw [under_withBatch, List.count_append, List.count_replicate]
    rw [under_withBatch, List.mem_append, List.mem_replicate] at member
    by_cases new : batch = ⟨r.next, posts⟩
    · subst new
      simp [count_new valid]
    · have old : batch ∈ r.under key := member.resolve_right fun added => new added.2
      simp [Ne.symm new, valid.complete key batch old other]
  fresh := by
    intro key batch member
    rw [under_withBatch, List.mem_append, List.mem_replicate] at member
    rcases member with old | ⟨-, rfl⟩
    · exact Nat.lt_succ_of_lt (valid.fresh key batch old)
    · exact Nat.lt_succ_self _
  final := by
    intro late
    exact absurd (open_.symm.trans late) (by simp)

/-- A new batch waits beside all others. -/
theorem batches_withBatch {r : Resolution} (valid : Valid r) {posts : List Post}
    (open_ : r.flushed = false) (unknown : r.topicOf? posts = none) (filled : posts ≠ []) :
    (r.withBatch posts).batches.Perm (r.batches ++ [⟨r.next, posts⟩]) := by
  have after := withBatch_valid valid open_ unknown
  have new : ⟨r.next, posts⟩ ∉ r.batches := by
    intro member
    obtain ⟨key, inside⟩ := (mem_batches valid _).mp member
    exact absurd (valid.fresh key _ inside) (Nat.lt_irrefl _)
  apply (List.perm_ext_iff_of_nodup (nodup_batches _) ?_).mpr
  · intro batch
    rw [mem_batches after, List.mem_append, mem_batches valid, List.mem_singleton]
    constructor
    · rintro ⟨key, member⟩
      rw [under_withBatch, List.mem_append, List.mem_replicate] at member
      exact member.imp (⟨key, ·⟩) And.right
    · rintro (⟨key, member⟩ | rfl)
      · exact ⟨key, by rw [under_withBatch]; exact List.mem_append_left _ member⟩
      · obtain ⟨post, rest, rfl⟩ := List.exists_cons_of_ne_nil filled
        refine ⟨post.id, ?_⟩
        rw [under_withBatch]
        apply List.mem_append_right
        simp [Batch.keys]
  · exact (nodup_batches r).append (List.nodup_singleton _) (by simpa using new)

/-- Batches that leave a key leave for good, and the others stay. -/
theorem batches_released {r : Resolution} (valid : Valid r) {key topic : Int}
    (agrees : r.topic? key = none ∨ r.topic? key = some topic) {gone : List Batch}
    (distinct : gone.Nodup) (same : ∀ batch, batch ∈ gone ↔ batch ∈ r.under key) :
    r.batches.Perm (gone ++ (r.released key topic).batches) := by
  have after := released_valid valid agrees
  have stays (batch : Batch) : batch ∈ (r.released key topic).batches ↔
      batch ∈ r.batches ∧ batch ∉ gone := by
    rw [mem_batches after, mem_batches valid, same]
    constructor
    · rintro ⟨other, member⟩
      rw [under_released valid, List.mem_filter] at member
      exact ⟨⟨other, member.1⟩, by simpa using member.2⟩
    · rintro ⟨⟨other, member⟩, absent⟩
      refine ⟨other, ?_⟩
      rw [under_released valid, List.mem_filter]
      exact ⟨member, by simpa using absent⟩
  apply (List.perm_ext_iff_of_nodup (nodup_batches r) ?_).mpr
  · intro batch
    have waits : batch ∈ gone → batch ∈ r.batches :=
      fun member => (mem_batches valid batch).mpr ⟨key, (same batch).mp member⟩
    rw [List.mem_append, stays]
    by_cases inside : batch ∈ gone <;> simp [inside, waits]
  · apply distinct.append (nodup_batches _)
    intro batch inside later
    exact ((stays batch).mp later).2 inside

theorem flush_valid {r : Resolution} (valid : Valid r) (fallback : Int) :
    Valid (r.flush fallback).1 := by
  unfold flush
  split
  · exact valid
  · constructor <;> simp [under]

end BoardMigration.Resolution
