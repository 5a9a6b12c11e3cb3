import BoardMigration.Proofs.Resolution.Reachable
import Mathlib.Algebra.Order.BigOperators.Group.List
import Mathlib.Algebra.Order.Ring.Nat

/-! What waits against what goes out. Batches leave whole and for good, and a flush hands each of them out
once. A topic that turns up hands a batch out as often as the batch holds the topic's last post, so what it
hands out is what stops waiting only if no page lists that post twice. -/
namespace BoardMigration

/-- Elements without repetition, each repeated as often as asked. -/
theorem count_flatMap_replicate {α : Type} [DecidableEq α] {l : List α} (distinct : l.Nodup)
    (times : α → Nat) (a : α) :
    (l.flatMap fun b => List.replicate (times b) b).count a = if a ∈ l then times a else 0 := by
  induction l with
  | nil => rfl
  | cons b rest ih =>
    rw [List.nodup_cons] at distinct
    rw [List.flatMap_cons, List.count_append, ih distinct.2, List.count_replicate]
    by_cases same : b = a
    · subst same
      simp [distinct.1]
    · simp [same, Ne.symm same]

namespace Resolution

/-- Batches leave those that wait, and each goes out whole, as many times as said. -/
def Drained (before after : Resolution) (topic : Int) (handed : List Assignment) (times : Batch → Nat) :
    Prop :=
  ∃ gone : List Batch, gone.Nodup ∧ before.batches.Perm (gone ++ after.batches) ∧
    handed.Perm ((gone.flatMap fun batch => List.replicate (times batch) batch).flatMap (·.assign topic))

/-- Each post of each batch that leaves goes out once, and as many posts go out as stop waiting. -/
structure Balanced (before after : Resolution) (topic : Int) (handed : List Assignment) : Prop where
  once : Drained before after topic handed fun _ => 1
  pending : handed.length + after.pending = before.pending

def postCount (batches : List Batch) : Nat := (batches.map (·.posts.length)).sum

theorem pending_eq (r : Resolution) : r.pending = postCount r.batches := by
  simp [pending, postCount, List.length_flatMap]

theorem postCount_perm {first second : List Batch} (same : first.Perm second) :
    postCount first = postCount second := (same.map _).sum_eq

theorem postCount_append (first second : List Batch) :
    postCount (first ++ second) = postCount first + postCount second := by
  simp [postCount]

theorem length_assign (batches : List Batch) (topic : Int) :
    (batches.flatMap (·.assign topic)).length = postCount batches := by
  simp [postCount, Batch.assign, List.length_flatMap]

theorem postCount_repeated (gone : List Batch) (times : Batch → Nat) :
    postCount (gone.flatMap fun batch => List.replicate (times batch) batch) =
      (gone.map fun batch => times batch * batch.posts.length).sum := by
  induction gone with
  | nil => rfl
  | cons batch rest ih =>
    rw [List.flatMap_cons, postCount_append, ih]
    simp [postCount]

/-- What goes out once is what stops waiting. -/
theorem balanced_of_drained {before after : Resolution} {topic : Int} {handed : List Assignment}
    (drained : Drained before after topic handed fun _ => 1) : Balanced before after topic handed := by
  refine ⟨drained, ?_⟩
  obtain ⟨gone, -, left, out⟩ := drained
  rw [out.length_eq, length_assign, postCount_repeated, pending_eq, pending_eq, postCount_perm left,
    postCount_append]
  simp [postCount]

variable {r : Resolution}

/-- A batch is under a key as often as it holds the key's post. -/
theorem under_perm (valid : Valid r) (key : Int) :
    (r.under key).Perm
      ((r.under key).eraseDups.flatMap fun batch => List.replicate (batch.keys.count key) batch) := by
  rw [List.perm_iff_count]
  intro batch
  rw [count_flatMap_replicate (nodup_eraseDups _)]
  split
  · next listed => exact valid.complete key batch (List.mem_eraseDups.mp listed) key
  · next absent => exact List.count_eq_zero.mpr (mt List.mem_eraseDups.mpr absent)

theorem drained_nothing (r : Resolution) (topic : Int) (times : Batch → Nat) :
    Drained r r topic [] times := ⟨[], .nil, .refl _, .refl _⟩

theorem drained_register (valid : Valid r) (key topic : Int) :
    let done := (Call.register key topic).perform r
    Drained r done.1 topic done.2 (·.keys.count key) := by
  rcases register_cases r key topic with ⟨existing, -, -, refused⟩ | ⟨agrees, done⟩
  · simpa [Call.perform, refused] using drained_nothing r topic _
  · simp only [Call.perform, done]
    refine ⟨(r.under key).eraseDups, nodup_eraseDups _, ?_, ?_⟩
    · exact batches_released valid agrees (nodup_eraseDups _) fun _ => List.mem_eraseDups
    · exact (under_perm valid key).flatMap_right _

/-- A key whose batches leave holds each of them at least once, and none of them is empty. -/
theorem under_counts (valid : Valid r) {key : Int} {batch : Batch} (member : batch ∈ r.under key) :
    1 ≤ batch.keys.count key ∧ 0 < batch.posts.length := by
  have times := valid.complete key batch member key
  have some : 0 < batch.keys.count key := times ▸ List.count_pos_iff.mpr member
  refine ⟨some, ?_⟩
  have listed : key ∈ batch.keys := List.count_pos_iff.mp some
  obtain ⟨post, inside, -⟩ := List.mem_map.mp listed
  exact List.length_pos_of_mem inside

/-- More posts are under a key than wait for it, as soon as one of the batches holds its post again. -/
theorem postCount_under_lt (valid : Valid r) {key : Int} {batch : Batch} (member : batch ∈ r.under key)
    (again : batch.keys.count key ≠ 1) : postCount (r.under key).eraseDups < postCount (r.under key) := by
  rw [postCount_perm (under_perm valid key), postCount_repeated, postCount]
  apply List.sum_lt_sum
  · intro other listed
    exact Nat.le_mul_of_pos_left _ (under_counts valid (List.mem_eraseDups.mp listed)).1
  · obtain ⟨least, filled⟩ := under_counts valid member
    have twice : 1 < batch.keys.count key := by omega
    exact ⟨batch, List.mem_eraseDups.mpr member, lt_mul_of_one_lt_left filled twice⟩

/-- Pages that list the post twice go out twice, which the number of waiting posts does not bear out. -/
theorem balanced_register_iff (valid : Valid r) (key topic : Int) :
    let done := (Call.register key topic).perform r
    Balanced r done.1 topic done.2 ↔ ∀ batch ∈ r.under key, batch.keys.count key = 1 := by
  intro done
  rcases register_cases r key topic with ⟨existing, known, -, refused⟩ | ⟨agrees, handed⟩
  · have same : done = (r, []) := by simp [done, Call.perform, refused]
    rw [same, valid.apart key existing known]
    exact iff_of_true (balanced_of_drained (drained_nothing r topic _)) (by simp)
  · have same : done = (r.released key topic, (r.under key).flatMap (·.assign topic)) := by
      simp [done, Call.perform, handed]
    rw [same]
    have leave := batches_released valid agrees (nodup_eraseDups _) fun _ => List.mem_eraseDups
    constructor
    · intro balanced batch member
      by_contra differs
      have more := postCount_under_lt valid member differs
      have total := balanced.pending
      rw [length_assign, pending_eq, pending_eq, postCount_perm leave, postCount_append] at total
      exact absurd (Nat.add_right_cancel total) more.ne'
    · intro single
      apply balanced_of_drained
      refine ⟨(r.under key).eraseDups, nodup_eraseDups _, leave, ?_⟩
      have each : ∀ batch ∈ (r.under key).eraseDups,
          List.replicate (batch.keys.count key) batch = List.replicate 1 batch :=
        fun batch listed => by rw [single batch (List.mem_eraseDups.mp listed)]
      have out := under_perm valid key
      rw [List.flatMap_congr each] at out
      exact out.flatMap_right _

theorem balanced_flush (r : Resolution) (fallback : Int) :
    Balanced r (r.flush fallback).1 fallback (r.flush fallback).2 := by
  apply balanced_of_drained
  unfold Resolution.flush
  split
  · exact drained_nothing r fallback _
  · refine ⟨r.batches, nodup_batches r, ?_, ?_⟩
    · simp [batches]
    · simp

/-- Whatever was asked of a resolution before, a flush hands each post that waits out once, and as many go
out as stop waiting. A topic hands the batches that wait for it out as often as they hold its last post; so
it balances in the same way if and only if none of them holds that post twice. -/
theorem balanced_iff (requests : List Request) :
    let r := ({} : Resolution).after requests
    (∀ fallback, Balanced r (r.flush fallback).1 fallback (r.flush fallback).2) ∧
    ∀ key topic,
      let done := (Call.register key topic).perform r
      Drained r done.1 topic done.2 (·.keys.count key) ∧
      (Balanced r done.1 topic done.2 ↔ ∀ batch ∈ r.under key, batch.keys.count key = 1) := by
  intro r
  have valid : Valid r := valid_empty.after requests
  exact ⟨balanced_flush r, fun key topic =>
    ⟨drained_register valid key topic, balanced_register_iff valid key topic⟩⟩

/-- A page that lists post 5 twice waits with two posts, and four go out. -/
theorem twice_listed_unbalanced :
    let post : Post := { id := 5, poster := "Bob" }
    let r := ({} : Resolution).after [.call (.file [post, post])]
    let done := (Call.register 5 7).perform r
    r.pending = 2 ∧ done.1.pending = 0 ∧ done.2.length = 4 ∧ ¬ Balanced r done.1 7 done.2 := by
  intro post r done
  have waits : r.pending = 2 := by decide
  have left : done.1.pending = 0 := by decide
  have out : done.2.length = 4 := by decide
  refine ⟨waits, left, out, fun balanced => ?_⟩
  have total := balanced.pending
  omega

end Resolution
end BoardMigration
