import BoardMigration.Proofs.Resolution.Claims

/-! Every state a resolution can get into. Calls and final flushes may come in any order and any
number, with pages that share posts or repeat one, and topics that contradict each other. -/
namespace BoardMigration

/-- What is asked of a resolution at any time, a flush included. -/
inductive Request where
  | call (call : Call)
  | flush (fallback : Int)
  deriving DecidableEq, Repr

namespace Request

def perform (r : Resolution) : Request → Resolution × List Assignment
  | call c => c.perform r
  | flush fallback => r.flush fallback

def isFlush : Request → Bool
  | call _ => false
  | flush _ => true

end Request

namespace Resolution

def after (r : Resolution) (requests : List Request) : Resolution :=
  requests.foldl (fun r request => (request.perform r).1) r

variable {r : Resolution}

theorem Valid.perform (valid : Valid r) (call : Call) : Valid (call.perform r).1 := by
  cases call with
  | register key topic =>
    rcases register_cases r key topic with ⟨existing, -, -, refused⟩ | ⟨agrees, done⟩
    · simpa [Call.perform, refused] using valid
    · simpa [Call.perform, done] using released_valid valid agrees
  | file posts =>
    rcases file_cases r posts with ⟨-, done⟩ | ⟨-, -, done⟩ | ⟨-, -, topic, -, done⟩ |
      ⟨-, open_, unknown, done⟩
    · simpa [Call.perform, done] using valid
    · simpa [Call.perform, done] using valid
    · simpa [Call.perform, done] using valid
    · simpa [Call.perform, done] using withBatch_valid valid open_ unknown

theorem Valid.request (valid : Valid r) (request : Request) : Valid (request.perform r).1 := by
  cases request with
  | call c => exact valid.perform c
  | flush fallback => exact flush_valid valid fallback

theorem Valid.after (valid : Valid r) (requests : List Request) : Valid (r.after requests) := by
  induction requests generalizing r with
  | nil => exact valid
  | cons request rest ih => exact ih (valid.request request)

/-- A topic that is known stays known, and stays the same. -/
theorem topic?_request {key topic : Int} (known : r.topic? key = some topic) (request : Request) :
    (request.perform r).1.topic? key = some topic := by
  cases request with
  | call c =>
    cases c with
    | register other claimed =>
      rcases register_cases r other claimed with ⟨existing, -, -, refused⟩ | ⟨agrees, done⟩
      · simpa [Request.perform, Call.perform, refused] using known
      · simp only [Request.perform, Call.perform, done, topic?_released r agrees]
        split
        · next same =>
          rcases agrees with absent | here
          · rw [same, absent] at known
            cases known
          · rw [← here, ← same, known]
        · exact known
    | file posts => exact (topic?_file r posts key).trans known
  | flush fallback =>
    simp only [Request.perform, Resolution.flush]
    split
    · exact known
    · exact known

theorem topic?_after {key topic : Int} (known : r.topic? key = some topic)
    (requests : List Request) : (r.after requests).topic? key = some topic := by
  induction requests generalizing r with
  | nil => exact known
  | cons request rest ih => exact ih (topic?_request known request)

theorem flushed_request (r : Resolution) (request : Request) :
    (request.perform r).1.flushed = (r.flushed || request.isFlush) := by
  cases request with
  | call c => simpa [Request.perform, Request.isFlush] using perform_flushed r c
  | flush fallback =>
    cases late : r.flushed <;> simp [Request.perform, Request.isFlush, Resolution.flush, late]

theorem flushed_after (r : Resolution) (requests : List Request) :
    (r.after requests).flushed = (r.flushed || requests.any Request.isFlush) := by
  induction requests generalizing r with
  | nil => simp [Resolution.after]
  | cons request rest ih =>
    have step := ih (request.perform r).1
    rw [flushed_request] at step
    simpa [Resolution.after, Bool.or_assoc] using step

/-- A topic that is registered again finds nothing to hand out, and nothing changes. -/
theorem register_again (valid : Valid r) {key topic : Int} (known : r.topic? key = some topic) :
    r.register key topic = .ok (r, []) := by
  have none : r.under key = [] := valid.apart key topic known
  have same : r.released key topic = r := by
    simp [released, known, none, detach]
  rcases register_cases r key topic with ⟨existing, found, differs, -⟩ | ⟨-, done⟩
  · exact absurd (Option.some.inj (found.symm.trans known)) differs
  · rw [done, same, none]
    rfl

theorem register_conflict {key topic other : Int} (known : r.topic? key = some topic)
    (differs : other ≠ topic) : r.register key other = .error ⟨key, topic, other⟩ := by
  rcases register_cases r key other with ⟨existing, found, -, refused⟩ | ⟨agrees, -⟩
  · rw [refused, Option.some.inj (found.symm.trans known)]
  · rcases agrees with absent | same
    · exact absurd (absent.symm.trans known) (by simp)
    · exact absurd (Option.some.inj (same.symm.trans known)) differs

/-- What holds of a resolution whatever was asked of it. -/
structure Sound (r : Resolution) : Prop where
  /-- A key has one list of batches. -/
  distinct : (r.waiting.map (·.1)).Nodup
  /-- A key whose topic is registered has none. -/
  apart : ∀ key topic, r.topic? key = some topic → r.waiting.lookup key = none
  /-- No list is empty. -/
  filled : ∀ key batches, r.waiting.lookup key = some batches → batches ≠ []
  /-- A batch is in the list of each of its posts as often as it holds the post, and in no other. -/
  placed : ∀ batch ∈ r.batches, ∀ key, (r.under key).count batch = batch.keys.count key
  /-- Nothing waits once all was handed out. -/
  final : r.flushed = true → r.waiting = [] ∧ r.pending = 0
  /-- A topic once known is known for good. -/
  lasting : ∀ key topic, r.topic? key = some topic →
    ∀ requests, (r.after requests).topic? key = some topic
  /-- A topic that contradicts it is refused and changes nothing. -/
  conflict : ∀ key topic other, r.topic? key = some topic → other ≠ topic →
    r.register key other = .error ⟨key, topic, other⟩ ∧
    (Request.call (.register key other)).perform r = (r, [])
  /-- The same topic again hands out nothing and changes nothing. -/
  again : ∀ key topic, r.topic? key = some topic → r.register key topic = .ok (r, [])

theorem Valid.lookup_filled (valid : Valid r) {key : Int} {batches : List Batch}
    (found : r.waiting.lookup key = some batches) : batches ≠ [] := by
  obtain ⟨before, later, split, -⟩ := List.lookup_eq_some_iff.mp found
  exact valid.filled (key, batches) (by simp [split])

theorem Valid.lookup_known (valid : Valid r) {key topic : Int} (known : r.topic? key = some topic) :
    r.waiting.lookup key = none := by
  have nothing := valid.apart key topic known
  cases found : r.waiting.lookup key with
  | none => rfl
  | some batches => exact absurd (by simpa [under, found] using nothing) (valid.lookup_filled found)

theorem Valid.sound (valid : Valid r) : Sound r where
  distinct := valid.distinct
  apart _ _ known := valid.lookup_known known
  filled _ _ found := valid.lookup_filled found
  placed batch waits key := by
    obtain ⟨other, member⟩ := (mem_batches valid batch).mp waits
    exact valid.complete other batch member key
  final late := by
    have none := valid.final late
    exact ⟨none, by simp [pending, batches, none]⟩
  lasting _ _ known requests := topic?_after known requests
  conflict key topic other known differs := by
    have refused := register_conflict known differs
    exact ⟨refused, by simp [Request.perform, Call.perform, refused]⟩
  again _ _ known := register_again valid known

/-- Whatever is asked of a new resolution, it stays sound, and a flush among the requests leaves
nothing that waits. -/
theorem after_sound (requests : List Request) :
    let r := ({} : Resolution).after requests
    Sound r ∧ (requests.any Request.isFlush = true → r.waiting = [] ∧ r.pending = 0) := by
  intro r
  have sound : Sound r := (valid_empty.after requests).sound
  have late : r.flushed = requests.any Request.isFlush := by
    simpa using flushed_after {} requests
  exact ⟨sound, fun flushes => sound.final (late.trans flushes)⟩

end Resolution
end BoardMigration
