import BoardMigration.Proofs.Related
import BoardMigration.Proofs.Resolution.Delivery

/-! Topics that do not contradict each other. If every last post is claimed for one topic only, no claim
is refused, and neither where a page goes nor whether it waits to the end depends on what came first. -/
namespace BoardMigration

def Call.claim? : Call → Option (Int × Int)
  | .register key topic => some (key, topic)
  | .file _ => none

namespace Resolution

def claims (calls : List Call) : List (Int × Int) := calls.filterMap Call.claim?

@[simp] theorem claims_append (first second : List Call) :
    claims (first ++ second) = claims first ++ claims second := List.filterMap_append

/-- No post is claimed for two topics. -/
def Consistent (all : List (Int × Int)) : Prop :=
  ∀ key first second, (key, first) ∈ all → (key, second) ∈ all → first = second

/-- All topics that are known were claimed. -/
def Within (all : List (Int × Int)) (r : Resolution) : Prop :=
  ∀ key topic, r.topic? key = some topic → (key, topic) ∈ all

theorem within_empty (all : List (Int × Int)) : Within all {} := by
  simp [Within, topic?]

variable {all : List (Int × Int)} {r : Resolution}

/-- A consistent claim never meets another topic. -/
theorem Within.agrees (within : Within all r) (consistent : Consistent all) {key topic : Int}
    (claimed : (key, topic) ∈ all) : r.topic? key = none ∨ r.topic? key = some topic := by
  cases known : r.topic? key with
  | none => exact .inl rfl
  | some existing => exact .inr (by rw [consistent key existing topic (within _ _ known) claimed])

theorem Within.register (within : Within all r) (consistent : Consistent all) {key topic : Int}
    (claimed : (key, topic) ∈ all) :
    r.register key topic = .ok (r.released key topic, (r.under key).flatMap (·.assign topic)) ∧
    Within all (r.released key topic) := by
  have agrees := within.agrees consistent claimed
  constructor
  · rcases register_cases r key topic with ⟨existing, known, differs, -⟩ | ⟨-, done⟩
    · have same := consistent key existing topic (within _ _ known) claimed
      exact absurd same differs
    · exact done
  · intro other found known
    rw [topic?_released r agrees] at known
    split at known
    · next same =>
      cases known
      exact same ▸ claimed
    · exact within _ _ known

theorem topic?_file (r : Resolution) (posts : List Post) (key : Int) :
    (Call.perform r (.file posts)).1.topic? key = r.topic? key := by
  rcases file_cases r posts with ⟨-, done⟩ | ⟨-, -, done⟩ | ⟨-, -, topic, -, done⟩ | ⟨-, -, -, done⟩
  all_goals simp [Call.perform, done, withBatch, topic?]

theorem Within.perform (within : Within all r) (consistent : Consistent all) (call : Call)
    (inside : ∀ claim ∈ call.claim?, claim ∈ all) :
    Within all (call.perform r).1 ∧ call.registers? r = call.claim? := by
  cases call with
  | register key topic =>
    obtain ⟨done, next⟩ := within.register consistent (inside (key, topic) rfl)
    simp only [Call.perform, Call.registers?, done]
    exact ⟨next, rfl⟩
  | file posts =>
    refine ⟨fun key topic known => ?_, rfl⟩
    rw [topic?_file] at known
    exact within key topic known

theorem Within.performAll (within : Within all r) (consistent : Consistent all) (calls : List Call)
    (inside : ∀ claim ∈ claims calls, claim ∈ all) :
    Within all (r.performAll calls).1 ∧ r.registered calls = claims calls := by
  induction calls generalizing r with
  | nil => exact ⟨within, rfl⟩
  | cons call rest ih =>
    have split : claims (call :: rest) = call.claim?.toList ++ claims rest :=
      filterMap_cons_toList Call.claim? call rest
    rw [split] at inside ⊢
    obtain ⟨next, done⟩ := within.perform consistent call fun claim member =>
      inside claim (List.mem_append_left _ (Option.mem_toList.mpr member))
    obtain ⟨final, others⟩ := ih next fun claim member => inside claim (List.mem_append_right _ member)
    exact ⟨final, by rw [registered, done, others]⟩

/-- The pages that wait are those whose topic is not known. -/
theorem Ledger.waiting {pages : List (List Post)} {registered : List (Int × Int)}
    {handed : List Assignment} (ledger : Ledger pages registered handed r) :
    (r.batches.map Batch.posts).Perm (pages.filter fun page => (r.topicOf? page).isNone) := by
  obtain ⟨delivered, -, split, topics⟩ := ledger.accounted
  have gone : (delivered.map Delivery.posts).filter (fun page => (r.topicOf? page).isNone) = [] := by
    rw [List.filter_eq_nil_iff]
    intro page member unknown
    obtain ⟨d, inside, rfl⟩ := List.mem_map.mp member
    obtain ⟨post, here, found⟩ := topics d inside
    have none := (topicOf?_eq_none r d.posts).mp (Option.isNone_iff_eq_none.mp unknown) post here
    exact absurd (found.symm.trans none) (by simp)
  have kept : (r.batches.map Batch.posts).filter (fun page => (r.topicOf? page).isNone) =
      r.batches.map Batch.posts := by
    rw [List.filter_eq_self]
    intro page member
    obtain ⟨batch, waits, rfl⟩ := List.mem_map.mp member
    rw [Option.isNone_iff_eq_none, topicOf?_eq_none]
    exact fun post here => unknown_of_waits ledger.valid waits here
  have filtered := split.filter fun page => (r.topicOf? page).isNone
  rwa [List.filter_append, gone, kept, List.nil_append] at filtered

end Resolution

/-- Where a page belongs, whatever came first: the topic claimed for one of its posts, if any is. -/
def home (claims : List (Int × Int)) (fallback : Int) (page : List Post) : Int :=
  (page.findSome? fun post => claims.lookup post.id).getD fallback

/-- A page whose posts belong to one topic at most goes home. -/
theorem Delivery.Settled.topic_eq {claims : List (Int × Int)} {fallback : Int} {d : Delivery}
    (settled : d.Settled claims fallback)
    (one : ∀ a ∈ d.posts, ∀ b ∈ d.posts, ∀ s t, (a.id, s) ∈ claims → (b.id, t) ∈ claims → s = t) :
    d.topic = home claims fallback d.posts := by
  cases found : d.posts.findSome? fun post => claims.lookup post.id with
  | some topic =>
    obtain ⟨post, inside, known⟩ := List.exists_of_findSome?_eq_some found
    rcases settled with ⟨other, here, claimed⟩ | ⟨-, none⟩
    · rw [home, found]
      exact one other here post inside _ _ claimed (mem_of_lookup known)
    · exact absurd (mem_of_lookup known) (none post inside topic)
  | none =>
    rcases settled with ⟨post, inside, claimed⟩ | ⟨same, -⟩
    · have missing := List.findSome?_eq_none_iff.mp found post inside
      have absent := List.lookup_eq_none_iff.mp missing _ claimed
      simp at absent
    · rw [home, found]
      exact same

end BoardMigration
