import BoardMigration.Proofs.Store.Alike
import BoardMigration.Proofs.Store.Orderly
import BoardMigration.Proofs.Store.Part

/-! Gateways that read the same answer all calls the same, and go on reading the same. -/
namespace BoardMigration.Store

open Schema (Table)

namespace Database

variable {db : Database} {full : String → String} {name title : String}

theorem table?_congr (same : foldName name = foldName title) : db.table? name = db.table? title := by
  rw [table?, table?, same]

theorem shape_of_known (known : name ∈ Table.names) : ∃ shape ∈ Table.all, shape.name = name := by
  revert name
  decide

/-- Creating the tables of a board leaves those of other names. -/
theorem table?_provision_other (apart : ∀ known ∈ Table.names, foldName (full known) ≠ foldName name) :
    (db.provision full).table? name = db.table? name := by
  let own (title : String) : Bool := title == foldName name
  have here : own (foldName name) = true := beq_self_eq_true _
  have outside : ∀ known ∈ Table.names, own (foldName (full known)) = false :=
    fun known listed => beq_eq_false_iff_ne.mpr (apart known listed)
  rw [← table?_part here, provision_elsewhere outside, table?_part here]

end Database

namespace Sink

variable {s t : Sink} {start : String}

/-- Once their tables are created, gateways read the same if they did outside the board. -/
theorem Serves.alike_provision (serves : s.Serves start) (other : t.Serves start) (owner : s.tablePrefix = t.tablePrefix)
    (elsewhere : ∀ name, (∀ known ∈ Table.names, foldName (start ++ known) ≠ foldName name) →
      s.database.table? name = t.database.table? name) :
    Alike { s with database := s.database.provision s.fullName, categories := [], pending := false }
      { t with database := t.database.provision t.fullName, categories := [], pending := false } := by
  have full : s.fullName = t.fullName := by
    funext name
    rw [Sink.fullName, Sink.fullName, owner]
  refine ⟨serves.isOpen.trans other.isOpen.symm, owner, fun name => ?_⟩
  by_cases board : ∃ known ∈ Table.names, foldName (start ++ known) = foldName name
  · obtain ⟨known, listed, same⟩ := board
    obtain ⟨shape, member, rfl⟩ := Database.shape_of_known listed
    have left := serves.table?_provision member
    have right := other.table?_provision member
    rw [full] at left
    rw [← Database.table?_congr same, ← Database.table?_congr same, full, left, right]
  · have apart : ∀ known ∈ Table.names, foldName (start ++ known) ≠ foldName name :=
      fun known listed same => board ⟨known, listed, same⟩
    have left : ∀ known ∈ Table.names, foldName (s.fullName known) ≠ foldName name := fun known listed => by
      rw [serves.fullName (wordy_of_known listed)]
      exact apart known listed
    have right : ∀ known ∈ Table.names, foldName (t.fullName known) ≠ foldName name := full ▸ left
    rw [Database.table?_provision_other left, Database.table?_provision_other right, elsewhere name apart]

theorem Alike.provision (alike : Alike s t) (serves : s.Serves start) (other : t.Serves start) :
    Agree s.provision t.provision := by
  have made := serves.alike_provision other alike.tablePrefix fun name _ => alike.tables name
  rw [serves.provision_eq, other.provision_eq]
  split
  · exact ⟨rfl, alike.noting false false⟩
  · exact ⟨rfl, made⟩

theorem Alike.categoryId (alike : Alike s t) (regular : s.Regular start) (other : t.Regular start) (name : String)
    (position : Int) : Agree (s.categoryId name position) (t.categoryId name position) := by
  obtain ⟨same, after⟩ := alike.resolveCategory regular other (name, position)
  constructor
  · rw [regular.categoryId_answer, other.categoryId_answer, same]
  · rw [regular.categoryId_eq, other.categoryId_eq]
    exact after.noting _ _

theorem Alike.count (alike : Alike s t) (name : String) : Agree (s.count name) (t.count name) := by
  constructor
  · rw [Sink.count, Sink.count, alike.isOpen, alike.table]
    split <;> rfl
  · rw [s.count_snd, t.count_snd, alike.isOpen]
    split
    · exact alike.noting false false
    · exact alike

theorem Alike.reconnect (alike : Alike s t) :
    Alike (connect s.database s.tablePrefix) (connect t.database t.tablePrefix) :=
  ⟨rfl, alike.tablePrefix, alike.tables⟩

end Sink

namespace Call

variable {s t : Sink} {start : String}

/-- A closed gateway answers by what it is asked alone. -/
theorem answer_closed (closed : s.isOpen = false) (other : t.isOpen = false) (call : Call) :
    call.answer s = call.answer t := by
  cases call with
  | operation op => cases op <;> simp [answer, Sink.provision, Sink.insert, Sink.categoryId, closed, other]
  | count name => simp [answer, Sink.count, closed, other]
  | reconnect => rfl

theorem after_closed (closed : s.isOpen = false) {call : Call} (other : call ≠ reconnect) : call.after s = s := by
  cases call with
  | operation op => exact op.perform_closed closed
  | count name =>
    rw [after, s.count_snd, if_neg (by simp [closed])]
  | reconnect => exact absurd rfl other

end Call

namespace Sink

variable {s t : Sink} {start : String}

theorem Alike.call (alike : Alike s t) (left : s.Orderly start) (right : t.Orderly start) (call : Call) :
    call.answer s = call.answer t ∧ Alike (call.after s) (call.after t) := by
  by_cases anew : call = .reconnect
  · subst anew
    exact ⟨rfl, alike.reconnect⟩
  cases opened : s.isOpen with
  | false =>
    have also := alike.isOpen.symm.trans opened
    rw [Call.after_closed opened anew, Call.after_closed also anew]
    exact ⟨Call.answer_closed opened also call, alike⟩
  | true =>
    have regular := left.regular opened
    have other := right.regular (alike.isOpen.symm.trans opened)
    cases call with
    | reconnect => exact absurd rfl anew
    | count name =>
      obtain ⟨same, after⟩ := alike.count name
      exact ⟨congrArg _ same, after⟩
    | operation op =>
      cases op with
      | provision =>
        obtain ⟨same, after⟩ := alike.provision regular.toServes other.toServes
        exact ⟨congrArg _ same, after⟩
      | insert record =>
        obtain ⟨same, after⟩ := alike.insert regular other record
        exact ⟨congrArg _ same, after⟩
      | categoryId name position =>
        obtain ⟨same, after⟩ := alike.categoryId regular other name position
        exact ⟨congrArg _ same, after⟩
      | close => exact ⟨rfl, rfl, alike.tablePrefix, alike.tables⟩

/-- Gateways that read the same cannot be told apart by what they are asked. -/
theorem Alike.callAll (alike : Alike s t) (left : s.Orderly start) (right : t.Orderly start) (calls : List Call)
    (call : Call) : call.answer (Call.afterAll s calls) = call.answer (Call.afterAll t calls) := by
  induction calls generalizing s t with
  | nil => exact (alike.call left right call).1
  | cons first rest ih => exact ih (alike.call left right first).2 (left.after first) (right.after first)

end Sink
end BoardMigration.Store
