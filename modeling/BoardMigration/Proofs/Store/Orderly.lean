import BoardMigration.Proofs.Migration.Board
import BoardMigration.Proofs.Store.Calls
import BoardMigration.Proofs.Store.Receives

/-! Calls of gateways in good order. No call brings a gateway out of order, and only closing it closes it. -/
namespace BoardMigration.Store

open Schema (Table)

theorem Sink.tablePrefix_provision (s : Sink) : s.provision.2.tablePrefix = s.tablePrefix := by
  rw [Sink.provision]
  split
  · rfl
  · split <;> rfl

theorem Sink.tablePrefix_count (s : Sink) (name : String) : (s.count name).2.tablePrefix = s.tablePrefix := by
  rw [s.count_snd]
  split <;> rfl

theorem Call.tablePrefix_after (s : Sink) (call : Call) : (call.after s).tablePrefix = s.tablePrefix := by
  cases call with
  | count name => exact s.tablePrefix_count name
  | reconnect => rfl
  | operation op =>
    cases op with
    | provision => exact s.tablePrefix_provision
    | insert record => exact (s.receives_insert record).tablePrefix
    | categoryId name position => exact (s.receives_categoryId name position).tablePrefix
    | close => rfl

theorem Call.tablePrefix_afterAll (s : Sink) (calls : List Call) :
    (Call.afterAll s calls).tablePrefix = s.tablePrefix := by
  induction calls generalizing s with
  | nil => rfl
  | cons call rest ih => exact (ih (call.after s)).trans (call.tablePrefix_after s)

namespace Sink

variable {s : Sink} {start : String}

theorem Regular.provision (regular : s.Regular start) : s.provision.2.Regular start := by
  rw [regular.provision_eq]
  split
  · exact regular.noting false
  · exact regular.regular_provision

theorem Serves.categoryId_eq (serves : s.Serves start) (name : String) (position : Int) :
    (s.categoryId name position).2 = (s.resolveCategory (name, position)).2.noting
      (s.categoryPending (name, position) (s.resolveCategory (name, position)).1) := by
  rw [categoryId, if_neg (by simp [serves.isOpen])]

theorem Serves.categoryId_answer (serves : s.Serves start) (name : String) (position : Int) :
    (s.categoryId name position).1 = ((s.resolveCategory (name, position)).1.map (·.1)).mapError
      (Obstacle.toError (.category name)) := by
  rw [categoryId, if_neg (by simp [serves.isOpen])]

theorem Regular.reconnect (regular : s.Regular start) : (connect s.database s.tablePrefix).Regular start where
  isOpen := rfl
  reads := regular.reads
  tables := regular.tables
  recalls := fun key n cached => by simp [connect, known?] at cached

theorem Regular.after (regular : s.Regular start) {call : Call} (other : call ≠ .operation .close) :
    (call.after s).Regular start := by
  cases call with
  | count name =>
    change (s.count name).2.Regular start
    rw [s.count_snd, if_pos regular.isOpen]
    exact regular.noting false
  | reconnect => exact regular.reconnect
  | operation op =>
    cases op with
    | provision => exact regular.provision
    | insert record => exact (regular.insert record).regular
    | categoryId name position =>
      change (s.categoryId name position).2.Regular start
      rw [regular.categoryId_eq]
      exact (regular.resolveCategory (name, position)).regular.noting _
    | close => exact absurd rfl other

theorem Regular.afterAll (regular : s.Regular start) {calls : List Call} (others : .operation .close ∉ calls) :
    (Call.afterAll s calls).Regular start := by
  induction calls generalizing s with
  | nil => exact regular
  | cons call rest ih =>
    rw [List.mem_cons, not_or] at others
    exact ih (regular.after (Ne.symm others.1)) others.2

/-- A gateway that is regular unless it is closed. -/
def Orderly (s : Sink) (start : String) : Prop := Regular { s with isOpen := true } start

theorem Orderly.regular (orderly : s.Orderly start) (opened : s.isOpen = true) : s.Regular start := by
  obtain ⟨db, tablePrefix, isOpen, categories, pending⟩ := s
  obtain rfl : isOpen = true := opened
  exact orderly

theorem Regular.orderly (regular : s.Regular start) : s.Orderly start := by
  obtain ⟨db, tablePrefix, isOpen, categories, pending⟩ := s
  obtain rfl : isOpen = true := regular.isOpen
  exact regular

theorem Orderly.noting (orderly : s.Orderly start) (pending : Bool) : (s.noting pending).Orderly start :=
  Regular.noting orderly pending

theorem Orderly.rowsOf (orderly : s.Orderly start) {name : String} (known : name ∈ Table.names) {t : StoredTable}
    (there : s.database.table? (start ++ name) = some t) : s.database.rowsOf s.tablePrefix name = t.rows := by
  have serves : (connect s.database s.tablePrefix).Serves start := ⟨rfl, orderly.reads⟩
  have here : (connect s.database s.tablePrefix).database.table? (start ++ name) = some t := there
  rw [Database.rowsOf, serves.table known, here]

theorem Orderly.after (orderly : s.Orderly start) (call : Call) : (call.after s).Orderly start := by
  by_cases closing : call = .operation .close
  · subst closing
    exact orderly
  cases opened : s.isOpen with
  | true => exact ((orderly.regular opened).after closing).orderly
  | false =>
    cases call with
    | operation op =>
      rw [Call.after, op.perform_closed opened]
      exact orderly
    | count name =>
      rw [Call.after, s.count_snd, if_neg (by simp [opened])]
      exact orderly
    | reconnect => exact (Regular.reconnect orderly).orderly

theorem Orderly.afterAll (orderly : s.Orderly start) (calls : List Call) :
    (Call.afterAll s calls).Orderly start := by
  induction calls generalizing s with
  | nil => exact orderly
  | cons call rest ih => exact ih (orderly.after call)

end Sink

variable {db : Database} {tablePrefix : String}

theorem Creatable.regular (creatable : Creatable db tablePrefix) :
    ∃ start, (Sink.connect (created db tablePrefix) tablePrefix).Regular start := by
  obtain ⟨start, serves⟩ := creatable.serves
  exact ⟨start, serves.regular_provision⟩

end BoardMigration.Store
