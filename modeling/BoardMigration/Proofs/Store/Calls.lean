import BoardMigration.Proofs.Store.Operations

/-! Calls of a gateway with their answers. A closed gateway refuses every operation and is left as it
is; opened anew it remembers nothing. -/
namespace BoardMigration.Store

/-- What a gateway can be asked, and its renewal. -/
inductive Call where
  | operation (operation : Operation)
  | count (name : String)
  /-- The gateway is closed and another one opened on its database, under its prefix. -/
  | reconnect
  deriving DecidableEq, Repr

inductive Answer where
  | silent
  | provisioned (answer : Except StoreError Unit)
  | inserted (answer : Except StoreError Bool)
  | category (answer : Except StoreError Int)
  | counted (answer : Except StoreError Nat)

namespace Call

def answer (s : Sink) : Call → Answer
  | operation .provision => .provisioned s.provision.1
  | operation (.insert record) => .inserted (s.insert record).1
  | operation (.categoryId name position) => .category (s.categoryId name position).1
  | operation .close => .silent
  | count name => .counted (s.count name).1
  | reconnect => .silent

/-- The gateway after a call, whatever the answer. -/
def after (s : Sink) : Call → Sink
  | operation op => op.perform s
  | count name => (s.count name).2
  | reconnect => .connect s.database s.tablePrefix

def afterAll (s : Sink) (calls : List Call) : Sink := calls.foldl after s

end Call

/-- A count leaves all as it is, but for a transaction that is open. -/
theorem Sink.count_snd (s : Sink) (name : String) :
    (s.count name).2 = if s.isOpen then s.noting false else s := by
  rw [count]
  cases s.isOpen <;> rfl

namespace Operation

/-- A closed gateway does nothing. -/
theorem perform_closed {s : Sink} (closed : s.isOpen = false) (op : Operation) : op.perform s = s := by
  cases op with
  | provision => simp [perform, Sink.provision, closed]
  | insert record => simp [perform, Sink.insert, closed]
  | categoryId name position => simp [perform, Sink.categoryId, closed]
  | close =>
    obtain ⟨db, tablePrefix, isOpen, categories, pending⟩ := s
    simp only at closed
    simp [perform, Sink.close, closed]

end Operation
end BoardMigration.Store
