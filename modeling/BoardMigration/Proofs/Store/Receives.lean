import BoardMigration.Proofs.Store.Regular

/-! What gateways do to a database. But for creating tables they only put rows that fit into tables of their
board. -/
namespace BoardMigration.Store

open Schema (Table)

namespace Sink

variable {s t after : Sink}

/-- A gateway after rows have come into tables of its board. -/
inductive Receives (s : Sink) : Sink → Prop
  | none : Receives s s
  | row {after : Sink} (before : Receives s after) {statement : Statement} {name : String}
      (known : name ∈ Table.names) {t : StoredTable} (found : after.table statement name = .ok t)
      {given : Row} (small : given.fits = true) :
      Receives s { after with database := after.database.replace (t.insertIfAbsent given).1 }
  | remembered {after : Sink} (before : Receives s after) (key : CategoryKey) (number : Int) :
      Receives s (after.remember key number)
  | noted {after : Sink} (before : Receives s after) (pending : Bool) : Receives s (after.noting pending)

theorem table_ok {statement : Statement} {name : String} {found : StoredTable}
    (ok : s.table statement name = .ok found) :
    ∃ full, resolveName s.tablePrefix statement name = .ok full ∧ s.database.table? full = some found := by
  unfold Sink.table at ok
  split at ok
  · cases ok
  · next reference read =>
    split at ok
    · cases ok
    · next full resolved =>
      split at ok
      · cases ok
      · cases ok
      · next there _ =>
        obtain rfl := Except.ok.inj ok
        exact ⟨full, by rw [resolveName, read]; exact resolved, there⟩

namespace Receives

theorem trans (first : s.Receives t) (second : t.Receives after) : s.Receives after := by
  induction second with
  | none => exact first
  | row _ known found small before => exact before.row known found small
  | remembered _ key number before => exact before.remembered key number
  | noted _ pending before => exact before.noted pending

theorem tablePrefix (receives : s.Receives after) : after.tablePrefix = s.tablePrefix := by
  induction receives with
  | none => rfl
  | row _ _ _ _ before => exact before
  | remembered _ _ _ before => exact before
  | noted _ _ before => exact before

/-- No row of any table goes or changes. -/
theorem kept (receives : s.Receives after) {name : String} {table : StoredTable}
    (there : s.database.table? name = some table) :
    ∃ more, after.database.table? name = some more ∧ table.rows <+: more.rows := by
  induction receives with
  | none => exact ⟨table, there, List.prefix_rfl⟩
  | @row after _ statement own _ t found given _ before =>
    obtain ⟨more, here, grown⟩ := before
    obtain ⟨full, -, stored⟩ := table_ok found
    rw [Database.table?_replace, t.insertIfAbsent_name]
    split
    · next same =>
      have one : after.database.table? name = some t := by
        rw [← stored, Database.table?, Database.table?, ← same, Database.table?_name stored]
      obtain rfl := Option.some.inj (one.symm.trans here)
      rw [here]
      exact ⟨_, rfl, grown.trans (t.insertIfAbsent_prefix given)⟩
    · exact ⟨more, here, grown⟩
  | remembered _ _ _ before => exact before
  | noted _ _ before => exact before

end Receives

/-- What was looked for fits. -/
theorem find_ok {name : String} {criteria : Row} {found : Option Int}
    (ok : s.find name criteria = .ok found) : criteria.fits = true := by
  unfold Sink.find at ok
  split at ok
  · cases ok
  · split at ok
    · next small => exact small
    · cases ok

theorem receives_write (s : Sink) {name : String} (known : name ∈ Table.names) (row : Row) :
    s.Receives (s.write name row).2 := by
  rw [write]
  cases found : s.table .write name with
  | error obstacle => exact .none
  | ok table =>
    dsimp only
    cases s.given table name row with
    | error fault => exact .none
    | ok own =>
      dsimp only
      cases small : own.fits with
      | false => exact .none
      | true => exact .row .none known found small

theorem receives_resolveCategory (s : Sink) (key : CategoryKey) :
    s.Receives (s.resolveCategory key).2 := by
  have known : "categories" ∈ Table.names := by decide
  rw [resolveCategory]
  split
  · exact .none
  · split
    · exact .none
    · exact .remembered .none key _
    · next missing =>
      split
      · exact .none
      · next table found =>
        dsimp only
        split
        · exact .none
        · exact .remembered (.row .none known found (find_ok missing)) key _

theorem receives_writeRedirect (s : Sink) (row : Row) : s.Receives (s.writeRedirect row).2 := by
  have known : "forums" ∈ Table.names := by decide
  rw [writeRedirect]
  dsimp only
  split
  · exact .none
  · exact .none
  · exact .none
  · split
    all_goals
      next written =>
        have same := congrArg Prod.snd written
        rw [← same]
        exact s.receives_write known _

theorem receives_writeForum (s : Sink) (f : Forum) : s.Receives (s.writeForum f).2 := by
  have known : "forums" ∈ Table.names := by decide
  have first := s.receives_resolveCategory (categoryOf f)
  cases answer : (s.resolveCategory (categoryOf f)).1 with
  | error obstacle => rwa [writeForum_error answer]
  | ok found =>
    rw [writeForum_ok answer, place]
    split
    · exact first.trans (receives_writeRedirect _ _)
    · exact first.trans (receives_write _ known _)

theorem receives_writeRecord (s : Sink) (record : Record) : s.Receives (s.writeRecord record).2 := by
  cases record with
  | category c =>
    rw [writeRecord_category]
    exact s.receives_resolveCategory _
  | forum f => exact s.receives_writeForum f
  | topic t => exact s.receives_write (by decide : "topics" ∈ Table.names) _
  | post p => exact s.receives_write (by decide : "posts" ∈ Table.names) _
  | user u => exact s.receives_write (by decide : "users" ∈ Table.names) _

theorem receives_insert (s : Sink) (record : Record) : s.Receives (s.insert record).2 := by
  rw [insert]
  split
  · exact .none
  · exact (s.receives_writeRecord record).noted _

theorem receives_categoryId (s : Sink) (name : String) (position : Int) :
    s.Receives (s.categoryId name position).2 := by
  rw [categoryId]
  split
  · exact .none
  · exact (s.receives_resolveCategory (name, position)).noted _

end Sink
end BoardMigration.Store
