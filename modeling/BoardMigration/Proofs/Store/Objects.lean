import BoardMigration.Proofs.Store.Sink
import BoardMigration.Store.Script
import Mathlib.Data.List.Infix

/-! Names of tables and indexes behind a prefix. None ends in another, so a name tells where its prefix
ends: names of different prefixes differ. -/
namespace BoardMigration.Store

open Schema (Table Index)

/-- A prefix of ASCII letters, digits and underscores. -/
def Plain (tablePrefix : String) : Prop := ∀ c ∈ tablePrefix.toList, c.isAlphanum = true ∨ c = '_'

instance (tablePrefix : String) : Decidable (Plain tablePrefix) :=
  List.decidableBAll (fun c : Char => c.isAlphanum = true ∨ c = '_') tablePrefix.toList

theorem Plain.wordChar {tablePrefix : String} (plain : Plain tablePrefix) :
    ∀ c ∈ tablePrefix.toList, Text.isWordChar c = true := by
  intro c member
  rcases plain c member with letter | rfl
  · simp [Text.isWordChar, Text.isAlphanumeric, letter]
  · decide

theorem readQuotedName_wordy {name : List Char} (wordy : Wordy name) :
    readQuotedName name = .whole name := readQuotedName_append wordy []

theorem plainColons_wordy {name : List Char} (wordy : Wordy name) : plainColons name = name :=
  plainColons_append wordy []

/-- Names stand behind a plain prefix as they are. -/
theorem Plain.serves {tablePrefix : String} (plain : Plain tablePrefix) (db : Database) :
    (Sink.connect db tablePrefix).Serves tablePrefix where
  isOpen := rfl
  reads := by
    intro name wordy
    have whole : Wordy (tablePrefix.toList ++ name.toList) := by
      refine ⟨by simp [wordy.filled], ?_⟩
      intro c member
      rcases List.mem_append.mp member with early | late
      · exact plain.wordChar c early
      · exact wordy.plain c late
    change readTable tablePrefix name = _
    simp [readTable, parameter?_plain _ whole.plain, plainColons_wordy whole,
      readReference_whole (readQuotedName_wordy whole)]

theorem Plain.resolveName {tablePrefix name : String} (plain : Plain tablePrefix)
    (wordy : Wordy name.toList) (statement : Statement) :
    Store.resolveName tablePrefix statement name = .ok (tablePrefix ++ name) :=
  (plain.serves {}).resolveName statement wordy

/-- Names of tables are reserved behind a prefix that is. -/
theorem isReserved_append (start : String) {name : String} (known : name ∈ Table.names) :
    Sink.isReserved (start ++ name) = Sink.isReserved start := by
  have short : ∀ name ∈ Table.names, ∀ begun ∈ "sqlite_".toList.inits,
      "sqlite_".toList.isPrefixOf (begun ++ (foldName name).toList) = true →
        "sqlite_".toList.isPrefixOf begun = true := by
    decide +kernel
  rw [Sink.isReserved, Sink.isReserved, foldName_append, String.toList_append, Bool.eq_iff_iff]
  constructor
  · intro reserved
    rcases List.prefix_or_prefix_of_prefix (List.isPrefixOf_iff_prefix.mp reserved)
      (List.prefix_append _ _) with whole | part
    · exact List.isPrefixOf_iff_prefix.mpr whole
    · exact short name known _ ((List.mem_inits _ _).mpr part) reserved
  · intro reserved
    exact List.isPrefixOf_iff_prefix.mpr
      ((List.isPrefixOf_iff_prefix.mp reserved).trans (List.prefix_append _ _))

/-- No table of a board is the table of all tables. -/
theorem master?_append (start : String) {name : String} (known : name ∈ Table.names) :
    Sink.master? (start ++ name) = none := by
  have apart : ∀ name ∈ Table.names,
      ∀ master ∈ ["sqlite_master", "sqlite_schema", "sqlite_temp_master", "sqlite_temp_schema"],
        ¬(foldName name).toList <:+ master.toList := by
    decide +kernel
  have other (master : String)
      (listed : master ∈ ["sqlite_master", "sqlite_schema", "sqlite_temp_master", "sqlite_temp_schema"]) :
      foldName (start ++ name) ≠ master := by
    rintro rfl
    apply apart name known _ listed
    rw [foldName_append, String.toList_append]
    exact List.suffix_append _ _
  simp [Sink.master?, other]

/-- Names of tables and indexes, without their prefix. -/
def objectNames : List String := Table.names ++ allIndexes.map (·.name)

/-- No name ends in another, so names that end alike are the same behind the same prefix. -/
theorem object_eq_of_folded {first second a b : String} (one : a ∈ objectNames) (other : b ∈ objectNames)
    (same : foldName (first ++ a) = foldName (second ++ b)) : a = b ∧ foldName first = foldName second := by
  have apart : ∀ a ∈ objectNames, ∀ b ∈ objectNames,
      (foldName a).toList <:+ (foldName b).toList → a = b := by
    decide +kernel
  rw [foldName_append, foldName_append, ← String.toList_inj, String.toList_append,
    String.toList_append] at same
  have ends : (foldName a).toList <:+ (foldName second).toList ++ (foldName b).toList :=
    same ▸ List.suffix_append _ _
  have equal : a = b := by
    rcases List.suffix_or_suffix_of_suffix ends (List.suffix_append _ _) with shorter | longer
    · exact apart a one b other shorter
    · exact (apart b other a one longer).symm
  refine ⟨equal, ?_⟩
  rw [equal] at same
  exact String.toList_inj.mp (List.append_cancel_right same)

theorem table_mem_names {index : Index} (member : index ∈ allIndexes) : index.table ∈ Table.names := by
  revert member index
  decide

theorem apart_objects {p q a b : String} (apart : foldName p ≠ foldName q) (one : a ∈ objectNames)
    (other : b ∈ objectNames) : foldName (p ++ a) ≠ foldName (q ++ b) :=
  fun same => apart (object_eq_of_folded one other same).2

/-- Whether a name without case is that of a table behind a prefix. -/
def ownedBy (tablePrefix title : String) : Bool :=
  Table.names.any fun name => foldName (tablePrefix ++ name) == title

theorem ownedBy_iff {tablePrefix title : String} :
    ownedBy tablePrefix title = true ↔ ∃ name ∈ Table.names, foldName (tablePrefix ++ name) = title := by
  simp [ownedBy]

theorem ownedBy_of_known (tablePrefix : String) {name : String} (known : name ∈ Table.names) :
    ownedBy tablePrefix (foldName (tablePrefix ++ name)) = true := ownedBy_iff.mpr ⟨name, known, rfl⟩

end BoardMigration.Store
