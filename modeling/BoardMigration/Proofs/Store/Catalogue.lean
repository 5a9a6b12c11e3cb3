import BoardMigration.Proofs.Store.Orderly

/-! The categories of a board and the forums in them. Until the tables are created anew a category keeps
the number it was given, whether a gateway remembers it or finds it in its table, and each forum that was
written has the number of the category it names. -/
namespace BoardMigration.Store

open Schema (Table)

/-- Categories with their numbers, in the order of their rows. -/
abbrev Catalogue := List (CategoryKey × Int)

namespace Catalogue

variable {held more : Catalogue} {key : CategoryKey} {n m : Int}

def rows (held : Catalogue) : List Row := held.map fun entry => StoredTable.categoryEntry entry.2 entry.1

theorem number_unique (keys : (held.map (·.1)).Nodup) (one : (key, n) ∈ held) (other : (key, m) ∈ held) :
    n = m :=
  congrArg Prod.snd (List.inj_on_of_nodup_map keys one other rfl)

/-- A table finds a category under the number it is listed with. -/
theorem find?_rows {t : StoredTable} (rows : t.rows = held.rows) (keys : (held.map (·.1)).Nodup) :
    t.find? (Sink.categoryRow key) = some n ↔ (key, n) ∈ held := by
  have numbers (m : Int) :
      m ∈ (t.rows.filter (Row.meets · (Sink.categoryRow key))).filterMap StoredTable.number? ↔
        (key, m) ∈ held := by
    simp only [rows, Catalogue.rows, List.mem_filterMap, List.mem_filter, List.mem_map]
    constructor
    · rintro ⟨_, ⟨⟨⟨other, k⟩, member, rfl⟩, meets⟩, number⟩
      rw [StoredTable.meets_categoryEntry, decide_eq_true_eq] at meets
      have same : k = m := Option.some.inj number
      exact meets ▸ same ▸ member
    · intro member
      refine ⟨_, ⟨⟨(key, m), member, rfl⟩, ?_⟩, rfl⟩
      simp [StoredTable.meets_categoryEntry]
  rw [StoredTable.find?_eq, List.min?_eq_some_iff, numbers]
  constructor
  · exact fun found => found.1
  · intro member
    exact ⟨member, fun m other => Int.le_of_eq (number_unique keys member ((numbers m).mp other))⟩

theorem find?_none {t : StoredTable} (rows : t.rows = held.rows) (keys : (held.map (·.1)).Nodup)
    (missing : t.find? (Sink.categoryRow key) = none) : key ∉ held.map (·.1) := by
  intro listed
  obtain ⟨⟨_, n⟩, member, rfl⟩ := List.mem_map.mp listed
  rw [(find?_rows rows keys).mpr member] at missing
  cases missing

end Catalogue

/-- The row that a forum was written to, with the number of the forum's category. -/
structure Entered (held : Catalogue) (row : Row) (f : Forum) : Prop where
  cells : ∀ cell ∈ (Record.forum f).row, cell.1 ≠ "id" → row.value cell.1 = cell.2
  category : ∃ n, (Sink.categoryOf f, n) ∈ held ∧ row.value "cat_id" = .int n

namespace Entered

variable {held more : Catalogue} {row : Row} {f : Forum} {n : Int}

theorem mono (entered : Entered held row f) (within : held ⊆ more) : Entered more row f := by
  obtain ⟨n, member, number⟩ := entered.category
  exact ⟨entered.cells, n, within member, number⟩

/-- The number of a row is not asked for. -/
theorem of_renumbered (entered : Entered held row (Sink.renumbered f n)) : Entered held row f := by
  refine ⟨fun cell member other => entered.cells cell ?_ other, entered.category⟩
  simp only [Record.row, List.mem_cons] at member ⊢
  rcases member with rfl | others
  · exact absurd rfl other
  · exact .inr others

theorem complete {t : StoredTable} (shape : t.shape = Table.forums)
    (listed : (Sink.categoryOf f, n) ∈ held) : Entered held (t.complete (forumRow f n)) f := by
  constructor
  · simp [StoredTable.complete, shape, Table.forums, Schema.Column.free, Schema.Column.needed,
      forumRow, Record.row, Row.value]
  · refine ⟨n, listed, ?_⟩
    simp [StoredTable.complete, shape, Table.forums, Schema.Column.free, Schema.Column.needed,
      forumRow, Record.row, Row.value]

end Entered

/-- A redirect forum is always added, as its number is above all others. -/
theorem StoredTable.insertIfAbsent_redirect {t : StoredTable} (shape : t.shape = Table.forums) (f : Forum)
    (category : Int) : (t.insertIfAbsent (forumRow (Sink.renumbered f t.above) category)).2 = true := by
  have row : t.IsForumRow (Sink.renumbered f t.above) t.above _ := complete_forumRow shape _ category
  rw [insertIfAbsent_numbered (by rw [shape]; rfl) row.id row.whole, if_neg t.above_free]

/-- Whether an answer says that a row was written. -/
def wrote {ε : Type} : Except ε Bool → Bool
  | .ok written => written
  | .error _ => false

/-- The forums written since the tables were created, given those that were written before a call. -/
def Call.founders (s : Sink) (before : List Forum) : Call → List Forum
  | operation .provision => if s.provision.1.isOk then [] else before
  | operation (.insert (.forum f)) => if wrote (s.insert (.forum f)).1 then before ++ [f] else before
  | _ => before

def Call.allFounders (s : Sink) (before : List Forum) : List Call → List Forum
  | [] => before
  | call :: rest => allFounders (call.after s) (call.founders s before) rest

/-- A gateway, open or not, whose board has just the categories of a catalogue and the forums written
since its tables were created. -/
structure Catalogued (tablePrefix start : String) (s : Sink) (held : Catalogue) (founders : List Forum) :
    Prop where
  owner : s.tablePrefix = tablePrefix
  reads : ∀ name, Wordy name.toList → readTable tablePrefix name = .ok { name := start ++ name }
  creatable : ∀ db, Creatable db tablePrefix
  categories : ∃ t, s.database.table? (start ++ "categories") = some t ∧ t.shape = Table.categories ∧
    t.rows = held.rows
  forums : ∃ t, s.database.table? (start ++ "forums") = some t ∧ t.shape = Table.forums ∧
    List.Forall₂ (Entered held) t.rows founders
  keys : (held.map (·.1)).Nodup
  small : ∀ entry ∈ held, Row.fits (Sink.categoryRow entry.1) = true
  recalled : s.categories ⊆ held

namespace Catalogued

variable {s after : Sink} {tablePrefix start : String} {held more : Catalogue} {founders : List Forum}

theorem serves (listed : Catalogued tablePrefix start s held founders) (opened : s.isOpen = true) :
    s.Serves start := ⟨opened, listed.owner ▸ listed.reads⟩

/-- A gateway to the same tables of categories and forums. -/
theorem transport (listed : Catalogued tablePrefix start s held founders)
    (same : after.tablePrefix = s.tablePrefix)
    (categories : after.database.table? (start ++ "categories") = s.database.table? (start ++ "categories"))
    (forums : after.database.table? (start ++ "forums") = s.database.table? (start ++ "forums"))
    (recalled : after.categories ⊆ held) : Catalogued tablePrefix start after held founders where
  owner := same.trans listed.owner
  reads := listed.reads
  creatable := listed.creatable
  categories := by
    rw [categories]
    exact listed.categories
  forums := by
    rw [forums]
    exact listed.forums
  keys := listed.keys
  small := listed.small
  recalled := recalled

theorem noting (listed : Catalogued tablePrefix start s held founders) (pending : Bool) :
    Catalogued tablePrefix start (s.noting pending) held founders :=
  listed.transport rfl rfl rfl listed.recalled

theorem remember (listed : Catalogued tablePrefix start s held founders) {key : CategoryKey} {n : Int}
    (member : (key, n) ∈ held) : Catalogued tablePrefix start (s.remember key n) held founders :=
  listed.transport rfl rfl rfl (List.cons_subset.mpr ⟨member, listed.recalled⟩)

/-- A lookup that succeeds tells what is listed. -/
theorem find_iff (listed : Catalogued tablePrefix start s held founders) (opened : s.isOpen = true)
    (key : CategoryKey) (n : Int) :
    s.find "categories" (Sink.categoryRow key) = .ok (some n) ↔ (key, n) ∈ held := by
  obtain ⟨t, there, -, rows⟩ := listed.categories
  rw [(listed.serves opened).find (by decide), there]
  dsimp only
  by_cases small : Row.fits (Sink.categoryRow key) = true
  · rw [if_pos small, Except.ok.injEq, Catalogue.find?_rows rows listed.keys]
  · rw [if_neg small]
    constructor
    · intro found
      cases found
    · intro member
      exact absurd (listed.small _ member) small

theorem created (listed : Catalogued tablePrefix start s held founders) {t : StoredTable} {key : CategoryKey}
    (there : s.database.table? (start ++ "categories") = some t)
    (missing : t.find? (Sink.categoryRow key) = none) (small : Row.fits (Sink.categoryRow key) = true)
    (free : t.isFull = false) :
    Catalogued tablePrefix start
      { s with database := s.database.replace (t.insertIfAbsent (Sink.categoryRow key)).1 }
      (held ++ [(key, t.nextNumber)]) founders := by
  obtain ⟨found, same, shape, rows⟩ := listed.categories
  obtain rfl := Option.some.inj (there.symm.trans same)
  have keeps := Sink.keeps_replace (s := s) (by decide) (t.insertIfAbsent_name (Sink.categoryRow key)) there
  have within : held ⊆ held ++ [(key, t.nextNumber)] := List.subset_append_left _ _
  constructor
  · exact listed.owner
  · exact listed.reads
  · exact listed.creatable
  · refine ⟨_, Database.table?_added there _, ?_, ?_⟩
    · rw [t.insertIfAbsent_shape, shape]
    · rw [StoredTable.insertIfAbsent_category shape free, rows]
      simp [Catalogue.rows]
  · obtain ⟨u, here, forums, entered⟩ := listed.forums
    refine ⟨u, (keeps.others "forums" (by decide) (by decide)).trans here, forums, ?_⟩
    exact entered.imp fun _ _ row => row.mono within
  · rw [List.map_append, List.nodup_append]
    refine ⟨listed.keys, by simp, ?_⟩
    rintro other member _ new rfl
    have same : other = key := by simpa using new
    exact Catalogue.find?_none rows listed.keys missing (same ▸ member)
  · intro entry member
    rcases List.mem_append.mp member with old | new
    · exact listed.small entry old
    · rwa [List.mem_singleton.mp new]
  · exact fun entry member => within (listed.recalled member)

/-- A category that is asked for gets listed, unless it is refused, and those that are keep their
numbers. -/
theorem resolveCategory (listed : Catalogued tablePrefix start s held founders) (opened : s.isOpen = true)
    (key : CategoryKey) :
    ∃ more, held ⊆ more ∧ Catalogued tablePrefix start (s.resolveCategory key).2 more founders ∧
      ∀ found, (s.resolveCategory key).1 = .ok found → (key, found.1) ∈ more := by
  have resolved := (listed.serves opened).resolves key
  generalize s.resolveCategory key = outcome at resolved
  cases resolved with
  | @known n cached =>
    refine ⟨held, List.Subset.refl _, listed, ?_⟩
    rintro _ ⟨⟩
    apply listed.recalled
    obtain ⟨⟨other, m⟩, found, rfl⟩ := Option.map_eq_some_iff.mp cached
    have same : other = key := by simpa using List.find?_some found
    exact same ▸ List.mem_of_find?_eq_some found
  | refused => exact ⟨held, List.Subset.refl _, listed, fun found answered => by cases answered⟩
  | found _ stored =>
    have member := (listed.find_iff opened _ _).mp stored
    refine ⟨held, List.Subset.refl _, listed.remember member, ?_⟩
    rintro _ ⟨⟩
    exact member
  | full => exact ⟨held, List.Subset.refl _, listed, fun found answered => by cases answered⟩
  | @created t _ there missing small free =>
    have member : (key, t.nextNumber) ∈ held ++ [(key, t.nextNumber)] := by simp
    refine ⟨_, List.subset_append_left _ _, (listed.created there missing small free).remember member, ?_⟩
    rintro _ ⟨⟩
    exact member

/-- A category that is listed is answered with its number. -/
theorem resolveCategory_listed (listed : Catalogued tablePrefix start s held founders)
    (opened : s.isOpen = true) {key : CategoryKey} {n : Int} (member : (key, n) ∈ held) :
    ∃ found, (s.resolveCategory key).1 = .ok found ∧ found.1 = n := by
  have stored := (listed.find_iff opened key n).mpr member
  obtain ⟨more, within, after, answers⟩ := listed.resolveCategory opened key
  have answered : ∃ found, (s.resolveCategory key).1 = .ok found := by
    rw [Sink.resolveCategory]
    cases s.known? key with
    | some m => exact ⟨_, rfl⟩
    | none =>
      rw [stored]
      exact ⟨_, rfl⟩
  obtain ⟨found, same⟩ := answered
  exact ⟨found, same, Catalogue.number_unique after.keys (answers found same) (within member)⟩

/-- A row for a forum is added at the end, or not at all. -/
theorem added (listed : Catalogued tablePrefix start s held founders) {t : StoredTable} {row : Row} {f : Forum}
    (there : s.database.table? (start ++ "forums") = some t) (entered : Entered held (t.complete row) f) :
    Catalogued tablePrefix start { s with database := s.database.replace (t.insertIfAbsent row).1 } held
      (if (t.insertIfAbsent row).2 then founders ++ [f] else founders) := by
  obtain ⟨found, same, shape, rows⟩ := listed.forums
  obtain rfl := Option.some.inj (there.symm.trans same)
  have keeps := Sink.keeps_replace (s := s) (by decide) (t.insertIfAbsent_name row) there
  have categories := keeps.others "categories" (by decide) (by decide)
  refine ⟨listed.owner, listed.reads, listed.creatable, ?_, ?_, listed.keys, listed.small, listed.recalled⟩
  · rw [categories]
    exact listed.categories
  · refine ⟨_, Database.table?_added there row, (t.insertIfAbsent_shape row).trans shape, ?_⟩
    rcases t.insertIfAbsent_cases row with ⟨-, still⟩ | ⟨-, more⟩
    · rw [still]
      exact rows
    · rw [more]
      exact List.rel_append rows (.cons entered .nil)

/-- A forum whose category is listed. -/
theorem place (listed : Catalogued tablePrefix start s held founders) (opened : s.isOpen = true)
    {f : Forum} {n : Int} (member : (Sink.categoryOf f, n) ∈ held) :
    Catalogued tablePrefix start (s.place f n).2 held
      (if wrote (s.place f n).1 then founders ++ [f] else founders) := by
  obtain ⟨t, there, shape, rows⟩ := listed.forums
  cases redirect : f.redirect with
  | none =>
    rw [Sink.place_plain redirect, Sink.forums_mem.2, (listed.serves opened).write_eq (by decide), there]
    dsimp only
    split
    · exact listed.added there (.complete shape member)
    · exact listed
  | some target =>
    rw [Sink.place_redirect redirect, (listed.serves opened).writeRedirect_eq redirect, there]
    dsimp only
    split
    · exact listed
    · split
      · have entered : Entered held (t.complete (forumRow (Sink.renumbered f t.above) n))
            (Sink.renumbered f t.above) := .complete shape member
        have after := listed.added there entered.of_renumbered
        rwa [t.insertIfAbsent_redirect shape] at after
      · exact listed

theorem writeForum (listed : Catalogued tablePrefix start s held founders) (opened : s.isOpen = true)
    (f : Forum) :
    ∃ more, held ⊆ more ∧ Catalogued tablePrefix start (s.writeForum f).2 more
      (if wrote (s.writeForum f).1 then founders ++ [f] else founders) := by
  obtain ⟨more, within, after, answers⟩ := listed.resolveCategory opened (Sink.categoryOf f)
  cases answer : (s.resolveCategory (Sink.categoryOf f)).1 with
  | error obstacle =>
    rw [Sink.writeForum_error answer]
    exact ⟨more, within, after⟩
  | ok found =>
    rw [Sink.writeForum_ok answer]
    have still := ((listed.serves opened).keeps_resolveCategory (Sink.categoryOf f)).isOpen.trans opened
    exact ⟨more, within, after.place still (answers found answer)⟩

theorem write (listed : Catalogued tablePrefix start s held founders) (opened : s.isOpen = true)
    {shape : Table} (member : shape ∈ Sink.numbered) (row : Row) :
    Catalogued tablePrefix start (s.write shape.name row).2 held founders := by
  have serves := listed.serves opened
  have known := Database.name_mem_names (Sink.keyed_of_numbered member).1
  have keeps := serves.keeps_write known row
  have apart : shape.name ≠ "categories" ∧ shape.name ≠ "forums" := by
    clear keeps known
    revert member shape
    decide
  refine listed.transport keeps.tablePrefix (keeps.others _ (by decide) ?_) (keeps.others _ (by decide) ?_) ?_
  · simpa using apart.1.symm
  · simpa using apart.2.symm
  · have same : (s.write shape.name row).2.categories = s.categories := by
      rw [serves.write_eq known]
      split
      · rfl
      · split <;> rfl
    rw [same]
    exact listed.recalled

theorem insert (listed : Catalogued tablePrefix start s held founders) (opened : s.isOpen = true)
    (record : Record) :
    ∃ more, held ⊆ more ∧ Catalogued tablePrefix start (s.insert record).2 more
      (Call.founders s founders (.operation (.insert record))) := by
  rw [(listed.serves opened).insert_eq]
  cases record with
  | category c =>
    obtain ⟨more, within, after, -⟩ := listed.resolveCategory opened (c.name, c.position)
    rw [Sink.writeRecord_category]
    exact ⟨more, within, after.noting _⟩
  | forum f =>
    have answer : wrote (s.insert (.forum f)).1 = wrote (s.writeForum f).1 := by
      rw [(listed.serves opened).insert_answer]
      change wrote ((s.writeForum f).1.mapError _) = _
      cases (s.writeForum f).1 <;> rfl
    rw [Call.founders, answer]
    obtain ⟨more, within, after⟩ := listed.writeForum opened f
    exact ⟨more, within, after.noting _⟩
  | topic topic => exact ⟨held, List.Subset.refl _, (listed.write opened (by decide : Table.topics ∈ _) _).noting _⟩
  | post p => exact ⟨held, List.Subset.refl _, (listed.write opened (by decide : Table.posts ∈ _) _).noting _⟩
  | user u => exact ⟨held, List.Subset.refl _, (listed.write opened (by decide : Table.users ∈ _) _).noting _⟩

theorem categoryId (listed : Catalogued tablePrefix start s held founders) (opened : s.isOpen = true)
    (name : String) (position : Int) :
    ∃ more, held ⊆ more ∧ Catalogued tablePrefix start (s.categoryId name position).2 more founders ∧
      ∀ n, (s.categoryId name position).1 = .ok n → ((name, position), n) ∈ more := by
  obtain ⟨more, within, after, answers⟩ := listed.resolveCategory opened (name, position)
  have serves := listed.serves opened
  rw [serves.categoryId_eq, serves.categoryId_answer]
  refine ⟨more, within, after.noting _, fun n answered => ?_⟩
  cases answer : (s.resolveCategory (name, position)).1 with
  | error obstacle =>
    rw [answer] at answered
    cases answered
  | ok found =>
    rw [answer] at answered
    cases answered
    exact answers found answer

theorem categoryId_listed (listed : Catalogued tablePrefix start s held founders) (opened : s.isOpen = true)
    {name : String} {position n : Int} (member : ((name, position), n) ∈ held) :
    (s.categoryId name position).1 = .ok n := by
  obtain ⟨found, answered, rfl⟩ := listed.resolveCategory_listed opened member
  rw [(listed.serves opened).categoryId_answer, answered]
  rfl

theorem founders_closed (closed : s.isOpen = false) (op : Operation) :
    Call.founders s founders (.operation op) = founders := by
  cases op with
  | provision => simp [Call.founders, Sink.provision, closed, Except.isOk, Except.toBool]
  | insert record =>
    cases record with
    | forum f => simp [Call.founders, Sink.insert, closed, wrote]
    | _ => rfl
  | categoryId name position => rfl
  | close => rfl

/-- Whatever is asked but that the tables be created, categories keep their numbers. -/
theorem call (listed : Catalogued tablePrefix start s held founders) {call : Call}
    (other : call ≠ .operation .provision) :
    ∃ more, held ⊆ more ∧ Catalogued tablePrefix start (call.after s) more (call.founders s founders) := by
  cases call with
  | count name =>
    refine ⟨held, List.Subset.refl _, ?_⟩
    rw [Call.after, s.count_snd]
    split
    · exact listed.noting false
    · exact listed
  | reconnect =>
    refine ⟨held, List.Subset.refl _, ?_⟩
    have anew : Catalogued tablePrefix start (.connect s.database s.tablePrefix) held founders :=
      listed.transport rfl rfl rfl (List.nil_subset _)
    exact anew
  | operation op =>
    cases opened : s.isOpen with
    | false =>
      rw [founders_closed opened]
      refine ⟨held, List.Subset.refl _, ?_⟩
      rwa [Call.after, op.perform_closed opened]
    | true =>
      cases op with
      | provision => exact absurd rfl other
      | insert record => exact listed.insert opened record
      | categoryId name position =>
        obtain ⟨more, within, after, -⟩ := listed.categoryId opened name position
        exact ⟨more, within, after⟩
      | close =>
        have closed : Catalogued tablePrefix start s.close held founders :=
          listed.transport rfl rfl rfl listed.recalled
        exact ⟨held, List.Subset.refl _, closed⟩

theorem callAll (listed : Catalogued tablePrefix start s held founders) {calls : List Call}
    (others : .operation .provision ∉ calls) :
    ∃ more, held ⊆ more ∧
      Catalogued tablePrefix start (Call.afterAll s calls) more (Call.allFounders s founders calls) := by
  induction calls generalizing s held founders with
  | nil => exact ⟨held, List.Subset.refl _, listed⟩
  | cons call rest ih =>
    rw [List.mem_cons, not_or] at others
    obtain ⟨between, within, after⟩ := listed.call (Ne.symm others.1)
    obtain ⟨more, further, last⟩ := ih after others.2
    exact ⟨more, List.Subset.trans within further, last⟩

end Catalogued

variable {db : Database} {tablePrefix : String}

/-- What a gateway remembers is gone when it creates the tables. -/
theorem Creatable.provision_open {s : Sink} (owner : s.tablePrefix = tablePrefix)
    (creatable : Creatable s.database tablePrefix) (opened : s.isOpen = true) :
    s.provision = (.ok (), .connect (created s.database tablePrefix) tablePrefix) := by
  subst owner
  obtain ⟨start, connected, free⟩ := creatable.names s.database
  have serves : s.Serves start := ⟨opened, connected.reads⟩
  rw [serves.provision_eq, if_neg (by simp [free])]
  obtain ⟨db, tablePrefix, isOpen, categories, pending⟩ := s
  obtain rfl : isOpen = true := opened
  rfl

/-- The tables of categories and forums begin without rows. -/
theorem Creatable.unfilled (creatable : Creatable db tablePrefix) :
    ∃ start, (Sink.connect (created db tablePrefix) tablePrefix).Serves start ∧
      ∀ shape ∈ [Table.categories, Table.forums], ∃ t,
        (created db tablePrefix).table? (start ++ shape.name) = some t ∧ t.shape = shape ∧ t.rows = [] := by
  obtain ⟨start, serves, tables⟩ := creatable.tables
  refine ⟨start, serves, fun shape member => ?_⟩
  have known : shape ∈ Table.all ∧ firstRows tablePrefix shape = [] := by
    rcases List.mem_pair.mp member with rfl | rfl
    · exact ⟨by decide, rfl⟩
    · exact ⟨by decide, rfl⟩
  exact ⟨_, tables shape known.1, (Database.seeded_shape _ _).1, known.2⟩

theorem Creatable.catalogued (creatable : Creatable db tablePrefix) :
    ∃ start, Catalogued tablePrefix start (.connect (created db tablePrefix) tablePrefix) [] [] := by
  obtain ⟨start, serves, unfilled⟩ := creatable.unfilled
  have anew := creatable.anew
  generalize created db tablePrefix = made at serves unfilled ⊢
  obtain ⟨t, categories, shape, rows⟩ := unfilled Table.categories (by simp)
  obtain ⟨u, forums, sort, none⟩ := unfilled Table.forums (by simp)
  refine ⟨start, rfl, serves.reads, anew, ⟨t, categories, shape, rows⟩, ⟨u, forums, sort, ?_⟩, List.nodup_nil, ?_,
    List.Subset.refl _⟩
  · rw [none]
    exact .nil
  · intro entry member
    cases member

/-- Whatever is asked, the categories and forums of the board are those of a catalogue. -/
theorem Catalogued.anyCalls {s : Sink} {start : String} {held : Catalogue} {founders : List Forum}
    (listed : Catalogued tablePrefix start s held founders) (calls : List Call) :
    ∃ start held,
      Catalogued tablePrefix start (Call.afterAll s calls) held (Call.allFounders s founders calls) := by
  induction calls generalizing s start held founders with
  | nil => exact ⟨start, held, listed⟩
  | cons call rest ih =>
    by_cases provision : call = .operation .provision
    · subst provision
      cases opened : s.isOpen with
      | false =>
        have still : (Call.operation .provision).after s = s := Operation.perform_closed opened .provision
        rw [Call.afterAll, List.foldl_cons, Call.allFounders, still, Catalogued.founders_closed opened]
        exact ih listed
      | true =>
        have made := (listed.creatable s.database).provision_open listed.owner opened
        have after : (Call.operation .provision).after s = s.provision.2 := rfl
        have none : Call.founders s founders (.operation .provision) = [] := by
          rw [Call.founders, made]
          rfl
        rw [Call.afterAll, List.foldl_cons, Call.allFounders, none, after, made]
        obtain ⟨anew, empty⟩ := (listed.creatable s.database).catalogued
        exact ih empty
    · obtain ⟨more, -, after⟩ := listed.call provision
      exact ih after

/-- A row that gives a category its number. -/
structure Numbers (row : Row) (key : CategoryKey) (n : Int) : Prop where
  id : row.value "id" = .int n
  name : row.value "cat_name" = .text key.1
  position : row.value "disp_position" = .int key.2

/-- A row holds what is stored of a forum, and the number of the category that the forum names. -/
structure Attached (categories : List Row) (row : Row) (f : Forum) : Prop where
  cells : ∀ cell ∈ (Record.forum f).row, cell.1 ≠ "id" → row.value cell.1 = cell.2
  category : ∃ n, row.value "cat_id" = .int n ∧
    ∃ category ∈ categories, Numbers category (f.categoryName, f.categoryPosition) n

theorem Catalogue.numbers_of_mem {held : Catalogue} {key : CategoryKey} {n : Int}
    (member : (key, n) ∈ held) : ∃ row ∈ held.rows, Numbers row key n :=
  ⟨_, List.mem_map.mpr ⟨_, member, rfl⟩, rfl, rfl, rfl⟩

theorem Entered.attached {held : Catalogue} {row : Row} {f : Forum} (entered : Entered held row f) :
    Attached held.rows row f := by
  obtain ⟨n, member, number⟩ := entered.category
  exact ⟨entered.cells, n, number, Catalogue.numbers_of_mem member⟩

theorem Catalogue.nodup_rows {held : Catalogue} (keys : (held.map (·.1)).Nodup) :
    (held.rows.map fun row => (row.value "cat_name", row.value "disp_position")).Nodup := by
  have cells : (held.rows.map fun row => (row.value "cat_name", row.value "disp_position")) =
      (held.map (·.1)).map fun key => (Value.text key.1, Value.int key.2) := by
    rw [Catalogue.rows, List.map_map, List.map_map]
    rfl
  rw [cells]
  refine keys.map ?_
  rintro ⟨name, position⟩ ⟨otherName, otherPosition⟩ same
  simpa using same

namespace Catalogued

variable {s : Sink} {start : String} {held : Catalogue} {founders : List Forum}

theorem rowsOf (listed : Catalogued tablePrefix start s held founders) {name : String}
    (known : name ∈ Table.names) {t : StoredTable} (there : s.database.table? (start ++ name) = some t) :
    s.database.rowsOf tablePrefix name = t.rows := by
  have serves : (Sink.connect s.database tablePrefix).Serves start := ⟨rfl, listed.reads⟩
  have here : (Sink.connect s.database tablePrefix).database.table? (start ++ name) = some t := there
  rw [Database.rowsOf, serves.table known, here]

theorem kept (listed : Catalogued tablePrefix start s held founders) :
    let categories := s.database.rowsOf tablePrefix "categories"
    (categories.map fun row => (row.value "cat_name", row.value "disp_position")).Nodup ∧
    (∀ entry ∈ s.categories, ∃ row ∈ categories, Numbers row entry.1 entry.2) ∧
    List.Forall₂ (Attached categories) (s.database.rowsOf tablePrefix "forums") founders := by
  obtain ⟨t, categories, -, rows⟩ := listed.categories
  obtain ⟨u, forums, -, entered⟩ := listed.forums
  rw [listed.rowsOf (by decide) categories, listed.rowsOf (by decide) forums, rows]
  exact ⟨Catalogue.nodup_rows listed.keys,
    fun entry member => Catalogue.numbers_of_mem (listed.recalled member), entered.imp fun row f held => held.attached⟩

/-- A category that was answered with a number is answered with it later on. -/
theorem categoryId_lasting (listed : Catalogued tablePrefix start s held founders) {name : String}
    {position n : Int} (answered : (s.categoryId name position).1 = .ok n) {later : List Call}
    (others : .operation .provision ∉ later)
    (opened : (Call.afterAll (s.categoryId name position).2 later).isOpen = true) :
    ((Call.afterAll (s.categoryId name position).2 later).categoryId name position).1 = .ok n := by
  cases first : s.isOpen with
  | false => simp [Sink.categoryId, first] at answered
  | true =>
    obtain ⟨more, -, after, answers⟩ := listed.categoryId first name position
    obtain ⟨most, within, last⟩ := after.callAll others
    exact last.categoryId_listed opened (within (answers n answered))

end Catalogued

/-- However a board is worked on once its tables were created, whatever is refused and whenever it is
opened anew: no two categories have one name and position, a gateway remembers each category under its
number, a category is answered with the number of the first time until the tables are created again, and
the rows of forums are those of the forums written since, each with the number of its category. -/
theorem Creatable.categories_kept (creatable : Creatable db tablePrefix) (calls : List Call) :
    let first := (Sink.connect db tablePrefix).provision.2
    let s := Call.afterAll first calls
    let categories := s.database.rowsOf tablePrefix "categories"
    (categories.map fun row => (row.value "cat_name", row.value "disp_position")).Nodup ∧
    (∀ entry ∈ s.categories, ∃ row ∈ categories, Numbers row entry.1 entry.2) ∧
    (∀ name position n, (s.categoryId name position).1 = .ok n →
      ∀ later, .operation .provision ∉ later →
        let t := Call.afterAll (s.categoryId name position).2 later
        t.isOpen = true → (t.categoryId name position).1 = .ok n) ∧
    List.Forall₂ (Attached categories) (s.database.rowsOf tablePrefix "forums")
      (Call.allFounders first [] calls) := by
  obtain ⟨begin, empty⟩ := creatable.catalogued
  rw [creatable.provision]
  generalize Sink.connect (created db tablePrefix) tablePrefix = board at empty
  intro first s categories
  obtain ⟨start, held, listed⟩ := empty.anyCalls calls
  obtain ⟨unique, recalled, attached⟩ := listed.kept
  refine ⟨unique, recalled, ?_, attached⟩
  intro name position n answered later others t opened
  exact listed.categoryId_lasting answered others opened

/-- A forum that names a category before its own record does, one that is refused, a redirect, and a
gateway that is opened anew. -/
theorem Creatable.categories_kept_reopened :
    let calls : List Call := [
      .operation (.insert (.forum { id := some 3, name := "News", categoryName := "General" })),
      .operation (.insert (.category { name := "General" })),
      .operation (.insert (.forum { id := some 9223372036854775808, name := "Far", categoryName := "Else" })),
      .reconnect,
      .operation (.categoryId "General" 2),
      .operation (.insert (.forum { name := "Wiki", redirect := some "wiki", categoryName := "General" }))]
    let first := (Sink.connect {} "old_").provision.2
    let s := Call.afterAll first calls
    let categories := s.database.rowsOf "old_" "categories"
    Creatable {} "old_" ∧
    (categories.map fun row => (row.value "cat_name", row.value "disp_position")).Nodup ∧
    (∀ entry ∈ s.categories, ∃ row ∈ categories, Numbers row entry.1 entry.2) ∧
    (∀ name position n, (s.categoryId name position).1 = .ok n →
      ∀ later, .operation .provision ∉ later →
        let t := Call.afterAll (s.categoryId name position).2 later
        t.isOpen = true → (t.categoryId name position).1 = .ok n) ∧
    List.Forall₂ (Attached categories) (s.database.rowsOf "old_" "forums")
      (Call.allFounders first [] calls) := by
  intro calls
  have creatable : Creatable {} "old_" := creatable_plain (by decide +kernel) (by decide +kernel)
  exact ⟨creatable, creatable.categories_kept calls⟩

end BoardMigration.Store
