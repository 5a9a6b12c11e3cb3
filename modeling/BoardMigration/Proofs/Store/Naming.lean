import BoardMigration.Proofs.Text.Runs
import BoardMigration.Store.Naming

/-! What a prefix does to names. A prefix may change the statements it is put into, but it changes them
alike for all tables: names are made of letters and underscores, which mean nothing to the reading of a
prefix. -/
namespace BoardMigration.Store

/-- Letters, digits and underscores, at least one of them. -/
structure Wordy (name : List Char) : Prop where
  filled : name ≠ []
  plain : ∀ c ∈ name, Text.isWordChar c = true

theorem Wordy.head {name : List Char} (wordy : Wordy name) :
    ∃ c rest, name = c :: rest ∧ Text.isWordChar c = true := by
  obtain ⟨c, rest, rfl⟩ := List.exists_cons_of_ne_nil wordy.filled
  exact ⟨c, rest, rfl, wordy.plain c List.mem_cons_self⟩

/-- Behind the part that `f` takes comes the same, whether or not a name follows that `f` takes too. -/
theorem head?_dropWhile_append {f : Char → Bool} {name : List Char} (taken : ∀ c ∈ name, f c = true)
    (text : List Char) : ((text ++ name).dropWhile f).head? = (text.dropWhile f).head? := by
  rw [List.dropWhile_append]
  cases rest : text.dropWhile f with
  | nil => simp [List.dropWhile_eq_nil_iff.mpr taken]
  | cons c others => rfl

theorem parameter?_plain (previous : Char) {name : List Char}
    (plain : ∀ c ∈ name, Text.isWordChar c = true) : parameter? previous name = none := by
  induction name generalizing previous with
  | nil => rfl
  | cons c rest ih =>
    rw [List.forall_mem_cons] at plain
    have noColon : (c == ':') = false := by
      rw [beq_eq_false_iff_ne]
      rintro rfl
      exact absurd plain.1 (by decide)
    simp [parameter?, noColon, ih c plain.2]

/-- The name of a parameter that would begin before a text. -/
def parameterName (text : List Char) : List Char :=
  let word := text.takeWhile Text.isWordChar
  if (text.drop word.length).head? == some ':' then word.dropLast else word

theorem parameter?_cons (previous c : Char) (rest : List Char) :
    parameter? previous (c :: rest) =
      if c == ':' && !(previous == ':' || previous == '\\' || Text.isWordChar previous) &&
          !(parameterName rest).isEmpty then some (parameterName rest)
      else parameter? c rest := rfl

theorem parameterName_isEmpty {first second : List Char} (one : Wordy first) (other : Wordy second)
    (text : List Char) :
    (parameterName (text ++ first)).isEmpty = (parameterName (text ++ second)).isEmpty := by
  have ends {name : List Char} (wordy : Wordy name) :
      parameterName (text ++ name) =
        if (text.dropWhile Text.isWordChar).head? == some ':' then
          ((text ++ name).takeWhile Text.isWordChar).dropLast
        else (text ++ name).takeWhile Text.isWordChar := by
    rw [parameterName, Text.drop_takeWhile, head?_dropWhile_append wordy.plain]
  rw [ends one, ends other, List.takeWhile_append, List.takeWhile_append]
  by_cases whole : (text.takeWhile Text.isWordChar).length = text.length
  · have none : text.dropWhile Text.isWordChar = [] := by
      rw [← Text.drop_takeWhile, whole, List.drop_length]
    have filled {name : List Char} (wordy : Wordy name) :
        (text ++ name.takeWhile Text.isWordChar).isEmpty = false := by
      obtain ⟨c, rest, rfl, plain⟩ := wordy.head
      simp [plain]
    simpa [whole, none] using (filled one).trans (filled other).symm
  · simp only [if_neg whole]

/-- Whether a prefix hides a parameter does not depend on the name. -/
theorem parameter?_wordy {first second : List Char} (one : Wordy first) (other : Wordy second)
    (previous : Char) (text : List Char) (none : parameter? previous (text ++ first) = none) :
    parameter? previous (text ++ second) = .none := by
  induction text generalizing previous with
  | nil => exact parameter?_plain previous other.plain
  | cons c rest ih =>
    rw [List.cons_append, parameter?_cons] at none ⊢
    rw [parameterName_isEmpty one other rest] at none
    split at none
    · cases none
    · next quiet =>
      rw [if_neg quiet]
      exact ih c none

theorem plainColons_cons (c : Char) (rest : List Char) :
    plainColons (c :: rest) =
      if c == '\\' && rest.head? == some ':' &&
          ((rest.drop 1).dropWhile fun d => Text.isWordChar d || d == '$').head? != some ':' then
        plainColons rest
      else c :: plainColons rest := by
  rw [plainColons, ← Text.drop_takeWhile, List.drop_drop, Nat.add_comm]

theorem plainColons_append {name : List Char} (wordy : Wordy name) (text : List Char) :
    plainColons (text ++ name) = plainColons text ++ name := by
  have kept : plainColons name = name := by
    have plain := wordy.plain
    clear wordy
    induction name with
    | nil => rfl
    | cons c rest ih =>
      rw [List.forall_mem_cons] at plain
      have noBackslash : (c == '\\') = false := by
        rw [beq_eq_false_iff_ne]
        rintro rfl
        exact absurd plain.1 (by decide)
      simp [plainColons_cons, noBackslash, ih plain.2]
  have taken : ∀ c ∈ name, (Text.isWordChar c || c == '$') = true := by
    intro c member
    rw [wordy.plain c member, Bool.true_or]
  induction text with
  | nil => exact kept
  | cons c rest ih =>
    rw [List.cons_append, plainColons_cons, plainColons_cons, ih]
    cases rest with
    | nil =>
      obtain ⟨d, more, rfl, plain⟩ := wordy.head
      have noColon : d ≠ ':' := by
        rintro rfl
        exact absurd plain (by decide)
      simp [noColon]
    | cons d more =>
      simp only [List.cons_append, List.head?_cons, List.drop_succ_cons, List.drop_zero,
        head?_dropWhile_append taken]
      split <;> rfl

def QuotedName.append : QuotedName → List Char → QuotedName
  | whole start, name => whole (start ++ name)
  | cut start rest, name => cut start (rest ++ name)

theorem QuotedName.cons_append (c : Char) (q : QuotedName) (name : List Char) :
    (q.cons c).append name = (q.append name).cons c := by
  cases q <;> rfl

theorem readQuotedName_plain {c : Char} (plain : c ≠ '"') (rest : List Char) :
    readQuotedName (c :: rest) = (readQuotedName rest).cons c := by
  simp [readQuotedName, plain]

theorem readQuotedName_quote {rest : List Char} (single : rest.head? ≠ some '"') :
    readQuotedName ('"' :: rest) = .cut [] rest := by
  cases rest with
  | nil => rfl
  | cons c more =>
    have plain : c ≠ '"' := by simpa using single
    simp [readQuotedName, plain]

theorem readQuotedName_append {name : List Char} (wordy : Wordy name) (text : List Char) :
    readQuotedName (text ++ name) = (readQuotedName text).append name := by
  have unquoted : ∀ c ∈ name, c ≠ '"' := by
    rintro c member rfl
    exact absurd (wordy.plain _ member) (by decide)
  have kept : readQuotedName name = .whole name := by
    clear wordy
    induction name with
    | nil => rfl
    | cons c rest ih =>
      rw [List.forall_mem_cons] at unquoted
      rw [readQuotedName_plain unquoted.1, ih unquoted.2]
      rfl
  induction text using readQuotedName.induct with
  | case1 => exact kept
  | case2 rest ih =>
    simp only [List.cons_append, readQuotedName, ih, QuotedName.cons_append]
  | case3 rest single =>
    have here : rest.head? ≠ some '"' := by
      intro quote
      obtain ⟨more, rfl⟩ := List.head?_eq_some_iff.mp quote
      exact single more rfl
    have behind : (rest ++ name).head? ≠ some '"' := by
      cases rest with
      | nil =>
        obtain ⟨d, others, rfl, -⟩ := wordy.head
        simpa using unquoted d List.mem_cons_self
      | cons d others => exact here
    rw [List.cons_append, readQuotedName_quote behind, readQuotedName_quote here]
    rfl
  | case4 c rest _ notQuote ih =>
    rw [List.cons_append, readQuotedName_plain notQuote, readQuotedName_plain notQuote, ih,
      QuotedName.cons_append]

def QuotedName.isWhole : QuotedName → Bool
  | whole _ => true
  | cut _ _ => false

/-- A prefix that does not close the quote before it. -/
def Enclosed (tablePrefix : String) : Prop :=
  (readQuotedName (plainColons tablePrefix.toList)).isWhole = true

instance (tablePrefix : String) : Decidable (Enclosed tablePrefix) :=
  inferInstanceAs (Decidable (_ = true))

theorem readReference_whole {text name : List Char} (whole : readQuotedName text = .whole name) :
    readReference text = { name := String.ofList name } := by
  rw [readReference, whole]

/-- Text behind a quote leaves a trace in the reference. -/
theorem isWhole_of_readReference {text : List Char} (schema : (readReference text).schema? = none)
    (rest : (readReference text).rest? = none) : (readQuotedName text).isWhole = true := by
  revert schema rest
  unfold readReference
  split
  · next name whole =>
    rw [whole]
    exact fun _ _ => rfl
  · split
    · dsimp only
      split
      · split <;> exact fun schema => nomatch schema
      · split
        · exact fun _ rest => nomatch rest
        · exact fun schema => nomatch schema
    · exact fun _ rest => nomatch rest

theorem behindGap_suffix (gap : Gap) (text : List Char) : behindGap gap text <:+ text := by
  induction gap, text using behindGap.induct with
  | case1 => exact List.suffix_rfl
  | case2 c rest ih =>
    rw [behindGap]
    exact ih.trans (List.suffix_cons c rest)
  | case3 rest ih =>
    rw [behindGap]
    exact ih.trans ((List.suffix_cons _ rest).trans (List.suffix_cons _ _))
  | case4 c rest open_ ih =>
    rw [behindGap]
    · exact ih.trans (List.suffix_cons c rest)
    · exact open_
  | case5 rest ih =>
    rw [behindGap]
    exact ih.trans ((List.suffix_cons _ rest).trans (List.suffix_cons _ _))
  | case6 rest ih =>
    rw [behindGap]
    exact ih.trans ((List.suffix_cons _ rest).trans (List.suffix_cons _ _))
  | case7 c rest line block blank ih =>
    rw [behindGap, if_pos blank]
    · exact ih.trans (List.suffix_cons c rest)
    · exact line
    · exact block
  | case8 c rest line block visible =>
    have stays : behindGap .between (c :: rest) = c :: rest := by
      rw [behindGap, if_neg visible]
      · exact line
      · exact block
    exact ⟨[], stays⟩

/-- A name that a reference takes whole ends like the text does. -/
theorem readReference_suffix {text name : List Char} (wordy : Wordy name)
    (rest : (readReference (text ++ name)).rest? = none) :
    ∃ start, (readReference (text ++ name)).name = String.ofList (start ++ name) := by
  have read := readQuotedName_append wordy text
  cases early : readQuotedName text with
  | whole start =>
    rw [early] at read
    exact ⟨start, by rw [readReference_whole read]⟩
  | cut start left =>
    rw [early] at read
    revert rest
    rw [readReference, read]
    dsimp only [QuotedName.append]
    split
    · next more dotted =>
      split
      · next inner quoted =>
        -- the second quote stands before the name, which holds none
        have inside : '"' :: inner <:+ left ++ name := by
          rw [← quoted]
          refine (behindGap_suffix _ more).trans ?_
          refine (List.suffix_cons '.' more).trans ?_
          rw [← dotted]
          exact behindGap_suffix _ _
        have ends : name <:+ inner := by
          rcases List.suffix_or_suffix_of_suffix inside (List.suffix_append left name) with shorter | longer
          · exact absurd (wordy.plain '"' (shorter.subset List.mem_cons_self)) (by decide)
          · rcases List.suffix_cons_iff.mp longer with same | ends
            · exact absurd (wordy.plain '"' (same ▸ List.mem_cons_self)) (by decide)
            · exact ends
        obtain ⟨before, rfl⟩ := ends
        rw [readQuotedName_append wordy before]
        cases readQuotedName before with
        | whole begun => exact fun _ => ⟨begun, rfl⟩
        | cut begun behind => exact fun rest => nomatch rest
      · split <;> exact fun rest => nomatch rest
    · exact fun rest => nomatch rest

/-- Statements that are neither written out nor ended by a prefix take a table whole. -/
theorem Reference.rest?_eq_none {reference : Reference} {statement : Statement} {full : String}
    (ends : statement.mayEnd = false) (other : statement ≠ .write)
    (done : reference.resolve statement = .ok full) : reference.rest? = none := by
  cases rest : reference.rest? with
  | none => rfl
  | some text =>
    have reads : statement.reads = false := by
      cases statement <;> first | rfl | cases ends
    have drop : statement ≠ .drop := by
      rintro rfl
      cases ends
    have fault : ∃ fault, reference.fault? statement = some fault := by
      simp only [Reference.fault?, Reference.left?, rest, Option.map_some, cutFault?, ends, reads]
      split
      · exact ⟨_, rfl⟩
      · exact ⟨_, rfl⟩
      · split
        · rw [if_neg (by simpa using other)]
          exact ⟨_, rfl⟩
        · exact ⟨_, rfl⟩
    obtain ⟨fault, refused⟩ := fault
    rw [Reference.resolve, refused] at done
    cases done

theorem readTable_wordy {tablePrefix name : String} (wordy : Wordy name.toList) :
    readTable tablePrefix name =
      match parameter? '"' (tablePrefix.toList ++ name.toList) with
      | some parameter => .error (.unboundParameter (String.ofList parameter))
      | none => .ok (readReference (plainColons tablePrefix.toList ++ name.toList)) := by
  rw [← plainColons_append wordy]
  rfl

/-- A prefix that keeps to its quotes stands before all names alike, or a parameter in it stops every
statement. -/
theorem Enclosed.readTable {tablePrefix : String} (enclosed : Enclosed tablePrefix) :
    (∃ start, ∀ name, Wordy name.toList → Store.readTable tablePrefix name = .ok { name := start ++ name }) ∨
      ∀ name, Wordy name.toList → ∃ parameter,
        Store.readTable tablePrefix name = .error (.unboundParameter parameter) := by
  by_cases quiet : ∃ name : String, Wordy name.toList ∧ parameter? '"' (tablePrefix.toList ++ name.toList) = none
  · obtain ⟨name, wordy, none⟩ := quiet
    cases read : readQuotedName (plainColons tablePrefix.toList) with
    | cut start rest =>
      rw [Enclosed, read] at enclosed
      cases enclosed
    | whole start =>
      refine .inl ⟨String.ofList start, fun other wordyOther => ?_⟩
      have whole := readQuotedName_append wordyOther (plainColons tablePrefix.toList)
      rw [read] at whole
      rw [readTable_wordy wordyOther, parameter?_wordy wordy wordyOther _ _ none]
      simp only [readReference_whole whole, String.ofList_append, String.ofList_toList]
  · refine .inr fun name wordy => ?_
    rw [readTable_wordy wordy]
    cases hidden : parameter? '"' (tablePrefix.toList ++ name.toList) with
    | some parameter => exact ⟨_, rfl⟩
    | none => exact absurd ⟨name, wordy, hidden⟩ quiet

/-- The table of an index is named without a schema, so a prefix that gets one through keeps to its quotes. -/
theorem enclosed_of_on {tablePrefix name full : String} (wordy : Wordy name.toList)
    (done : resolveName tablePrefix .on name = .ok full) : Enclosed tablePrefix := by
  rw [resolveName, readTable_wordy wordy] at done
  split at done
  · cases done
  · have rest := Reference.rest?_eq_none rfl (by decide) done
    have schema : (readReference (plainColons tablePrefix.toList ++ name.toList)).schema? = none := by
      cases named : (readReference (plainColons tablePrefix.toList ++ name.toList)).schema? with
      | none => rfl
      | some schema =>
        have fault : (readReference (plainColons tablePrefix.toList ++ name.toList)).fault? .on =
            some (.syntaxNear ".") := by
          simp [Reference.fault?, Reference.left?, rest, named]
        change Reference.resolve _ _ = _ at done
        rw [Reference.resolve, fault] at done
        cases done
    have whole := isWhole_of_readReference schema rest
    rw [readQuotedName_append wordy] at whole
    rw [Enclosed]
    cases read : readQuotedName (plainColons tablePrefix.toList) with
    | whole start => rfl
    | cut start rest =>
      rw [read] at whole
      cases whole

/-- The name of a table that is created ends as it is known, and a table of that name is dropped before. -/
theorem resolveName_create {tablePrefix name full : String} (wordy : Wordy name.toList)
    (done : resolveName tablePrefix .create name = .ok full) :
    (∃ start, full = start ++ name) ∧ resolveName tablePrefix .drop name = .ok full := by
  rw [resolveName, readTable_wordy wordy] at done ⊢
  cases quiet : parameter? '"' (tablePrefix.toList ++ name.toList) with
  | some parameter =>
    rw [quiet] at done
    cases done
  | none =>
    rw [quiet] at done
    have rest := Reference.rest?_eq_none rfl (by decide) done
    obtain ⟨start, ends⟩ := readReference_suffix wordy rest
    generalize readReference (plainColons tablePrefix.toList ++ name.toList) = reference at done rest ends
    change reference.resolve .create = _ at done
    change _ ∧ reference.resolve .drop = _
    have fault (statement : Statement) (other : statement ≠ .on) : reference.fault? statement = .none := by
      simp [Reference.fault?, Reference.left?, rest, other]
    rw [Reference.resolve, fault .create (by decide)] at done
    rw [Reference.resolve, fault .drop (by decide)]
    have named : full = reference.name ∧ reference.isHere = true := by
      cases schema : reference.schema? with
      | none =>
        rw [schema] at done
        exact ⟨(Except.ok.inj done).symm, by simp [Reference.isHere, schema]⟩
      | some schema =>
        simp only [schema] at done
        split at done
        · next here => exact ⟨(Except.ok.inj done).symm, here⟩
        · split at done <;> cases done
    refine ⟨⟨String.ofList start, ?_⟩, ?_⟩
    · rw [named.1, ends, String.ofList_append, String.ofList_toList]
    · cases schema : reference.schema? with
      | none => exact congrArg _ named.1.symm
      | some schema => simp [named.2, named.1]

end BoardMigration.Store
