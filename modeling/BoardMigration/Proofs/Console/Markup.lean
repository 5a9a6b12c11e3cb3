import BoardMigration.Console.Screen
import BoardMigration.Proofs.Text.Runs

/-! Which styled texts can be shown. Only a closing tag can be at fault, so a text shows as soon as its tags
are known, and escaped text has none, whatever stands before it and behind it. -/
namespace BoardMigration.Console

/-- The tags among pieces. -/
def tags (found : List Piece) : List (List Char) :=
  found.filterMap fun
    | .plain _ => none
    | .tag inner => some inner

@[simp] theorem tags_nil : tags [] = [] := rfl

@[simp] theorem tags_plain (text : List Char) (rest : List Piece) :
    tags (.plain text :: rest) = tags rest := rfl

@[simp] theorem tags_tag (inner : List Char) (rest : List Piece) :
    tags (.tag inner :: rest) = inner :: tags rest := rfl

@[simp] theorem tags_append (first second : List Piece) :
    tags (first ++ second) = tags first ++ tags second := List.filterMap_append

theorem show?_plain (opened : List String) (text : List Char) (rest : List Piece) :
    show? opened (.plain text :: rest) = (show? opened rest).map (plainText text ++ ·) := by
  rw [show?]
  cases show? opened rest <;> rfl

/-- Plain text always shows. -/
theorem show?_untagged (opened : List String) {found : List Piece} (none : tags found = []) :
    ∃ shown, show? opened found = .ok shown := by
  induction found with
  | nil => exact ⟨[], rfl⟩
  | cons piece rest ih =>
    cases piece with
    | plain text =>
      obtain ⟨shown, done⟩ := ih none
      exact ⟨plainText text ++ shown, by rw [show?_plain, done]; rfl⟩
    | tag inner => cases none

/-- A name that opens a style, and closes it behind a slash. -/
structure Style (name : List Char) : Prop where
  worded : Text.strip name ≠ []
  unassigned : '=' ∉ name
  begins : ∃ c more, name = c :: more ∧ beginsTag c = true ∧ c ≠ '/' ∧ ∀ d ∈ more, d ≠ '[' ∧ d ≠ ']'

theorem Style.takeWhile {name : List Char} (style : Style name) : name.takeWhile (· != '=') = name := by
  rw [List.takeWhile_eq_self_iff]
  intro c member
  simpa using fun same : c = '=' => style.unassigned (same ▸ member)

theorem show?_opening {name : List Char} (style : Style name) (rest : List Piece) :
    show? [] (.tag name :: rest) = show? [styleName name] rest := by
  have whole := style.takeWhile
  obtain ⟨c, more, rfl, -, open_, -⟩ := style.begins
  rw [show?]
  simp only [whole]
  split
  · next closing here => exact absurd (List.cons.inj here).1 open_
  · rfl

theorem show?_closing {name : List Char} (style : Style name) (rest : List Piece) :
    show? [styleName name] (.tag ('/' :: name) :: rest) = show? [] rest := by
  have whole : ('/' :: name).takeWhile (· != '=') = '/' :: name := by
    simpa using style.takeWhile
  rw [show?]
  simp [whole, style.worded]

/-- An open style may be closed, but need not be. -/
theorem show?_opened {name : List Char} (style : Style name) {found : List Piece}
    (once : tags found = [] ∨ tags found = ['/' :: name]) :
    ∃ shown, show? [styleName name] found = .ok shown := by
  induction found with
  | nil => exact ⟨[], rfl⟩
  | cons piece rest ih =>
    cases piece with
    | plain text =>
      obtain ⟨shown, done⟩ := ih once
      exact ⟨plainText text ++ shown, by rw [show?_plain, done]; rfl⟩
    | tag inner =>
      have single : inner :: tags rest = ['/' :: name] := once.resolve_left nofun
      obtain ⟨rfl, none⟩ := List.cons.inj single
      rw [show?_closing style]
      exact show?_untagged [] none

/-- A tag is a first character and what follows it up to the bracket. -/
theorem tag?_eq_some_iff {text inner rest : List Char} :
    tag? text = some (inner, rest) ↔ ∃ c more, inner = c :: more ∧ beginsTag c = true ∧
      (∀ d ∈ more, d ≠ '[' ∧ d ≠ ']') ∧ text = '[' :: c :: more ++ ']' :: rest := by
  constructor
  · intro found
    unfold tag? at found
    split at found
    case h_2 => cases found
    next c behind =>
      dsimp only at found
      split at found
      case h_2 => cases found
      next after dropped =>
        split at found
        case isFalse => cases found
        next begins =>
          cases found
          refine ⟨c, _, rfl, begins, fun d member => by simpa using List.mem_takeWhile_imp member, ?_⟩
          rw [Text.drop_takeWhile] at dropped
          rw [List.cons_append, List.cons_append, ← dropped, List.takeWhile_append_dropWhile]
  · rintro ⟨c, more, rfl, begins, inside, rfl⟩
    have run : (more ++ ']' :: rest).takeWhile (fun c => c != '[' && c != ']') = more :=
      Text.takeWhile_run (by simpa using inside) (by simp)
    simp [tag?, run, begins]

theorem tag?_of_head {c : Char} (other : c ≠ '[') (rest : List Char) : tag? (c :: rest) = none := by
  unfold tag?
  split
  · next here => exact absurd (List.cons.inj here).1 other
  · rfl

def slashes (n : Nat) : List Char := List.replicate n '\\'

/-- What a run of backslashes ends at. -/
def Unslashed (text : List Char) : Prop := text.head? ≠ some '\\'

theorem slash_runs (text : List Char) : ∃ n body, text = slashes n ++ body ∧ Unslashed body := by
  refine ⟨(text.takeWhile (· == '\\')).length, text.dropWhile (· == '\\'), ?_, ?_⟩
  · have run : text.takeWhile (· == '\\') = slashes (text.takeWhile (· == '\\')).length :=
      List.eq_replicate_iff.mpr ⟨rfl, fun c member => by simpa using List.mem_takeWhile_imp member⟩
    rw [← run, List.takeWhile_append_dropWhile]
  · intro here
    have stops := List.head?_dropWhile_not (· == '\\') text
    simp [here] at stops

theorem takeWhile_slashes {body : List Char} (ends : Unslashed body) (n : Nat) :
    (slashes n ++ body).takeWhile (· == '\\') = slashes n :=
  Text.takeWhile_run (by simp [slashes]) fun c here => by
    simpa using fun same : c = '\\' => ends (same ▸ here)

theorem unslashed_tag {body inner after : List Char} (found : tag? body = some (inner, after)) :
    Unslashed body := by
  obtain ⟨c, more, -, -, -, rfl⟩ := tag?_eq_some_iff.mp found
  simp [Unslashed]

section Cutting

variable {n : Nat} {body : List Char} (fuel : Nat) (held : List Char)

/-- An odd number of backslashes before a tag makes it text. -/
theorem tags_pieces_tag {inner after : List Char} (found : tag? body = some (inner, after)) :
    tags (pieces (fuel + 1) held (slashes n ++ body)) =
      (if n % 2 = 1 then [] else [inner]) ++ tags (pieces fuel [] after) := by
  have run := takeWhile_slashes (unslashed_tag found) n
  have left : (slashes n ++ body).drop (slashes n).length = body := List.drop_left
  have some : slashes n ++ body ≠ [] := by
    obtain ⟨c, more, -, -, -, rfl⟩ := tag?_eq_some_iff.mp found
    simp
  obtain ⟨first, rest, whole⟩ := List.exists_cons_of_ne_nil some
  rw [whole] at run left ⊢
  simp only [pieces, run, left, found, tags_append]
  cases held <;> by_cases few : n < 2 <;> by_cases odd : n % 2 = 1 <;> simp [slashes, few, odd]

/-- Backslashes that no tag follows are text, and so is a character before which there are none. -/
theorem tags_pieces_slashes (ends : Unslashed body) (none : tag? body = none) (some : n ≠ 0) :
    tags (pieces (fuel + 1) held (slashes n ++ body)) = tags (pieces fuel (slashes n ++ held) body) := by
  have run := takeWhile_slashes ends n
  have left : (slashes n ++ body).drop (slashes n).length = body := List.drop_left
  obtain ⟨first, rest, whole⟩ : ∃ first rest, slashes n ++ body = first :: rest :=
    List.exists_cons_of_ne_nil (by simp [slashes, some])
  rw [whole] at run left ⊢
  have filled : (slashes n).isEmpty = false := by simp [slashes, some]
  simp only [pieces, run, left, none, filled]
  simp [slashes]

theorem tags_pieces_char {c : Char} {rest : List Char} (ends : c ≠ '\\') (none : tag? (c :: rest) = none) :
    tags (pieces (fuel + 1) held (c :: rest)) = tags (pieces fuel (c :: held) rest) := by
  simp [pieces, ends, none]

end Cutting

/-- A text without brackets and backslashes before another adds no tag to it. -/
theorem tags_pieces_bare {bare : List Char} (plain : ∀ c ∈ bare, c ≠ '[' ∧ c ≠ '\\') (fuel : Nat)
    (held rest : List Char) : tags (pieces fuel held (bare ++ rest)) = [] ∨
      ∃ left before, tags (pieces fuel held (bare ++ rest)) = tags (pieces left before rest) := by
  induction bare generalizing fuel held with
  | nil => exact .inr ⟨fuel, held, rfl⟩
  | cons c behind ih =>
    rw [List.forall_mem_cons] at plain
    cases fuel with
    | zero => exact .inl rfl
    | succ fuel =>
      rw [List.cons_append, tags_pieces_char fuel held plain.1.2 (tag?_of_head plain.1.1 _)]
      exact ih plain.2 fuel (c :: held)

section Escaping

variable {fuel n : Nat} {body : List Char}

theorem escapeTags_tag {inner after : List Char} (found : tag? body = some (inner, after)) :
    escapeTags (fuel + 1) (slashes n ++ body) =
      slashes (2 * n + 1) ++ ('[' :: inner ++ ']' :: escapeTags fuel after) := by
  have run := takeWhile_slashes (unslashed_tag found) n
  have left : (slashes n ++ body).drop (slashes n).length = body := List.drop_left
  have some : slashes n ++ body ≠ [] := by
    obtain ⟨c, more, -, -, -, rfl⟩ := tag?_eq_some_iff.mp found
    simp
  obtain ⟨first, rest, whole⟩ := List.exists_cons_of_ne_nil some
  have twice : slashes (2 * n + 1) = slashes n ++ slashes n ++ ['\\'] := by
    simp [slashes, ← List.replicate_succ', Nat.two_mul]
  rw [whole] at run left ⊢
  simp only [escapeTags, run, left, found, twice]
  simp

theorem escapeTags_plain {c : Char} {rest : List Char} (whole : c :: rest = slashes n ++ body)
    (ends : Unslashed body) (none : tag? body = none) :
    escapeTags (fuel + 1) (c :: rest) = c :: escapeTags fuel rest := by
  have run : (c :: rest).takeWhile (· == '\\') = slashes n := whole ▸ takeWhile_slashes ends n
  have left : (c :: rest).drop (slashes n).length = body := whole ▸ List.drop_left
  simp only [escapeTags, run, left, none]

theorem escapeTags_slashes (ends : Unslashed body) (none : tag? body = none) :
    escapeTags (fuel + n) (slashes n ++ body) = slashes n ++ escapeTags fuel body := by
  induction n with
  | zero => rfl
  | succ n ih =>
    have whole : '\\' :: (slashes n ++ body) = slashes (n + 1) ++ body := rfl
    exact (escapeTags_plain whole ends none).trans (congrArg _ ih)

end Escaping

def unbracketed (c : Char) : Bool := c != '[' && c != ']'

theorem unbracketed_of_begins {c : Char} (begins : beginsTag c = true) : unbracketed c = true := by
  simp only [unbracketed, Bool.and_eq_true, bne_iff_ne]
  constructor <;> rintro rfl <;> exact absurd begins (by decide)

/-- What may follow an escaped text without joining with it to a tag: no bracket is closed first. -/
def Opens (rest : List Char) : Prop :=
  ∀ inner after, (∀ c ∈ inner, unbracketed c = true) → rest ≠ inner ++ ']' :: after

/-- Of two brackets only one comes first. -/
theorem brackets_apart {first second behind after : List Char} (plain : ∀ c ∈ first, unbracketed c = true)
    (inside : ∀ c ∈ second, unbracketed c = true) : first ++ '[' :: behind ≠ second ++ ']' :: after := by
  intro same
  have left := congrArg (List.dropWhile unbracketed) same
  rw [Text.dropWhile_run plain (by simp [unbracketed]), Text.dropWhile_run inside (by simp [unbracketed])]
    at left
  exact absurd (List.cons.inj left).1 (by decide)

theorem escapeTags_nil (fuel : Nat) : escapeTags fuel [] = [] := by cases fuel <;> rfl

/-- A bracket that closes a tag in an escaped text closed one before. -/
theorem closes_of_escaped {tail : List Char} (opens : Opens tail) {fuel : Nat} {text inner after : List Char}
    (enough : text.length ≤ fuel) (inside : ∀ c ∈ inner, unbracketed c = true)
    (closes : escapeTags fuel text ++ tail = inner ++ ']' :: after) :
    ∃ behind, text = inner ++ ']' :: behind := by
  induction text generalizing fuel inner with
  | nil =>
    rw [escapeTags_nil, List.nil_append] at closes
    exact absurd closes (opens inner after inside)
  | cons c rest ih =>
    obtain ⟨fuel, rfl⟩ : ∃ less, fuel = less + 1 := Nat.exists_eq_add_one.mpr (Nat.zero_lt_of_lt enough)
    obtain ⟨n, body, whole, ends⟩ := slash_runs (c :: rest)
    cases found : tag? body with
    | some tag =>
      obtain ⟨name, behind⟩ := tag
      rw [whole, escapeTags_tag found, List.append_assoc] at closes
      exact absurd closes (brackets_apart (by simp [slashes, unbracketed]) inside)
    | none =>
      rw [escapeTags_plain whole ends found, List.cons_append] at closes
      cases inner with
      | nil => exact ⟨rest, by rw [(List.cons.inj closes).1]; rfl⟩
      | cons d inner =>
        obtain ⟨rfl, later⟩ := List.cons.inj closes
        obtain ⟨behind, rfl⟩ := ih (Nat.le_of_succ_le_succ enough)
          (fun e member => inside e (List.mem_cons_of_mem _ member)) later
        exact ⟨behind, rfl⟩

/-- An escaped text begins no tag where the text begins none. -/
theorem tag?_escaped {tail : List Char} (opens : Opens tail) {fuel : Nat} {c : Char} {rest : List Char}
    (enough : rest.length ≤ fuel) (untagged : tag? (c :: rest) = none) :
    tag? (c :: (escapeTags fuel rest ++ tail)) = none := by
  cases found : tag? (c :: (escapeTags fuel rest ++ tail)) with
  | none => rfl
  | some tag =>
    obtain ⟨name, behind⟩ := tag
    obtain ⟨d, more, -, begins, inside, whole⟩ := tag?_eq_some_iff.mp found
    obtain ⟨rfl, closes⟩ := List.cons.inj whole
    have plain : ∀ e ∈ d :: more, unbracketed e = true := by
      rw [List.forall_mem_cons]
      exact ⟨unbracketed_of_begins begins, fun e member => by simpa [unbracketed] using inside e member⟩
    obtain ⟨before, rfl⟩ := closes_of_escaped opens enough plain closes
    have same : tag? ('[' :: (d :: more ++ ']' :: before)) = some (d :: more, before) :=
      tag?_eq_some_iff.mpr ⟨d, more, rfl, begins, inside, rfl⟩
    exact absurd (untagged.symm.trans same) (by simp)

/-- What the tags come to once a text is done: there are none, or they are those of what follows, behind the
last backslashes of the text. -/
def ComesTo (tail : List Char) (found : List (List Char)) : Prop :=
  found = [] ∨ ∃ left before n, found = tags (pieces left before (slashes n ++ tail))

/-- An escaped tag is text. -/
theorem tags_pieces_escaped_tag {body inner after : List Char} (found : tag? body = some (inner, after))
    (fuel size n : Nat) (held tail : List Char) :
    tags (pieces (fuel + 1) held (escapeTags (size + 1) (slashes n ++ body) ++ tail)) =
      tags (pieces fuel [] (escapeTags size after ++ tail)) := by
  have split : escapeTags (size + 1) (slashes n ++ body) ++ tail =
      slashes (2 * n + 1) ++ ('[' :: inner ++ ']' :: (escapeTags size after ++ tail)) := by
    rw [escapeTags_tag found]
    simp
  obtain ⟨c, more, rfl, begins, inside, -⟩ := tag?_eq_some_iff.mp found
  have again : tag? ('[' :: (c :: more) ++ ']' :: (escapeTags size after ++ tail)) =
      some (c :: more, escapeTags size after ++ tail) :=
    tag?_eq_some_iff.mpr ⟨c, more, rfl, begins, inside, rfl⟩
  rw [split, tags_pieces_tag fuel held again, if_pos (by omega), List.nil_append]

/-- A character that begins no tag is passed over, with the backslashes before it. -/
theorem comesTo_passed {c : Char} {rest tail : List Char} (solid : c ≠ '\\') (untagged : tag? (c :: rest) = none)
    (later : ∀ fuel held, ComesTo tail (tags (pieces fuel held rest))) (n fuel : Nat) (held : List Char) :
    ComesTo tail (tags (pieces fuel held (slashes n ++ c :: rest))) := by
  have step (fuel : Nat) (held : List Char) : ComesTo tail (tags (pieces fuel held (c :: rest))) := by
    cases fuel with
    | zero => exact .inl rfl
    | succ fuel =>
      rw [tags_pieces_char fuel held solid untagged]
      exact later fuel _
  cases n with
  | zero => exact step fuel held
  | succ n =>
    cases fuel with
    | zero => exact .inl rfl
    | succ fuel =>
      have stops : Unslashed (c :: rest) := by simpa [Unslashed] using solid
      rw [tags_pieces_slashes fuel held stops untagged (Nat.succ_ne_zero n)]
      exact step fuel _

/-- An escaped text adds nothing to the tags of what follows it, though its last backslashes may turn a tag into
text. -/
theorem comesTo_escaped {tail : List Char} (opens : Opens tail) (text : List Char) {size : Nat}
    (enough : text.length ≤ size) (fuel : Nat) (held : List Char) :
    ComesTo tail (tags (pieces fuel held (escapeTags size text ++ tail))) := by
  induction h : text.length using Nat.strongRecOn generalizing text size fuel held with
  | ind length ih =>
  subst h
  obtain ⟨n, body, rfl, ends⟩ := slash_runs text
  cases found : tag? body with
  | some tag =>
    obtain ⟨inner, after⟩ := tag
    have shorter : after.length < body.length := by
      obtain ⟨c, more, -, -, -, rfl⟩ := tag?_eq_some_iff.mp found
      simp
      omega
    rw [List.length_append] at enough ih
    obtain ⟨size, rfl⟩ : ∃ less, size = less + 1 := Nat.exists_eq_add_one.mpr (by omega)
    cases fuel with
    | zero => exact .inl rfl
    | succ fuel =>
      rw [tags_pieces_escaped_tag found]
      exact ih after.length (by omega) after (by omega) fuel [] rfl
  | none =>
    have fits : n ≤ size := by simp [slashes] at enough; omega
    obtain ⟨size, rfl⟩ := Nat.exists_eq_add_of_le' fits
    rw [escapeTags_slashes ends found, List.append_assoc]
    cases body with
    | nil => exact .inr ⟨fuel, held, n, by rw [escapeTags_nil]; rfl⟩
    | cons c rest =>
      have solid : c ≠ '\\' := fun same => ends (by simp [same])
      have whole : c :: rest = slashes 0 ++ (c :: rest) := rfl
      obtain ⟨size, rfl⟩ : ∃ less, size = less + 1 :=
        Nat.exists_eq_add_one.mpr (by simp [slashes] at enough; omega)
      have room : rest.length ≤ size := by simp [slashes] at enough; omega
      rw [escapeTags_plain whole ends found, List.cons_append]
      exact comesTo_passed solid (tag?_escaped opens room found)
        (fun fuel held => ih rest.length (by simp [slashes]; omega) rest room fuel held rfl) n fuel held

theorem render_ok {text : String}
    (shows : ∃ shown, show? [] (pieces (text.length + 1) [] text.toList) = .ok shown) :
    ∃ shown, render text = .ok shown := by
  unfold render
  split
  · obtain ⟨shown, done⟩ := shows
    exact ⟨String.ofList shown, by rw [done]; rfl⟩
  · exact ⟨_, rfl⟩

theorem print_ok {text : String}
    (shows : ∃ shown, show? [] (pieces (text.length + 1) [] text.toList) = .ok shown) :
    ∃ shown, print text = .ok shown := by
  obtain ⟨shown, done⟩ := render_ok shows
  exact ⟨lines shown, by rw [print, done]; rfl⟩

theorem print_breaks {text : String} {error : MarkupError} (tagged : '[' ∈ text.toList)
    (breaks : show? [] (pieces (text.length + 1) [] text.toList) = .error error) : print text = .error error := by
  rw [print, render, String.contains_char_eq, if_pos (decide_eq_true tagged), breaks]
  rfl

/-- Backslashes without a tag behind them. -/
theorem tags_slashes (fuel : Nat) (held : List Char) (n : Nat) :
    tags (pieces fuel held (slashes n)) = [] := by
  cases fuel with
  | zero => rfl
  | succ fuel =>
    cases n with
    | zero => cases held <;> rfl
    | succ n =>
      have cut : tags (pieces (fuel + 1) held (slashes (n + 1) ++ [])) = _ :=
        tags_pieces_slashes fuel held (show Unslashed [] from nofun) rfl (Nat.succ_ne_zero n)
      rw [List.append_nil] at cut
      rw [cut]
      cases fuel <;> rfl

theorem tag?_style {name : List Char} (style : Style name) (rest : List Char) :
    tag? ('[' :: name ++ ']' :: rest) = some (name, rest) := by
  obtain ⟨c, more, rfl, begins, -, inside⟩ := style.begins
  exact tag?_eq_some_iff.mpr ⟨c, more, rfl, begins, inside, rfl⟩

theorem Style.unbracketed {name : List Char} (style : Style name) :
    ∀ c ∈ name, Console.unbracketed c = true := by
  obtain ⟨c, more, rfl, begins, -, inside⟩ := style.begins
  rw [List.forall_mem_cons]
  exact ⟨unbracketed_of_begins begins, fun d member => by simpa [Console.unbracketed] using inside d member⟩

theorem tag?_closing {name : List Char} (style : Style name) (rest : List Char) :
    tag? ('[' :: ('/' :: name) ++ ']' :: rest) = some ('/' :: name, rest) :=
  tag?_eq_some_iff.mpr ⟨'/', name, rfl, by decide, fun d member => by
    simpa [Console.unbracketed] using style.unbracketed d member, rfl⟩

/-- A text in one style shows if at most the style is closed in it, once. -/
theorem print_styled {name rest : List Char} (style : Style name) {text : String}
    (written : text.toList = '[' :: name ++ ']' :: rest)
    (once : ∀ fuel, tags (pieces fuel [] rest) = [] ∨ tags (pieces fuel [] rest) = ['/' :: name]) :
    ∃ shown, print text = .ok shown := by
  apply print_ok
  have cut : pieces (text.length + 1) [] text.toList = .tag name :: pieces text.length [] rest := by
    have opening := tag?_style style rest
    rw [List.cons_append] at opening
    simp [written, pieces, opening]
  rw [cut, show?_opening style]
  exact show?_opened style (once _)

/-- Text without brackets and backslashes. -/
def Bare (text : List Char) : Prop := ∀ c ∈ text, c ≠ '[' ∧ c ≠ '\\'

theorem tags_bare {text : List Char} (bare : Bare text) (fuel : Nat) (held : List Char) :
    tags (pieces fuel held text) = [] := by
  have cut := tags_pieces_bare bare fuel held []
  rw [List.append_nil] at cut
  rcases cut with none | ⟨left, before, same⟩
  · exact none
  · rw [same]
    exact tags_slashes left before 0

theorem print_styled_bare {name : List Char} (style : Style name) (rest : List Char) {text : String}
    (written : text.toList = '[' :: name ++ ']' :: rest) (bare : Bare rest) :
    ∃ shown, print text = .ok shown :=
  print_styled style written fun fuel => .inl (tags_bare bare fuel [])

theorem toList_escape (text : String) :
    ∃ n, (escape text).toList = escapeTags text.length text.toList ++ slashes n := by
  unfold escape
  dsimp only
  split
  · exact ⟨1, by simp [slashes]⟩
  · exact ⟨0, by simp [slashes]⟩

/-- Escaped text behind bare text shows as well. -/
theorem print_bare_escape {bare : List Char} (plain : Bare bare) (name : String) {text : String}
    (written : text.toList = bare ++ (escape name).toList) : ∃ shown, print text = .ok shown := by
  apply print_ok
  apply show?_untagged
  obtain ⟨n, escaped⟩ := toList_escape name
  have opens : Opens (slashes n) := by
    intro inner after _ same
    have member : ']' ∈ slashes n := by simp [same]
    simp [slashes] at member
  rw [written]
  rcases tags_pieces_bare plain (text.length + 1) [] (escape name).toList with none | ⟨left, before, same⟩
  · exact none
  · rw [same, escaped]
    rcases comesTo_escaped opens name.toList (Nat.le_of_eq String.length_toList) left before with
      none | ⟨left, before, m, same⟩
    · exact none
    · rw [same, slashes, slashes, List.replicate_append_replicate]
      exact tags_slashes left before _

/-- Escaped text between the tags of a style shows, whether or not its end keeps the style open. -/
theorem print_styled_escape {name : List Char} (style : Style name) (inner : String) {text : String}
    (written : text.toList = '[' :: name ++ ']' :: ((escape inner).toList ++ ('[' :: '/' :: name ++ [']']))) :
    ∃ shown, print text = .ok shown := by
  apply print_styled style written
  intro fuel
  obtain ⟨n, escaped⟩ := toList_escape inner
  have opens : Opens (slashes n ++ ('[' :: '/' :: name ++ [']'])) := by
    intro before after plain
    exact brackets_apart (by simp [slashes, unbracketed]) plain
  rw [escaped, List.append_assoc]
  rcases comesTo_escaped opens inner.toList (Nat.le_of_eq String.length_toList) fuel [] with
    none | ⟨left, before, m, same⟩
  · exact .inl none
  · rw [same, ← List.append_assoc, slashes, slashes, List.replicate_append_replicate]
    cases left with
    | zero => exact .inl rfl
    | succ left =>
      have cut := tags_pieces_tag (n := m + n) left before (tag?_closing style [])
      rw [slashes] at cut
      rw [cut]
      have rest : tags (pieces left [] []) = [] := tags_slashes left [] 0
      rw [rest]
      split
      · exact .inl rfl
      · exact .inr rfl

end BoardMigration.Console
