import BoardMigration.BBCode
import BoardMigration.Proofs.Text.Runs

/-! Codes as a reader finds them. A text is cut at its brackets; what stands in a pair opens a code or closes
one, and codes are nested when each is closed before any that was opened earlier. -/
namespace BoardMigration.BBCode

inductive Piece where
  | char (c : Char)
  /-- What stands in a pair of brackets. -/
  | code (body : List Char)
  deriving DecidableEq, Repr

/-- Cuts a text at its brackets; `held` is what stands so far in a bracket that is open. A text with a bracket
in brackets or without a partner cannot be cut. -/
def cut? : (held : Option (List Char)) → List Char → Option (List Piece)
  | none, [] => some []
  | some _, [] => none
  | none, c :: rest =>
    if c = '[' then cut? (some []) rest
    else if c = ']' then none
    else (cut? none rest).map (.char c :: ·)
  | some body, c :: rest =>
    if c = ']' then (cut? none rest).map (.code body :: ·)
    else if c = '[' then none
    else cut? (some (body ++ [c])) rest

/-- The text without all that stands in brackets. -/
def texts (pieces : List Piece) : List Char :=
  pieces.filterMap fun
    | .char c => some c
    | .code _ => none

def bodies (pieces : List Piece) : List (List Char) :=
  pieces.filterMap fun
    | .char _ => none
    | .code body => some body

/-- What follows each pair of brackets with this body. -/
def following (body : List Char) : List Piece → List (List Piece)
  | [] => []
  | .char _ :: rest => following body rest
  | .code other :: rest => if other = body then rest :: following body rest else following body rest

def Bare (c : Char) : Prop := c ≠ '[' ∧ c ≠ ']'

instance (c : Char) : Decidable (Bare c) := inferInstanceAs (Decidable (_ ∧ _))

instance (text : List Char) : Decidable (∀ c ∈ text, Bare c) := List.decidableBAll _ text

namespace Piece

def written : Piece → List Char
  | char c => [c]
  | code body => '[' :: body ++ [']']

/-- Whether a piece is read back as it is written. -/
def Sound : Piece → Prop
  | char c => Bare c
  | code body => ∀ c ∈ body, Bare c

end Piece

def write (pieces : List Piece) : List Char := pieces.flatMap Piece.written

section Pieces

variable {pieces : List Piece} {c : Char} {rest : List Char}

@[simp] theorem write_nil : write [] = [] := rfl

@[simp] theorem write_append (pieces others : List Piece) : write (pieces ++ others) = write pieces ++ write others :=
  List.flatMap_append

@[simp] theorem write_cons (piece : Piece) (others : List Piece) :
    write (piece :: others) = piece.written ++ write others := rfl

@[simp] theorem write_chars (text : List Char) : write (text.map .char) = text := by
  induction text with
  | nil => rfl
  | cons c rest ih => exact congrArg (c :: ·) ih

@[simp] theorem texts_append (pieces others : List Piece) : texts (pieces ++ others) = texts pieces ++ texts others :=
  List.filterMap_append

@[simp] theorem texts_code (body : List Char) (others : List Piece) : texts (.code body :: others) = texts others := rfl

@[simp] theorem texts_chars (text : List Char) : texts (text.map .char) = text := by
  induction text with
  | nil => rfl
  | cons c rest ih => exact congrArg (c :: ·) ih

@[simp] theorem bodies_append (pieces others : List Piece) :
    bodies (pieces ++ others) = bodies pieces ++ bodies others :=
  List.filterMap_append

@[simp] theorem bodies_code (body : List Char) (others : List Piece) :
    bodies (.code body :: others) = body :: bodies others := rfl

@[simp] theorem bodies_chars (text : List Char) : bodies (text.map .char) = [] := by
  induction text with
  | nil => rfl
  | cons c rest ih => exact ih

@[simp] theorem following_chars (body text : List Char) : following body (text.map .char) = [] := by
  induction text with
  | nil => rfl
  | cons c rest ih => exact ih

theorem following_append (body : List Char) (pieces others : List Piece) :
    following body (pieces ++ others) = (following body pieces).map (· ++ others) ++ following body others := by
  induction pieces with
  | nil => rfl
  | cons piece rest ih =>
    cases piece with
    | char c => exact ih
    | code other => by_cases same : other = body <;> simp [following, same, ih]

theorem cut?_char (bare : Bare c) : cut? none (c :: rest) = (cut? none rest).map (.char c :: ·) := by
  simp only [cut?, bare.1, bare.2, ↓reduceIte]

/-- Inside brackets a text is read up to the next bracket. -/
theorem cut?_body {body : List Char} (held : List Char) (bare : ∀ c ∈ body, Bare c) :
    cut? (some held) (body ++ ']' :: rest) = (cut? none rest).map (.code (held ++ body) :: ·) := by
  induction body generalizing held with
  | nil => simp only [List.nil_append, List.append_nil, cut?, ↓reduceIte]
  | cons c body ih =>
    rw [List.forall_mem_cons] at bare
    have step : cut? (some held) (c :: (body ++ ']' :: rest)) = cut? (some (held ++ [c])) (body ++ ']' :: rest) := by
      simp only [cut?, bare.1.1, bare.1.2, ↓reduceIte]
    rw [List.cons_append, step, ih _ bare.2, List.append_assoc, List.singleton_append]

/-- Pieces are found again where they are written, whatever follows. -/
theorem cut?_write (sound : ∀ piece ∈ pieces, piece.Sound) :
    cut? none (write pieces ++ rest) = (cut? none rest).map (pieces ++ ·) := by
  induction pieces with
  | nil => simp
  | cons piece others ih =>
    rw [List.forall_mem_cons] at sound
    have behind := ih sound.2
    have joined : ((cut? none rest).map (others ++ ·)).map (piece :: ·) = (cut? none rest).map (piece :: others ++ ·) := by
      rw [Option.map_map]
      rfl
    cases piece with
    | char c =>
      change cut? none (c :: (write others ++ rest)) = _
      rw [cut?_char sound.1, behind, joined]
    | code body =>
      have opened : write (.code body :: others) ++ rest = '[' :: (body ++ ']' :: (write others ++ rest)) := by
        simp [Piece.written]
      have entered : cut? none ('[' :: (body ++ ']' :: (write others ++ rest))) =
          cut? (some []) (body ++ ']' :: (write others ++ rest)) := by
        rw [cut?, if_pos rfl]
      rw [opened, entered, cut?_body [] sound.1, behind, List.nil_append, joined]

theorem cut?_written (sound : ∀ piece ∈ pieces, piece.Sound) : cut? none (write pieces) = some pieces := by
  have read : cut? none (write pieces ++ []) = (cut? none []).map (pieces ++ ·) := cut?_write sound
  simpa [cut?] using read

/-- A text without brackets can only be written by its characters. -/
theorem eq_chars_of_write {text : List Char} (sound : ∀ piece ∈ pieces, piece.Sound) (bare : ∀ c ∈ text, Bare c)
    (written : write pieces = text) : pieces = text.map .char := by
  have chars : ∀ piece ∈ text.map Piece.char, piece.Sound := by simpa [Piece.Sound] using bare
  have read := cut?_written sound
  rw [written, ← write_chars text, cut?_written chars] at read
  exact (Option.some.inj read).symm

end Pieces

inductive Mark where
  | opening (code : Code) (argument : Option (List Char))
  | closing (code : Code)
  deriving DecidableEq, Repr

def Code.all : List Code := [.url, .bold, .italic, .underline, .quote, .codeBox, .image]

def Code.ofName? (name : List Char) : Option Code := Code.all.find? (·.name == name)

/-- A slash before its name closes a code; an argument stands behind an equals sign. -/
def Mark.ofBody? : List Char → Option Mark
  | '/' :: name => (Code.ofName? name).map .closing
  | body =>
    match body.dropWhile (· != '=') with
    | [] => (Code.ofName? body).map (.opening · none)
    | _ :: argument => (Code.ofName? (body.takeWhile (· != '='))).map (.opening · (some argument))

/-- The codes of a text; `none` if its brackets are not all codes. -/
def marks? (text : List Char) : Option (List Mark) :=
  (cut? none text).bind fun pieces => (bodies pieces).mapM Mark.ofBody?

/-- What is open behind some codes, the innermost first; `none` if one is closed that was not opened last. -/
def leftOpen? : (opened : List Code) → List Mark → Option (List Code)
  | opened, [] => some opened
  | opened, .opening code _ :: rest => leftOpen? (code :: opened) rest
  | [], .closing _ :: _ => none
  | last :: opened, .closing code :: rest => if code = last then leftOpen? opened rest else none

/-- Codes that stand in pairs, side by side or one inside another. -/
inductive Nested : List Mark → Prop where
  | nil : Nested []
  | pair (code : Code) (argument : Option (List Char)) {inner rest : List Mark} (within : Nested inner)
    (behind : Nested rest) : Nested (.opening code argument :: (inner ++ .closing code :: rest))

theorem Nested.append {marks others : List Mark} (nested : Nested marks) (behind : Nested others) :
    Nested (marks ++ others) := by
  induction nested with
  | nil => exact behind
  | pair code argument within _ _ ih =>
    rw [List.cons_append, List.append_assoc]
    exact .pair code argument within ih

/-- Nested codes leave open what was open before them. -/
theorem Nested.leftOpen?_append {marks : List Mark} (nested : Nested marks) (opened : List Code) (rest : List Mark) :
    leftOpen? opened (marks ++ rest) = leftOpen? opened rest := by
  induction nested generalizing opened rest with
  | nil => rfl
  | pair code argument _ _ ihWithin ihBehind =>
    rw [List.cons_append, List.append_assoc, leftOpen?, ihWithin, List.cons_append, leftOpen?, if_pos rfl, ihBehind]

namespace Code

/-- What stands in the brackets that open a code. -/
def body (code : Code) (argument : Option (List Char)) : List Char := code.name ++ argument.elim [] ('=' :: ·)

theorem written_opening (code : Code) : (Piece.code (code.body none)).written = code.opening := by
  simp [Piece.written, body, opening]

theorem written_openingWith (code : Code) (argument : List Char) :
    (Piece.code (code.body (some argument))).written = code.openingWith argument := by
  simp [Piece.written, body, openingWith]

theorem written_closing (code : Code) : (Piece.code ('/' :: code.name)).written = code.closing := rfl

theorem ofName?_name (code : Code) : ofName? code.name = some code := by
  cases code <;> decide

theorem letters_name (code : Code) : ∀ c ∈ code.name, Bare c ∧ c ≠ '=' ∧ c ≠ '/' := by
  have letters : code.name.all fun c => decide (Bare c ∧ c ≠ '=' ∧ c ≠ '/') := by cases code <;> rfl
  exact fun c member => of_decide_eq_true (List.all_eq_true.mp letters c member)

end Code

theorem Mark.ofBody?_closing (code : Code) : ofBody? ('/' :: code.name) = some (.closing code) := by
  rw [ofBody?, Code.ofName?_name]
  rfl

theorem Mark.ofBody?_opening (code : Code) (argument : Option (List Char)) :
    ofBody? (code.body argument) = some (.opening code argument) := by
  have letters : ∀ c ∈ code.name, (c != '=') = true := fun c member => by
    simpa using (code.letters_name c member).2.1
  have unslashed : ∀ name, code.body argument ≠ '/' :: name := by
    cases code <;> simp [Code.body, Code.name]
  have read : ofBody? (code.body argument) =
      match (code.body argument).dropWhile (· != '=') with
      | [] => (Code.ofName? (code.body argument)).map (.opening · none)
      | _ :: argument' =>
        (Code.ofName? ((code.body argument).takeWhile (· != '='))).map (.opening · (some argument')) := by
    rw [ofBody?]
    exact fun name same => unslashed name same
  rw [read]
  cases argument with
  | none =>
    have whole : code.body none = code.name := List.append_nil _
    rw [whole, List.dropWhile_eq_nil_iff.mpr letters]
    simp only [Code.ofName?_name, Option.map_some]
  | some argument =>
    have stops : ∀ c ∈ ('=' :: argument).head?, (c != '=') = false := by simp
    have whole : code.body (some argument) = code.name ++ '=' :: argument := rfl
    rw [whole, Text.dropWhile_run letters stops, Text.takeWhile_run letters stops]
    simp only [Code.ofName?_name, Option.map_some]

end BoardMigration.BBCode
