/-! Reading UTF-8. A malformed sequence ends before the first byte that cannot continue it, and
that byte is read afresh, so one bad byte costs at most the sequence it interrupts. -/
namespace BoardMigration.Text.Utf8

/-- A sequence under way: the bits read, how many bytes are missing (`owed + 1`), and the range the
next byte must lie in, which keeps out overlong forms, surrogates and values past the last one. -/
structure Sequence where
  value : Nat
  owed : Nat
  low : Nat
  high : Nat
  deriving DecidableEq, Repr

/-- What a byte means at the start of a character. -/
inductive Lead where
  | single (c : Char)
  | multi (sequence : Sequence)
  | malformed

def lead (byte : UInt8) : Lead :=
  let b := byte.toNat
  if b < 0x80 then .single (Char.ofNat b)
  else if b < 0xC2 then .malformed
  else if b < 0xE0 then .multi ⟨b - 0xC0, 0, 0x80, 0xBF⟩
  else if b == 0xE0 then .multi ⟨b - 0xE0, 1, 0xA0, 0xBF⟩
  else if b == 0xED then .multi ⟨b - 0xE0, 1, 0x80, 0x9F⟩
  else if b < 0xF0 then .multi ⟨b - 0xE0, 1, 0x80, 0xBF⟩
  else if b == 0xF0 then .multi ⟨b - 0xF0, 2, 0x90, 0xBF⟩
  else if b < 0xF4 then .multi ⟨b - 0xF0, 2, 0x80, 0xBF⟩
  else if b == 0xF4 then .multi ⟨b - 0xF0, 2, 0x80, 0x8F⟩
  else .malformed

/-- The characters of a byte string in order, `none` for each malformed sequence. -/
def scan : Option Sequence → List UInt8 → List (Option Char)
  | none, [] => []
  | some _, [] => [none]
  | none, byte :: rest =>
    match lead byte with
    | .single c => some c :: scan none rest
    | .multi sequence => scan (some sequence) rest
    | .malformed => none :: scan none rest
  | some sequence, byte :: rest =>
    if sequence.low ≤ byte.toNat && byte.toNat ≤ sequence.high then
      let value := sequence.value * 64 + (byte.toNat - 0x80)
      match sequence.owed with
      | 0 => some (Char.ofNat value) :: scan none rest
      | owed + 1 => scan (some ⟨value, owed, 0x80, 0xBF⟩) rest
    else
      none :: match lead byte with
      | .single c => some c :: scan none rest
      | .multi next => scan (some next) rest
      | .malformed => none :: scan none rest

/-- Reads well-formed text only. -/
def decode? (bytes : List UInt8) : Option (List Char) := (scan none bytes).mapM id

/-- Reads anything, with a replacement character for each malformed sequence. -/
def decode (bytes : List UInt8) : List Char := (scan none bytes).map (·.getD '\uFFFD')

end BoardMigration.Text.Utf8
