import BoardMigration.Text.Unprintable

/-! Quoted text in messages. Single quotes surround it, double quotes when it holds a single quote
and no double one; a backslash escapes the quote in use, itself and whatever cannot be seen. -/
namespace BoardMigration.Text

/-- `width` lower-case hexadecimal digits, the least significant last. -/
def hexadecimal (width value : Nat) : List Char :=
  let digits := Nat.toDigits 16 value
  List.replicate (width - digits.length) '0' ++ digits

def quotedChar (quote c : Char) : List Char :=
  if c == quote || c == '\\' then ['\\', c]
  else if c == '\n' then ['\\', 'n']
  else if c == '\r' then ['\\', 'r']
  else if c == '\t' then ['\\', 't']
  else if !isUnprintable c then [c]
  else if c.toNat ≤ 0xFF then '\\' :: 'x' :: hexadecimal 2 c.toNat
  else if c.toNat ≤ 0xFFFF then '\\' :: 'u' :: hexadecimal 4 c.toNat
  else '\\' :: 'U' :: hexadecimal 8 c.toNat

def quoted (text : String) : String :=
  let body := text.toList
  let quote := if body.contains '\'' && !body.contains '"' then '"' else '\''
  String.ofList (quote :: body.flatMap (quotedChar quote) ++ [quote])

end BoardMigration.Text
