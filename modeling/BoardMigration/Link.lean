import BoardMigration.Text.Numeral
import BoardMigration.Text.Split
import BoardMigration.Text.Utf8

/-! Query values of board links, which carry every record's number. The query is what stands between
the first question mark and the fragment, or the whole link when it has no question mark. -/
namespace BoardMigration.Link

def query (url : List Char) : List Char :=
  let whole := url.takeWhile (· != '#')
  match whole.dropWhile (· != '?') with
  | [] => whole
  | _ :: rest => rest

def hexValue? (c : Char) : Option Nat :=
  if '0' ≤ c && c ≤ '9' then some (c.toNat - '0'.toNat)
  else if 'a' ≤ c && c ≤ 'f' then some (c.toNat - 'a'.toNat + 10)
  else if 'A' ≤ c && c ≤ 'F' then some (c.toNat - 'A'.toNat + 10)
  else none

/-- Bytes of an ASCII text; a percent sign without two hexadecimal digits stands for itself. -/
def bytes : List Char → List UInt8
  | [] => []
  | '%' :: a :: b :: rest =>
    match hexValue? a, hexValue? b with
    | some high, some low => UInt8.ofNat (16 * high + low) :: bytes rest
    | _, _ => UInt8.ofNat '%'.toNat :: bytes (a :: b :: rest)
  | c :: rest => UInt8.ofNat c.toNat :: bytes rest

/-- Decodes each stretch of ASCII by itself; `held` is the stretch under way, reversed. -/
def decodeFrom (held : List Char) : List Char → List Char
  | [] => Text.Utf8.decode (bytes held.reverse)
  | c :: rest =>
    if c.toNat < 128 then decodeFrom (c :: held) rest
    else Text.Utf8.decode (bytes held.reverse) ++ c :: decodeFrom [] rest

def decode (text : List Char) : List Char :=
  decodeFrom [] (text.map fun c => if c == '+' then ' ' else c)

/-- Name and value of one query item. Items without an equals sign or with nothing behind it are
no pairs. -/
def pair? (item : List Char) : Option (List Char × List Char) :=
  match item.dropWhile (· != '=') with
  | _ :: c :: value => some (decode (item.takeWhile (· != '=')), decode (c :: value))
  | _ => none

def pairs (url : List Char) : List (List Char × List Char) :=
  (Text.split '&' (query url)).filterMap pair?

/-- The value of the first pair with that name. -/
def value? (url field : List Char) : Option (List Char) :=
  ((pairs url).find? (·.1 == field)).map (·.2)

def int? (url field : List Char) : Option Int := (value? url field).bind Text.readInt?

end BoardMigration.Link
