import Std.Data.HashMap
import BoardMigration.Html.CharsetTable
import BoardMigration.Html.Reference
import BoardMigration.Text.Case
import BoardMigration.Text.Utf8

/-! Finding and decoding the character set of a page. A byte order mark decides, then what the page
declares, then UTF-8, then the common Western set; the first that reads every byte wins. -/
namespace BoardMigration.Html

inductive Charset where
  /-- `dropMark` skips a byte order mark at the start. -/
  | utf8 (dropMark : Bool)
  /-- Units of two bytes; without an order a mark decides, and little end first is assumed. -/
  | utf16 (bigFirst : Option Bool)
  | utf32 (bigFirst : Option Bool)
  | single (chars : Array (Option Char))

namespace Charset

/-- Lower case, with one underscore for each run of characters other than letters, digits and
periods; none at the start, and characters beyond ASCII vanish. -/
def foldName (name : List Char) : String :=
  let step (state : List Char × Bool) (c : Char) : List Char × Bool :=
    let (done, gap) := state
    if c.isAlphanum || c == '.' then
      (c.toLower :: (if gap && !done.isEmpty then '_' :: done else done), false)
    else if c.toNat < 128 then (done, true)
    else (done, gap)
  String.ofList (name.foldl step ([], false)).1.reverse

/-- Fills in one run of bytes, such as `A1-AC=401` or `80-FF`. -/
def fillRun (chars : Array (Option Char)) (run : List Char) : Array (Option Char) :=
  let bytes := (Text.split '-' (run.takeWhile (· != '='))).map readHex
  let first := bytes.headD 0
  let last := bytes.getLastD 0
  let start := (run.dropWhile (· != '=')).drop 1
  (List.range (last + 1 - first)).foldl
    (fun chars i => chars.setIfInBounds (first + i)
      (if start.isEmpty then none else some (Char.ofNat (readHex start + i)))) chars

def ascending : Array (Option Char) := (Array.range 256).map fun n => some (Char.ofNat n)

def readEntry (entry : String) : List (String × Charset) :=
  let words := Text.words entry.toList
  let names := words.takeWhile (· != [':'])
  let runs := words.drop (names.length + 1)
  let chars := runs.foldl fillRun ascending
  names.map fun name => (String.ofList name, .single chars)

def wide : List (List String × Charset) := [
  (["utf_8", "cp65001", "u8", "utf", "utf8", "utf8_ucs2", "utf8_ucs4"], .utf8 false),
  (["utf_8_sig"], .utf8 true),
  (["utf_16", "u16", "utf16"], .utf16 none),
  (["utf_16_le", "unicodelittleunmarked", "utf_16le"], .utf16 (some false)),
  (["utf_16_be", "unicodebigunmarked", "utf_16be"], .utf16 (some true)),
  (["utf_32", "u32", "utf32"], .utf32 none),
  (["utf_32_le", "utf_32le"], .utf32 (some false)),
  (["utf_32_be", "utf_32be"], .utf32 (some true))]

def known : Std.HashMap String Charset :=
  Std.HashMap.ofList (wide.flatMap (fun (names, charset) => names.map (·, charset)) ++
    (charsetTable.splitOn "\n\n").flatMap readEntry)

def nicknames : List (String × String) := [("macintosh", "mac-roman"), ("x-sjis", "shift-jis")]

def byName? (name : String) : Option Charset := known[foldName name.toList]?

/-- A name as declared, without its hyphens, or with underscores for them. -/
def find? (name : String) : Option Charset :=
  let name := ((nicknames.find? (·.1 == name)).map (·.2)).getD name
  (byName? name).orElse fun _ =>
    (byName? (String.ofList (name.toList.filter (· != '-')))).orElse fun _ =>
      byName? (name.map fun c => if c == '-' then '_' else c)

/-- A code point of a fixed-width set. -/
def char? (n : Nat) : Option Char :=
  if n.isValidChar then some (Char.ofNat n) else none

def units16 (bigFirst : Bool) : List UInt8 → List (Option Nat)
  | [] => []
  | [_] => [none]
  | a :: b :: rest =>
    let (high, low) := if bigFirst then (a.toNat, b.toNat) else (b.toNat, a.toNat)
    some (256 * high + low) :: units16 bigFirst rest

def isLeading (n : Nat) : Bool := 0xD800 ≤ n && n < 0xDC00

def isTrailing (n : Nat) : Bool := 0xDC00 ≤ n && n < 0xE000

/-- Joins the two halves of a wide character; a half alone is malformed. -/
def chars16 : List (Option Nat) → List (Option Char)
  | [] => []
  | none :: rest => none :: chars16 rest
  | some a :: some b :: rest =>
    if isLeading a && isTrailing b then
      some (Char.ofNat (0x10000 + (a - 0xD800) * 0x400 + (b - 0xDC00))) :: chars16 rest
    else char? a :: chars16 (some b :: rest)
  | [some a, none] => if isLeading a then [none] else [char? a, none]
  | some a :: rest => char? a :: chars16 rest

def chars32 (bigFirst : Bool) : List UInt8 → List (Option Char)
  | [] => []
  | a :: b :: c :: d :: rest =>
    let value (w x y z : UInt8) : Nat := ((w.toNat * 256 + x.toNat) * 256 + y.toNat) * 256 + z.toNat
    char? (if bigFirst then value a b c d else value d c b a) :: chars32 bigFirst rest
  | _ => [none]

/-- The characters of a byte string, `none` for what is malformed. -/
def scan (bytes : List UInt8) : Charset → List (Option Char)
  | .utf8 dropMark =>
    Text.Utf8.scan none (if dropMark && bytes.take 3 == [0xEF, 0xBB, 0xBF] then bytes.drop 3 else bytes)
  | .utf16 (some bigFirst) => chars16 (units16 bigFirst bytes)
  | .utf16 none =>
    match bytes with
    | 0xFE :: 0xFF :: rest => chars16 (units16 true rest)
    | 0xFF :: 0xFE :: rest => chars16 (units16 false rest)
    | _ => chars16 (units16 false bytes)
  | .utf32 (some bigFirst) => chars32 bigFirst bytes
  | .utf32 none =>
    match bytes with
    | 0 :: 0 :: 0xFE :: 0xFF :: rest => chars32 true rest
    | 0xFF :: 0xFE :: 0 :: 0 :: rest => chars32 false rest
    | _ => chars32 false bytes
  | .single chars => bytes.map fun byte => (chars[byte.toNat]?).join

def decode? (charset : Charset) (bytes : List UInt8) : Option (List Char) :=
  (charset.scan bytes).mapM id

def decode (charset : Charset) (bytes : List UInt8) : List Char :=
  (charset.scan bytes).map (·.getD '\uFFFD')

end Charset

/-- A byte order mark with the set it announces, and the bytes behind it. Two zero bytes behind a
short mark make it none. -/
def byteOrderMark (bytes : List UInt8) : Option String × List UInt8 :=
  match bytes with
  | 0xFE :: 0xFF :: a :: b :: rest =>
    if a == 0 && b == 0 then (none, bytes) else (some "utf-16be", a :: b :: rest)
  | 0xFF :: 0xFE :: a :: b :: rest =>
    if a == 0 && b == 0 then (some "utf-32le", rest) else (some "utf-16le", a :: b :: rest)
  | 0xEF :: 0xBB :: 0xBF :: rest => (some "utf-8", rest)
  | 0 :: 0 :: 0xFE :: 0xFF :: rest => (some "utf-32be", rest)
  | _ => (none, bytes)

def isByteBlank (c : Char) : Bool := c == ' ' || (9 ≤ c.toNat && c.toNat ≤ 13)

/-- What follows a word at the start of a text in lower case. -/
def after? (word : String) (text : List Char) : Option (List Char) :=
  if word.toList.isPrefixOf text then some (text.drop word.length) else none

def isQuote (c : Char) : Bool := c == '"' || c == '\''

/-- The places behind each occurrence of a word, the last first. -/
def behind (word : String) : List Char → List (List Char)
  | [] => []
  | c :: rest => behind word rest ++ (after? word (c :: rest)).toList

/-- The set named by a declaration that opens the text: `<?…encoding="name"…?>` on one line. -/
def declaredByInstruction? (text : List Char) : Option (List Char) :=
  match after? "<?" (text.dropWhile isByteBlank) with
  | none => none
  | some rest =>
    (behind "encoding=" (rest.takeWhile (· != '\n'))).findSome? fun tail =>
      match tail with
      | [] => none
      | quote :: value =>
        let name := value.takeWhile (!isQuote ·)
        let closing := behind "?>" (value.drop (name.length + 1))
        if isQuote quote && name.length < value.length && !closing.isEmpty then some name else none

/-- A name behind `charset`, up to a character that cannot belong to it. -/
def charsetName? (tail : List Char) : Option (List Char) :=
  match tail.dropWhile isByteBlank with
  | '=' :: rest =>
    let value := rest.dropWhile isByteBlank
    let bare := match value with
      | c :: more => if isQuote c then more else value
      | [] => []
    let stops (c : Char) : Bool := [' ', '/', ';', '\'', '"', '>'].contains c
    let name := bare.takeWhile (!stops ·)
    if name.length < bare.length then some name
    else if value.head?.any isQuote || (rest.takeWhile isByteBlank).contains ' ' then some []
    else none
  | _ => none

/-- The set named in the first `meta` tag that names one. -/
def declaredByMeta? : List Char → Option (List Char)
  | [] => none
  | c :: rest =>
    let here : Option (List Char) :=
      if c == '<' then
        (after? "meta" (rest.dropWhile isByteBlank)).bind fun tag =>
          let inside := tag.takeWhile (· != '>')
          (behind "charset" (inside.drop 1)).findSome? fun tail =>
            charsetName? (tag.drop (inside.length - tail.length))
      else none
    here.orElse fun _ => declaredByMeta? rest

def latin (bytes : List UInt8) : List Char :=
  bytes.map fun byte => if byte < 128 then (Char.ofNat byte.toNat).toLower else '\uFFFD'

/-- The declared set, looked for near the top of the page only. -/
def declared? (bytes : List UInt8) : Option String :=
  let named := (declaredByInstruction? (latin (bytes.take 1024))).orElse fun _ =>
    declaredByMeta? (latin (bytes.take (max 2048 (bytes.length / 20))))
  match named with
  | some [] => none
  | some name => some (String.ofList name)
  | none => none

structure DecodedPage where
  text : List Char
  charset : Charset

def decodePage (page : List UInt8) : DecodedPage :=
  let (marked, bytes) := byteOrderMark page
  let names := marked.toList ++ (declared? bytes).toList ++ ["utf-8", "windows-1252"]
  let strict := names.findSome? fun name => (Charset.find? name).bind fun charset =>
    (charset.decode? bytes).map fun text => ⟨text, charset⟩
  let lenient (_ : Unit) : Option DecodedPage := names.findSome? fun name =>
    if name == "ascii" then none
    else (Charset.find? name).map fun charset => ⟨charset.decode bytes, charset⟩
  (strict.orElse lenient).getD ⟨Text.Utf8.decode bytes, .utf8 false⟩

end BoardMigration.Html
