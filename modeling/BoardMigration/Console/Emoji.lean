import Std.Data.HashMap
import BoardMigration.Console.EmojiNames
import BoardMigration.Link
import BoardMigration.Text.Blank
import BoardMigration.Text.Case
import BoardMigration.Text.Numeral
import BoardMigration.Text.Split

/-! Emojis written as names between colons. A name that is no emoji's stays as it is. -/
namespace BoardMigration.Console

open Text

def readEmoji (word : List Char) : List (String × List Char) :=
  let parts := split '=' word
  let codes := split '+' (parts.getLast?.getD [])
  let chars := codes.map fun code => Char.ofNat (ofDigits 16 (code.filterMap Link.hexValue?))
  parts.dropLast.map fun name => (String.ofList name, chars)

def emojis : Std.HashMap String (List Char) :=
  Std.HashMap.ofList ((words emojiNames.toList).flatMap readEmoji)

/-- How an emoji is shown, as text or as a picture, with the character that says so. -/
def variants : List (String × Char) := [("-emoji", '\uFE0F'), ("-text", '\uFE0E')]

/-- Name and variant of an emoji at the start of a text, whose first colon is behind us, and the rest. -/
def emojiCode? : List Char → Option (List Char × List Char × List Char)
  | [] => none
  | c :: rest =>
    let variant := variants.findSome? fun (name, mark) =>
      let written := name.toList ++ [':']
      if written.isPrefixOf (c :: rest) then some ([mark], (c :: rest).drop written.length) else none
    match variant with
    | some (mark, rest) => some ([], mark, rest)
    | none =>
      if c == ':' then some ([], [], rest)
      else if isBlank c then none
      else (emojiCode? rest).map fun (name, mark, rest) => (c :: name, mark, rest)

/-- Puts emojis in place of their names; `fuel` bounds the length. -/
def showEmojis : (fuel : Nat) → List Char → List Char
  | 0, text => text
  | _, [] => []
  | fuel + 1, c :: rest =>
    match if c == ':' then emojiCode? rest else none with
    | none => c :: showEmojis fuel rest
    | some (name, mark, behind) =>
      let written := (c :: rest).take (rest.length + 1 - behind.length)
      let shown := (emojis[lower (String.ofList name)]?).elim written (· ++ mark)
      shown ++ showEmojis fuel behind

end BoardMigration.Console
