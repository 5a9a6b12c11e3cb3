import BoardMigration.Record
import BoardMigration.Text.Numeral

/-! Reading records from loosely typed fields. Numbers may come as text, flags as words or numbers;
text is text only. All faults of a record are reported, in the order of its fields. -/
namespace BoardMigration

/-- A value as it comes in. -/
inductive Datum where
  | null
  | bool (b : Bool)
  | int (n : Int)
  /-- A number written with a decimal point: its digits and how many of them follow the point. -/
  | decimal (digits : Int) (places : Nat)
  | text (s : String)
  | other
  deriving DecidableEq, Repr

inductive Fault where
  | missing
  | intType | intParsing | intFromFloat | intParsingSize
  | stringType
  | boolType | boolParsing
  | frozen
  deriving DecidableEq, Repr

def Fault.code : Fault → String
  | .missing => "missing"
  | .intType => "int_type"
  | .intParsing => "int_parsing"
  | .intFromFloat => "int_from_float"
  | .intParsingSize => "int_parsing_size"
  | .stringType => "string_type"
  | .boolType => "bool_type"
  | .boolParsing => "bool_parsing"
  | .frozen => "frozen_instance"

namespace Datum

/-- The part of a numeral before a decimal point that only zeros follow. -/
def withoutZeroPlaces (text : List Char) : List Char :=
  let whole := text.takeWhile (· != '.')
  if ((text.drop (whole.length + 1)).all (· == '0')) then whole else text

/-- Digits with single underscores between them. -/
def readDigits (text : List Char) : Except Fault Nat :=
  if text.all (fun c => c.isDigit || c == '_') then
    match Text.digitGroup? text with
    | some digits => .ok (Text.ofDigits 10 digits)
    | none => .error .intParsing
  else .error .intParsing

/-- An integer written as text, perhaps with blanks around it, a plus sign, leading zeros or zeros
behind a decimal point. A minus sign allows no leading zeros. -/
def readIntText (s : String) : Except Fault Int :=
  let trimmed := Text.trim Text.isNumeralSpace s.toList
  if trimmed.length > Text.maxNumeralDigits then .error .intParsingSize
  else match trimmed with
    | '-' :: digits =>
      match withoutZeroPlaces digits with
      | '0' :: _ :: _ => .error .intParsing
      | whole => (readDigits whole).map (- Int.ofNat ·)
    | '+' :: digits => (readDigits (withoutZeroPlaces digits)).map Int.ofNat
    | digits => (readDigits (withoutZeroPlaces digits)).map Int.ofNat

def fits64 (n : Int) : Bool := -9223372036854775808 ≤ n && n ≤ 9223372036854775807

def decimalInt (digits : Int) (places : Nat) : Except Fault Int :=
  let scale : Int := Nat.pow 10 places
  if digits % scale != 0 then .error .intFromFloat
  else if fits64 (digits / scale) then .ok (digits / scale)
  else .error .intParsingSize

def toInt : Datum → Except Fault Int
  | .bool b => .ok (if b then 1 else 0)
  | .int n => .ok n
  | .decimal digits places => decimalInt digits places
  | .text s => readIntText s
  | _ => .error .intType

def intBool (n : Int) : Except Fault Bool :=
  if n == 0 then .ok false else if n == 1 then .ok true else .error .boolParsing

def toBool : Datum → Except Fault Bool
  | .bool b => .ok b
  | .int n => if fits64 n then intBool n else .error .boolType
  | .decimal digits places =>
    match decimalInt digits places with
    | .ok n => intBool n
    | .error _ => .error .boolType
  | .text s =>
    let word := s.map Char.toLower
    if ["0", "off", "f", "false", "n", "no"].contains word then .ok false
    else if ["1", "on", "t", "true", "y", "yes"].contains word then .ok true
    else .error .boolParsing
  | _ => .error .boolType

def toText : Datum → Except Fault String
  | .text s => .ok s
  | _ => .error .stringType

/-- Null, or what `read` makes of the value. -/
def optional (read : Datum → Except Fault α) : Datum → Except Fault (Option α)
  | .null => .ok none
  | value => (read value).map some

end Datum

abbrev FieldFaults := List (String × Fault)

/-- Fields by name. -/
abbrev Fields := List (String × Datum)

/-- The result of reading one field or several, with the faults met so far. -/
structure Gathered (α : Type) where
  value : Option α
  faults : FieldFaults

namespace Gathered

def pure (a : α) : Gathered α := ⟨some a, []⟩

/-- Applies a function to a further field; faults add up. -/
def next (f : Gathered (α → β)) (a : Gathered α) : Gathered β :=
  ⟨match f.value, a.value with
    | some g, some x => some (g x)
    | _, _ => none, f.faults ++ a.faults⟩

def result (a : Gathered α) : Except FieldFaults α :=
  match a.value with
  | some x => if a.faults.isEmpty then .ok x else .error a.faults
  | none => .error a.faults

end Gathered

def Fields.get (fields : Fields) (read : Datum → Except Fault α) (absent : Option α)
    (name : String) : Gathered α :=
  match (fields.find? (·.1 == name)).map (·.2), absent with
  | none, some a => .pure a
  | none, none => ⟨none, [(name, .missing)]⟩
  | some value, _ =>
    match read value with
    | .ok a => .pure a
    | .error fault => ⟨none, [(name, fault)]⟩

namespace Record

section Reading

variable (fields : Fields)

def required (read : Datum → Except Fault α) (name : String) : Gathered α := fields.get read none name

def optionalInt (name : String) : Gathered (Option Int) :=
  fields.get (Datum.optional Datum.toInt) (some none) name

def optionalText (name : String) : Gathered (Option String) :=
  fields.get (Datum.optional Datum.toText) (some none) name

def intOr (default : Int) (name : String) : Gathered Int := fields.get Datum.toInt (some default) name

def flag (name : String) : Gathered Bool := fields.get Datum.toBool (some false) name

def textOrEmpty (name : String) : Gathered String := fields.get Datum.toText (some "") name

def readCategory : Gathered Category :=
  (Gathered.pure fun name position => { name, position : Category })
    |>.next (required fields Datum.toText "name")
    |>.next (intOr fields 0 "display_position")

def readForum : Gathered Forum :=
  (Gathered.pure fun id name redirect description topics posts lastPosted lastPost lastPoster
      sortedByStart position categoryName categoryPosition =>
    { id, name, redirect, description, topics, posts, lastPosted, lastPost, lastPoster,
      sortedByStart, position, categoryName, categoryPosition : Forum })
    |>.next (optionalInt fields "id")
    |>.next (required fields Datum.toText "name")
    |>.next (optionalText fields "redirect_url")
    |>.next (optionalText fields "description")
    |>.next (intOr fields 0 "num_topics")
    |>.next (intOr fields 0 "num_posts")
    |>.next (optionalInt fields "last_posted")
    |>.next (optionalInt fields "last_post_id")
    |>.next (optionalText fields "last_poster")
    |>.next (flag fields "sort_by_topic_start")
    |>.next (intOr fields 0 "display_position")
    |>.next (required fields Datum.toText "category_name")
    |>.next (intOr fields 0 "category_position")

def readTopic : Gathered Topic :=
  (Gathered.pure fun id poster subject posted lastPosted lastPost lastPoster views replies closed
      sticky forum =>
    { id, poster, subject, posted, lastPosted, lastPost, lastPoster, views, replies, closed, sticky,
      forum : Topic })
    |>.next (required fields Datum.toInt "id")
    |>.next (textOrEmpty fields "poster")
    |>.next (required fields Datum.toText "subject")
    |>.next (intOr fields 0 "posted")
    |>.next (intOr fields 0 "last_posted")
    |>.next (required fields Datum.toInt "last_post_id")
    |>.next (optionalText fields "last_poster")
    |>.next (intOr fields 0 "num_views")
    |>.next (intOr fields 0 "num_replies")
    |>.next (flag fields "closed")
    |>.next (flag fields "sticky")
    |>.next (intOr fields 0 "forum_id")

def readPost : Gathered Post :=
  (Gathered.pure fun id poster posterId message hideSmilies posted edited editedBy topic =>
    { id, poster, posterId, message, hideSmilies, posted, edited, editedBy, topic : Post })
    |>.next (required fields Datum.toInt "id")
    |>.next (required fields Datum.toText "poster")
    |>.next (intOr fields guestUser "poster_id")
    |>.next (textOrEmpty fields "message")
    |>.next (flag fields "hide_smilies")
    |>.next (intOr fields 0 "posted")
    |>.next (optionalInt fields "edited")
    |>.next (optionalText fields "edited_by")
    |>.next (optionalInt fields "topic_id")

def readUser : Gathered User :=
  (Gathered.pure fun id username title avatar signature =>
    { id, username, title, avatar, signature : User })
    |>.next (required fields Datum.toInt "id")
    |>.next (required fields Datum.toText "username")
    |>.next (optionalText fields "title")
    |>.next (flag fields "has_avatar")
    |>.next (optionalText fields "signature")

end Reading

/-- Fields under their public names, in order. -/
def fields : Record → Fields
  | category c => [("name", .text c.name), ("display_position", .int c.position)]
  | forum f => [
      ("id", f.id.elim .null .int), ("name", .text f.name), ("redirect_url", f.redirect.elim .null .text),
      ("description", f.description.elim .null .text), ("num_topics", .int f.topics),
      ("num_posts", .int f.posts), ("last_posted", f.lastPosted.elim .null .int),
      ("last_post_id", f.lastPost.elim .null .int), ("last_poster", f.lastPoster.elim .null .text),
      ("sort_by_topic_start", .bool f.sortedByStart), ("display_position", .int f.position),
      ("category_name", .text f.categoryName), ("category_position", .int f.categoryPosition)]
  | topic t => [
      ("id", .int t.id), ("poster", .text t.poster), ("subject", .text t.subject),
      ("posted", .int t.posted), ("last_posted", .int t.lastPosted), ("last_post_id", .int t.lastPost),
      ("last_poster", t.lastPoster.elim .null .text), ("num_views", .int t.views),
      ("num_replies", .int t.replies), ("closed", .bool t.closed), ("sticky", .bool t.sticky),
      ("forum_id", .int t.forum)]
  | post p => [
      ("id", .int p.id), ("poster", .text p.poster), ("poster_id", .int p.posterId),
      ("message", .text p.message), ("hide_smilies", .bool p.hideSmilies), ("posted", .int p.posted),
      ("edited", p.edited.elim .null .int), ("edited_by", p.editedBy.elim .null .text),
      ("topic_id", p.topic.elim .null .int)]
  | user u => [
      ("id", .int u.id), ("username", .text u.username), ("title", u.title.elim .null .text),
      ("has_avatar", .bool u.avatar), ("signature", u.signature.elim .null .text)]

/-- Reads a record of the named kind; `none` if there is no such kind. -/
def read? (kind : String) (fields : Fields) : Option (Except FieldFaults Record) :=
  match kind with
  | "Category" => some ((readCategory fields).result.map .category)
  | "Forum" => some ((readForum fields).result.map .forum)
  | "Topic" => some ((readTopic fields).result.map .topic)
  | "Post" => some ((readPost fields).result.map .post)
  | "User" => some ((readUser fields).result.map .user)
  | _ => none

def kind : Record → String
  | category _ => "Category"
  | forum _ => "Forum"
  | topic _ => "Topic"
  | post _ => "Post"
  | user _ => "User"

end Record
end BoardMigration
