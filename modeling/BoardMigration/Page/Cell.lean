import BoardMigration.Date.Read
import BoardMigration.Html.Document
import BoardMigration.Link
import BoardMigration.Record

/-! What the pages of a board have in common: numbers, dates and last posts in table cells, and the
number of the topic or forum that a page shows. -/
namespace BoardMigration.Page

open Html

/-- Why a page gives no records at all. -/
inductive ExtractError where
  | load (error : LoadError)
  | noBoard
  | unsupported (kind : Option String)
  /-- A date format that names a field twice; it fails with the first date it meets. -/
  | repeatedField (field : Date.Field)
  /-- A post that was part of an edit note, and vanished with it. -/
  | vanishedPost
  deriving DecidableEq, Repr

/-- Why an element gives no record: the element is at fault, or the whole page is lost. -/
inductive Failure where
  | malformed (message : String)
  | fatal (error : ExtractError)
  deriving DecidableEq, Repr

def hasClass (className : String) (tag : Tag) : Bool := tag.hasClass className

def isNamed (name : String) (tag : Tag) : Bool := tag.hasName name

def linkInt? (e : Element) (field : String) : Option Int :=
  Link.int? (e.tag.value "href").toList field.toList

/-- Listings name people as "by Name". -/
def withoutBy (text : String) : String :=
  if "by ".toList.isPrefixOf text.toList then String.ofList (text.toList.drop 3) else text

def intCell (cell : Option Element) (what : String) : Except Failure Int :=
  match cell with
  | none => .error (.malformed s!"Couldn't get {what}.")
  | some e =>
    match Text.readInt? (e.text.toList.filter (· != ',')) with
    | some n => .ok n
    | none => .error (.malformed s!"Couldn't get {what}: {Text.quoted e.text}")

def date (text format what : String) : Except Failure Int :=
  match Date.read text format with
  | .ok timestamp => .ok timestamp
  | .error (.format (.repeated field)) => .error (.fatal (.repeatedField field))
  | .error _ => .error (.malformed s!"Couldn't parse date of {what}: {Text.quoted text}")

structure LastPost where
  id : Int
  posted : Int
  poster : String

/-- The last post a cell names; an empty cell names none. -/
def lastPost? (cell : Option Element) (format what : String) : Except Failure (Option LastPost) :=
  match cell with
  | none => .ok none
  | some e =>
    if e.text.isEmpty then .ok none
    else match e.find? (isNamed "a") with
      | none => .error (.malformed s!"Couldn't get ID of last post in {what}")
      | some link =>
        match linkInt? link "pid" with
        | none => .error (.malformed s!"Couldn't get ID of last post in {what}")
        | some id => do
          let posted ← date link.text format s!"last post in {what}"
          match e.find? (hasClass "byuser") with
          | none => throw (.malformed s!"Couldn't get last poster in {what}")
          | some person => pure (some ⟨id, posted, withoutBy person.text⟩)

/-- Number of the topic or forum that a page shows: from its first page link, else from the first
link for a reply or a new topic that has the fallback field. -/
def containerId? (e : Element) (fallback : String) : Option Int :=
  let paged := (e.findUnder? (hasClass "pagelink") (isNamed "a")).bind (linkInt? · "id")
  paged.orElse fun _ =>
    if fallback.isEmpty then none
    else (e.selectUnder (hasClass "postlink") (isNamed "a")).findSome? (linkInt? · fallback)

/-- Keeps a record or the reason for its absence; a fatal failure goes through. -/
def asItem (read : Except Failure Record) : Except ExtractError Item :=
  match read with
  | .ok record => .ok (.record record)
  | .error (.malformed message) => .ok (.malformed ⟨message⟩)
  | .error (.fatal error) => .error error

end BoardMigration.Page
