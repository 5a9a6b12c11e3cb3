import BoardMigration.Page.Listing
import BoardMigration.Page.Thread

/-! From the bytes of a page to its records, in document order. -/
namespace BoardMigration.Page

open Html

def isBoard (tag : Tag) : Bool := tag.hasClass "pun"

/-- The kinds of pages that hold records. -/
inductive Kind where
  | index | listing | thread
  deriving DecidableEq, Repr

def Kind.ofName? : String → Option Kind
  | "punindex" => some index
  | "punviewforum" => some listing
  | "punviewtopic" => some thread
  | "punviewpoll" => some thread
  | _ => none

def items (format : String) (document : Element) : Except ExtractError (List Item) :=
  match document.find? isBoard with
  | none => .error .noBoard
  | some board =>
    let name := board.tag.value? "id"
    match name.bind Kind.ofName? with
    | none => .error (.unsupported name)
    | some .index => indexItems format board
    | some .listing => listingItems format board
    | some .thread => threadItems format board

def extract (format : String) (page : List UInt8) : Except ExtractError (List Item) :=
  match load page with
  | .error error => .error (.load error)
  | .ok document => items format document

def ExtractError.message : ExtractError → String
  | .load error => error.message
  | .noBoard => "No PunBB content in document"
  | .unsupported kind => "Unsupported page type: " ++ kind.getD "None"
  | .repeatedField field => (Date.FormatError.repeated field).message ""
  | .vanishedPost => "'NoneType' object has no attribute 'get'"

end BoardMigration.Page
