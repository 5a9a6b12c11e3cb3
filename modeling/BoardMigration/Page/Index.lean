import BoardMigration.Page.Cell

/-! The index of a board: one block a category, one row a forum. Redirect forums get their numbers
when they are written, so they come last. -/
namespace BoardMigration.Page

open Html

def category (block : Element) (position : Nat) : Except Failure Category :=
  match block.find? (isNamed "h2") with
  | none => .error (.malformed "Couldn't get category name.")
  | some heading => .ok { name := heading.text, position := position }

def redirectForum (row : Element) (heading : Option Element) (target : String) (position : Nat)
    (category : Category) : Except Failure Forum :=
  match heading with
  | none => .error (.malformed s!"Couldn't get name of redirect forum to {target}")
  | some heading => .ok {
      name := heading.text, redirect := some target,
      description := (row.find? (hasClass "tclcon")).bind Element.ownText?,
      position := position, categoryName := category.name, categoryPosition := category.position }

def plainForum (row : Element) (heading : Option Element) (link : Element) (format : String)
    (position : Nat) (category : Category) : Except Failure Forum := do
  let some id := linkInt? link "id" | throw (.malformed "Couldn't get forum ID.")
  let some heading := heading | throw (.malformed s!"Couldn't get name of forum {id}")
  let last ← lastPost? (row.find? (hasClass "tcr")) format s!"forum {id}"
  let topics ← intCell (row.find? (hasClass "tc2")) s!"number of topics in forum {id}"
  let posts ← intCell (row.find? (hasClass "tc3")) s!"number of posts in forum {id}"
  pure {
    id := some id, name := heading.text,
    description := (row.find? (hasClass "tclcon")).bind Element.ownText?,
    topics := topics, posts := posts, lastPosted := last.map (·.posted), lastPost := last.map (·.id),
    lastPoster := last.map (·.poster), position := position, categoryName := category.name,
    categoryPosition := category.position }

def forum (row : Element) (format : String) (position : Nat) (category : Category) :
    Except Failure Forum :=
  let heading := row.find? (isNamed "h3")
  let link := (heading.getD row).find? (isNamed "a")
  match link with
  | none => .error (.malformed "Couldn't get forum URL.")
  | some link =>
    let target := link.tag.value "href"
    if target.isEmpty then .error (.malformed "Couldn't get forum URL.")
    else if row.tag.hasClass "iredirect" then redirectForum row heading target position category
    else plainForum row heading link format position category

/-- Rows other than headings. -/
def contentRows (e : Element) : List Element :=
  (e.select (isNamed "tr")).filter fun row => (row.find? (hasClass "tclcon")).isSome

def isRedirectItem : Item → Bool
  | .record (.forum f) => f.isRedirect
  | _ => false

/-- A category and its forums, or the error that leaves the block without either. -/
def blockItems (format : String) (block : Element) (position : Nat) : Except ExtractError (List Item) :=
  match category block position with
  | .error failure => (asItem (.error failure)).map ([·])
  | .ok category => do
    let forums ← (contentRows block).zipIdx.mapM fun (row, i) =>
      asItem ((forum row format i category).map .forum)
    pure (.record (.category category) :: forums)

def indexItems (format : String) (board : Element) : Except ExtractError (List Item) := do
  let blocks ← (board.select (hasClass "blocktable")).zipIdx.mapM fun (block, i) =>
    blockItems format block i
  let items := blocks.flatten
  pure (items.filter (!isRedirectItem ·) ++ items.filter isRedirectItem)

end BoardMigration.Page
