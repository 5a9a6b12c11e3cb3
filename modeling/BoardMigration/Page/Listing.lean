import BoardMigration.Page.Index

/-! The page of a forum: one row a topic. Moved topics are listed where they were moved to. -/
namespace BoardMigration.Page

open Html

def topic (row : Element) (format : String) (forum : Int) : Except Failure Topic := do
  let container := row.find? (hasClass "tclcon")
  let some link := container.bind (·.find? (isNamed "a"))
    | throw (.malformed "Couldn't get topic URL.")
  let some id := linkInt? link "id" | throw (.malformed "Couldn't get topic ID.")
  let person := container.bind (·.find? (hasClass "byuser"))
  let some last ← lastPost? (row.find? (hasClass "tcr")) format s!"topic {id}"
    | throw (.malformed s!"Couldn't get ID of last post in topic {id}")
  let replies ← intCell (row.find? (hasClass "tc2")) s!"number of replies in topic {id}"
  let views ← intCell (row.find? (hasClass "tc3")) s!"number of views in topic {id}"
  pure {
    id := id, poster := person.elim "" fun e => withoutBy e.text, subject := link.text,
    lastPosted := last.posted, lastPost := last.id, lastPoster := some last.poster,
    replies := replies, views := views, closed := row.tag.hasClass "iclosed",
    sticky := row.tag.hasClass "isticky", forum := forum }

def isMoved (row : Element) : Bool := row.tag.hasClass "imoved"

/-- A page without a link to its forum belongs to forum 0. -/
def listingItems (format : String) (board : Element) : Except ExtractError (List Item) :=
  let forum := (containerId? board "fid").getD 0
  ((contentRows board).filter (!isMoved ·)).mapM fun row =>
    asItem ((topic row format forum).map .topic)

end BoardMigration.Page
