import BoardMigration.Proofs.Page.Layout

/-! The page of a forum as a board lays it out, and the topics that it lists. -/
namespace BoardMigration.Page

open Html

/-- What sets the row of a topic apart. -/
inductive RowFlag where
  | closed | sticky | moved
  deriving DecidableEq, Repr

def RowFlag.className : RowFlag → String
  | closed => "iclosed"
  | sticky => "isticky"
  | moved => "imoved"

/-- What a page shows of a topic of its forum. -/
structure ShownRow where
  id : Int
  subject : String
  poster : String
  replies : Nat
  views : Nat
  lastPost : Int
  lastPosted : Date.Moment
  lastPoster : String
  /-- The classes of the row, as they are written. -/
  flags : List RowFlag

/-- What a page shows of a forum. Without a number there is no link for a new topic. -/
structure ShownForum where
  id : Option Int
  /-- Whether a second page is linked to, whatever the number. -/
  paged : Bool
  rows : List ShownRow

namespace Layout

/-- A link, and who it is by. -/
def byline (href shown person : String) : Nodes :=
  link href (given shown) (text " " (classed "span" "byuser" (text ("by " ++ person) .nil) .nil))

/-- A heading of a table. -/
@[simp] def column (className name : String) (next : Nodes) : Nodes :=
  .element ⟨"th", [("class", className), ("scope", "col")]⟩ (text name .nil) next

end Layout

namespace ShownRow

open Layout

variable (r : ShownRow)

/-- A row without a flag has no classes. -/
def tag : Tag :=
  ⟨"tr", if r.flags = [] then []
    else [("class", String.ofList ([' '].intercalate (r.flags.map fun flag => flag.className.toList)))]⟩

def title : Nodes := byline (address "viewtopic.php" "id" r.id "") r.subject r.poster

def last : Nodes := byline (address "viewtopic.php" "pid" r.lastPost s!"#p{r.lastPost}") r.lastPosted.text r.lastPoster

def subjectCell : Nodes :=
  classed "div" "intd" (classed "div" "icon" (classed "div" "nosize" (text "1" .nil) .nil)
    (line (classed "div" "tclcon" r.title .nil))) .nil

def inside : Nodes :=
  line (classed "td" "tcl" r.subjectCell (line (classed "td" "tc2" (text (toString r.replies) .nil)
    (line (classed "td" "tc3" (text (toString r.views) .nil) (line (classed "td" "tcr" r.last (line .nil))))))))

/-- The topic of a row on the page of a forum. -/
def topic (forum : Int) : Topic where
  id := r.id
  poster := r.poster
  subject := r.subject
  lastPosted := r.lastPosted.timestamp
  lastPost := r.lastPost
  lastPoster := some r.lastPoster
  views := r.views
  replies := r.replies
  closed := r.flags.contains .closed
  sticky := r.flags.contains .sticky
  forum := forum

def numbers : List Int := [r.id, r.replies, r.views, r.lastPost]

end ShownRow

namespace ShownForum

open Layout

variable (f : ShownForum)

/-- Where the link to the second page leads. -/
def pageAddress : String :=
  match f.id with
  | some id => address "viewforum.php" "id" id "&p=2"
  | none => "viewforum.php?id=None&p=2"

def pages : Nodes := if f.paged then text " " (link f.pageAddress (text "2" .nil) .nil) else .nil

def newTopic : Nodes :=
  match f.id with
  | some id => classed "p" "postlink conr" (link (address "post.php" "fid" id "") (text "Post new topic" .nil) .nil) .nil
  | none => .nil

def links : Nodes :=
  classed "p" "pagelink conl" (text "Pages: " (unclassed "strong" (text "1" .nil) f.pages)) f.newTopic

def headings : Nodes :=
  line (column "tcl" "Topic" (column "tc2" "Replies" (line (column "tc3" "Views" (column "tcr" "Last post"
    (line .nil))))))

def body : List ShownRow → Nodes
  | [] => line .nil
  | r :: rest => line (.element r.tag r.inside (body rest))

def table : Nodes :=
  .element ⟨"table", [("cellspacing", "0")]⟩
    (line (unclassed "thead" (unclassed "tr" headings .nil) (line (unclassed "tbody" (body f.rows) (line .nil)))))
    .nil

def block : Nodes :=
  unclassed "h2" (unclassed "span" (text "Forum" .nil) .nil)
    (line (classed "div" "box" (classed "div" "inbox" f.table .nil) (line .nil)))

def inside : Nodes :=
  line (ShownTopic.header (line (classed "div" "linkst" (classed "div" "inbox" f.links .nil)
    (line (labelled "vf" "blocktable" f.block (line .nil))))))

def tag : Tag := ⟨"div", [("id", "punviewforum"), ("class", "pun")]⟩

def document : Element := ShownTopic.framed tag f.inside

/-- The numbers that are written on the page. -/
def numbers : List Int := f.id.toList ++ f.rows.flatMap (·.numbers)

/-- The page of a forum. A number with more digits than a numeral may have cannot be written, and then there is no
page. -/
def document? : Option Element := if ∀ i ∈ f.numbers, Text.Short i then some f.document else none

/-- The topics of a forum that were not moved to another, in order. -/
def items : List Item :=
  (f.rows.filter (!·.flags.contains .moved)).map fun r => .record (.topic (r.topic (f.id.getD 0)))

end ShownForum
end BoardMigration.Page
