import BoardMigration.Page.Extract
import BoardMigration.Proofs.Date.Moment

/-! The page of a topic as a board lays it out, and the records of what it shows. -/
namespace BoardMigration.Page

open Html

/-- What a page shows of a post. -/
structure ShownPost where
  id : Int
  poster : String
  /-- None for a guest. -/
  posterId : Option Int
  title : String
  posted : Date.Moment
  avatar : Bool
  signature : Option Nodes
  message : Nodes

/-- What a page shows of a topic. Without a number there is no link to the topic. -/
structure ShownTopic where
  id : Option Int
  /-- Whether a second page is linked to, if the topic has a number. -/
  paged : Bool
  poll : Bool
  posts : List ShownPost

namespace Layout

@[simp] def text (content : String) (next : Nodes) : Nodes := .text .plain content next

/-- The break between two elements. -/
@[simp] def line (next : Nodes) : Nodes := text "\n" next

/-- A text that is not there if it is empty. -/
def given (content : String) : Nodes := if content = "" then .nil else text content .nil

@[simp] def unclassed (name : String) (inside next : Nodes) : Nodes := .element ⟨name, []⟩ inside next

@[simp] def classed (name className : String) (inside next : Nodes) : Nodes :=
  .element ⟨name, [("class", className)]⟩ inside next

@[simp] def labelled (id className : String) (inside next : Nodes) : Nodes :=
  .element ⟨"div", [("id", id), ("class", className)]⟩ inside next

@[simp] def link (href : String) (inside next : Nodes) : Nodes := .element ⟨"a", [("href", href)]⟩ inside next

/-- The address of a page with a number in its query. -/
def address (page field : String) (number : Int) (rest : String) : String :=
  page ++ "?" ++ field ++ "=" ++ toString number ++ rest

end Layout

namespace ShownPost

open Layout

variable (p : ShownPost)

def heading : Nodes :=
  unclassed "span" (classed "span" "conr" (text "#1\u00a0" .nil)
    (link (address "viewtopic.php" "pid" p.id s!"#p{p.id}") (text p.posted.text .nil) .nil)) .nil

/-- The poster, with a link unless it is a guest. -/
def name : Nodes :=
  match p.posterId with
  | none => given p.poster
  | some id => link (address "profile.php" "id" id "") (given p.poster) .nil

def picture : Nodes :=
  if p.avatar then
    classed "dd" "postavatar"
      (.element ⟨"img", [("src", "img/avatars/" ++ p.posterId.elim "None" toString ++ ".png"), ("alt", "")]⟩ .nil .nil)
      (line .nil)
  else .nil

def left : Nodes :=
  unclassed "dl" (line (unclassed "dt" (unclassed "strong" p.name .nil)
    (line (classed "dd" "usertitle" (unclassed "strong" (given p.title) .nil) (line p.picture))))) .nil

/-- A signature stands below a rule. -/
def ruled (signature : Nodes) : Nodes := unclassed "hr" .nil signature

def ending : Nodes :=
  match p.signature with
  | none => .nil
  | some signature => classed "div" "postsignature" (ruled signature) (line .nil)

def right : Nodes :=
  unclassed "h3" (text "Re: topic" .nil) (line (classed "div" "postmsg" p.message (line p.ending)))

def inside : Nodes :=
  line (unclassed "h2" p.heading (line (classed "div" "box" (classed "div" "inbox"
    (line (classed "div" "postleft" p.left (line (classed "div" "postright" p.right (line .nil))))) .nil) (line .nil))))

def tag : Tag := ⟨"div", [("id", s!"p{p.id}"), ("class", "blockpost rowodd")]⟩

/-- The user of a number that the post is by. -/
def user (id : Int) : User where
  id := id
  username := p.poster
  title := some p.title
  avatar := p.avatar
  signature := p.signature.map fun signature => BBCode.ofNodes (ruled signature)

def post (topic : Option Int) : Post where
  id := p.id
  poster := p.poster
  posterId := p.posterId.getD guestUser
  message := BBCode.ofNodes p.message
  hideSmilies := !BBCode.hasSmilies ⟨⟨"div", [("class", "postmsg")]⟩, p.message, []⟩
  posted := p.posted.timestamp
  topic := topic

/-- The records of a post: its user, unless it is a guest, and the post. -/
def items (topic : Option Int) : List Item :=
  (p.posterId.map fun id => Item.record (.user (p.user id))).toList ++ [.record (.post (p.post topic))]

end ShownPost

namespace ShownTopic

open Layout

variable (t : ShownTopic)

def pages : Nodes :=
  match t.id, t.paged with
  | some id, true => text " " (link (address "viewtopic.php" "id" id "&p=2") (text "2" .nil) .nil)
  | _, _ => .nil

def reply : Nodes :=
  match t.id with
  | some id => link (address "post.php" "tid" id "") (text "Post reply" .nil) .nil
  | none => text "Topic closed" .nil

def links : Nodes :=
  classed "p" "pagelink conl" (text "Pages: " (unclassed "strong" (text "1" .nil) t.pages))
    (classed "p" "postlink conr" t.reply .nil)

def blocks : List ShownPost → Nodes
  | [] => line .nil
  | p :: rest => line (.element p.tag p.inside (blocks rest))

def header (next : Nodes) : Nodes :=
  labelled "brdheader" "block" (classed "div" "box"
    (labelled "brdtitle" "inbox" (unclassed "h1" (unclassed "span" (text "Board" .nil) .nil) .nil) .nil) .nil) next

def inside : Nodes :=
  line (header (line (classed "div" "linkst" (classed "div" "inbox" t.links .nil) (blocks t.posts))))

def tag : Tag := ⟨"div", [("id", if t.poll then "punviewpoll" else "punviewtopic"), ("class", "pun")]⟩

def htmlTag : Tag := ⟨"html", [("xmlns", "http://www.w3.org/1999/xhtml"), ("dir", "ltr")]⟩

def head (next : Nodes) : Nodes :=
  unclassed "head"
    (.element ⟨"meta", [("http-equiv", "Content-Type"), ("content", "text/html; charset=utf-8")]⟩ .nil
      (unclassed "title" (text "Board" .nil) .nil)) next

def doctype : String :=
  "html PUBLIC \"-//W3C//DTD XHTML 1.0 Strict//EN\" \"http://www.w3.org/TR/xhtml1/DTD/xhtml1-strict.dtd\""

/-- A whole page with a board and what is inside it. -/
def framed (board : Tag) (inside : Nodes) : Element where
  tag := ⟨"[document]", []⟩
  inside := .text .doctype doctype (line (.element htmlTag
    (line (head (line (unclassed "body" (line (.element board inside (line .nil))) (line .nil))))) (line .nil)))
  above := []

def document : Element := framed t.tag t.inside

/-- The numbers that are written on the page. -/
def numbers : List Int := t.id.toList ++ t.posts.flatMap fun p => p.id :: p.posterId.toList

/-- The page of a topic. A number with more digits than a numeral may have cannot be written, and then there is no
page. -/
def document? : Option Element := if ∀ i ∈ t.numbers, Text.Short i then some t.document else none

/-- The records of a topic's posts, one post after another. -/
def items : List Item := t.posts.flatMap (·.items t.id)

end ShownTopic
end BoardMigration.Page
