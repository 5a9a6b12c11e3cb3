import BoardMigration.BBCode
import BoardMigration.Page.Cell

/-! The page of a topic: one block a post, each with its poster. A note that says who last edited a
post is read and taken out of the message. -/
namespace BoardMigration.Html.Nodes

/-- The nodes without the first element that satisfies `p`; `none` if there is none. -/
def eraseFirst (p : Tag → Bool) : Nodes → Option Nodes
  | nil => none
  | text kind content next => (next.eraseFirst p).map (text kind content)
  | element tag inside next =>
    if p tag then some next
    else match inside.eraseFirst p with
      | some inside => some (element tag inside next)
      | none => (next.eraseFirst p).map (element tag inside)

def modifyFirst (p : Tag → Bool) (f : Nodes → Nodes) : Nodes → Option Nodes
  | nil => none
  | text kind content next => (next.modifyFirst p f).map (text kind content)
  | element tag inside next =>
    if p tag then some (element tag (f inside) next)
    else match inside.modifyFirst p f with
      | some inside => some (element tag inside next)
      | none => (next.modifyFirst p f).map (element tag inside)

theorem size_eraseFirst_le (p : Tag → Bool) (nodes : Nodes) :
    ((nodes.eraseFirst p).getD nodes).size ≤ nodes.size := by
  induction nodes with
  | nil => simp [eraseFirst]
  | text kind content next ih =>
    cases h : next.eraseFirst p <;> simp_all [eraseFirst, size]
  | element tag inside next ihInside ihNext =>
    by_cases hp : p tag
    · simp [eraseFirst, hp, size]
      omega
    · cases h : inside.eraseFirst p <;> cases h' : next.eraseFirst p <;> grind [eraseFirst, size]

theorem size_modifyFirst_le (p : Tag → Bool) (f : Nodes → Nodes) (hf : ∀ n, (f n).size ≤ n.size)
    (nodes : Nodes) : ((nodes.modifyFirst p f).getD nodes).size ≤ nodes.size := by
  induction nodes with
  | nil => simp [modifyFirst]
  | text kind content next ih =>
    cases h : next.modifyFirst p f <;> simp_all [modifyFirst, size]
  | element tag inside next ihInside ihNext =>
    by_cases hp : p tag
    · have := hf inside
      simp [modifyFirst, hp, size]
      omega
    · cases h : inside.modifyFirst p f <;> cases h' : next.modifyFirst p f <;> grind [modifyFirst, size]

end BoardMigration.Html.Nodes

namespace BoardMigration.Page

open Html

def isBlock (tag : Tag) : Bool := tag.hasClass "blockpost"

def isMessage (tag : Tag) : Bool := tag.hasClass "postmsg"

def isEditNote (tag : Tag) : Bool := tag.hasClass "postedit"

def isPoster (tag : Tag) : Bool := tag.hasName "dt"

/-- A date in parentheses after a space. -/
def noteDate? : List Char → Option (List Char)
  | ' ' :: '(' :: rest =>
    let date := rest.takeWhile (· != ')')
    if date.isEmpty || date.length == rest.length then none else some date
  | _ => none

/-- The shortest name that such a date follows, and the date. -/
def nameAndDate? : List Char → Option (List Char × List Char)
  | [] => none
  | c :: rest =>
    match noteDate? rest with
    | some date => some ([c], date)
    | none => (nameAndDate? rest).map fun (name, date) => (c :: name, date)

def noteOpening : List Char := "Last edited by ".toList

/-- Editor and date of a note "Last edited by Name (date)", wherever it stands in a text. -/
def editNote? : List Char → Option (List Char × List Char)
  | [] => none
  | c :: rest =>
    if noteOpening.isPrefixOf (c :: rest) then
      (nameAndDate? ((c :: rest).drop noteOpening.length)).orElse fun _ => editNote? rest
    else editNote? rest

/-- Takes the first edit note of the first message out. -/
def withoutNote (inside : Nodes) : Nodes :=
  (inside.modifyFirst isMessage fun message => (message.eraseFirst isEditNote).getD message).getD inside

def unnoted (block : Element) : Element := { block with inside := withoutNote block.inside }

theorem size_withoutNote_le (inside : Nodes) : (withoutNote inside).size ≤ inside.size :=
  Nodes.size_modifyFirst_le _ _ (Nodes.size_eraseFirst_le _) _

/-- The poster of a post; guests are no users. -/
def user? (block : Element) : Except Failure (Option User) := do
  let some poster := block.find? isPoster | throw (.malformed "Couldn't get poster of post")
  let some link := poster.find? (isNamed "a") | pure none
  let some id := linkInt? link "id" | throw (.malformed "Couldn't get poster ID of post")
  let some title := block.find? (hasClass "usertitle")
    | throw (.malformed s!"Couldn't get user title of user {id}")
  pure (some {
    id := id, username := poster.text, title := some title.text,
    avatar := (block.find? (hasClass "postavatar")).isSome,
    signature := (block.find? (hasClass "postsignature")).map BBCode.ofElement })

/-- Elements of a block before the edit note of its message. -/
def beforeNote (block message : Element) : List Element :=
  block.descendants.takeWhile (!isMessage ·.tag) ++
    message :: message.descendants.takeWhile (!isEditNote ·.tag)

/-- Whether the poster is named nowhere before the edit note but in it, and so leaves with it. -/
def posterLeaves (block message note : Element) : Bool :=
  (isPoster note.tag || note.descendants.any (isPoster ·.tag)) &&
    !(beforeNote block message).any (isPoster ·.tag)

/-- The poster of a block whose edit note is taken out; one who left with the note has no text. -/
def posterText (block message : Element) (note : Option Element) : String :=
  if note.any (posterLeaves block message) then ""
  else ((unnoted block).find? isPoster).elim "" (·.text)

/-- A post as far as its edit note, with the poster as the block without the note shows them. -/
structure PostHead where
  id : Int
  poster : String
  posterId : Int
  edited : Option Int
  editedBy : Option String
  note : Option Element

/-- The user that a poster links to; guests share one number. -/
def posterNumber (poster : Element) (post : Int) : Except Failure Int :=
  match poster.find? (isNamed "a") with
  | none => .ok guestUser
  | some link =>
    match linkInt? link "id" with
    | some user => .ok user
    | none => .error (.malformed s!"Couldn't get poster ID of post {post}")

def postHead (block : Element) (format : String) : Except Failure PostHead := do
  let label := block.tag.value "id"
  if label.isEmpty then throw (.malformed "Couldn't get post ID.")
  let some id := Text.readInt? (label.toList.drop 1) | throw (.malformed s!"Invalid post ID: {label}")
  let some poster := block.find? isPoster | throw (.malformed s!"Couldn't get poster of post {id}")
  let posterId ← posterNumber poster id
  let some message := block.find? isMessage
    | throw (.malformed s!"Couldn't get message body of post {id}")
  let note := message.find? isEditNote
  let name := posterText block message note
  match note.bind (editNote? ·.text.toList) with
  | none => pure ⟨id, name, posterId, none, none, note⟩
  | some (editor, written) =>
    let edited ← date (String.ofList written) format s!"edit of post {id}"
    pure ⟨id, name, posterId, some edited, some (String.ofList editor), note⟩

/-- The rest of a post, read after its edit note has been taken out. -/
def postBody (head : PostHead) (block : Element) (format : String) (topic : Option Int) :
    Except Failure Post := do
  let dateLink := (block.findUnder? (isNamed "h2") (isNamed "a")).orElse fun _ =>
    block.find? (isNamed "a")
  let some dateLink := dateLink | throw (.malformed s!"Couldn't get date of post {head.id}")
  let some message := block.find? isMessage
    | throw (.malformed s!"Couldn't get message body of post {head.id}")
  let posted ← date dateLink.text format s!"post {head.id}"
  pure {
    id := head.id, poster := head.poster, posterId := head.posterId,
    message := BBCode.ofElement message, hideSmilies := !BBCode.hasSmilies message, posted := posted,
    edited := head.edited, editedBy := head.editedBy, topic := topic }

/-- The block as it stands after its post was read. -/
def settled (block : Element) (format : String) : Element :=
  match postHead block format with
  | .ok _ => unnoted block
  | .error _ => block

/-- What is left inside an element once a post in it, if it is a block, was read. -/
def remains (format : String) (e : Element) : Nodes :=
  if isBlock e.tag then (settled e format).inside else e.inside

theorem size_remains_le (format : String) (e : Element) :
    (remains format e).size ≤ e.inside.size := by
  unfold remains settled
  split
  · split
    · exact size_withoutNote_le _
    · exact Nat.le_refl _
  · exact Nat.le_refl _

def post (block : Element) (format : String) (topic : Option Int) : Except Failure Post := do
  let head ← postHead block format
  postBody head (settled block format) format topic

/-- Whether the edit note that was taken out held a post itself. -/
def vanishes (block : Element) (format : String) : Bool :=
  match postHead block format with
  | .ok head => head.note.any fun note => isBlock note.tag || note.descendants.any (isBlock ·.tag)
  | .error _ => false

/-- The user, unless the poster is a guest, and the post of a block. -/
def postItems (format : String) (topic : Option Int) (block : Element) :
    Except ExtractError (List Item) := do
  let users ← match user? block with
    | .ok none => pure []
    | .ok (some user) => pure [Item.record (.user user)]
    | .error failure => (asItem (.error failure)).map ([·])
  let found ← asItem ((post block format topic).map .post)
  if vanishes block format then throw .vanishedPost
  pure (users ++ [found])

/-- The finds of all blocks in document order. A block inside another is read after it, from what
the other left. -/
def blocks (format : String) (topic : Option Int) (above : List Tag) (nodes : Nodes) :
    Except ExtractError (List Item) :=
  match nodes with
  | .nil => .ok []
  | .text _ _ next => blocks format topic above next
  | .element tag inside next =>
    have : (remains format ⟨tag, inside, above⟩).size ≤ inside.size := size_remains_le format _
    match if isBlock tag then postItems format topic ⟨tag, inside, above⟩ else .ok [],
        blocks format topic (tag :: above) (remains format ⟨tag, inside, above⟩),
        blocks format topic above next with
    | .error error, _, _ => .error error
    | .ok _, .error error, _ => .error error
    | .ok _, .ok _, .error error => .error error
    | .ok own, .ok inner, .ok others => .ok (own ++ inner ++ others)
termination_by nodes.size
decreasing_by all_goals simp only [Nodes.size]; omega

/-- A page without a link to its topic leaves the topic of its posts open. -/
def threadItems (format : String) (board : Element) : Except ExtractError (List Item) :=
  blocks format (containerId? board "tid") (board.tag :: board.above) board.inside

end BoardMigration.Page
