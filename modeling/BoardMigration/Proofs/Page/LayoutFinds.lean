import BoardMigration.Proofs.Html.First
import BoardMigration.Proofs.Page.Layout

/-! What is found first on a page that is laid out. The elements of a layout have few classes; a message or a
signature that has none of them diverts no search. -/
namespace BoardMigration.Page

open Html Layout

/-- The classes that stand alone in a layout. -/
def aloneClasses : List String := ["conr", "box", "inbox", "linkst", "block", "postleft", "postright",
  "usertitle", "postavatar", "postmsg", "postsignature", "pun"]

section Classes

variable (className name : String)

theorem words_aloneClasses : ∀ c ∈ aloneClasses, Text.words c.toList = [c.toList] := by decide +kernel

/-- An element has the words of its label as classes. -/
theorem hasClass_words {label : String} {classes : List String}
    (cut : Text.words label.toList = classes.map String.toList) :
    Tag.hasClass className ⟨name, [("class", label)]⟩ = classes.contains className := by
  have same : Tag.classes ⟨name, [("class", label)]⟩ = Text.words label.toList := rfl
  rw [Tag.hasClass, same, cut, Bool.eq_iff_iff]
  simp only [List.contains_iff_mem, List.mem_map, String.toList_inj, exists_eq_right]

@[simp] theorem hasClass_alone {label : String} (alone : aloneClasses.contains label = true) :
    Tag.hasClass className ⟨name, [("class", label)]⟩ = [label].contains className :=
  hasClass_words className name (words_aloneClasses label (List.contains_iff_mem.mp alone))

@[simp] theorem hasClass_pagelink :
    Tag.hasClass className ⟨name, [("class", "pagelink conl")]⟩ = ["pagelink", "conl"].contains className :=
  hasClass_words className name (by decide +kernel)

@[simp] theorem hasClass_postlink :
    Tag.hasClass className ⟨name, [("class", "postlink conr")]⟩ = ["postlink", "conr"].contains className :=
  hasClass_words className name (by decide +kernel)

@[simp] theorem hasClass_blockpost :
    Tag.hasClass className ⟨name, [("class", "blockpost rowodd")]⟩ = ["blockpost", "rowodd"].contains className :=
  hasClass_words className name (by decide +kernel)

theorem hasClass_other {className label : String} (other : aloneClasses.contains className = false)
    (alone : aloneClasses.contains label = true) (name : String) :
    Tag.hasClass className ⟨name, [("class", label)]⟩ = false := by
  rw [hasClass_alone className name alone, ← Bool.not_eq_true, List.contains_iff_mem, List.mem_singleton]
  rintro rfl
  exact absurd (alone.symm.trans other) (by simp)

@[simp] theorem hasClass_bare : Tag.hasClass className ⟨name, []⟩ = false := rfl

@[simp] theorem hasClass_link (href : String) : Tag.hasClass className ⟨name, [("href", href)]⟩ = false := rfl

@[simp] theorem hasClass_picture (src alt : String) :
    Tag.hasClass className ⟨name, [("src", src), ("alt", alt)]⟩ = false := rfl

@[simp] theorem hasClass_labelled (id label : String) :
    Tag.hasClass className ⟨name, [("id", id), ("class", label)]⟩ =
      Tag.hasClass className ⟨name, [("class", label)]⟩ := rfl

end Classes

section Container

variable {e : Element} {field : String} {id : Int}

/-- The number in the first link to a page. -/
theorem containerId?_paged
    (paged : (e.findUnder? (hasClass "pagelink") (isNamed "a")).bind (linkInt? · "id") = some id) :
    containerId? e field = some id := by
  rw [containerId?, paged]
  rfl

variable (unpaged : (e.findUnder? (hasClass "pagelink") (isNamed "a")).bind (linkInt? · "id") = none)

include unpaged

/-- Without such a number the first link for a reply or a new topic counts. -/
theorem containerId?_linked (named : field.isEmpty = false) {link : Element}
    (found : e.findUnder? (hasClass "postlink") (isNamed "a") = some link) (number : linkInt? link field = some id) :
    containerId? e field = some id := by
  have first : (e.selectUnder (hasClass "postlink") (isNamed "a")).head? = some link := List.head?_filter.trans found
  obtain ⟨rest, links⟩ := List.head?_eq_some_iff.mp first
  simp [containerId?, unpaged, named, links, number]

theorem containerId?_unlinked (absent : e.findUnder? (hasClass "postlink") (isNamed "a") = none) :
    containerId? e field = none := by
  have first : (e.selectUnder (hasClass "postlink") (isNamed "a")).head? = none := List.head?_filter.trans absent
  simp [containerId?, unpaged, List.head?_eq_none_iff.mp first]

end Container

@[simp] theorem first?_given (p : Tag → Bool) (content : String) : (given content).first? p = none := by
  unfold given
  split <;> rfl

namespace ShownPost

variable (p : ShownPost)

theorem first?_poster : p.inside.first? isPoster = some (⟨"dt", []⟩, unclassed "strong" p.name .nil) := by
  simp [inside, heading, left, isPoster, Tag.hasName]

@[simp] theorem first?_name (className : String) : p.name.first? (hasClass className) = none := by
  unfold name
  split <;> simp [hasClass]

theorem first?_title : p.inside.first? (hasClass "usertitle") =
    some (⟨"dd", [("class", "usertitle")]⟩, unclassed "strong" (given p.title) .nil) := by
  simp [inside, heading, left, hasClass, aloneClasses]

theorem first?_picture (className : String) (other : p.avatar = true → className ≠ "postavatar") :
    p.picture.first? (hasClass className) = none := by
  unfold picture
  split
  · next shown => simp [hasClass, aloneClasses, other shown]
  · rfl

theorem first?_message : p.inside.first? isMessage = some (⟨"div", [("class", "postmsg")]⟩, p.message) := by
  have picture := p.first?_picture "postmsg" (by simp)
  change p.inside.first? (hasClass "postmsg") = _
  simp [inside, heading, left, right, hasClass, aloneClasses, picture]

/-- A class that only messages and signatures could have. -/
structure Free (className : String) : Prop where
  message : p.message.Lacks (hasClass className)
  signature : ∀ signature ∈ p.signature, signature.Lacks (hasClass className)

variable {p} {className : String}

theorem Free.ending (free : p.Free className) (other : p.signature.isSome = true → className ≠ "postsignature") :
    p.ending.first? (hasClass className) = none := by
  unfold ShownPost.ending
  split
  · rfl
  · next signature shown =>
    have absent := Nodes.lacks_iff_first?.mp (free.signature signature shown)
    have apart : className ≠ "postsignature" := other (by simp [shown])
    simp [hasClass, aloneClasses, ruled, absent, apart]

/-- A class of no element of the layout is found nowhere in a post that is free of it. -/
theorem Free.inside (free : p.Free className) (other : aloneClasses.contains className = false) :
    p.inside.first? (hasClass className) = none := by
  have absent := Nodes.lacks_iff_first?.mp free.message
  have listed (label : String) (alone : aloneClasses.contains label = true) : className ≠ label := by
    rintro rfl
    exact absurd (alone.symm.trans other) (by simp)
  have picture := p.first?_picture className fun _ => listed "postavatar" (by decide)
  have ending := free.ending fun _ => listed "postsignature" (by decide)
  simp [ShownPost.inside, heading, left, right, hasClass, -hasClass_alone, hasClass_other other, aloneClasses,
    picture, absent, ending]

theorem Free.avatar (free : p.Free "postavatar") :
    (p.inside.first? (hasClass "postavatar")).isSome = p.avatar := by
  have absent := Nodes.lacks_iff_first?.mp free.message
  cases shown : p.avatar with
  | true =>
    simp [ShownPost.inside, heading, left, right, hasClass, aloneClasses, ShownPost.picture, shown]
  | false =>
    have ending := free.ending fun _ => by decide
    have picture := p.first?_picture "postavatar" (by simp [shown])
    simp [ShownPost.inside, heading, left, right, hasClass, aloneClasses, picture, absent, ending]

theorem Free.signed (free : p.Free "postsignature") :
    p.inside.first? (hasClass "postsignature") =
      p.signature.map fun signature => (⟨"div", [("class", "postsignature")]⟩, ruled signature) := by
  have absent := Nodes.lacks_iff_first?.mp free.message
  have picture := p.first?_picture "postsignature" (by simp)
  have ending : p.ending.first? (hasClass "postsignature") =
      p.signature.map fun signature => (⟨"div", [("class", "postsignature")]⟩, ruled signature) := by
    unfold ShownPost.ending
    cases p.signature <;> simp [hasClass, aloneClasses]
  simp [ShownPost.inside, heading, left, right, hasClass, aloneClasses, picture, absent, ending]

theorem firstUnder?_date (p : ShownPost) : p.inside.firstUnder? (isNamed "h2") (isNamed "a") =
    some (⟨"a", [("href", address "viewtopic.php" "pid" p.id s!"#p{p.id}")]⟩, text p.posted.text .nil) := by
  simp [ShownPost.inside, heading, isNamed, Tag.hasName]

end ShownPost

namespace ShownTopic

variable (t : ShownTopic)

/-- The tags that the board of a page stands in. -/
def above : List Tag := [⟨"body", []⟩, htmlTag, ⟨"[document]", []⟩]

def board : Element := ⟨t.tag, t.inside, above⟩

theorem find?_framed {board : Tag} (here : isBoard board = true) (inside : Nodes) :
    (framed board inside).find? isBoard = some ⟨board, inside, above⟩ := by
  have html : isBoard htmlTag = false := rfl
  have coding (content : String) :
      isBoard ⟨"meta", [("http-equiv", "Content-Type"), ("content", content)]⟩ = false := rfl
  have bare (name : String) : isBoard ⟨name, []⟩ = false := rfl
  simp [Element.find?, Element.descendants, framed, head, Nodes.elements, html, coding, bare, here, above]

/-- The elements around a board have no classes. -/
theorem any_framed {className : String} {board : Tag} (other : hasClass className board = false) :
    (board :: above).any (hasClass className) = false := by
  have html : hasClass className htmlTag = false := rfl
  have bare (name : String) : hasClass className ⟨name, []⟩ = false := rfl
  simp [above, html, bare, other]

theorem find?_board : t.document.find? isBoard = some t.board :=
  find?_framed (by simp [isBoard, tag, aloneClasses]) t.inside

/-- There are no posts among the links. -/
theorem lacks_links : (classed "div" "inbox" t.links .nil).Lacks isBlock := by
  have pages : t.pages.first? (hasClass "blockpost") = none := by
    unfold pages
    split <;> simp [hasClass]
  have reply : t.reply.first? (hasClass "blockpost") = none := by
    unfold reply
    split <;> simp [hasClass]
  rw [Nodes.lacks_iff_first?]
  change (classed "div" "inbox" t.links .nil).first? (hasClass "blockpost") = none
  simp [links, hasClass, aloneClasses, pages, reply]

/-- A class that only messages and signatures could have. -/
def Free (className : String) : Prop := ∀ p ∈ t.posts, p.Free className

variable {t} {className : String}

theorem lacks_blocks {posts : List ShownPost} (free : ∀ p ∈ posts, p.Free className)
    (other : aloneClasses.contains className = false) (unblocked : ["blockpost", "rowodd"].contains className = false) :
    (blocks posts).Lacks (hasClass className) := by
  induction posts with
  | nil => trivial
  | cons p rest ih =>
    rw [List.forall_mem_cons] at free
    refine ⟨?_, Nodes.lacks_iff_first?.mpr (free.1.inside other), ih free.2⟩
    rw [hasClass, ShownPost.tag, hasClass_labelled, hasClass_blockpost, unblocked]

theorem firstUnder?_blocks (free : t.Free className) (inner : Tag → Bool)
    (other : aloneClasses.contains className = false) (unblocked : ["blockpost", "rowodd"].contains className = false) :
    (blocks t.posts).firstUnder? (hasClass className) inner = none :=
  (lacks_blocks free other unblocked).firstUnder?

theorem firstUnder?_pagelink (free : t.Free "pagelink") :
    t.inside.firstUnder? (hasClass "pagelink") (isNamed "a") = t.pages.first? (isNamed "a") := by
  have posts := firstUnder?_blocks free (isNamed "a") (by decide) (by decide)
  have reply : t.reply.firstUnder? (hasClass "pagelink") (isNamed "a") = none := by
    unfold ShownTopic.reply
    split <;> simp [hasClass]
  simp [inside, header, links, hasClass, aloneClasses, posts, reply, isNamed, Tag.hasName]

theorem firstUnder?_postlink (free : t.Free "postlink") :
    t.inside.firstUnder? (hasClass "postlink") (isNamed "a") = t.reply.first? (isNamed "a") := by
  have posts := firstUnder?_blocks free (isNamed "a") (by decide) (by decide)
  have pages : t.pages.firstUnder? (hasClass "postlink") (isNamed "a") = none := by
    unfold ShownTopic.pages
    split <;> simp [hasClass]
  simp [inside, header, links, hasClass, aloneClasses, posts, pages]

end ShownTopic

end BoardMigration.Page
