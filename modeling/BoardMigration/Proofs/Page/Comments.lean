import BoardMigration.Page.Extract
import BoardMigration.Proofs.Html.Comments

/-! Comments on pages. Each reader finds the same without the comments of what it reads, apart from the
description of a forum, which takes in the comments that stand directly in its cell. -/
namespace BoardMigration.Page

open Html

@[simp] theorem linkInt?_uncommented (e : Element) (field : String) :
    linkInt? e.uncommented field = linkInt? e field := rfl

@[simp] theorem intCell_uncommented (cell : Option Element) (what : String) :
    intCell (cell.map Element.uncommented) what = intCell cell what := by
  cases cell with
  | none => rfl
  | some e => simp only [intCell, Option.map_some, Element.text_uncommented]

@[simp] theorem lastPost?_uncommented (cell : Option Element) (format what : String) :
    lastPost? (cell.map Element.uncommented) format what = lastPost? cell format what := by
  cases cell with
  | none => rfl
  | some e =>
    simp only [lastPost?, Option.map_some, Element.text_uncommented, Element.find?_uncommented]
    cases e.find? (isNamed "a") with
    | none => rfl
    | some link =>
      simp only [Option.map_some, linkInt?_uncommented, Element.text_uncommented]
      cases e.find? (hasClass "byuser") with
      | none => rfl
      | some person => simp only [Option.map_some, Element.text_uncommented]

@[simp] theorem containerId?_uncommented (e : Element) (fallback : String) :
    containerId? e.uncommented fallback = containerId? e fallback := by
  unfold containerId?
  rw [Element.findUnder?_uncommented, Element.selectUnder_uncommented, Option.bind_map,
    List.findSome?_map]
  rfl

@[simp] theorem contentRows_uncommented (e : Element) :
    contentRows e.uncommented = (contentRows e).map Element.uncommented := by
  unfold contentRows
  rw [Element.select_uncommented, List.filter_map]
  congr 2
  funext row
  simp

@[simp] theorem topic_uncommented (row : Element) (format : String) (forum : Int) :
    topic row.uncommented format forum = topic row format forum := by
  unfold topic
  simp only [Element.find?_uncommented, intCell_uncommented, lastPost?_uncommented, Element.tag_uncommented]
  cases row.find? (hasClass "tclcon") with
  | none => rfl
  | some container =>
    simp only [Option.map_some, Option.bind_some, Element.find?_uncommented]
    cases container.find? (isNamed "a") with
    | none => rfl
    | some link =>
      simp only [Option.map_some, linkInt?_uncommented, Element.text_uncommented, Option.elim_map,
        Function.comp_def]

theorem listing_uncommented (format : String) (board : Element) :
    listingItems format board.uncommented = listingItems format board := by
  unfold listingItems
  rw [containerId?_uncommented, contentRows_uncommented, List.filter_map, List.mapM_map]
  simp only [Function.comp_def, topic_uncommented]
  rfl

@[simp] theorem user?_uncommented (block : Element) : user? block.uncommented = user? block := by
  unfold user?
  simp only [Element.find?_uncommented]
  cases block.find? isPoster with
  | none => rfl
  | some poster =>
    simp only [Option.map_some, Element.find?_uncommented, Element.text_uncommented]
    cases poster.find? (isNamed "a") with
    | none => rfl
    | some link =>
      simp only [Option.map_some, linkInt?_uncommented]
      cases block.find? (hasClass "usertitle") with
      | none => rfl
      | some title =>
        simp only [Option.map_some, Element.text_uncommented, Option.isSome_map, Option.map_map,
          Function.comp_def, BBCode.ofElement_uncommented]

@[simp] theorem posterNumber_uncommented (poster : Element) (post : Int) :
    posterNumber poster.uncommented post = posterNumber poster post := by
  unfold posterNumber
  rw [Element.find?_uncommented]
  cases poster.find? (isNamed "a") with
  | none => rfl
  | some link => rfl

theorem eraseFirst_uncommented (p : Tag → Bool) (nodes : Nodes) :
    nodes.uncommented.eraseFirst p = (nodes.eraseFirst p).map Nodes.uncommented := by
  induction nodes with
  | nil => rfl
  | text kind content next ih =>
    cases found : next.eraseFirst p <;> by_cases comment : kind = .comment <;>
      simp [Nodes.uncommented, Nodes.eraseFirst, comment, ih, found]
  | element tag inside next ihInside ihNext =>
    by_cases here : p tag
    · simp [Nodes.uncommented, Nodes.eraseFirst, here]
    · cases within : inside.eraseFirst p <;> cases behind : next.eraseFirst p <;>
        simp [Nodes.uncommented, Nodes.eraseFirst, here, ihInside, ihNext, within, behind]

theorem modifyFirst_uncommented (p : Tag → Bool) {f : Nodes → Nodes}
    (same : ∀ inside : Nodes, f inside.uncommented = (f inside).uncommented) (nodes : Nodes) :
    nodes.uncommented.modifyFirst p f = (nodes.modifyFirst p f).map Nodes.uncommented := by
  induction nodes with
  | nil => rfl
  | text kind content next ih =>
    cases found : next.modifyFirst p f <;> by_cases comment : kind = .comment <;>
      simp [Nodes.uncommented, Nodes.modifyFirst, comment, ih, found]
  | element tag inside next ihInside ihNext =>
    by_cases here : p tag
    · simp [Nodes.uncommented, Nodes.modifyFirst, here, same]
    · cases within : inside.modifyFirst p f <;> cases behind : next.modifyFirst p f <;>
        simp [Nodes.uncommented, Nodes.modifyFirst, here, ihInside, ihNext, within, behind]

@[simp] theorem withoutNote_uncommented (inside : Nodes) :
    withoutNote inside.uncommented = (withoutNote inside).uncommented := by
  unfold withoutNote
  rw [modifyFirst_uncommented, Option.getD_map]
  intro message
  rw [eraseFirst_uncommented, Option.getD_map]

@[simp] theorem unnoted_uncommented (block : Element) :
    unnoted block.uncommented = (unnoted block).uncommented := by
  simp only [unnoted, Element.uncommented, withoutNote_uncommented]

@[simp] theorem beforeNote_uncommented (block message : Element) :
    beforeNote block.uncommented message.uncommented =
      (beforeNote block message).map Element.uncommented := by
  simp only [beforeNote, Element.descendants_uncommented, List.takeWhile_map, List.map_append, List.map_cons]
  rfl

@[simp] theorem posterLeaves_uncommented (block message note : Element) :
    posterLeaves block.uncommented message.uncommented note.uncommented =
      posterLeaves block message note := by
  simp only [posterLeaves, beforeNote_uncommented, Element.descendants_uncommented, List.any_map,
    Element.tag_uncommented]
  rfl

@[simp] theorem posterText_uncommented (block message : Element) (note : Option Element) :
    posterText block.uncommented message.uncommented (note.map Element.uncommented) =
      posterText block message note := by
  simp only [posterText, Option.any_map, Function.comp_def, posterLeaves_uncommented,
    unnoted_uncommented, Element.find?_uncommented, Option.elim_map, Element.text_uncommented]

/-- The head of a post whose edit note has lost its comments. -/
def PostHead.uncommented (head : PostHead) : PostHead :=
  { head with note := head.note.map Element.uncommented }

@[simp] theorem postHead_uncommented (block : Element) (format : String) :
    postHead block.uncommented format = (postHead block format).map PostHead.uncommented := by
  unfold postHead
  simp only [Element.find?_uncommented, Element.tag_uncommented]
  split
  · rfl
  split
  case h_2 => rfl
  next id _ =>
    cases block.find? isPoster with
    | none => rfl
    | some poster =>
      simp only [Option.map_some, posterNumber_uncommented]
      cases posterNumber poster id with
      | error failure => rfl
      | ok posterId =>
        cases block.find? isMessage with
        | none => rfl
        | some message =>
          simp only [Option.map_some, Element.find?_uncommented, posterText_uncommented,
            Option.bind_map, Function.comp_def, Element.text_uncommented]
          split
          · rfl
          · next editor written _ =>
            cases date (String.ofList written) format s!"edit of post {id}" <;> rfl

/-- The note is not read any more once it has been taken out. -/
@[simp] theorem postBody_uncommented (head : PostHead) (block : Element) (format : String)
    (topic : Option Int) :
    postBody head.uncommented block.uncommented format topic = postBody head block format topic := by
  have linked (first second : Option Element) :
      ((first.map Element.uncommented).orElse fun _ => second.map Element.uncommented) =
        (first.orElse fun _ => second).map Element.uncommented := by
    cases first <;> rfl
  unfold postBody
  simp only [Element.find?_uncommented, Element.findUnder?_uncommented, linked, PostHead.uncommented]
  generalize ((block.findUnder? (isNamed "h2") (isNamed "a")).orElse fun _ =>
    block.find? (isNamed "a")) = written
  cases written with
  | none => rfl
  | some link =>
    cases block.find? isMessage with
    | none => rfl
    | some message =>
      simp only [Option.map_some, BBCode.hasSmilies_uncommented, BBCode.ofElement_uncommented,
        Element.text_uncommented]

@[simp] theorem settled_uncommented (block : Element) (format : String) :
    settled block.uncommented format = (settled block format).uncommented := by
  unfold settled
  rw [postHead_uncommented]
  cases postHead block format with
  | error failure => rfl
  | ok head => exact unnoted_uncommented block

@[simp] theorem remains_uncommented (format : String) (e : Element) :
    remains format e.uncommented = (remains format e).uncommented := by
  unfold remains
  rw [Element.tag_uncommented, settled_uncommented]
  split <;> rfl

@[simp] theorem post_uncommented (block : Element) (format : String) (topic : Option Int) :
    post block.uncommented format topic = post block format topic := by
  unfold post
  rw [postHead_uncommented, settled_uncommented]
  cases postHead block format with
  | error failure => rfl
  | ok head => exact postBody_uncommented head _ format topic

@[simp] theorem vanishes_uncommented (block : Element) (format : String) :
    vanishes block.uncommented format = vanishes block format := by
  unfold vanishes
  rw [postHead_uncommented]
  cases postHead block format with
  | error failure => rfl
  | ok head =>
    simp only [Except.map, PostHead.uncommented, Option.any_map, Element.tag_uncommented,
      Element.descendants_uncommented, List.any_map]
    rfl

@[simp] theorem postItems_uncommented (format : String) (topic : Option Int) (block : Element) :
    postItems format topic block.uncommented = postItems format topic block := by
  simp only [postItems, user?_uncommented, post_uncommented, vanishes_uncommented]

theorem blocks_uncommented (format : String) (topic : Option Int) (above : List Tag) (nodes : Nodes) :
    blocks format topic above nodes.uncommented = blocks format topic above nodes := by
  match nodes with
  | .nil => rfl
  | .text kind content next =>
    have later := blocks_uncommented format topic above next
    by_cases comment : kind = .comment <;> simp [Nodes.uncommented, blocks, comment, later]
  | .element tag inside next =>
    have own := postItems_uncommented format topic ⟨tag, inside, above⟩
    have left := remains_uncommented format ⟨tag, inside, above⟩
    have fewer := size_remains_le format ⟨tag, inside, above⟩
    have inner := blocks_uncommented format topic (tag :: above) (remains format ⟨tag, inside, above⟩)
    have later := blocks_uncommented format topic above next
    simp only [Element.uncommented] at own left
    rw [Nodes.uncommented, blocks, blocks, own, left, inner, later]
termination_by nodes.size
decreasing_by all_goals simp only [Nodes.size] at *; omega

theorem thread_uncommented (format : String) (board : Element) :
    threadItems format board.uncommented = threadItems format board := by
  unfold threadItems
  rw [containerId?_uncommented]
  exact blocks_uncommented _ _ _ _

end BoardMigration.Page
