import BoardMigration.Page.Thread
import BoardMigration.Proofs.Link.RoundTrip
import BoardMigration.Proofs.Page.Cells
import BoardMigration.Proofs.Page.EditNote

/-! Numbers wherever a page shows one. A number is read back from the query of a link, from the name of a post's
block and from a table cell, where commas may part its thousands and blanks may surround it. -/
namespace BoardMigration

open Html

namespace Link

/-- A link that asks for the given pairs, behind a page or by itself. -/
inductive Asks (given : List (List Char × List Char)) : List Char → Prop where
  | behind {path fragment : List Char} {items : List (List Char)} (front : ∀ c ∈ path, c ≠ '?' ∧ c ≠ '#')
    (written : List.Forall₂ Gives items given) (ends : ∀ c ∈ fragment.head?, c = '#') :
    Asks given (path ++ '?' :: ['&'].intercalate items ++ fragment)
  | alone {fragment : List Char} {items : List (List Char)} (written : List.Forall₂ Gives items given)
    (ends : ∀ c ∈ fragment.head?, c = '#') : Asks given (['&'].intercalate items ++ fragment)

/-- The first value under a name that is not empty. -/
def firstValue? (given : List (List Char × List Char)) (field : List Char) : Option (List Char) :=
  (given.find? fun pair => pair.1 == field && !pair.2.isEmpty).map (·.2)

theorem Asks.value?_eq {given : List (List Char × List Char)} {url : List Char} (asks : Asks given url)
    (field : List Char) : value? url field = firstValue? given field := by
  cases asks with
  | behind front written ends =>
    have asked := query_marked front (fun c member => (intercalate_ne written c member).2) ends
    exact value?_of_query written asked field
  | alone written ends => exact value?_of_query written (query_unmarked (intercalate_ne written) ends) field

theorem int?_of_value {url field : List Char} {n : Int} (short : Text.Short n)
    (shown : value? url field = some (toString n).toList) : int? url field = some n := by
  rw [int?, shown]
  exact Text.readInt?_toString short

end Link

namespace Page

/-- A read that comes to something good, or fails as expected. -/
def Yields {ε α : Type} (good : α → Prop) (expected : ε → Prop) : Except ε α → Prop
  | .ok a => good a
  | .error error => expected error

theorem Yields.bind {ε α β : Type} {good : α → Prop} {better : β → Prop} {expected : ε → Prop} {first : Except ε α}
    {rest : α → Except ε β} (early : Yields good expected first)
    (late : ∀ a, good a → Yields better expected (rest a)) : Yields better expected (first >>= rest) := by
  cases first with
  | error error => exact early
  | ok a => exact late a early

/-- A block that has what a post needs besides a number: a poster who is a guest or has a number, a message, whose
edit note names a date if it names an editor, and a date of its own, which is no part of the note. -/
structure Complete (block : Element) (format : String) : Prop where
  poster : ∃ poster, block.find? isPoster = some poster ∧
    ∀ link, poster.find? (isNamed "a") = some link → (linkInt? link "id").isSome = true
  message : ∃ message, block.find? isMessage = some message ∧
    ∀ note ∈ message.find? isEditNote, ∀ told ∈ editNote? note.text.toList,
      ∃ timestamp, Date.read (String.ofList told.2) format = .ok timestamp
  posted : ∃ link timestamp, dateLink? (unnoted block) = some link ∧ Date.read link.text format = .ok timestamp

/-- What a block can lack or have wrong besides its number, which follows. -/
def postFaults : List String := ["Couldn't get poster of post ", "Couldn't get poster ID of post ",
  "Couldn't get message body of post ", "Couldn't get date of post ", "Couldn't parse date of post ",
  "Couldn't parse date of edit of post "]

/-- A failure that knows the number of its post. Only a format that names a field twice fails without it. -/
def Failure.Names (n : Int) : Failure → Prop
  | .malformed message => ∃ fault ∈ postFaults, ∃ rest, message = fault ++ toString n ++ rest
  | .fatal error => ∃ field, error = .repeatedField field

section Numbered

variable {n : Int}

theorem Failure.names_short {fault : String} (listed : fault ∈ postFaults) :
    (Failure.malformed (fault ++ toString n)).Names n := ⟨fault, listed, "", by simp⟩

theorem yields_date {opening : String} (listed : "Couldn't parse date of " ++ opening ∈ postFaults)
    (text format : String) : Yields (fun _ => True) (Failure.Names n) (date text format (opening ++ toString n)) := by
  unfold date
  split
  · trivial
  · next field _ => exact ⟨field, rfl⟩
  · have itself (s : String) : toString s = s := rfl
    exact ⟨_, listed, ": " ++ Text.quoted text, by simp only [itself, String.append_assoc]⟩

theorem yields_posterNumber (poster : Element) :
    Yields (fun _ => True) (Failure.Names n) (posterNumber poster n) := by
  unfold posterNumber
  split
  · trivial
  · split
    · trivial
    · exact Failure.names_short (by decide)

variable {block : Element} {format : String}

section Labelled

variable (label : block.tag.value "id" = "p" ++ toString n)

include label

theorem label_filled : (block.tag.value "id").isEmpty = false := by
  rw [← Bool.not_eq_true, String.isEmpty_iff, label]
  exact fun empty => absurd (congrArg String.toList empty) (by simp)

theorem readInt?_label (short : Text.Short n) : Text.readInt? ((block.tag.value "id").toList.drop 1) = some n := by
  have digits : ("p" ++ toString n).toList.drop 1 = (toString n).toList := by simp
  rw [label, digits, Text.readInt?_toString short]

theorem yields_postHead (short : Text.Short n) :
    Yields (fun head => head.id = n) (Failure.Names n) (postHead block format) := by
  unfold postHead
  simp only [label_filled label, readInt?_label label short, Bool.false_eq_true, ↓reduceIte]
  split
  · refine (yields_posterNumber _).bind fun posterId _ => ?_
    split
    · split
      · exact rfl
      · exact (yields_date (by decide) _ _).bind fun _ _ => rfl
    · exact Failure.names_short (by decide)
  · exact Failure.names_short (by decide)

end Labelled

theorem yields_postBody {head : PostHead} (known : head.id = n) (topic : Option Int) :
    Yields (fun p => p.id = n) (Failure.Names n) (postBody head block format topic) := by
  unfold postBody
  rw [known]
  dsimp only
  split
  · split
    · exact (yields_date (by decide) _ _).bind fun _ _ => rfl
    · exact Failure.names_short (by decide)
  · exact Failure.names_short (by decide)

section Labelled

variable (short : Text.Short n) (label : block.tag.value "id" = "p" ++ toString n) (topic : Option Int)

include short label

/-- A block whose name is a letter and a number is the post of that number, or at fault for something else. -/
theorem yields_post : Yields (fun p => p.id = n) (Failure.Names n) (post block format topic) := by
  unfold post
  exact (yields_postHead label short).bind fun head known => yields_postBody known topic

theorem Complete.post (complete : Complete block format) : ∃ p, Page.post block format topic = .ok p ∧ p.id = n := by
  obtain ⟨poster, found, linked⟩ := complete.poster
  obtain ⟨posterId, known⟩ := Noted.posterNumber linked n
  obtain ⟨message, inBlock, dated⟩ := complete.message
  obtain ⟨link, posted, dating, read⟩ := complete.posted
  have head : ∃ head, postHead block format = .ok head := by
    unfold postHead
    simp only [label_filled label, readInt?_label label short, found, known, inBlock]
    cases told : (message.find? isEditNote).bind (editNote? ·.text.toList) with
    | none => exact ⟨_, rfl⟩
    | some told_ =>
      obtain ⟨note, inMessage, shown⟩ := Option.bind_eq_some_iff.mp told
      obtain ⟨edited, read⟩ := dated note inMessage told_ shown
      simp only [date_read read]
      exact ⟨_, rfl⟩
  obtain ⟨head, first⟩ := head
  have done : settled block format = unnoted block := by
    unfold settled
    rw [first]
  have linked : ((unnoted block).findUnder? (isNamed "h2") (isNamed "a")).orElse (fun _ =>
      (unnoted block).find? (isNamed "a")) = some link := dating
  obtain ⟨around, left⟩ := find?_unnoted inBlock
  have yields : Yields (fun p => p.id = n) (Failure.Names n) (Page.post block format topic) :=
    yields_post short label topic
  have succeeds : ∃ p, Page.post block format topic = .ok p := by
    unfold Page.post postBody
    simp only [first, done, bind, Except.bind, linked, left, date_read read]
    exact ⟨_, rfl⟩
  obtain ⟨p, same⟩ := succeeds
  rw [same] at yields
  exact ⟨p, same, yields⟩

end Labelled

end Numbered

/-- A number of no more digits than a numeral may have is read back from every place that shows one. -/
theorem number_everywhere {n : Int} (short : Text.Short n) :
    (∀ url given field, Link.Asks given url → Link.firstValue? given field = some (toString n).toList →
      Link.int? url field = some n) ∧
    (∀ url field, Link.value? url field = some (toString n).toList → Link.int? url field = some n) ∧
    (∀ block format topic, block.tag.value "id" = "p" ++ toString n →
      Yields (fun p => p.id = n) (Failure.Names n) (post block format topic) ∧
        (Complete block format → ∃ p, post block format topic = .ok p ∧ p.id = n)) ∧
    (0 ≤ n → ∀ (e : Element) (what : String) (before written behind : List Char),
      written = (toString n).toList ∨ written = grouped (toString n).toList → Text.isBlankText before = true →
      Text.isBlankText behind = true → e.rawText = before ++ written ++ behind → intCell (some e) what = .ok n) := by
  refine ⟨?_, ?_, ?_, ?_⟩
  · intro url given field asks first
    exact Link.int?_of_value short ((asks.value?_eq field).trans first)
  · exact fun url field => Link.int?_of_value short
  · exact fun block format topic label =>
      ⟨yields_post short label topic, Complete.post short label topic⟩
  · exact fun _ e what before written behind form ahead after shown =>
      intCell_surrounded short form ahead after shown what

/-- A guest's edited post by another name. -/
def renamedPost (label : String) : Element :=
  { editedPost "Bob" with tag := ⟨"div", [("id", label), ("class", "blockpost")]⟩ }

/-- A number of four digits, under an escaped name and behind an empty value, as a guest's post and with a comma. -/
theorem number_everywhere_thousand :
    let cell : Element := ⟨⟨"td", []⟩, .text .plain "\n 1,234\u00a0" .nil, []⟩
    Text.Short 1234 ∧ Link.int? "show.php?id=&%69d=1234&id=2#p5".toList "id".toList = some 1234 ∧
      Link.int? "pid=1234".toList "pid".toList = some 1234 ∧
      (∃ p, post (renamedPost "p1234") Date.defaultFormat none = .ok p ∧ p.id = 1234) ∧
      (0 ≤ (1234 : Int) ∧ intCell (some cell) "number of views" = .ok 1234) := by
  intro cell
  have short : Text.Short 1234 := by decide
  obtain ⟨links, values, blocks, cells⟩ := number_everywhere short
  have named : Link.Writes "id".toList "id".toList := .cons (.kept (by decide)) (.cons (.kept (by decide)) .nil)
  have escaped : Link.Writes "%69d".toList "id".toList :=
    .cons (.escaped (by decide) (by decide)) (.cons (.kept (by decide)) .nil)
  have number : Link.Writes "1234".toList "1234".toList :=
    .cons (.kept (by decide)) (.cons (.kept (by decide)) (.cons (.kept (by decide)) (.cons (.kept (by decide)) .nil)))
  have two : Link.Writes "2".toList "2".toList := .cons (.kept (by decide)) .nil
  have written : List.Forall₂ Link.Gives ["id=".toList, "%69d=1234".toList, "id=2".toList]
      [("id".toList, []), ("id".toList, "1234".toList), ("id".toList, "2".toList)] :=
    .cons (.pair named .nil) (.cons (.pair escaped number) (.cons (.pair named two) .nil))
  have asks := @Link.Asks.behind _ "show.php".toList "#p5".toList _ (by simp) written (by simp)
  have dated : ∃ message, (renamedPost "p1234").find? isMessage = some message ∧ ∀ note ∈ message.find? isEditNote,
      ∀ told ∈ editNote? note.text.toList, ∃ t, Date.read (String.ofList told.2) Date.defaultFormat = .ok t := by
    refine ⟨_, rfl, fun note inMessage told shown => ?_⟩
    obtain rfl := Option.some.inj inMessage
    have read : editNote? "Last edited by Bob (2008-01-03 11:30:00)".toList =
        some ("Bob".toList, "2008-01-03 11:30:00".toList) := by decide
    obtain rfl := Option.some.inj (read.symm.trans shown)
    exact ⟨1199359800, by decide +kernel⟩
  have complete : Complete (renamedPost "p1234") Date.defaultFormat :=
    ⟨⟨_, rfl, nofun⟩, dated, ⟨_, 1199358000, rfl, by decide +kernel⟩⟩
  refine ⟨short, links _ _ _ asks rfl, values _ _ (by decide +kernel), ?_, by decide, ?_⟩
  · exact (blocks (renamedPost "p1234") Date.defaultFormat none rfl).2 complete
  · exact cells (by decide) cell "number of views" "\n ".toList "1,234".toList "\u00a0".toList (.inr (by decide))
      (by decide) (by decide) (by decide)

end Page
end BoardMigration
