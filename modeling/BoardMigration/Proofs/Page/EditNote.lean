import BoardMigration.Proofs.Html.First
import BoardMigration.Proofs.Text.Blanks
import BoardMigration.Proofs.Text.Runs

/-! Edit notes. The name of an editor ends where a date in parentheses can first begin, so a name is read whole just
if none of its own parentheses could be the date. -/
namespace BoardMigration.Page

open Html

def dated (written : List Char) : List Char := ' ' :: '(' :: (written ++ [')'])

/-- Whether every parenthesis in a name that a space stands before is closed at once. -/
def Whole (name : List Char) : Prop := ∀ behind, ' ' :: '(' :: behind <:+ name → behind.head? = some ')'

/-- A parenthesis that is closed holds a date unless nothing is in it. -/
theorem noteDate?_closed {behind : List Char} (closed : ')' ∈ behind) : noteDate? (' ' :: '(' :: behind) =
    if behind.head? = some ')' then none else some (behind.takeWhile (· != ')')) := by
  have stops : (behind.takeWhile (· != ')')).length ≠ behind.length := by
    intro same
    have whole := (List.takeWhile_prefix (· != ')')).eq_of_length same
    have unclosed := List.takeWhile_eq_self_iff.mp whole ')' closed
    exact absurd unclosed (by decide)
  obtain ⟨c, rest, rfl⟩ := List.exists_cons_of_ne_nil (List.ne_nil_of_mem closed)
  rw [noteDate?]
  by_cases empty : c = ')'
  · simp [empty]
  · have filled : (c :: rest).takeWhile (· != ')') ≠ [] := by simp [empty]
    simp only [List.isEmpty_eq_false_iff.mpr filled, Bool.false_or, beq_iff_eq, stops, ↓reduceIte, List.head?_cons,
      Option.some.injEq, empty]

theorem noteDate?_of_head {c : Char} {rest : List Char} (other : c ≠ ' ') : noteDate? (c :: rest) = none := by
  unfold noteDate?
  split
  · next here => exact absurd (List.cons.inj here).1 other
  · rfl

theorem noteDate?_of_second {c d : Char} {rest : List Char} (other : d ≠ '(') : noteDate? (c :: d :: rest) = none := by
  unfold noteDate?
  split
  · next here => exact absurd (List.cons.inj (List.cons.inj here).2).1 other
  · rfl

/-- In front of a date another is read just if it is a parenthesis with anything in it. -/
theorem noteDate?_before {name : List Char} (named : name ≠ []) (written : List Char) :
    noteDate? (name ++ dated written) = none ↔ ∀ behind, name = ' ' :: '(' :: behind → behind.head? = some ')' := by
  obtain ⟨c, rest, rfl⟩ := List.exists_cons_of_ne_nil named
  by_cases space : c = ' '
  case neg =>
    refine iff_of_true (noteDate?_of_head space) fun behind same => ?_
    exact absurd (List.cons.inj same).1 space
  subst space
  cases rest with
  | nil =>
    refine iff_of_true (noteDate?_of_second (by decide)) fun behind same => ?_
    cases same
  | cons d behind =>
    by_cases opens : d = '('
    case neg =>
      refine iff_of_true (noteDate?_of_second opens) fun behind same => ?_
      exact absurd (List.cons.inj (List.cons.inj same).2).1 opens
    subst opens
    have closed : ')' ∈ behind ++ dated written := by simp [dated]
    have head : (behind ++ dated written).head? = some ')' ↔ behind.head? = some ')' := by
      cases behind <;> simp [dated]
    rw [List.cons_append, List.cons_append, noteDate?_closed closed]
    simp only [head]
    simp

/-- The date itself is read if it is not empty and is not closed early. -/
theorem noteDate?_dated {written : List Char} (single : ')' ∉ written) :
    noteDate? (dated written) = if written = [] then none else some written := by
  have open_ : ∀ c ∈ written, (c != ')') = true := fun c member => by
    simpa using fun same : c = ')' => single (same ▸ member)
  have run : (written ++ [')']).takeWhile (· != ')') = written := Text.takeWhile_run open_ (by simp)
  rw [dated, noteDate?_closed (by simp), run]
  cases written with
  | nil => rfl
  | cons c rest =>
    have first : c ≠ ')' := fun same => single (same ▸ List.mem_cons_self)
    simp [first]

theorem whole_cons {c : Char} {name : List Char} : Whole (c :: name) ↔
    (∀ behind, c :: name = ' ' :: '(' :: behind → behind.head? = some ')') ∧ Whole name := by
  simp only [Whole, List.suffix_cons_iff, or_imp, forall_and]
  simp only [eq_comm]

/-- A name is read whole, with the date behind it, just if no parenthesis in it could be the date. The first
character belongs to the name in any case. -/
theorem nameAndDate?_iff {written : List Char} (single : ')' ∉ written) (c : Char) (rest date : List Char) :
    nameAndDate? (c :: (rest ++ dated written)) = some (c :: rest, date) ↔
      Whole rest ∧ written ≠ [] ∧ date = written := by
  induction rest generalizing c with
  | nil =>
    have whole : Whole [] := fun behind inside => absurd inside (by simp)
    rw [List.nil_append, nameAndDate?, noteDate?_dated single, and_iff_right whole]
    by_cases empty : written = []
    · simp [empty, nameAndDate?, noteDate?, dated]
    · simp [empty, eq_comm]
  | cons d more ih =>
    have before := noteDate?_before (List.cons_ne_nil d more) written
    rw [nameAndDate?, whole_cons, ← before]
    cases early : noteDate? (d :: more ++ dated written) with
    | some date => simp
    | none =>
      rw [List.cons_append, and_iff_right rfl, ← ih d]
      simp [Prod.ext_iff, Option.map_eq_some_iff]

theorem nameAndDate?_drop {text : List Char} (unread : nameAndDate? text = none) (n : Nat) :
    nameAndDate? (text.drop n) = none := by
  induction n generalizing text with
  | zero => exact unread
  | succ n ih =>
    cases text with
    | nil => rfl
    | cons c rest =>
      rw [nameAndDate?] at unread
      split at unread
      · cases unread
      · exact ih (Option.map_eq_none_iff.mp unread)

theorem editNote?_none {text : List Char} (unread : nameAndDate? text = none) : editNote? text = none := by
  induction text with
  | nil => rfl
  | cons c rest ih =>
    have behind := ih (nameAndDate?_drop unread 1)
    rw [editNote?, nameAndDate?_drop unread, behind]
    exact ite_self none

/-- Nothing that a note begins with begins another. -/
theorem editNote?_unopened {start : List Char} (unopened : 'L' ∉ start) (text : List Char) :
    editNote? (start ++ text) = editNote? text := by
  induction start with
  | nil => rfl
  | cons c rest ih =>
    rw [List.mem_cons, not_or] at unopened
    have other : noteOpening.isPrefixOf (c :: (rest ++ text)) = false := by
      have opening : noteOpening = 'L' :: noteOpening.tail := rfl
      rw [opening, List.isPrefixOf_cons_cons, beq_eq_false_iff_ne.mpr unopened.1, Bool.false_and]
    rw [List.cons_append, editNote?, other, ih unopened.2]
    rfl

theorem editNote?_opening (text : List Char) : editNote? (noteOpening ++ text) = nameAndDate? text := by
  have opened : noteOpening ++ text = 'L' :: (noteOpening.tail ++ text) := rfl
  have begins : noteOpening.isPrefixOf (noteOpening ++ text) = true :=
    List.isPrefixOf_iff_prefix.mpr (List.prefix_append ..)
  have left : (noteOpening ++ text).drop noteOpening.length = text := List.drop_left
  rw [opened] at begins left ⊢
  rw [editNote?, if_pos begins, left, editNote?_unopened (by decide)]
  cases read : nameAndDate? text with
  | none => exact editNote?_none read
  | some found => rfl

/-- The editor of a note is read back just if the name is read whole. -/
theorem editNote?_iff {editor written : List Char} (named : editor ≠ []) (unspaced : editor.head? ≠ some ' ')
    (single : ')' ∉ written) (date : List Char) : editNote? (noteOpening ++ (editor ++ dated written)) = some (editor, date) ↔
      Whole editor ∧ written ≠ [] ∧ date = written := by
  obtain ⟨c, rest, rfl⟩ := List.exists_cons_of_ne_nil named
  have other : c ≠ ' ' := by simpa using unspaced
  have whole : Whole (c :: rest) ↔ Whole rest := by
    rw [whole_cons, and_iff_right_iff_imp]
    exact fun _ behind same => absurd (List.cons.inj same).1 other
  rw [whole, editNote?_opening, List.cons_append]
  exact nameAndDate?_iff single c rest date

def dateLink? (block : Element) : Option Element :=
  (block.findUnder? (isNamed "h2") (isNamed "a")).orElse fun _ => block.find? (isNamed "a")

/-- A post with an edit note in its message, and otherwise as posts have to be: with a number, a poster who is a guest
or has a number, and a date, which is no part of the note. -/
structure Noted (block : Element) (format : String) (message note : Element) : Prop where
  id : ∃ id, Text.readInt? ((block.tag.value "id").toList.drop 1) = some id
  poster : ∃ poster, block.find? isPoster = some poster ∧
    ∀ link, poster.find? (isNamed "a") = some link → (linkInt? link "id").isSome = true
  inBlock : block.find? isMessage = some message
  inMessage : message.find? isEditNote = some note
  posted : ∃ link timestamp, dateLink? (unnoted block) = some link ∧ Date.read link.text format = .ok timestamp

def rest (message : Element) : Nodes := (message.inside.eraseFirst isEditNote).getD message.inside

theorem find?_unnoted {block message : Element} (found : block.find? isMessage = some message) :
    ∃ around, (unnoted block).find? isMessage = some ⟨message.tag, rest message, around⟩ := by
  have first := (Element.map_find? isMessage block).symm.trans (congrArg (Option.map Nodes.content) found)
  obtain ⟨changed, done, still⟩ := Nodes.first?_modifyFirst first fun message =>
    (message.eraseFirst isEditNote).getD message
  have inside : (unnoted block).inside = changed := by
    rw [unnoted, withoutNote, done]
    rfl
  exact Element.find?_of_first? (by rw [inside]; exact still)

variable {block message note : Element} {format : String}

theorem Noted.posterNumber {poster : Element} (linked : ∀ link, poster.find? (isNamed "a") = some link →
    (linkInt? link "id").isSome = true) (id : Int) : ∃ number, posterNumber poster id = .ok number := by
  unfold Page.posterNumber
  cases found : poster.find? (isNamed "a") with
  | none => exact ⟨guestUser, rfl⟩
  | some link =>
    obtain ⟨number, known⟩ := Option.isSome_iff_exists.mp (linked link found)
    exact ⟨number, by simp only [known]⟩

section Reading

variable {editor written : List Char} {edited : Int} (told : editNote? note.text.toList = some (editor, written))
  (read : Date.read (String.ofList written) format = .ok edited)

include told read

theorem Noted.postHead (noted : Noted block format message note) : ∃ id name number, Page.postHead block format =
    .ok ⟨id, name, number, some edited, some (String.ofList editor), some note⟩ := by
  obtain ⟨id, number⟩ := noted.id
  obtain ⟨poster, found, linked⟩ := noted.poster
  obtain ⟨posterId, known⟩ := Noted.posterNumber linked id
  have label : (block.tag.value "id").isEmpty = false := by
    rw [← Bool.not_eq_true, String.isEmpty_iff]
    intro empty
    rw [empty] at number
    cases number
  refine ⟨id, posterText block message (some note), posterId, ?_⟩
  unfold Page.postHead
  simp only [label, number, found, known, noted.inBlock, noted.inMessage, Option.bind_some, told, date_read read]
  rfl

/-- A post is read with what its note tells, from what is left of its message. -/
theorem Noted.post (noted : Noted block format message note) (topic : Option Int) : ∃ p,
    Page.post block format topic = .ok p ∧ p.edited = some edited ∧ p.editedBy = some (String.ofList editor) ∧
      p.message = BBCode.ofNodes (rest message) := by
  obtain ⟨id, name, number, head⟩ := noted.postHead told read
  obtain ⟨link, posted, dating, dated⟩ := noted.posted
  obtain ⟨around, left⟩ := find?_unnoted noted.inBlock
  have done : settled block format = unnoted block := by
    unfold settled
    rw [head]
  have linked : ((unnoted block).findUnder? (isNamed "h2") (isNamed "a")).orElse (fun _ =>
      (unnoted block).find? (isNamed "a")) = some link := dating
  unfold Page.post Page.postBody
  simp only [head, done, bind, Except.bind, linked, left, date_read dated]
  exact ⟨_, rfl, rfl, rfl, rfl⟩

end Reading

/-- The editor of a post is the one that its note tells. -/
theorem editedBy_post {topic : Option Int} {p : Post} (inBlock : block.find? isMessage = some message)
    (inMessage : message.find? isEditNote = some note) (read : post block format topic = .ok p) :
    p.editedBy = (editNote? note.text.toList).map fun told => String.ofList told.1 := by
  unfold post at read
  obtain ⟨head, first, read⟩ := bind_ok read
  obtain ⟨_, _, -, rfl⟩ := postBody_ok read
  obtain ⟨known, told⟩ := postHead_ok first
  rw [told, known, inBlock, Option.bind_some, inMessage, Option.bind_some]

/-- The note "Last edited by Name (date)" of a post is read back, and leaves its message, just if the name is read
whole and the date is not empty. -/
theorem post_edited_iff (noted : Noted block format message note) (topic : Option Int) {editor written : List Char}
    {edited : Int} (named : editor ≠ []) (normal : Text.collapse editor = editor)
    (plain : ∀ c ∈ written, c ≠ '(' ∧ c ≠ ')') (read : Date.read (String.ofList written) format = .ok edited)
    (shown : note.text.toList = noteOpening ++ (editor ++ dated written)) :
    (∃ p, post block format topic = .ok p ∧ p.editedBy = some (String.ofList editor) ∧ p.edited = some edited ∧
      p.message = BBCode.ofNodes (rest message)) ↔ Whole editor ∧ written ≠ [] := by
  have single : ')' ∉ written := fun member => (plain ')' member).2 rfl
  have unspaced : editor.head? ≠ some ' ' := by
    intro space
    rw [← normal] at space
    exact absurd (Text.head?_collapse space) (by decide)
  have told := editNote?_iff named unspaced single
  rw [← shown] at told
  constructor
  · rintro ⟨p, done, by_, -⟩
    rw [editedBy_post noted.inBlock noted.inMessage done] at by_
    obtain ⟨⟨name, date⟩, found, same⟩ := Option.map_eq_some_iff.mp by_
    obtain rfl := String.ofList_inj.mp same
    obtain ⟨whole, filled, -⟩ := (told date).mp found
    exact ⟨whole, filled⟩
  · rintro ⟨whole, filled⟩
    obtain ⟨p, done, edited, by_, message⟩ := noted.post ((told written).mpr ⟨whole, filled, rfl⟩) read topic
    exact ⟨p, done, by_, edited, message⟩

/-- A guest's post from early 2008 that was edited half an hour later. -/
def editedPost (editor : String) : Element :=
  let text (content : String) : Nodes := .text .plain content .nil
  ⟨⟨"div", [("id", "p41"), ("class", "blockpost")]⟩,
    .element ⟨"h2", []⟩ (.element ⟨"a", [("href", "viewtopic.php?pid=41#p41")]⟩ (text "2008-01-03 11:00:00") .nil)
      (.element ⟨"dt", []⟩ (text "Guest")
        (.element ⟨"div", [("class", "postmsg")]⟩
          (.element ⟨"p", []⟩ (text "Hello")
            (.element ⟨"p", [("class", "postedit")]⟩ (text ("Last edited by " ++ editor ++ " (2008-01-03 11:30:00)")) .nil))
          .nil)), []⟩

/-- Empty parentheses in a name do no harm. -/
theorem post_edited_iff_closed :
    let editor := "Bob () Jr".toList
    let written := "2008-01-03 11:30:00".toList
    ∃ message note, Noted (editedPost "Bob () Jr") Date.defaultFormat message note ∧
      editor ≠ [] ∧ Text.collapse editor = editor ∧ (∀ c ∈ written, c ≠ '(' ∧ c ≠ ')') ∧
      Date.read (String.ofList written) Date.defaultFormat = .ok 1199359800 ∧
      note.text.toList = noteOpening ++ (editor ++ dated written) ∧
      ∃ p, post (editedPost "Bob () Jr") Date.defaultFormat (some 7) = .ok p ∧ p.editedBy = some "Bob () Jr" ∧
        p.edited = some 1199359800 ∧ p.message = "Hello" := by
  intro editor written
  have dating : Date.read "2008-01-03 11:00:00" Date.defaultFormat = .ok 1199358000 := by decide +kernel
  have noted : Noted (editedPost "Bob () Jr") Date.defaultFormat _ _ :=
    ⟨⟨41, by decide +kernel⟩, ⟨_, rfl, nofun⟩, rfl, rfl, ⟨_, 1199358000, rfl, dating⟩⟩
  have normal : Text.collapse editor = editor := by decide +kernel
  have plain : ∀ c ∈ written, c ≠ '(' ∧ c ≠ ')' := by simp [written]
  have read : Date.read (String.ofList written) Date.defaultFormat = .ok 1199359800 := by decide +kernel
  have whole : Whole editor := by
    have chars : editor = ['B', 'o', 'b', ' ', '(', ')', ' ', 'J', 'r'] := by decide
    simp [chars, Whole, List.suffix_cons_iff]
  have result := (post_edited_iff noted (some 7) (by decide) normal plain read rfl).mpr ⟨whole, by decide⟩
  refine ⟨_, _, noted, by decide, normal, plain, read, rfl, ?_⟩
  obtain ⟨p, done, by_, edited, message⟩ := result
  exact ⟨p, done, by_, edited, message.trans (by decide +kernel)⟩

/-- A name with words in parentheses costs the post: the words are read as the date. -/
theorem post_edited_parenthesis :
    let editor := "Bob (admin)".toList
    let written := "2008-01-03 11:30:00".toList
    ∃ message note, Noted (editedPost "Bob (admin)") Date.defaultFormat message note ∧
      editor ≠ [] ∧ Text.collapse editor = editor ∧ (∀ c ∈ written, c ≠ '(' ∧ c ≠ ')') ∧
      Date.read (String.ofList written) Date.defaultFormat = .ok 1199359800 ∧
      note.text.toList = noteOpening ++ (editor ++ dated written) ∧
      post (editedPost "Bob (admin)") Date.defaultFormat (some 7) =
        .error (.malformed "Couldn't parse date of edit of post 41: 'admin'") := by
  intro editor written
  have dating : Date.read "2008-01-03 11:00:00" Date.defaultFormat = .ok 1199358000 := by decide +kernel
  have noted : Noted (editedPost "Bob (admin)") Date.defaultFormat _ _ :=
    ⟨⟨41, by decide +kernel⟩, ⟨_, rfl, nofun⟩, rfl, rfl, ⟨_, 1199358000, rfl, dating⟩⟩
  have plain : ∀ c ∈ written, c ≠ '(' ∧ c ≠ ')' := by simp [written]
  exact ⟨_, _, noted, by decide, by decide +kernel, plain, by decide +kernel, rfl, by decide +kernel⟩

end BoardMigration.Page
