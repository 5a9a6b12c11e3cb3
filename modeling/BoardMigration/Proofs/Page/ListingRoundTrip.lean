import BoardMigration.Proofs.Page.Cells
import BoardMigration.Proofs.Page.ListingLayout
import BoardMigration.Proofs.Page.RoundTrip

/-! Laying out the page of a forum and reading the page again gives back the topics that it lists. -/
namespace BoardMigration.Page

open Html Layout

/-- The classes that stand alone in the table of a forum. -/
def tableClasses : List String :=
  ["tcl", "tc2", "tc3", "tcr", "intd", "icon", "nosize", "tclcon", "byuser", "blocktable"]

section Classes

variable (className name : String)

theorem words_tableClasses : ∀ c ∈ tableClasses, Text.words c.toList = [c.toList] := by decide +kernel

@[simp] theorem hasClass_table {label : String} (listed : tableClasses.contains label = true) :
    Tag.hasClass className ⟨name, [("class", label)]⟩ = [label].contains className :=
  hasClass_words className name (words_tableClasses label (List.contains_iff_mem.mp listed))

@[simp] theorem hasClass_column (label scope : String) :
    Tag.hasClass className ⟨name, [("class", label), ("scope", scope)]⟩ =
      Tag.hasClass className ⟨name, [("class", label)]⟩ := rfl

@[simp] theorem hasClass_spaced (space : String) : Tag.hasClass className ⟨name, [("cellspacing", space)]⟩ = false := rfl

end Classes

theorem RowFlag.className_inj {flag other : RowFlag} (same : flag.className = other.className) : flag = other := by
  cases flag <;> cases other <;> first | rfl | exact absurd same (by decide)

namespace ShownRow

variable {r : ShownRow}

/-- A row has the classes of its flags, and no others. -/
theorem hasClass_tag (className : String) :
    Tag.hasClass className r.tag = (r.flags.map RowFlag.className).contains className := by
  by_cases none : r.flags = []
  · rw [tag, if_pos none, none]
    rfl
  · rw [tag, if_neg none]
    apply hasClass_words
    have word (flag : RowFlag) : Text.words flag.className.toList = [flag.className.toList] := by
      cases flag <;> decide
    rw [String.toList_ofList, Text.words_intercalate, List.flatMap_map, List.map_map, ← List.flatMap_pure_eq_map]
    exact List.flatMap_congr fun flag _ => word flag

theorem hasClass_flag (flag : RowFlag) : Tag.hasClass flag.className r.tag = r.flags.contains flag := by
  rw [hasClass_tag, Bool.eq_iff_iff, List.contains_iff_mem, List.contains_iff_mem, List.mem_map]
  constructor
  · rintro ⟨other, member, same⟩
    rwa [← RowFlag.className_inj same]
  · exact fun member => ⟨flag, member, rfl⟩

theorem hasClass_unflagged {className : String} (other : ∀ flag : RowFlag, flag.className ≠ className) :
    Tag.hasClass className r.tag = false := by
  rw [hasClass_tag, ← Bool.not_eq_true, List.contains_iff_mem, List.mem_map]
  rintro ⟨flag, -, same⟩
  exact other flag same

end ShownRow

theorem isEmpty_text {e : Element} (filled : Text.words e.rawText ≠ []) : e.text.isEmpty = false := by
  rw [← Bool.not_eq_true, String.isEmpty_iff, Element.text, ← String.toList_inj, String.toList_ofList]
  intro none
  rw [← Text.words_collapse, none] at filled
  exact filled rfl

theorem toList_by (person : String) : ("by " ++ person).toList = "by".toList ++ ' ' :: person.toList := by
  rw [String.toList_append]
  rfl

theorem withoutBy_by (person : String) : withoutBy ("by " ++ person) = person := by
  have opens : "by ".toList.isPrefixOf ("by " ++ person).toList = true := by
    rw [String.toList_append, List.isPrefixOf_iff_prefix]
    exact List.prefix_append _ _
  rw [withoutBy, if_pos opens, toList_by]
  exact String.ofList_toList

/-- A name behind the word "by" keeps its blanks, as it does not begin with one. -/
theorem collapse_by {person : String} (normal : Text.collapse person.toList = person.toList) (named : person ≠ "") :
    Text.collapse ("by " ++ person).toList = ("by " ++ person).toList := by
  have word : Text.words "by".toList = ["by".toList] := by decide
  have some : Text.words person.toList ≠ [] := by
    intro none
    rw [Text.collapse, none] at normal
    exact named (String.toList_eq_nil_iff.mp normal.symm)
  obtain ⟨first, more, words⟩ := List.exists_cons_of_ne_nil some
  rw [Text.collapse, words] at normal
  rw [toList_by, Text.collapse, Text.words_append_blank (by decide), word, words, ← normal]
  simp [List.intercalate]

section Byline

variable {e : Element} {href shown person : String} (here : e.inside = byline href shown person)

include here

theorem find?_link (normal : Text.collapse shown.toList = shown.toList) {field : String} {i : Int}
    (numbered : ∀ inside above, linkInt? ⟨⟨"a", [("href", href)]⟩, inside, above⟩ field = some i) :
    ∃ link, e.find? (isNamed "a") = some link ∧ link.text = shown ∧ linkInt? link field = some i := by
  have first : e.inside.first? (isNamed "a") = some (⟨"a", [("href", href)]⟩, given shown) := by
    simp [here, byline, isNamed, Tag.hasName]
  obtain ⟨above, found⟩ := Element.find?_of_first? first
  exact ⟨_, found, text_of_gather (gather_given rfl shown) normal, numbered _ _⟩

theorem find?_person (normal : Text.collapse person.toList = person.toList) (named : person ≠ "") :
    ∃ someone, e.find? (hasClass "byuser") = some someone ∧ withoutBy someone.text = person := by
  have first : e.inside.first? (hasClass "byuser") =
      some (⟨"span", [("class", "byuser")]⟩, text ("by " ++ person) .nil) := by
    simp [here, byline, hasClass, tableClasses]
  obtain ⟨above, found⟩ := Element.find?_of_first? first
  refine ⟨_, found, ?_⟩
  have shown : Element.text ⟨⟨"span", [("class", "byuser")]⟩, text ("by " ++ person) .nil, above⟩ = "by " ++ person :=
    text_of_gather (List.append_nil _) (collapse_by normal named)
  rw [shown, withoutBy_by]

end Byline

theorem intCell_number {e : Element} {i : Int} (short : Text.Short i) (written : e.rawText = (toString i).toList)
    (what : String) : intCell (some e) what = .ok i := by
  have alone : e.rawText = [] ++ (toString i).toList ++ [] := by simpa using written
  exact intCell_surrounded short (.inl rfl) rfl rfl alone what

/-- A row that a page can show: names are single words or words with one space between them. -/
structure ShownRow.Valid (r : ShownRow) : Prop where
  subject : Text.collapse r.subject.toList = r.subject.toList
  poster : Text.collapse r.poster.toList = r.poster.toList
  lastPoster : Text.collapse r.lastPoster.toList = r.lastPoster.toList
  named : r.poster ≠ ""
  lastNamed : r.lastPoster ≠ ""
  lastPosted : r.lastPosted.Valid

/-- A row whose numbers can be written, too. -/
structure ShownRow.Written (r : ShownRow) : Prop extends r.Valid where
  short : ∀ i ∈ r.numbers, Text.Short i

namespace ShownRow

variable (r : ShownRow)

def row (above : List Tag) : Element := ⟨r.tag, r.inside, above⟩

/-- The cells of a row are found by their classes. -/
theorem find?_cells (above : List Tag) :
    (∃ around, (r.row above).find? (hasClass "tclcon") = some ⟨⟨"div", [("class", "tclcon")]⟩, r.title, around⟩) ∧
    (∃ around, (r.row above).find? (hasClass "tc2") =
      some ⟨⟨"td", [("class", "tc2")]⟩, text (toString r.replies) .nil, around⟩) ∧
    (∃ around, (r.row above).find? (hasClass "tc3") =
      some ⟨⟨"td", [("class", "tc3")]⟩, text (toString r.views) .nil, around⟩) ∧
    ∃ around, (r.row above).find? (hasClass "tcr") = some ⟨⟨"td", [("class", "tcr")]⟩, r.last, around⟩ := by
  refine ⟨?_, ?_, ?_, ?_⟩ <;> apply Element.find?_of_first? <;>
    simp [row, inside, subjectCell, title, byline, hasClass, tableClasses]

end ShownRow

section Row

variable {r : ShownRow} (written : r.Written) (above : List Tag)

include written

theorem lastPost?_cell (what : String) :
    lastPost? (some ⟨⟨"td", [("class", "tcr")]⟩, r.last, above⟩) Date.defaultFormat what =
      .ok (some ⟨r.lastPost, r.lastPosted.timestamp, r.lastPoster⟩) := by
  have short : Text.Short r.lastPost := written.short r.lastPost (by simp [ShownRow.numbers])
  obtain ⟨_, link, shown, number⟩ := find?_link (e := ⟨⟨"td", [("class", "tcr")]⟩, r.last, above⟩) rfl
    (collapse_moment r.lastPosted) fun _ _ => linkInt?_fragment short (by decide) String.toList_append
  obtain ⟨_, found, person⟩ := find?_person (e := ⟨⟨"td", [("class", "tcr")]⟩, r.last, above⟩) rfl
    written.lastPoster written.lastNamed
  have filled : (Element.text ⟨⟨"td", [("class", "tcr")]⟩, r.last, above⟩).isEmpty = false := by
    have raw : Element.rawText ⟨⟨"td", [("class", "tcr")]⟩, r.last, above⟩ =
        r.lastPosted.chars ++ ' ' :: ("by " ++ r.lastPoster).toList := by
      have plain : TextKind.shownIn ⟨"td", [("class", "tcr")]⟩ .plain = true := rfl
      simp [Element.rawText, ShownRow.last, byline, Nodes.gather, plain, Date.Moment.text]
    apply isEmpty_text
    rw [raw, Text.words_append_blank (by decide), Date.Moment.words_chars]
    exact List.cons_ne_nil _ _
  rw [lastPost?]
  simp only [filled, link, number, shown, date_read (Date.Moment.read_text written.lastPosted), found, person]
  rfl

/-- The topic of a row is read as it was laid out. -/
theorem topic_row (forum : Int) : Page.topic (r.row above) Date.defaultFormat forum = .ok (r.topic forum) := by
  have short (i : Int) (shown : i ∈ r.numbers) : Text.Short i := written.short i shown
  obtain ⟨⟨inner, title⟩, ⟨_, replies⟩, ⟨_, views⟩, _, last⟩ := r.find?_cells above
  obtain ⟨_, link, subject, number⟩ := find?_link (e := ⟨⟨"div", [("class", "tclcon")]⟩, r.title, inner⟩) rfl
    written.subject fun _ _ => linkInt?_address (short r.id (by simp [ShownRow.numbers])) (by decide)
  obtain ⟨_, found, person⟩ := find?_person (e := ⟨⟨"div", [("class", "tclcon")]⟩, r.title, inner⟩) rfl
    written.poster written.named
  have post := lastPost?_cell written
  have cell (n : Nat) (label : String) (above : List Tag) (listed : (n : Int) ∈ r.numbers) (what : String) :
      intCell (some ⟨⟨"td", [("class", label)]⟩, text (toString n) .nil, above⟩) what = .ok n :=
    intCell_number (short n listed) (List.append_nil _) what
  have closed : Tag.hasClass "iclosed" (r.row above).tag = r.flags.contains .closed := ShownRow.hasClass_flag .closed
  have sticky : Tag.hasClass "isticky" (r.row above).tag = r.flags.contains .sticky := ShownRow.hasClass_flag .sticky
  unfold Page.topic
  simp only [title, Option.bind_some, link, number, found, person, Option.elim_some, subject, last, post, replies, views,
    cell r.replies _ _ (by simp [ShownRow.numbers]), cell r.views _ _ (by simp [ShownRow.numbers]), closed, sticky]
  rfl

end Row

namespace ShownForum

variable (f : ShownForum)

def board : Element := ⟨tag, f.inside, ShownTopic.above⟩

/-- What the rows of a page stand in. -/
def tableTags : List Tag :=
  ⟨"tbody", []⟩ :: ⟨"table", [("cellspacing", "0")]⟩ :: ⟨"div", [("class", "inbox")]⟩ :: ⟨"div", [("class", "box")]⟩ ::
    ⟨"div", [("id", "vf"), ("class", "blocktable")]⟩ :: tag :: ShownTopic.above

/-- There are no rows inside a row. -/
theorem lacks_row (r : ShownRow) : r.inside.Lacks (isNamed "tr") := by
  rw [Nodes.lacks_iff_first?]
  simp [ShownRow.inside, ShownRow.subjectCell, ShownRow.title, ShownRow.last, byline, isNamed, Tag.hasName]

theorem filter_body (rows : List ShownRow) (above : List Tag) :
    ((body rows).elements above).filter (isNamed "tr" ·.tag) = rows.map (·.row above) := by
  induction rows with
  | nil => rfl
  | cons r rest ih =>
    have here : isNamed "tr" r.tag = true := rfl
    have within := Nodes.filter_of_lacks (lacks_row r) (r.tag :: above)
    change ((Nodes.element r.tag r.inside (body rest)).elements above).filter (isNamed "tr" ·.tag) = _
    rw [Nodes.filter_elements, if_pos here, within, ih]
    rfl

/-- There are no rows among the links. -/
theorem lacks_links : f.links.Lacks (isNamed "tr") := by
  have pages : f.pages.first? (isNamed "tr") = none := by
    unfold pages
    split <;> simp [isNamed, Tag.hasName]
  have newTopic : f.newTopic.first? (isNamed "tr") = none := by
    unfold newTopic
    split <;> simp [isNamed, Tag.hasName]
  rw [Nodes.lacks_iff_first?]
  simp [links, isNamed, Tag.hasName, pages, newTopic]

theorem select_rows : f.board.select (isNamed "tr") =
    ⟨⟨"tr", []⟩, headings, ⟨"thead", []⟩ :: tableTags.tail⟩ :: f.rows.map (·.row tableTags) := by
  have links := Nodes.filter_of_lacks f.lacks_links
  have body := filter_body f.rows
  simp only [isNamed, Tag.hasName] at links body
  simp [Element.select, Element.descendants, board, inside, ShownTopic.header, block, table, headings, Nodes.elements,
    isNamed, Tag.hasName, links, body, tableTags, tag]

/-- The rows of a page are those of its topics. The row of headings names no topic. -/
theorem contentRows_board : contentRows f.board = f.rows.map (·.row tableTags) := by
  have heading (above : List Tag) : (Element.find? (hasClass "tclcon") ⟨⟨"tr", []⟩, headings, above⟩).isSome = false := by
    rw [Element.isSome_find?]
    simp [headings, hasClass, tableClasses]
  have content (r : ShownRow) (above : List Tag) : ((r.row above).find? (hasClass "tclcon")).isSome = true := by
    obtain ⟨⟨_, title⟩, -⟩ := r.find?_cells above
    rw [title, Option.isSome_some]
  rw [contentRows, select_rows, List.filter_cons, heading, if_neg Bool.false_ne_true, List.filter_eq_self,
    List.forall_mem_map]
  exact fun r _ => content r _

/-- The classes of links to pages and of links for new topics are nowhere in the table. -/
theorem lacks_block {className : String} (listed : className ∈ ["pagelink", "postlink"]) :
    f.block.Lacks (hasClass className) := by
  have unflagged (flag : RowFlag) : flag.className ≠ className := by
    rintro rfl
    cases flag <;> exact absurd listed (by decide)
  have own (r : ShownRow) : r.inside.first? (hasClass className) = none := by
    rcases List.mem_pair.mp listed with rfl | rfl <;>
      simp [ShownRow.inside, ShownRow.subjectCell, ShownRow.title, ShownRow.last, byline, hasClass, tableClasses]
  have rows : (body f.rows).first? (hasClass className) = none := by
    induction f.rows with
    | nil => rfl
    | cons r rest ih =>
      have here : hasClass className r.tag = false := ShownRow.hasClass_unflagged unflagged
      simp [body, here, own, ih]
  rw [Nodes.lacks_iff_first?]
  rcases List.mem_pair.mp listed with rfl | rfl <;>
    simp [block, table, headings, rows, hasClass, aloneClasses, tableClasses]

theorem firstUnder?_pagelink :
    f.inside.firstUnder? (hasClass "pagelink") (isNamed "a") = f.pages.first? (isNamed "a") := by
  have table : f.block.firstUnder? (hasClass "pagelink") (isNamed "a") = none :=
    (f.lacks_block (by decide)).firstUnder?
  have newTopic : f.newTopic.firstUnder? (hasClass "pagelink") (isNamed "a") = none := by
    unfold newTopic
    split <;> simp [hasClass]
  simp [inside, ShownTopic.header, links, hasClass, aloneClasses, tableClasses, table, newTopic, isNamed, Tag.hasName]

theorem firstUnder?_postlink :
    f.inside.firstUnder? (hasClass "postlink") (isNamed "a") = f.newTopic.first? (isNamed "a") := by
  have table : f.block.firstUnder? (hasClass "postlink") (isNamed "a") = none :=
    (f.lacks_block (by decide)).firstUnder?
  have newTopic : f.newTopic.firstUnder? (hasClass "postlink") (isNamed "a") = f.newTopic.first? (isNamed "a") := by
    unfold newTopic
    split <;> simp [hasClass, isNamed, Tag.hasName]
  have pages : f.pages.firstUnder? (hasClass "postlink") (isNamed "a") = none := by
    unfold pages
    split <;> simp [hasClass]
  simp [inside, ShownTopic.header, links, hasClass, aloneClasses, tableClasses, table, newTopic, pages]

variable {f} (short : ∀ id ∈ f.id, Text.Short id)

theorem outside {className : String} (other : className ≠ "pun") :
    (f.board.tag :: f.board.above).any (hasClass className) = false :=
  ShownTopic.any_framed (by simp [board, tag, hasClass, aloneClasses, other])

include short

/-- The link to a second page has the number of the forum, or the word for none. -/
theorem linkInt?_page (inside : Nodes) (above : List Tag) :
    linkInt? ⟨⟨"a", [("href", f.pageAddress)]⟩, inside, above⟩ "id" = f.id := by
  unfold pageAddress
  split
  · next id known => rw [known, linkInt?_address (short id known) (by decide)]
  · next unknown =>
    rw [unknown]
    change Link.int? "viewforum.php?id=None&p=2".toList "id".toList = none
    decide +kernel

theorem findUnder?_page : (f.board.findUnder? (hasClass "pagelink") (isNamed "a")).bind (linkInt? · "id") =
    if f.paged then f.id else none := by
  have pagelink := f.firstUnder?_pagelink
  cases paged : f.paged with
  | true =>
    rw [pages, if_pos paged] at pagelink
    obtain ⟨_, found⟩ := Element.findUnder?_of_first? (e := f.board) (outside (by decide)) pagelink
    rw [found, Option.bind_some, linkInt?_page short, if_pos rfl]
  | false =>
    rw [pages, if_neg (by simp [paged])] at pagelink
    rw [Element.findUnder?_of_none (e := f.board) (outside (by decide)) pagelink, Option.bind_none, if_neg (by simp)]

theorem containerId?_board : containerId? f.board "fid" = f.id := by
  have postlink := f.firstUnder?_postlink
  have page := findUnder?_page short
  cases known : f.id with
  | none =>
    rw [newTopic, known] at postlink
    rw [known, ite_self] at page
    exact containerId?_unlinked page (Element.findUnder?_of_none (outside (by decide)) postlink)
  | some id =>
    rw [known] at page
    cases paged : f.paged with
    | true => exact containerId?_paged (by rw [page, if_pos paged])
    | false =>
      rw [newTopic, known] at postlink
      obtain ⟨_, found⟩ := Element.findUnder?_of_first? (e := f.board) (outside (by decide)) postlink
      exact containerId?_linked (by rw [page, if_neg (by simp [paged])]) rfl found
        (linkInt?_address (short id known) (by decide))

end ShownForum

theorem ShownForum.document?_eq_some {f : ShownForum} {document : Element} (drawn : f.document? = some document) :
    (∀ i ∈ f.numbers, Text.Short i) ∧ f.document = document :=
  Option.ite_none_right_eq_some.mp drawn |>.imp_right Option.some.inj

theorem listingItems_board {f : ShownForum} (written : ∀ r ∈ f.rows, r.Written) (short : ∀ id ∈ f.id, Text.Short id) :
    listingItems Date.defaultFormat f.board = .ok f.items := by
  have unmoved (r : ShownRow) (above : List Tag) : isMoved (r.row above) = r.flags.contains .moved :=
    ShownRow.hasClass_flag .moved
  have kept : (contentRows f.board).filter (!isMoved ·) =
      (f.rows.filter (!·.flags.contains .moved)).map (·.row ShownForum.tableTags) := by
    rw [f.contentRows_board, List.filter_map]
    congr 2
    funext r
    exact congrArg (!·) (unmoved r _)
  unfold listingItems
  rw [kept, ShownForum.containerId?_board short, ShownForum.items, List.mapM_map]
  refine (mapM_congr fun r member => ?_).trans List.mapM_pure
  have row := topic_row (written r (List.mem_of_mem_filter member)) ShownForum.tableTags (f.id.getD 0)
  rw [Function.comp_apply, row]
  rfl

/-- The topics of a forum are read from its page as they were laid out, in order and without those that were moved to
another forum. Their forum is number 0 if the page has no number. -/
theorem items_forum_document (f : ShownForum) (valid : ∀ r ∈ f.rows, r.Valid) {document : Element}
    (drawn : f.document? = some document) :
    items Date.defaultFormat document = .ok f.items ∧
    ∀ page, load page = .ok document → extract Date.defaultFormat page = .ok f.items := by
  obtain ⟨short, rfl⟩ := ShownForum.document?_eq_some drawn
  have written (r : ShownRow) (member : r ∈ f.rows) : r.Written :=
    ⟨valid r member, fun i listed => short i (List.mem_append_right _ (List.mem_flatMap_of_mem member listed))⟩
  have number (id : Int) (shown : id ∈ f.id) : Text.Short id :=
    short id (List.mem_append_left _ (Option.mem_toList.mpr shown))
  have kind : (f.board.tag.value? "id").bind Kind.ofName? = some .listing := rfl
  have found : f.document.find? isBoard = some f.board :=
    ShownTopic.find?_framed (by simp [isBoard, ShownForum.tag, aloneClasses]) f.inside
  have read : items Date.defaultFormat f.document = .ok f.items := by
    unfold items
    simp only [found, kind]
    exact listingItems_board written number
  refine ⟨read, fun page loaded => ?_⟩
  simp only [extract, loaded, read]

/-- A topic whose poster is named "by Al", and one that was moved away. -/
theorem items_forum_document_pair :
    let posted : Date.Moment := ⟨⟨2008, 1, 3⟩, 11, 0, 0⟩
    let f : ShownForum := {
      id := some 5, paged := false
      rows := [⟨7, "Hello there", "by Al", 3, 1200, -13, posted, "Some One", [.sticky, .closed]⟩,
        ⟨8, "Gone", "Al", 0, 0, 12, posted, "Al", [.moved]⟩] }
    (∀ r ∈ f.rows, r.Valid) ∧ f.document? = some f.document ∧ items Date.defaultFormat f.document = .ok [
      .record (.topic {
        id := 7, poster := "by Al", subject := "Hello there", replies := 3, views := 1200, closed := true, sticky := true,
        lastPosted := 1199358000, lastPost := -13, lastPoster := some "Some One", forum := 5 })] := by
  intro posted f
  have moment : posted.Valid := ⟨by decide, by decide, by decide, by decide⟩
  have valid : ∀ r ∈ f.rows, r.Valid := by
    refine List.forall_mem_cons.mpr ⟨?_, List.forall_mem_singleton.mpr ?_⟩
    · exact ⟨by decide, by decide, by decide, by decide, by decide, moment⟩
    · exact ⟨by decide, by decide, by decide, by decide, by decide, moment⟩
  have drawn : f.document? = some f.document := if_pos (by decide)
  refine ⟨valid, drawn, (items_forum_document f valid drawn).1.trans (congrArg Except.ok ?_)⟩
  decide +kernel

end BoardMigration.Page
