import BoardMigration.Proofs.Page.Comments
import BoardMigration.Proofs.Page.Forums

/-! Comments in descriptions. What stands directly in the cell of a forum describes it, comments included,
so a page gives other records without its comments just if a description has words from a comment. -/
namespace BoardMigration.Page

open Html

/-- A find without what describes it. -/
def undescribed : Item → Item
  | .record (.forum f) => .record (.forum { f with description := none })
  | item => item

/-- A cell on an index that describes a forum. -/
inductive Described (format : String) (board : Element) : Element → Prop where
  | cell {block row found : Element} {i j : Nat} {c : Category} {f : Forum}
    (block_at : (block, i) ∈ (board.select (hasClass "blocktable")).zipIdx)
    (named : category block i = .ok c) (row_at : (row, j) ∈ (contentRows block).zipIdx)
    (read : forum row format j c = .ok f) (cell : row.find? (hasClass "tclcon") = some found) :
    Described format board found

/-- Whether no forum of a page has a description with words from a comment. -/
def Unremarked (format : String) (document : Element) : Prop :=
  ∀ board items, document.find? isBoard = some board →
    (board.tag.value? "id").bind Kind.ofName? = some .index → Page.items format document = .ok items →
    ∀ cell, Described format board cell → ∀ comment ∈ cell.inside.ownComments, Text.isBlankText comment = true

/-- A forum with the description that a row has. -/
def withDescription (row : Element) (f : Forum) : Forum :=
  { f with description := (row.find? (hasClass "tclcon")).bind Element.ownText? }

@[simp] theorem category_uncommented (block : Element) (position : Nat) :
    category block.uncommented position = category block position := by
  unfold category
  rw [Element.find?_uncommented]
  cases block.find? (isNamed "h2") with
  | none => rfl
  | some heading => simp only [Option.map_some, Element.text_uncommented]

variable {row : Element} {format : String} {position : Nat} {c : Category}

theorem redirectForum_uncommented (heading : Option Element) (target : String) :
    redirectForum row.uncommented (heading.map Element.uncommented) target position c =
      (redirectForum row heading target position c).map (withDescription row.uncommented) := by
  cases heading with
  | none => rfl
  | some heading =>
    simp only [redirectForum, Option.map_some, Element.text_uncommented]
    rfl

theorem plainForum_uncommented (heading : Option Element) (link : Element) :
    plainForum row.uncommented (heading.map Element.uncommented) link.uncommented format position c =
      (plainForum row heading link format position c).map (withDescription row.uncommented) := by
  unfold plainForum
  rw [linkInt?_uncommented]
  cases linkInt? link "id" with
  | none => rfl
  | some id =>
    cases heading with
    | none => rfl
    | some heading =>
      simp only [Option.map_some, Element.find?_uncommented, Element.text_uncommented,
        intCell_uncommented, lastPost?_uncommented]
      cases lastPost? (row.find? (hasClass "tcr")) format s!"forum {id}" with
      | error failure => rfl
      | ok last =>
        cases intCell (row.find? (hasClass "tc2")) s!"number of topics in forum {id}" with
        | error failure => rfl
        | ok topics =>
          cases intCell (row.find? (hasClass "tc3")) s!"number of posts in forum {id}" with
          | error failure => rfl
          | ok posts => simp [withDescription, Except.map, bind, Except.bind, pure, Except.pure]

/-- A forum read without comments is the same but for its description. -/
theorem forum_uncommented (row : Element) (format : String) (position : Nat) (c : Category) :
    forum row.uncommented format position c =
      (forum row format position c).map (withDescription row.uncommented) := by
  unfold forum
  simp only [Element.find?_uncommented, Element.tag_uncommented, Option.getD_map]
  cases ((row.find? (isNamed "h3")).getD row).find? (isNamed "a") with
  | none => rfl
  | some link =>
    by_cases empty : (link.tag.value "href").isEmpty = true
    · simp [empty, Except.map]
    · by_cases redirects : row.tag.hasClass "iredirect" = true
      · simp [empty, redirects, redirectForum_uncommented]
      · simp [empty, redirects, plainForum_uncommented]

/-- The description of a forum is the text directly in its cell. -/
theorem described_forum {f : Forum} (read : forum row format position c = .ok f) : withDescription row f = f := by
  cases forumOf_forum read <;> rfl

/-- A forum read without comments is the same just if its description has no words from one. -/
theorem described_uncommented_iff {f : Forum} (read : forum row format position c = .ok f) :
    withDescription row.uncommented f = f ↔ ∀ cell, row.find? (hasClass "tclcon") = some cell →
      ∀ comment ∈ cell.inside.ownComments, Text.isBlankText comment = true := by
  have whole : f.description = (row.find? (hasClass "tclcon")).bind Element.ownText? := by
    rw [← described_forum read]
    rfl
  have same : withDescription row.uncommented f = f ↔
      (row.uncommented.find? (hasClass "tclcon")).bind Element.ownText? = f.description := by
    constructor
    · intro same
      exact congrArg Forum.description same
    · intro same
      rw [withDescription, same]
  rw [same, whole, Element.find?_uncommented]
  cases row.find? (hasClass "tclcon") with
  | none => simp
  | some cell => simp [Element.ownText?_uncommented_iff]

/-- An element and its place, without the comments in it. -/
def bare (placed : Element × Nat) : Element × Nat := (placed.1.uncommented, placed.2)

def rowItem (format : String) (c : Category) (row : Element × Nat) : Except ExtractError Item :=
  asItem ((forum row.1 format row.2 c).map .forum)

/-- Finds in the order of an index. -/
def redirectsLast (items : List Item) : List Item :=
  items.filter (!isRedirectItem ·) ++ items.filter isRedirectItem

theorem blockItems_eq {block : Element} (named : category block position = .ok c) :
    blockItems format block position =
      ((contentRows block).zipIdx.mapM (rowItem format c)).map (.record (.category c) :: ·) := by
  unfold blockItems
  rw [named]
  rfl

theorem indexItems_eq (format : String) (board : Element) : indexItems format board =
    ((board.select (hasClass "blocktable")).zipIdx.mapM fun block => blockItems format block.1 block.2).map
      fun blocks => redirectsLast blocks.flatten := rfl

theorem blockItems_uncommented {block : Element} (named : category block position = .ok c) :
    blockItems format block.uncommented position =
      ((contentRows block).zipIdx.mapM (rowItem format c ∘ bare)).map (.record (.category c) :: ·) := by
  rw [blockItems_eq ((category_uncommented block position).trans named), contentRows_uncommented,
    List.zipIdx_map, List.mapM_map]
  rfl

theorem indexItems_uncommented (format : String) (board : Element) :
    indexItems format board.uncommented =
      ((board.select (hasClass "blocktable")).zipIdx.mapM fun block =>
        blockItems format block.1.uncommented block.2).map fun blocks => redirectsLast blocks.flatten := by
  rw [indexItems_eq, Element.select_uncommented, List.zipIdx_map, List.mapM_map]
  rfl

theorem undescribed_row (format : String) (c : Category) (row : Element × Nat) :
    (rowItem format c (bare row)).map undescribed = (rowItem format c row).map undescribed := by
  unfold rowItem bare
  rw [forum_uncommented]
  cases forum row.1 format row.2 c with
  | ok f => rfl
  | error failure => rfl

theorem undescribed_block (format : String) (block : Element) (position : Nat) :
    (blockItems format block.uncommented position).map (List.map undescribed) =
      (blockItems format block position).map (List.map undescribed) := by
  cases named : category block position with
  | error failure =>
    unfold blockItems
    rw [category_uncommented, named]
  | ok c =>
    have rows := map_mapM (f := rowItem format c ∘ bare) (undescribed_row format c) (contentRows block).zipIdx
    rw [blockItems_uncommented named, blockItems_eq named]
    exact map_map_congr rows fun items others alike => by rw [List.map_cons, List.map_cons, alike]

theorem isRedirectItem_undescribed (item : Item) : isRedirectItem (undescribed item) = isRedirectItem item := by
  unfold undescribed
  split <;> rfl

theorem map_redirectsLast (items : List Item) :
    (redirectsLast items).map undescribed = redirectsLast (items.map undescribed) := by
  simp [redirectsLast, List.filter_map, Function.comp_def, isRedirectItem_undescribed]

theorem undescribed_index (format : String) (board : Element) :
    (indexItems format board.uncommented).map (List.map undescribed) =
      (indexItems format board).map (List.map undescribed) := by
  have blocks := map_mapM (f := fun (block : Element × Nat) => blockItems format block.1.uncommented block.2)
    (fun block => undescribed_block format block.1 block.2) (board.select (hasClass "blocktable")).zipIdx
  rw [indexItems_uncommented, indexItems_eq]
  exact map_map_congr blocks fun items others alike => by
    rw [map_redirectsLast, map_redirectsLast, List.map_flatten, List.map_flatten, alike]

/-- The order of an index hides no difference. -/
theorem redirectsLast_inj {items others : List Item} (alike : items.map undescribed = others.map undescribed)
    (same : redirectsLast items = redirectsLast others) : items = others := by
  have lengths (p : Item → Bool) (apart : ∀ item, p (undescribed item) = p item) :
      (items.filter p).length = (others.filter p).length := by
    have filtered := congrArg (List.filter p) alike
    rw [List.filter_map, List.filter_map] at filtered
    simpa [Function.comp_def, apart] using congrArg List.length filtered
  obtain ⟨plain, redirects⟩ := List.append_inj same (lengths (!isRedirectItem ·)
    (by simp [isRedirectItem_undescribed]))
  clear same lengths
  induction items generalizing others with
  | nil => exact (List.map_eq_nil_iff.mp alike.symm).symm
  | cons item rest ih =>
    obtain ⟨other, more, rfl, here, behind⟩ := List.map_eq_cons_iff.mp alike.symm
    have kind : isRedirectItem other = isRedirectItem item := by
      rw [← isRedirectItem_undescribed, here, isRedirectItem_undescribed]
    cases redirect : isRedirectItem item with
    | true =>
      simp only [List.filter_cons, kind, redirect, Bool.not_true, Bool.false_eq_true, ↓reduceIte,
        List.cons.injEq] at plain redirects
      rw [redirects.1, ih behind.symm plain redirects.2]
    | false =>
      simp only [List.filter_cons, kind, redirect, Bool.not_false, Bool.false_eq_true, ↓reduceIte,
        List.cons.injEq] at plain redirects
      rw [plain.1, ih behind.symm plain.2 redirects]

theorem row_uncommented_iff (format : String) (c : Category) (row : Element × Nat) :
    rowItem format c (bare row) = rowItem format c row ↔
      ∀ f, forum row.1 format row.2 c = .ok f → withDescription row.1.uncommented f = f := by
  unfold rowItem bare
  rw [forum_uncommented]
  cases forum row.1 format row.2 c with
  | error failure => simp [Except.map]
  | ok f => simp [Except.map, asItem]

theorem block_uncommented_iff {block : Element} {items : List Item}
    (read : blockItems format block position = .ok items) :
    blockItems format block.uncommented position = blockItems format block position ↔
      ∀ c, category block position = .ok c → ∀ row ∈ (contentRows block).zipIdx,
        rowItem format c (bare row) = rowItem format c row := by
  cases named : category block position with
  | error failure => simp [blockItems, named]
  | ok c =>
    rw [blockItems_eq named] at read
    rw [blockItems_uncommented named, blockItems_eq named]
    cases rows : (contentRows block).zipIdx.mapM (rowItem format c) with
    | error failure =>
      rw [rows] at read
      cases read
    | ok found =>
      have same := mapM_eq_iff (f := rowItem format c ∘ bare) rows
      rw [rows] at same
      simp only [Except.ok.injEq, forall_eq']
      refine Iff.trans ?_ same
      cases (contentRows block).zipIdx.mapM (rowItem format c ∘ bare) <;> simp [Except.map]

theorem index_uncommented_iff {board : Element} {items : List Item}
    (read : indexItems format board = .ok items) :
    indexItems format board.uncommented = indexItems format board ↔
      ∀ block ∈ (board.select (hasClass "blocktable")).zipIdx,
        blockItems format block.1.uncommented block.2 = blockItems format block.1 block.2 := by
  have alike := map_mapM (f := fun (block : Element × Nat) => blockItems format block.1.uncommented block.2)
    (fun block => undescribed_block format block.1 block.2) (board.select (hasClass "blocktable")).zipIdx
  rw [indexItems_eq] at read
  rw [indexItems_uncommented, indexItems_eq]
  cases blocks : (board.select (hasClass "blocktable")).zipIdx.mapM fun block =>
      blockItems format block.1 block.2 with
  | error failure =>
    rw [blocks] at read
    cases read
  | ok found =>
    rw [← mapM_eq_iff blocks]
    rw [blocks] at alike ⊢
    cases others : (board.select (hasClass "blocktable")).zipIdx.mapM fun block =>
        blockItems format block.1.uncommented block.2 with
    | error failure => simp [Except.map]
    | ok bare =>
      rw [others] at alike
      have views : bare.map (List.map undescribed) = found.map (List.map undescribed) := Except.ok.inj alike
      simp only [Except.map, Except.ok.injEq]
      refine ⟨fun same => ?_, fun same => by rw [same]⟩
      have flat : bare.flatten = found.flatten :=
        redirectsLast_inj (by rw [List.map_flatten, List.map_flatten, views]) same
      have sizes : bare.map List.length = found.map List.length := by
        simpa [Function.comp_def] using congrArg (List.map List.length) views
      exact List.eq_iff_flatten_eq.mpr ⟨flat, sizes⟩

/-- An index is the same without its comments just if none adds words to a description. -/
theorem index_unremarked_iff {board : Element} {items : List Item}
    (read : indexItems format board = .ok items) :
    indexItems format board.uncommented = indexItems format board ↔
      ∀ cell, Described format board cell →
        ∀ comment ∈ cell.inside.ownComments, Text.isBlankText comment = true := by
  rw [index_uncommented_iff read]
  have readBlock (block : Element × Nat) (member : block ∈ (board.select (hasClass "blocktable")).zipIdx) :
      ∃ found, blockItems format block.1 block.2 = .ok found := by
    obtain ⟨blocks, done, -⟩ := bind_ok read
    obtain ⟨found, -, done⟩ := exists_of_mem_left (mapM_ok done) member
    exact ⟨found, done⟩
  constructor
  · rintro same _ ⟨block_at, named, row_at, forumRead, cell⟩
    obtain ⟨found, done⟩ := readBlock _ block_at
    have rows := (block_uncommented_iff done).mp (same _ block_at) _ named _ row_at
    have whole := (row_uncommented_iff format _ _).mp rows _ forumRead
    exact (described_uncommented_iff forumRead).mp whole _ cell
  · intro blank block block_at
    obtain ⟨found, done⟩ := readBlock block block_at
    rw [block_uncommented_iff done]
    intro c named row row_at
    rw [row_uncommented_iff]
    intro f forumRead
    rw [described_uncommented_iff forumRead]
    intro cell found
    exact blank cell (.cell block_at named row_at forumRead found)

theorem undescribed_items (format : String) (document : Element) :
    (Page.items format document.uncommented).map (List.map undescribed) =
      (Page.items format document).map (List.map undescribed) := by
  unfold Page.items
  rw [Element.find?_uncommented]
  cases document.find? isBoard with
  | none => rfl
  | some board =>
    simp only [Option.map_some, Element.tag_uncommented]
    cases (board.tag.value? "id").bind Kind.ofName? with
    | none => rfl
    | some kind =>
      cases kind with
      | index => exact undescribed_index format board
      | listing => simp only [listing_uncommented]
      | thread => simp only [thread_uncommented]

theorem items_of_index {format : String} {document board : Element} (first : document.find? isBoard = some board)
    (index : (board.tag.value? "id").bind Kind.ofName? = some .index) :
    Page.items format document = indexItems format board := by
  unfold Page.items
  simp only [first, index]

/-- Without comments a page gives the same but for an index with words from comments. -/
theorem items_uncommented_iff (format : String) (document : Element) :
    Page.items format document.uncommented = Page.items format document ↔ Unremarked format document := by
  have alike := undescribed_items format document
  by_cases index : ∃ board items, document.find? isBoard = some board ∧
      (board.tag.value? "id").bind Kind.ofName? = some .index ∧ Page.items format document = .ok items
  · obtain ⟨board, items, first, known, read⟩ := index
    have bare : document.uncommented.find? isBoard = some board.uncommented := by
      rw [Element.find?_uncommented, first]
      rfl
    rw [items_of_index first known] at read
    rw [items_of_index bare known, items_of_index first known, index_unremarked_iff read]
    constructor
    · intro blank found _ here _ _
      obtain rfl := Option.some.inj (first.symm.trans here)
      exact blank
    · intro unremarked
      exact unremarked board items first known ((items_of_index first known).trans read)
  · refine iff_of_true ?_ fun board items first known read =>
      absurd ⟨board, items, first, known, read⟩ index
    cases read : Page.items format document with
    | error error =>
      rw [read] at alike
      cases bare : Page.items format document.uncommented with
      | error other =>
        rw [bare] at alike
        exact congrArg Except.error (Except.error.inj alike)
      | ok items =>
        rw [bare] at alike
        cases alike
    | ok items =>
      rw [← read]
      unfold Page.items
      rw [Element.find?_uncommented]
      cases first : document.find? isBoard with
      | none => rfl
      | some board =>
        cases known : (board.tag.value? "id").bind Kind.ofName? with
        | none => simp [known]
        | some kind =>
          cases kind with
          | index => exact absurd ⟨board, items, first, known, read⟩ index
          | listing => simp [known, listing_uncommented]
          | thread => simp [known, thread_uncommented]

theorem contentRows_cleared {e less : Element} (cleared : e.Cleared less) :
    List.Forall₂ Element.Cleared (contentRows e) (contentRows less) := by
  apply List.rel_filter _ (cleared.select (isNamed "tr"))
  intro row left related
  simp only [related.isSome_find?]

theorem forum_cleared {less : Element} {f : Forum} (cleared : row.Cleared less)
    (read : forum less format position c = .ok f) : ∃ whole, forum row format position c = .ok whole := by
  have alike := forum_uncommented row format position c
  rw [← cleared.uncommented, forum_uncommented] at alike
  exact ok_of_map_eq alike read

/-- A cell that describes a forum is what is left of one that did so before. -/
theorem Described.cleared {format : String} {board less cell : Element} (cleared : board.Cleared less)
    (described : Described format less cell) :
    ∃ whole, Described format board whole ∧ whole.Cleared cell := by
  obtain ⟨block_at, named, row_at, read, found⟩ := described
  obtain ⟨⟨block, i⟩, at_block, left, rfl⟩ :=
    exists_of_mem_right (forall₂_zipIdx (cleared.select (hasClass "blocktable")) 0) block_at
  obtain ⟨⟨row, j⟩, at_row, leftRow, rfl⟩ :=
    exists_of_mem_right (forall₂_zipIdx (contentRows_cleared left) 0) row_at
  rw [← category_uncommented, left.uncommented, category_uncommented] at named
  obtain ⟨f, was⟩ := forum_cleared leftRow read
  obtain ⟨whole, here, had⟩ := leftRow.find? _ found
  exact ⟨whole, .cell at_block named at_row was here, had⟩

theorem Unremarked.cleared {format : String} {document less : Element} (unremarked : Unremarked format document)
    (cleared : document.Cleared less) : Unremarked format less := by
  intro board items first known read cell described comment member
  obtain ⟨whole, found, left⟩ := cleared.find? isBoard first
  obtain ⟨cell, was, had⟩ := described.cleared left
  have alike := undescribed_items format less
  rw [cleared.uncommented, undescribed_items] at alike
  obtain ⟨items, done⟩ := ok_of_map_eq alike.symm read
  exact unremarked whole items found (by cases left; exact known) done cell was comment
    (had.ownComments member)

/-- Comments on a page change no record but by adding words to the description of a forum. -/
theorem items_comments (format : String) (document : Element) :
    (∀ less, document.Cleared less →
      (Page.items format less).map (List.map undescribed) =
        (Page.items format document).map (List.map undescribed)) ∧
    ((∀ less, document.Cleared less → Page.items format less = Page.items format document) ↔
      Unremarked format document) := by
  constructor
  · intro less cleared
    rw [← undescribed_items, cleared.uncommented, undescribed_items]
  · constructor
    · intro same
      exact (items_uncommented_iff format document).mp (same _ document.cleared_uncommented)
    · intro unremarked less cleared
      calc Page.items format less
          = Page.items format less.uncommented :=
            ((items_uncommented_iff format less).mpr (unremarked.cleared cleared)).symm
        _ = Page.items format document.uncommented := by rw [cleared.uncommented]
        _ = Page.items format document := (items_uncommented_iff format document).mpr unremarked

/-- A comment beside the link to a forum describes the forum. -/
theorem items_commented :
    let text (content : String) : Nodes := .text .plain content .nil
    let cell (name : String) (inside next : Nodes) : Nodes :=
      .element ⟨"td", [("class", name)]⟩ inside next
    let page (aside : Nodes) : Element := ⟨⟨"[document]", []⟩,
      .element ⟨"div", [("id", "punindex"), ("class", "pun")]⟩
        (.element ⟨"div", [("class", "blocktable")]⟩
          (.element ⟨"h2", []⟩ (text "General")
            (.element ⟨"tr", []⟩
              (cell "tclcon"
                (.element ⟨"h3", []⟩
                  (.element ⟨"a", [("href", "viewforum.php?id=1")]⟩ (text "News") .nil) aside)
                (cell "tc2" (text "3") (cell "tc3" (text "7") .nil)))
              .nil)) .nil) .nil, []⟩
    let commented := page (.text .comment " hidden " .nil)
    commented.Cleared (page .nil) ∧
      Page.items Date.defaultFormat commented ≠ Page.items Date.defaultFormat (page .nil) := by
  intro text cell page commented
  exact ⟨commented.cleared_uncommented, by decide +kernel⟩

end BoardMigration.Page
