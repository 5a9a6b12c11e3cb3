import BoardMigration.Proofs.Link
import BoardMigration.Proofs.Page.LayoutFinds

/-! Laying out a topic and reading the page again gives back what was laid out. -/
namespace BoardMigration.Page

open Html Layout

/-- The classes by which the parts of a page are found. -/
def layoutClasses : List String := ["pun", "blockpost", "pagelink", "postlink", "usertitle", "postavatar",
  "postmsg", "postedit", "postsignature"]

/-- A post that a page can show: names are single words or words with one space between them, and messages and
signatures do not look like parts of the page. -/
structure ShownPost.Valid (p : ShownPost) : Prop where
  poster : Text.collapse p.poster.toList = p.poster.toList
  title : Text.collapse p.title.toList = p.title.toList
  posted : p.posted.Valid
  free : ∀ className ∈ layoutClasses, p.Free className

/-- A post whose numbers can be written, too. -/
structure ShownPost.Written (p : ShownPost) : Prop extends p.Valid where
  id : Text.Short p.id
  posterId : ∀ id ∈ p.posterId, Text.Short id

theorem ShownTopic.document?_eq_some {t : ShownTopic} {document : Element} (drawn : t.document? = some document) :
    (∀ i ∈ t.numbers, Text.Short i) ∧ t.document = document :=
  Option.ite_none_right_eq_some.mp drawn |>.imp_right Option.some.inj

theorem ShownTopic.written {t : ShownTopic} (valid : ∀ p ∈ t.posts, p.Valid) (short : ∀ i ∈ t.numbers, Text.Short i) :
    ∀ p ∈ t.posts, p.Written := by
  intro p member
  have own (i : Int) (listed : i ∈ p.id :: p.posterId.toList) : Text.Short i :=
    short i (List.mem_append_right _ (List.mem_flatMap_of_mem member listed))
  exact ⟨valid p member, own p.id List.mem_cons_self,
    fun id shown => own id (List.mem_cons_of_mem _ (Option.mem_toList.mpr shown))⟩

theorem text_of_gather {e : Element} {content : String} (gathered : e.rawText = content.toList)
    (normal : Text.collapse content.toList = content.toList) : e.text = content := by
  rw [Element.text, gathered, normal, String.ofList_toList]

@[simp] theorem gather_given {accept : TextKind → Bool} (plain : accept .plain = true) (content : String) :
    (given content).gather accept = content.toList := by
  unfold given
  split
  · next empty => rw [empty]; rfl
  · simp [Nodes.gather, plain]

theorem linkInt?_address {page field rest : String} {i : Int} {inside : Nodes} {above : List Tag}
    (short : Text.Short i) (framed : Link.frames page.toList field.toList rest.toList = true) :
    linkInt? ⟨⟨"a", [("href", address page field i rest)]⟩, inside, above⟩ field = some i := by
  have read := Link.int?_first short framed
  have href : (address page field i rest).toList =
      page.toList ++ '?' :: (field.toList ++ '=' :: (toString i).toList ++ rest.toList) := by
    simp only [address, String.toList_append, List.append_assoc]
    rfl
  rw [← href] at read
  exact read

/-- A number in the query is read whatever fragment is behind it. -/
theorem linkInt?_fragment {page field fragment : String} {i : Int} {rest : List Char} {inside : Nodes}
    {above : List Tag} (short : Text.Short i) (framed : Link.frames page.toList field.toList [] = true)
    (apart : fragment.toList = '#' :: rest) :
    linkInt? ⟨⟨"a", [("href", address page field i fragment)]⟩, inside, above⟩ field = some i := by
  have read : linkInt? ⟨⟨"a", [("href", address page field i "")]⟩, inside, above⟩ field = some i :=
    linkInt?_address short framed
  have href : (address page field i fragment).toList = (address page field i "").toList ++ '#' :: rest := by
    simp [address, apart]
  have same : (Tag.value ⟨"a", [("href", address page field i fragment)]⟩ "href").toList =
      (Tag.value ⟨"a", [("href", address page field i "")]⟩ "href").toList ++ '#' :: rest := href
  rwa [linkInt?, same, Link.int?_fragment]

theorem collapse_moment (m : Date.Moment) : Text.collapse m.text.toList = m.text.toList := by
  rw [Date.Moment.text, String.toList_ofList, Date.Moment.collapse_chars]

theorem eraseFirst_of_lacks {q : Tag → Bool} {nodes : Nodes} (lacks : nodes.Lacks q) :
    nodes.eraseFirst q = none := by
  induction nodes with
  | nil => rfl
  | text kind content next ih => simp [Nodes.eraseFirst, ih lacks]
  | element tag inside next ihInside ihNext =>
    obtain ⟨here, within, behind⟩ := lacks
    simp [Nodes.eraseFirst, here, ihInside within, ihNext behind]

/-- Without an edit note the message is as it was. -/
theorem modifyFirst_of_lacks {nodes changed : Nodes} (lacks : nodes.Lacks isEditNote)
    (done : nodes.modifyFirst isMessage (fun message => (message.eraseFirst isEditNote).getD message) = some changed) :
    changed = nodes := by
  induction nodes generalizing changed with
  | nil => cases done
  | text kind content next ih =>
    obtain ⟨rest, found, rfl⟩ := Option.map_eq_some_iff.mp done
    rw [ih lacks found]
  | element tag inside next ihInside ihNext =>
    obtain ⟨-, within, behind⟩ := lacks
    rw [Nodes.modifyFirst] at done
    split at done
    · obtain rfl := Option.some.inj done
      rw [eraseFirst_of_lacks within]
      rfl
    · split at done
      · next other found =>
        obtain rfl := Option.some.inj done
        rw [ihInside within found]
      · obtain ⟨rest, found, rfl⟩ := Option.map_eq_some_iff.mp done
        rw [ihNext behind found]

/-- Without an edit note nothing is taken out. -/
theorem withoutNote_of_lacks {nodes : Nodes} (lacks : nodes.Lacks isEditNote) : withoutNote nodes = nodes := by
  unfold withoutNote
  cases done : nodes.modifyFirst isMessage fun message => (message.eraseFirst isEditNote).getD message with
  | none => rfl
  | some changed => exact modifyFirst_of_lacks lacks done

theorem hasSmilies_eq (e : Element) : BBCode.hasSmilies e =
    (e.inside.first? fun tag => tag.name == "img" && !BBCode.isPicture tag).isSome := by
  rw [← Element.isSome_find?, Element.find?, List.isSome_find?]
  rfl

section Post

variable {p : ShownPost} (valid : p.Written) (above : List Tag)

/-- The block of a post on a page. -/
def ShownPost.block (p : ShownPost) (above : List Tag) : Element := ⟨p.tag, p.inside, above⟩

/-- The element that names the poster. -/
def ShownPost.posterElement (p : ShownPost) (above : List Tag) : Element :=
  ⟨⟨"dt", []⟩, unclassed "strong" p.name .nil, above⟩

theorem find?_poster : ∃ around, (p.block above).find? isPoster = some (p.posterElement around) :=
  Element.find?_of_first? (e := p.block above) p.first?_poster

theorem find?_guest (guest : p.posterId = none) : (p.posterElement above).find? (isNamed "a") = none := by
  apply Element.find?_of_none
  simp [ShownPost.posterElement, ShownPost.name, guest, isNamed, Tag.hasName]

theorem find?_date (clear : above.any (isNamed "h2") = false) :
    ∃ link, (p.block above).findUnder? (isNamed "h2") (isNamed "a") = some link ∧ link.text = p.posted.text := by
  obtain ⟨around, found⟩ := Element.findUnder?_of_first? (e := p.block above) (by rwa [List.any_cons]) p.firstUnder?_date
  refine ⟨_, found, ?_⟩
  have shown (href : String) : TextKind.shownIn ⟨"a", [("href", href)]⟩ .plain = true := rfl
  refine text_of_gather ?_ (collapse_moment p.posted)
  simp [Element.rawText, Nodes.gather, shown]

include valid

theorem text_poster : (p.posterElement above).text = p.poster := by
  refine text_of_gather ?_ valid.poster
  have shown : TextKind.shownIn ⟨"dt", []⟩ .plain = true := rfl
  rw [Element.rawText]
  unfold ShownPost.posterElement ShownPost.name
  split <;> simp [Nodes.gather, gather_given shown]

theorem find?_member {id : Int} (member : p.posterId = some id) :
    ∃ link, (p.posterElement above).find? (isNamed "a") = some link ∧ linkInt? link "id" = some id := by
  have first : (p.posterElement above).inside.first? (isNamed "a") =
      some (⟨"a", [("href", address "profile.php" "id" id "")]⟩, given p.poster) := by
    simp [ShownPost.posterElement, ShownPost.name, member, isNamed, Tag.hasName]
  obtain ⟨_, found⟩ := Element.find?_of_first? first
  exact ⟨_, found, linkInt?_address (valid.posterId id member) (by decide)⟩

theorem find?_title : ∃ title, (p.block above).find? (hasClass "usertitle") = some title ∧ title.text = p.title := by
  obtain ⟨around, found⟩ := Element.find?_of_first? (e := p.block above) p.first?_title
  refine ⟨_, found, text_of_gather ?_ valid.title⟩
  have shown : TextKind.shownIn ⟨"dd", [("class", "usertitle")]⟩ .plain = true := rfl
  simp [Element.rawText, Nodes.gather, gather_given shown]

theorem user?_block : user? (p.block above) = .ok (p.posterId.map p.user) := by
  obtain ⟨around, poster⟩ := find?_poster (p := p) above
  unfold user?
  simp only [poster]
  cases linked : p.posterId with
  | none =>
    simp only [find?_guest around linked]
    rfl
  | some id =>
    obtain ⟨link, found, number⟩ := find?_member valid around linked
    obtain ⟨title, titled, text⟩ := find?_title valid above
    have avatar : ((p.block above).find? (hasClass "postavatar")).isSome = p.avatar :=
      Element.isSome_find?.trans (valid.free "postavatar" (by decide)).avatar
    have signature : ((p.block above).find? (hasClass "postsignature")).map BBCode.ofElement =
        p.signature.map fun signature => BBCode.ofNodes (ShownPost.ruled signature) := by
      have signed := (Element.map_find? (hasClass "postsignature") (p.block above)).trans
        (valid.free "postsignature" (by decide)).signed
      have converted := congrArg (Option.map fun found => BBCode.ofNodes found.2) signed
      rw [Option.map_map, Option.map_map] at converted
      exact converted
    simp only [found, number, titled, text, text_poster valid, avatar, signature]
    rfl

theorem posterNumber_block (around : List Tag) (post : Int) :
    posterNumber (p.posterElement around) post = .ok (p.posterId.getD guestUser) := by
  unfold posterNumber
  cases linked : p.posterId with
  | none => rw [find?_guest around linked]; rfl
  | some id =>
    obtain ⟨link, found, number⟩ := find?_member valid around linked
    simp only [found, number]
    rfl

theorem lacks_inside {className : String} (listed : className ∈ layoutClasses)
    (other : aloneClasses.contains className = false) : p.inside.Lacks (hasClass className) :=
  Nodes.lacks_iff_first?.mpr ((valid.free className listed).inside other)

theorem unnoted_block : unnoted (p.block above) = p.block above := by
  have lacks : p.inside.Lacks isEditNote := lacks_inside valid (by decide) (by decide)
  rw [unnoted, ShownPost.block, withoutNote_of_lacks lacks]

theorem posterText_block (message : Element) : posterText (p.block above) message none = p.poster := by
  obtain ⟨around, poster⟩ := find?_poster (p := p) above
  rw [posterText, Option.any_none, if_neg Bool.false_ne_true, unnoted_block valid above, poster]
  exact text_poster valid around

/-- The head of a post without an edit note. -/
theorem postHead_block (format : String) : postHead (p.block above) format =
    .ok ⟨p.id, p.poster, p.posterId.getD guestUser, none, none, none⟩ := by
  obtain ⟨around, poster⟩ := find?_poster (p := p) above
  obtain ⟨inner, message⟩ := Element.find?_of_first? (e := p.block above) p.first?_message
  have unnoted : (⟨⟨"div", [("class", "postmsg")]⟩, p.message, inner⟩ : Element).find? isEditNote = none :=
    Element.find?_of_none (Nodes.lacks_iff_first?.mp (valid.free "postedit" (by decide)).message)
  have label : (p.block above).tag.value "id" = s!"p{p.id}" := rfl
  have chars : (s!"p{p.id}").toList = 'p' :: (toString p.id).toList := String.toList_append
  have filled : (s!"p{p.id}").isEmpty = false := by
    rw [← Bool.not_eq_true, String.isEmpty_iff, ← String.toList_inj, chars]
    exact List.cons_ne_nil _ _
  unfold postHead
  simp only [label, filled, chars, List.drop_succ_cons, List.drop_zero, Text.readInt?_toString valid.id, poster,
    posterNumber_block valid around, message, unnoted, posterText_block valid above]
  rfl

theorem settled_block (format : String) : settled (p.block above) format = p.block above := by
  unfold settled
  split
  · exact unnoted_block valid above
  · rfl

theorem postBody_block (clear : above.any (isNamed "h2") = false) (topic : Option Int) :
    postBody ⟨p.id, p.poster, p.posterId.getD guestUser, none, none, none⟩ (p.block above) Date.defaultFormat topic =
      .ok (p.post topic) := by
  obtain ⟨link, found, text⟩ := find?_date (p := p) above clear
  obtain ⟨_, message⟩ := Element.find?_of_first? (e := p.block above) p.first?_message
  unfold postBody
  simp only [found, Option.orElse, message, text, date_read (Date.Moment.read_text valid.posted), hasSmilies_eq]
  rw [ShownPost.post, hasSmilies_eq]
  rfl

theorem post_block (clear : above.any (isNamed "h2") = false) (topic : Option Int) :
    Page.post (p.block above) Date.defaultFormat topic = .ok (p.post topic) := by
  unfold Page.post
  rw [postHead_block valid above, settled_block valid above]
  exact postBody_block valid above clear topic

theorem postItems_block (clear : above.any (isNamed "h2") = false) (topic : Option Int) :
    postItems Date.defaultFormat topic (p.block above) = .ok (p.items topic) := by
  have unvanished : vanishes (p.block above) Date.defaultFormat = false :=
    vanishes_of_lacks (lacks_inside valid (by decide) (by decide))
  unfold postItems
  rw [user?_block valid above, post_block valid above clear topic, unvanished]
  unfold ShownPost.items
  cases p.posterId <;> rfl

end Post

section Topic

variable {t : ShownTopic} (valid : ∀ p ∈ t.posts, p.Valid)

include valid

theorem containerId?_board (short : ∀ id ∈ t.id, Text.Short id) : containerId? t.board "tid" = t.id := by
  have free {className : String} (listed : className ∈ layoutClasses) : t.Free className :=
    fun p member => (valid p member).free className listed
  have outside {className : String} (other : className ≠ "pun") :
      (t.board.tag :: t.board.above).any (hasClass className) = false :=
    ShownTopic.any_framed (by simp [ShownTopic.board, ShownTopic.tag, hasClass, aloneClasses, other])
  have pagelink := ShownTopic.firstUnder?_pagelink (free (by decide))
  have postlink := ShownTopic.firstUnder?_postlink (free (by decide))
  cases known : t.id with
  | none =>
    rw [ShownTopic.pages, known] at pagelink
    rw [ShownTopic.reply, known] at postlink
    have unpaged := Element.findUnder?_of_none (outside (by decide)) pagelink
    have unlinked := Element.findUnder?_of_none (outside (by decide)) postlink
    exact containerId?_unlinked (by rw [unpaged, Option.bind_none]) unlinked
  | some id =>
    have short := short id known
    rw [ShownTopic.pages, known] at pagelink
    cases paged : t.paged with
    | true =>
      rw [paged] at pagelink
      obtain ⟨_, found⟩ := Element.findUnder?_of_first? (outside (by decide)) pagelink
      apply containerId?_paged
      rw [found, Option.bind_some, linkInt?_address short (by decide)]
    | false =>
      rw [paged] at pagelink
      rw [ShownTopic.reply, known] at postlink
      have unpaged := Element.findUnder?_of_none (outside (by decide)) pagelink
      obtain ⟨_, found⟩ := Element.findUnder?_of_first? (outside (by decide)) postlink
      exact containerId?_linked (by rw [unpaged, Option.bind_none]) rfl found (linkInt?_address short (by decide))

end Topic

/-- Elements outside of the posts add nothing. -/
theorem blocks_skip (format : String) (topic : Option Int) (above : List Tag) {tag : Tag} {inside : Nodes}
    (here : isBlock tag = false) (lacks : inside.Lacks isBlock) (next : Nodes) :
    blocks format topic above (.element tag inside next) = blocks format topic above next := by
  have within := blocks_of_lacks format topic (tag :: above) lacks
  rw [blocks]
  simp only [remains, here, Bool.false_eq_true, ↓reduceIte, within]
  cases blocks format topic above next <;> rfl

theorem blocks_posts (topic : Option Int) {above : List Tag} (clear : above.any (isNamed "h2") = false)
    {posts : List ShownPost} (valid : ∀ p ∈ posts, p.Written) :
    blocks Date.defaultFormat topic above (ShownTopic.blocks posts) = .ok (posts.flatMap (·.items topic)) := by
  induction posts with
  | nil =>
    rw [ShownTopic.blocks, line, text, blocks, blocks]
    rfl
  | cons p rest ih =>
    rw [List.forall_mem_cons] at valid
    have here : isBlock p.tag = true := by simp [isBlock, ShownPost.tag]
    have alone : (p.block above).inside.Lacks isBlock := lacks_inside valid.1 (by decide) (by decide)
    have own := postItems_block valid.1 above clear topic
    have inner := blocks_of_lacks Date.defaultFormat topic (p.tag :: above) (lacks_remains Date.defaultFormat _ alone)
    rw [ShownPost.block] at own inner
    rw [ShownTopic.blocks, line, text, blocks, blocks]
    simp [here, own, inner, ih valid.2]

/-- The blocks of a page are those of its posts. -/
theorem blocks_board (t : ShownTopic) (topic : Option Int) (above : List Tag) :
    blocks Date.defaultFormat topic above t.inside =
      blocks Date.defaultFormat topic above (ShownTopic.blocks t.posts) := by
  have header (next : Nodes) : blocks Date.defaultFormat topic above (ShownTopic.header next) =
      blocks Date.defaultFormat topic above next :=
    blocks_skip _ _ _ (by simp [isBlock, aloneClasses])
      (Nodes.lacks_iff_first?.mpr (by simp [isBlock, aloneClasses])) next
  have links (next : Nodes) : blocks Date.defaultFormat topic above
      (classed "div" "linkst" (classed "div" "inbox" t.links .nil) next) =
      blocks Date.defaultFormat topic above next :=
    blocks_skip _ _ _ (by simp [isBlock, aloneClasses]) t.lacks_links next
  change blocks _ _ _ (.text .plain "\n" (ShownTopic.header (.text .plain "\n" (classed "div" "linkst" _ _)))) = _
  rw [blocks, header, blocks, links]

/-- A topic is read from its page as it was laid out: for each post in order its user, unless it is by a guest,
and the post itself, with the number of the topic if the page shows it. -/
theorem items_document (t : ShownTopic) (valid : ∀ p ∈ t.posts, p.Valid) {document : Element}
    (drawn : t.document? = some document) :
    items Date.defaultFormat document = .ok t.items ∧
    ∀ page, load page = .ok document → extract Date.defaultFormat page = .ok t.items := by
  obtain ⟨short, rfl⟩ := ShownTopic.document?_eq_some drawn
  have shortId (id : Int) (shown : id ∈ t.id) : Text.Short id :=
    short id (List.mem_append_left _ (Option.mem_toList.mpr shown))
  have kind : (t.board.tag.value? "id").bind Kind.ofName? = some .thread := by
    have name : t.board.tag.value? "id" = some (if t.poll then "punviewpoll" else "punviewtopic") := rfl
    rw [name]
    cases t.poll <;> rfl
  have clear : (t.board.tag :: t.board.above).any (isNamed "h2") = false := by
    simp [ShownTopic.board, ShownTopic.tag, ShownTopic.above, ShownTopic.htmlTag, isNamed, Tag.hasName]
  have read : items Date.defaultFormat t.document = .ok t.items := by
    unfold items
    simp only [t.find?_board, kind, threadItems, containerId?_board valid shortId]
    exact (blocks_board t t.id _).trans (blocks_posts t.id clear (ShownTopic.written valid short))
  refine ⟨read, fun page loaded => ?_⟩
  simp only [extract, loaded, read]

/-- A member's post with a smiley, an avatar and a signature, and one by a guest. -/
theorem items_document_pair :
    let words (content : String) : Nodes := .text .plain content .nil
    let smiley : Nodes := .element ⟨"img", [("src", "img/smilies/smile.png"), ("alt", ":)")]⟩ .nil .nil
    let posted : Date.Moment := ⟨⟨2008, 1, 3⟩, 11, 0, 0⟩
    let t : ShownTopic := {
      id := some 9, paged := true, poll := false
      posts := [⟨11, "Alice", some 2, "Member", posted, true, some (words "Bye"), smiley⟩,
        ⟨-3, "Some One", none, "Guest", posted, false, none, words "Hello"⟩] }
    (∀ p ∈ t.posts, p.Valid) ∧ t.document? = some t.document ∧ items Date.defaultFormat t.document = .ok [
      .record (.user { id := 2, username := "Alice", title := some "Member", avatar := true, signature := some "Bye" }),
      .record (.post { id := 11, poster := "Alice", posterId := 2, message := ":)", posted := 1199358000, topic := some 9 }),
      .record (.post { id := -3, poster := "Some One", message := "Hello", hideSmilies := true, posted := 1199358000, topic := some 9 })] := by
  intro words smiley posted t
  have moment : posted.Valid := ⟨by decide, by decide, by decide, by decide⟩
  have valid : ∀ p ∈ t.posts, p.Valid := by
    refine List.forall_mem_cons.mpr ⟨?_, List.forall_mem_singleton.mpr ?_⟩
    · refine ⟨by decide, by decide, moment, fun className _ => ⟨⟨rfl, trivial, trivial⟩, ?_⟩⟩
      rintro signature ⟨⟩
      trivial
    · exact ⟨by decide, by decide, moment, fun className _ => ⟨trivial, nofun⟩⟩
  have drawn : t.document? = some t.document := if_pos (by decide)
  refine ⟨valid, drawn, (items_document t valid drawn).1.trans (congrArg Except.ok ?_)⟩
  decide +kernel

end BoardMigration.Page
