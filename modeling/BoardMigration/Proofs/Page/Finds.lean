import BoardMigration.Proofs.Html.Lacks
import BoardMigration.Proofs.Page.Forums
import BoardMigration.Proofs.Page.Mild

/-! What a page comes to. Nothing of a page is passed over: each block, row and post of it is one find, a
record or the error that stands in its place, and finds keep the order of the page, apart from redirect
forums, which come last. -/
namespace BoardMigration.Html.Nodes

variable {p q : Tag → Bool} {nodes : Nodes}

theorem Lacks.eraseFirst (lacks : nodes.Lacks p) {less : Nodes} (erased : nodes.eraseFirst q = some less) :
    less.Lacks p := by
  induction nodes generalizing less with
  | nil => cases erased
  | text kind content next ih =>
    obtain ⟨rest, found, rfl⟩ := Option.map_eq_some_iff.mp erased
    have kept := ih lacks found
    exact kept
  | element tag inside next ihInside ihNext =>
    obtain ⟨here, within, behind⟩ := lacks
    unfold Nodes.eraseFirst at erased
    split at erased
    · obtain rfl := Option.some.inj erased
      exact behind
    · split at erased
      · next found =>
        obtain rfl := Option.some.inj erased
        exact ⟨here, ihInside within found, behind⟩
      · obtain ⟨rest, found, rfl⟩ := Option.map_eq_some_iff.mp erased
        exact ⟨here, within, ihNext behind found⟩

theorem Lacks.modifyFirst (lacks : nodes.Lacks p) {f : Nodes → Nodes}
    (keeps : ∀ inside : Nodes, inside.Lacks p → (f inside).Lacks p) {changed : Nodes}
    (modified : nodes.modifyFirst q f = some changed) : changed.Lacks p := by
  induction nodes generalizing changed with
  | nil => cases modified
  | text kind content next ih =>
    obtain ⟨rest, found, rfl⟩ := Option.map_eq_some_iff.mp modified
    have kept := ih lacks found
    exact kept
  | element tag inside next ihInside ihNext =>
    obtain ⟨here, within, behind⟩ := lacks
    unfold Nodes.modifyFirst at modified
    split at modified
    · obtain rfl := Option.some.inj modified
      exact ⟨here, keeps inside within, behind⟩
    · split at modified
      · next found =>
        obtain rfl := Option.some.inj modified
        exact ⟨here, ihInside within found, behind⟩
      · obtain ⟨rest, found, rfl⟩ := Option.map_eq_some_iff.mp modified
        exact ⟨here, within, ihNext behind found⟩

/-- The elements of a kind in a tree: the first if it is one, those inside it and those behind it. -/
theorem filter_elements (p : Tag → Bool) (tag : Tag) (inside next : Nodes) (above : List Tag) :
    ((element tag inside next).elements above).filter (p ·.tag) =
      (if p tag then [⟨tag, inside, above⟩] else []) ++
        ((inside.elements (tag :: above)).filter (p ·.tag) ++ (next.elements above).filter (p ·.tag)) := by
  by_cases here : p tag <;> simp [elements, here]

end BoardMigration.Html.Nodes

namespace BoardMigration.Page

open Html

theorem date_read {text format : String} {timestamp : Int} (read : Date.read text format = .ok timestamp)
    (what : String) : date text format what = .ok timestamp := by
  rw [date, read]

/-- The row of a forum, and its place among the rows of the category. -/
structure ForumFound (format : String) (c : Category) (row : Element × Nat) (item : Item) : Prop where
  found : Found .forum (forum row.1 format row.2 c) item
  placed : ∀ f, item = .record (.forum f) →
    f.categoryName = c.name ∧ f.categoryPosition = c.position ∧ f.position = row.2

/-- A block and its place on the page: its category with one find for each row, or one error. -/
inductive BlockFound (format : String) (block : Element × Nat) : List Item → Prop where
  | lost (message : String) (nameless : category block.1 block.2 = .error (.malformed message)) :
    BlockFound format block [.malformed ⟨message⟩]
  | listed (c : Category) (forums : List Item) (named : category block.1 block.2 = .ok c)
    (position : c.position = block.2)
    (rows : List.Forall₂ (ForumFound format c) (contentRows block.1).zipIdx forums) :
    BlockFound format block (.record (.category c) :: forums)

/-- Block by block, with all redirect forums behind all else. -/
def IndexFound (format : String) (board : Element) (items : List Item) : Prop :=
  ∃ blocks, List.Forall₂ (BlockFound format) (board.select (hasClass "blocktable")).zipIdx blocks ∧
    items = blocks.flatten.filter (!isRedirectItem ·) ++ blocks.flatten.filter isRedirectItem

theorem placed_forum {format : String} {row : Element} {position : Nat} {c : Category} {f : Forum}
    (read : forum row format position c = .ok f) :
    f.categoryName = c.name ∧ f.categoryPosition = c.position ∧ f.position = position := by
  cases forumOf_forum read <;> exact ⟨rfl, rfl, rfl⟩

variable {format : String}

theorem forum_found (once : Date.NamesOnce format) (c : Category) (row : Element × Nat) :
    ∃ item, asItem ((forum row.1 format row.2 c).map .forum) = .ok item ∧ ForumFound format c row item := by
  obtain ⟨item, done, found⟩ := (mild_forum once row.1 row.2 c).found .forum
  refine ⟨item, done, found, ?_⟩
  rintro f rfl
  obtain ⟨g, read, same⟩ := found.read
  obtain rfl := Record.forum.inj same
  exact placed_forum read

theorem position_category {block : Element} {position : Nat} {c : Category}
    (read : category block position = .ok c) : c.position = position := by
  unfold category at read
  split at read
  · cases read
  · obtain rfl := Except.ok.inj read
    rfl

theorem block_found (once : Date.NamesOnce format) (block : Element × Nat) :
    ∃ items, blockItems format block.1 block.2 = .ok items ∧ BlockFound format block items := by
  unfold blockItems
  cases named : category block.1 block.2 with
  | error failure =>
    cases failure with
    | malformed message => exact ⟨_, rfl, .lost message named⟩
    | fatal error => exact absurd ⟨error, rfl⟩ (mild_category block.1 block.2 _ named)
  | ok c =>
    obtain ⟨forums, done, rows⟩ := mapM_forall (contentRows block.1).zipIdx
      fun row _ => forum_found once c row
    refine ⟨_, ?_, .listed c forums named (position_category named) rows⟩
    exact congrArg (· >>= fun forums => pure (Item.record (.category c) :: forums)) done

theorem index_found (once : Date.NamesOnce format) (board : Element) :
    ∃ items, indexItems format board = .ok items ∧ IndexFound format board items := by
  obtain ⟨blocks, done, related⟩ := mapM_forall (board.select (hasClass "blocktable")).zipIdx
    fun block _ => block_found once block
  refine ⟨_, ?_, blocks, related, rfl⟩
  unfold indexItems
  simp only [done]
  rfl

structure TopicFound (format : String) (forum : Int) (row : Element) (item : Item) : Prop where
  found : Found .topic (topic row format forum) item
  listed : ∀ t, item = .record (.topic t) → t.forum = forum

/-- Row by row, without topics that were moved. -/
def ListingFound (format : String) (board : Element) (items : List Item) : Prop :=
  ∃ forum, List.Forall₂ (TopicFound format forum) ((contentRows board).filter (!isMoved ·)) items

theorem forum_topic {row : Element} {forum : Int} {t : Topic} (read : topic row format forum = .ok t) :
    t.forum = forum := by
  unfold topic at read
  dsimp only at read
  split at read
  case h_2 => cases read
  split at read
  case h_2 => cases read
  obtain ⟨last, -, read⟩ := bind_ok read
  split at read
  case h_2 => cases read
  obtain ⟨replies, -, read⟩ := bind_ok read
  obtain ⟨views, -, read⟩ := bind_ok read
  obtain rfl := Except.ok.inj read
  rfl

theorem listing_found (once : Date.NamesOnce format) (board : Element) :
    ∃ items, listingItems format board = .ok items ∧ ListingFound format board items := by
  have each (row : Element) : ∃ item,
      asItem ((topic row format ((containerId? board "fid").getD 0)).map .topic) = .ok item ∧
        TopicFound format ((containerId? board "fid").getD 0) row item := by
    obtain ⟨item, done, found⟩ := (mild_topic once row _).found .topic
    refine ⟨item, done, found, ?_⟩
    rintro t rfl
    obtain ⟨u, read, same⟩ := found.read
    obtain rfl := Record.topic.inj same
    exact forum_topic read
  obtain ⟨items, done, related⟩ := mapM_forall ((contentRows board).filter (!isMoved ·)) fun row _ => each row
  exact ⟨items, done, _, related⟩

/-- A poster without a link is a guest. -/
def Guest (block : Element) : Prop :=
  ∃ poster, block.find? isPoster = some poster ∧ poster.find? (isNamed "a") = none

/-- What the poster of a block comes to. -/
inductive UserFound (block : Element) : Item → Prop where
  | record (u : User) (read : user? block = .ok (some u)) : UserFound block (.record (.user u))
  | malformed (message : String) (failed : user? block = .error (.malformed message)) :
    UserFound block (.malformed ⟨message⟩)

structure PostFound (format : String) (topic : Option Int) (block : Element) (item : Item) : Prop where
  found : Found .post (post block format topic) item
  filed : ∀ p, item = .record (.post p) → p.topic = topic

/-- The user, unless the poster is a guest, and then the post. -/
inductive PostBlockFound (format : String) (topic : Option Int) (block : Element) : List Item → Prop where
  | guest (post : Item) (unlinked : Guest block) (read : PostFound format topic block post) :
    PostBlockFound format topic block [post]
  | member (user post : Item) (linked : ¬ Guest block) (known : UserFound block user)
    (read : PostFound format topic block post) : PostBlockFound format topic block [user, post]

/-- Block by block, all posts with one topic or all without. -/
def ThreadFound (format : String) (board : Element) (items : List Item) : Prop :=
  ∃ topic finds, List.Forall₂ (PostBlockFound format topic) (board.select isBlock) finds ∧
    items = finds.flatten

/-- No block of a post is inside another. -/
def Unnested (board : Element) : Prop :=
  ∀ block ∈ board.select isBlock, ∀ inner ∈ block.descendants, isBlock inner.tag = false

instance (board : Element) : Decidable (Unnested board) :=
  inferInstanceAs (Decidable (∀ block ∈ board.select isBlock, ∀ inner ∈ block.descendants, _))

/-- A post is read from its head and its message. -/
theorem postBody_ok {head : PostHead} {block : Element} {topic : Option Int} {p : Post}
    (read : postBody head block format topic = .ok p) : ∃ message posted, block.find? isMessage = some message ∧
      p = {
        id := head.id, poster := head.poster, posterId := head.posterId, message := BBCode.ofElement message,
        hideSmilies := !BBCode.hasSmilies message, posted, edited := head.edited, editedBy := head.editedBy, topic } := by
  unfold postBody at read
  dsimp only at read
  split at read
  case h_2 => cases read
  split at read
  case h_2 => cases read
  next message found =>
    obtain ⟨posted, -, read⟩ := bind_ok read
    exact ⟨message, posted, found, (Except.ok.inj read).symm⟩

theorem topic_post {block : Element} {topic : Option Int} {p : Post}
    (read : post block format topic = .ok p) : p.topic = topic := by
  unfold post at read
  obtain ⟨head, -, read⟩ := bind_ok read
  obtain ⟨message, posted, -, rfl⟩ := postBody_ok read
  rfl

theorem user_none_iff (block : Element) : user? block = .ok none ↔ Guest block := by
  unfold user? Guest
  cases found : block.find? isPoster with
  | none => simp [throw, throwThe, MonadExceptOf.throw]
  | some poster =>
    cases linked : poster.find? (isNamed "a") with
    | none => simp [linked, pure, Except.pure]
    | some link =>
      simp only [linked, Option.some.injEq, exists_eq_left', reduceCtorEq, iff_false]
      split
      · split
        · simp [pure, Except.pure]
        · simp [throw, throwThe, MonadExceptOf.throw]
      · simp [throw, throwThe, MonadExceptOf.throw]

theorem post_found (once : Date.NamesOnce format) (block : Element) (topic : Option Int) :
    ∃ item, asItem ((post block format topic).map .post) = .ok item ∧
      PostFound format topic block item := by
  obtain ⟨item, done, found⟩ := (mild_post once block topic).found .post
  refine ⟨item, done, found, ?_⟩
  rintro p rfl
  obtain ⟨q, read, same⟩ := found.read
  obtain rfl := Record.post.inj same
  exact topic_post read

/-- The head of a post has the edit note of its message, and the editor that the note tells. -/
theorem postHead_ok {block : Element} {head : PostHead} (read : postHead block format = .ok head) :
    head.note = (block.find? isMessage).bind (·.find? isEditNote) ∧
      head.editedBy = (head.note.bind (editNote? ·.text.toList)).map fun told => String.ofList told.1 := by
  unfold postHead at read
  dsimp only at read
  split at read
  · cases read
  split at read
  case h_2 => cases read
  split at read
  case h_2 => cases read
  obtain ⟨posterId, -, read⟩ := bind_ok read
  split at read
  case h_2 => cases read
  next message found =>
    rw [found]
    split at read
    · next untold =>
      obtain rfl := Except.ok.inj read
      exact ⟨rfl, by simp only [untold, Option.map_none]⟩
    · next editor written told =>
      obtain ⟨edited, -, read⟩ := bind_ok read
      obtain rfl := Except.ok.inj read
      exact ⟨rfl, by simp only [told, Option.map_some]⟩

/-- A post without posts inside does not vanish with an edit note. -/
theorem vanishes_of_lacks {block : Element} (alone : block.inside.Lacks isBlock) :
    vanishes block format = false := by
  unfold vanishes
  split
  case h_2 => rfl
  next head read =>
    rw [(postHead_ok read).1]
    cases noted : (block.find? isMessage).bind (·.find? isEditNote) with
    | none => rfl
    | some note =>
      obtain ⟨message, inBlock, inMessage⟩ := Option.bind_eq_some_iff.mp noted
      have apart := (alone.mem (List.mem_of_find?_eq_some inBlock)).2
      obtain ⟨here, within⟩ := apart.mem (List.mem_of_find?_eq_some inMessage)
      have none := (Nodes.lacks_iff note.inside (note.tag :: note.above)).mp within
      simpa [here, Element.descendants] using none

theorem postBlock_found (once : Date.NamesOnce format) (topic : Option Int) (block : Element)
    (alone : block.inside.Lacks isBlock) :
    ∃ items, postItems format topic block = .ok items ∧ PostBlockFound format topic block items := by
  obtain ⟨item, done, read⟩ := post_found once block topic
  unfold postItems
  simp only [done, vanishes_of_lacks alone]
  cases person : user? block with
  | ok user =>
    cases user with
    | none => exact ⟨_, rfl, .guest item ((user_none_iff block).mp person) read⟩
    | some u =>
      refine ⟨_, rfl, .member _ item ?_ (.record u person) read⟩
      simp [← user_none_iff, person]
  | error failure =>
    cases failure with
    | malformed message =>
      refine ⟨_, rfl, .member _ item ?_ (.malformed message person) read⟩
      simp [← user_none_iff, person]
    | fatal error => exact absurd ⟨error, rfl⟩ (mild_user block _ person)

theorem lacks_withoutNote {inside : Nodes} (none : inside.Lacks isBlock) :
    (withoutNote inside).Lacks isBlock := by
  have less (message : Nodes) (none : message.Lacks isBlock) :
      ((message.eraseFirst isEditNote).getD message).Lacks isBlock := by
    cases erased : message.eraseFirst isEditNote with
    | none => exact none
    | some rest => exact none.eraseFirst erased
  unfold withoutNote
  cases modified : inside.modifyFirst isMessage _ with
  | none => exact none
  | some changed => exact none.modifyFirst less modified

/-- Reading a post leaves no posts inside its block if there were none. -/
theorem lacks_remains (format : String) (e : Element) (alone : e.inside.Lacks isBlock) :
    (remains format e).Lacks isBlock := by
  unfold remains settled
  split
  case isFalse => exact alone
  split
  case h_2 => exact alone
  exact lacks_withoutNote alone

theorem blocks_of_lacks (format : String) (topic : Option Int) {nodes : Nodes} (above : List Tag)
    (none : nodes.Lacks isBlock) : blocks format topic above nodes = .ok [] := by
  induction nodes generalizing above with
  | nil => rw [blocks]
  | text kind content next ih =>
    rw [blocks]
    exact ih above none
  | element tag inside next ihInside ihNext =>
    obtain ⟨here, within, behind⟩ := none
    rw [blocks]
    simp [remains, here, ihInside _ within, ihNext _ behind]

theorem blocks_found (once : Date.NamesOnce format) (topic : Option Int) {nodes : Nodes}
    (above : List Tag)
    (apart : ∀ block ∈ (nodes.elements above).filter (isBlock ·.tag), block.inside.Lacks isBlock) :
    ∃ finds, blocks format topic above nodes = .ok finds.flatten ∧
      List.Forall₂ (PostBlockFound format topic) ((nodes.elements above).filter (isBlock ·.tag)) finds := by
  induction nodes generalizing above with
  | nil => exact ⟨[], by rw [blocks]; rfl, .nil⟩
  | text kind content next ih =>
    rw [blocks]
    exact ih above apart
  | element tag inside next ihInside ihNext =>
    rw [Nodes.filter_elements] at apart ⊢
    cases here : isBlock tag with
    | true =>
      rw [here, if_pos rfl, List.singleton_append] at apart
      have alone : inside.Lacks isBlock := apart _ List.mem_cons_self
      have none := Nodes.filter_of_lacks alone (tag :: above)
      obtain ⟨own, read, found⟩ := postBlock_found once topic ⟨tag, inside, above⟩ alone
      obtain ⟨others, later, related⟩ := ihNext above fun block member =>
        apart block (List.mem_cons_of_mem _ (List.mem_append_right _ member))
      have inner := blocks_of_lacks format topic (tag :: above)
        (lacks_remains format ⟨tag, inside, above⟩ alone)
      refine ⟨own :: others, ?_, ?_⟩
      · rw [blocks]
        simp [here, read, inner, later]
      · rw [none]
        exact .cons found related
    | false =>
      rw [here, if_neg (by simp), List.nil_append] at apart
      obtain ⟨within, inner, relatedWithin⟩ := ihInside (tag :: above) fun block member =>
        apart block (List.mem_append_left _ member)
      obtain ⟨others, later, related⟩ := ihNext above fun block member =>
        apart block (List.mem_append_right _ member)
      refine ⟨within ++ others, ?_, ?_⟩
      · rw [blocks]
        simp [here, remains, inner, later]
      · exact List.rel_append relatedWithin related

theorem thread_found (once : Date.NamesOnce format) {board : Element} (apart : Unnested board) :
    ∃ items, threadItems format board = .ok items ∧ ThreadFound format board items := by
  obtain ⟨finds, done, related⟩ := blocks_found once (containerId? board "tid") _ fun block member =>
    (Nodes.lacks_iff block.inside _).mpr (apart block member)
  exact ⟨_, done, _, finds, related, rfl⟩

/-- What a page of each kind comes to. -/
def PageFound (format : String) (board : Element) (items : List Item) : Kind → Prop
  | .index => IndexFound format board items
  | .listing => ListingFound format board items
  | .thread => ThreadFound format board items

/-- A page of a known kind always gives its records, whatever is wrong with some of them. -/
theorem items_found {format : String} {document board : Element} {kind : Kind}
    (first : document.find? isBoard = some board)
    (known : (board.tag.value? "id").bind Kind.ofName? = some kind)
    (once : Date.NamesOnce format) (apart : Unnested board) :
    ∃ items, Page.items format document = .ok items ∧ PageFound format board items kind ∧
      ∀ page, load page = .ok document → extract format page = .ok items := by
  have read : ∃ items, Page.items format document = .ok items ∧ PageFound format board items kind := by
    unfold Page.items
    simp only [first, known]
    cases kind with
    | index => exact index_found once board
    | listing => exact listing_found once board
    | thread => exact thread_found once apart
  obtain ⟨items, done, found⟩ := read
  refine ⟨items, done, found, fun page loaded => ?_⟩
  simp only [extract, loaded, done]

/-- A guest's post and one whose date cannot be read. -/
theorem items_found_thread :
    let text (content : String) : Nodes := .text .plain content .nil
    let link (href content : String) : Nodes := .element ⟨"a", [("href", href)]⟩ (text content) .nil
    let block (id date : String) (poster next : Nodes) : Nodes :=
      .element ⟨"div", [("id", id), ("class", "blockpost")]⟩
        (.element ⟨"h2", []⟩ (link "" date) (.element ⟨"dt", []⟩ poster
          (.element ⟨"div", [("class", "postmsg")]⟩ (text "Hello") .nil))) next
    let board : Element := ⟨⟨"div", [("id", "punviewtopic"), ("class", "pun")]⟩,
      block "p1" "2008-01-03 11:00:00" (text "Guest")
        (block "p2" "yesterday" (link "profile.php?id=2" "Alice") .nil), [⟨"[document]", []⟩]⟩
    let document : Element := ⟨⟨"[document]", []⟩, .element board.tag board.inside .nil, []⟩
    (document.find? isBoard = some board ∧
      (board.tag.value? "id").bind Kind.ofName? = some .thread ∧
      Date.NamesOnce Date.defaultFormat ∧ Unnested board) ∧
    ∃ items, Page.items Date.defaultFormat document = .ok items ∧
      PageFound Date.defaultFormat board items .thread ∧
      ∀ page, load page = .ok document → extract Date.defaultFormat page = .ok items := by
  intro text link block board document
  have first : document.find? isBoard = some board := by decide
  have known : (board.tag.value? "id").bind Kind.ofName? = some .thread := by decide
  have once : Date.NamesOnce Date.defaultFormat := by decide
  have apart : Unnested board := by decide
  exact ⟨⟨first, known, once, apart⟩, items_found first known once apart⟩

end BoardMigration.Page
