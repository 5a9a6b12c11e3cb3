import BoardMigration.Page.Extract
import BoardMigration.Proofs.Html.Tree

/-! Forums as pages list them. Only an index lists forums. Each has a number or a target; those with a
target have no counts, and their position is that of their row. -/
namespace BoardMigration.Page

open Html

/-- A forum as it comes from one of a number of rows. -/
structure Listed (rows : Nat) (f : Forum) : Prop where
  named : f.id ≠ none ∨ f.redirect ≠ none
  /-- A redirect forum has nothing to count. -/
  empty : f.redirect ≠ none → f.topics = 0 ∧ f.posts = 0 ∧ f.lastPosted = none ∧ f.lastPost = none
  position : ∃ i < rows, f.position = (i : Nat)

theorem Listed.mono {rows more : Nat} {f : Forum} (listed : Listed rows f) (fewer : rows ≤ more) :
    Listed more f := by
  obtain ⟨i, bound, same⟩ := listed.position
  exact { listed with position := ⟨i, Nat.lt_of_lt_of_le bound fewer, same⟩ }

/-- A forum and the row that it comes from. -/
inductive ForumOf (row : Element) (position : Nat) (c : Category) : Forum → Prop where
  | redirect (name target : String) : ForumOf row position c {
      name, redirect := some target, position,
      description := (row.find? (hasClass "tclcon")).bind Element.ownText?,
      categoryName := c.name, categoryPosition := c.position }
  | plain (id : Int) (name : String) (topics posts : Int) (last : Option LastPost) :
    ForumOf row position c {
      id := some id, name, topics, posts, position,
      description := (row.find? (hasClass "tclcon")).bind Element.ownText?,
      lastPosted := last.map (·.posted), lastPost := last.map (·.id), lastPoster := last.map (·.poster),
      categoryName := c.name, categoryPosition := c.position }

theorem forumOf_plainForum {row link : Element} {heading : Option Element} {format : String}
    {position : Nat} {c : Category} {f : Forum}
    (read : plainForum row heading link format position c = .ok f) : ForumOf row position c f := by
  unfold plainForum at read
  split at read
  case h_2 => cases read
  split at read
  case h_2 => cases read
  obtain ⟨last, -, read⟩ := bind_ok read
  obtain ⟨topics, -, read⟩ := bind_ok read
  obtain ⟨posts, -, read⟩ := bind_ok read
  obtain rfl := Except.ok.inj read
  exact .plain _ _ topics posts last

theorem forumOf_forum {row : Element} {format : String} {position : Nat} {c : Category} {f : Forum}
    (read : forum row format position c = .ok f) : ForumOf row position c f := by
  unfold forum at read
  dsimp only at read
  split at read
  · cases read
  · split at read
    · cases read
    · split at read
      · unfold redirectForum at read
        split at read
        · cases read
        · obtain rfl := Except.ok.inj read
          exact .redirect _ _
      · exact forumOf_plainForum read

theorem listed_forum {row : Element} {format : String} {position : Nat} {category : Category} {f : Forum}
    (read : forum row format position category = .ok f) : Listed (position + 1) f := by
  cases forumOf_forum read with
  | redirect name target =>
    exact ⟨.inr (by simp), fun _ => ⟨rfl, rfl, rfl, rfl⟩, position, Nat.lt_succ_self _, rfl⟩
  | plain id name topics posts last =>
    exact ⟨.inl (by simp), fun redirect => absurd rfl redirect, position, Nat.lt_succ_self _, rfl⟩

theorem asItem_record {read : Except Failure Record} {record : Record}
    (found : asItem read = .ok (.record record)) : read = .ok record := by
  unfold asItem at found
  split at found <;> cases found
  rfl

theorem map_record {α : Type} {read : Except Failure α} {make : α → Record} {record : Record}
    (found : asItem (read.map make) = .ok (.record record)) : ∃ a, read = .ok a ∧ make a = record := by
  have mapped := asItem_record found
  cases read with
  | error e => cases mapped
  | ok a => exact ⟨a, rfl, Except.ok.inj mapped⟩

/-- Whether all forums among items come from a number of rows. -/
def AllListed (rows : Nat) (items : List Item) : Prop :=
  ∀ f, Item.record (.forum f) ∈ items → Listed rows f

theorem allListed_block {format : String} {block : Element} {position : Nat} {items : List Item}
    (read : blockItems format block position = .ok items) :
    AllListed (contentRows block).length items := by
  unfold blockItems at read
  split at read
  · next failure _ =>
    intro f member
    cases one : asItem (.error failure) with
    | error e => simp [one, Except.map] at read
    | ok item =>
      rw [one] at read
      obtain rfl := Except.ok.inj read
      rw [List.mem_singleton] at member
      subst member
      cases asItem_record one
  · next category _ =>
    obtain ⟨forums, done, whole⟩ := bind_ok read
    obtain rfl := Except.ok.inj whole
    have related := mapM_ok done
    intro f member
    have inside : Item.record (.forum f) ∈ forums := by simpa using member
    obtain ⟨⟨row, i⟩, listed, found⟩ := exists_of_mem_right related inside
    obtain ⟨g, readForum, same⟩ := map_record found
    obtain rfl := Record.forum.inj same
    have bound : i < (contentRows block).length := by
      simpa using List.mem_zipIdx listed |>.2.1
    exact (listed_forum readForum).mono bound

theorem contentRows_le (block : Element) :
    (contentRows block).length ≤ block.inside.elementCount := by
  have rows : (contentRows block).length ≤ block.descendants.length :=
    Nat.le_trans (List.length_filter_le _ _) (List.length_filter_le _ _)
  rwa [Element.descendants, Nodes.length_elements] at rows

theorem allListed_index {format : String} {board : Element} {items : List Item}
    (read : indexItems format board = .ok items) : AllListed board.inside.elementCount items := by
  unfold indexItems at read
  obtain ⟨blocks, done, whole⟩ := bind_ok read
  obtain rfl := Except.ok.inj whole
  intro f member
  have inside : Item.record (.forum f) ∈ blocks.flatten := by
    simp only [List.mem_append, List.mem_filter] at member
    exact member.elim (·.1) (·.1)
  obtain ⟨own, among, here⟩ := List.mem_flatten.mp inside
  obtain ⟨⟨block, i⟩, chosen, readBlock⟩ := exists_of_mem_right (mapM_ok done) among
  have descends : block ∈ board.descendants :=
    (List.mem_filter.mp (List.fst_mem_of_mem_zipIdx chosen)).1
  have fewer := Nodes.elementCount_lt descends
  exact (allListed_block readBlock f here).mono (Nat.le_trans (contentRows_le block) (Nat.le_of_lt fewer))

theorem no_forum_listing {format : String} {board : Element} {items : List Item}
    (read : listingItems format board = .ok items) (f : Forum) : Item.record (.forum f) ∉ items := by
  intro member
  obtain ⟨_, -, found⟩ := exists_of_mem_right (mapM_ok read) member
  obtain ⟨_, -, same⟩ := map_record found
  cases same

/-- A post and what comes before it, if the post is still there. -/
theorem no_forum_after {before : List Item} {read : Except Failure Post} {vanished : Bool}
    {items : List Item} {f : Forum} (none : Item.record (.forum f) ∉ before)
    (done : (do
      let found ← asItem (read.map .post)
      if vanished then throw .vanishedPost
      pure (before ++ [found])) = Except.ok items) : Item.record (.forum f) ∉ items := by
  obtain ⟨found, body, done⟩ := bind_ok done
  split at done
  · cases done
  · obtain rfl := Except.ok.inj done
    intro member
    rcases List.mem_append.mp member with early | post
    · exact none early
    · obtain rfl := List.mem_singleton.mp post
      obtain ⟨_, -, same⟩ := map_record body
      cases same

theorem no_forum_post {format : String} {topic : Option Int} {block : Element} {items : List Item}
    (read : postItems format topic block = .ok items) (f : Forum) : Item.record (.forum f) ∉ items := by
  unfold postItems at read
  dsimp only at read
  split at read
  · exact no_forum_after (by simp) read
  · exact no_forum_after (by simp) read
  · next failure _ =>
    obtain ⟨users, person, read⟩ := bind_ok read
    apply no_forum_after _ read
    cases one : asItem (.error failure) with
    | error e => simp [one, Except.map] at person
    | ok item =>
      rw [one] at person
      obtain rfl := Except.ok.inj person
      rw [List.mem_singleton]
      rintro rfl
      cases asItem_record one

theorem no_forum_blocks {format : String} {topic : Option Int} {above : List Tag} {nodes : Nodes}
    {items : List Item} (read : blocks format topic above nodes = .ok items) (f : Forum) :
    Item.record (.forum f) ∉ items := by
  induction above, nodes using blocks.induct format topic generalizing items with
  | case1 =>
    rw [blocks] at read
    obtain rfl := Except.ok.inj read
    simp
  | case2 above kind content next ih =>
    rw [blocks] at read
    exact ih read
  | case3 above tag inside next _ error own =>
    rw [dite_eq_ite] at own
    simp [blocks, own] at read
  | case4 above tag inside next _ own error inner mine =>
    rw [dite_eq_ite] at mine
    simp [blocks, mine, inner] at read
  | case5 above tag inside next _ own inner error others within mine =>
    rw [dite_eq_ite] at mine
    simp [blocks, mine, within, others] at read
  | case6 above tag inside next _ own inner others behind within mine ihWithin ihBehind =>
    rw [dite_eq_ite] at mine
    simp only [blocks, mine, within, behind] at read
    obtain rfl := Except.ok.inj read
    have here : Item.record (.forum f) ∉ own := by
      split at mine
      · exact no_forum_post mine f
      · obtain rfl := Except.ok.inj mine
        simp
    simp [here, ihWithin within, ihBehind behind]

/-- The forums of a page come from rows, of which there are no more than bytes. -/
theorem allListed_extract {format : String} {page : List UInt8} {items : List Item}
    (read : extract format page = .ok items) : AllListed page.length items := by
  unfold extract at read
  split at read
  · cases read
  · next document loaded =>
    unfold Page.items at read
    split at read
    · cases read
    · next board found =>
      dsimp only at read
      split at read
      · cases read
      · intro f member
        have fewer := Nodes.elementCount_lt (List.mem_of_find?_eq_some found)
        exact (allListed_index read f member).mono
          (Nat.le_trans (Nat.le_of_lt fewer) (elementCount_load loaded))
      · exact fun f member => absurd member (no_forum_listing read f)
      · exact fun f member => absurd member (no_forum_blocks read f)

end BoardMigration.Page
