import BoardMigration.Page.Extract
import BoardMigration.Proofs.Date.Faults

/-! Elements at fault and pages at fault. With a date format that names no field twice, whatever is wrong
with an element costs the record of that element and no other. -/
namespace BoardMigration.Page

open Html

/-- A failure that loses the whole page. -/
def Failure.Fatal (failure : Failure) : Prop := ∃ error, failure = .fatal error

/-- A read that loses no page. -/
abbrev Mild {α : Type} (read : Except Failure α) : Prop := Avoids Failure.Fatal read

theorem mild_malformed {α : Type} (message : String) :
    Mild (.error (.malformed message) : Except Failure α) :=
  avoids_error (by simp [Failure.Fatal])

theorem mild_intCell (cell : Option Element) (what : String) : Mild (intCell cell what) := by
  unfold intCell
  split
  · exact mild_malformed _
  · split
    · exact avoids_ok _ _
    · exact mild_malformed _

theorem mild_category (block : Element) (position : Nat) : Mild (category block position) := by
  unfold category
  split
  · exact mild_malformed _
  · exact avoids_ok _ _

theorem mild_redirectForum (row : Element) (heading : Option Element) (target : String)
    (position : Nat) (category : Category) :
    Mild (redirectForum row heading target position category) := by
  unfold redirectForum
  split
  · exact mild_malformed _
  · exact avoids_ok _ _

theorem mild_user (block : Element) : Mild (user? block) := by
  unfold user?
  split
  · split
    · split
      · split
        · exact avoids_ok _ _
        · exact mild_malformed _
      · exact mild_malformed _
    · exact avoids_ok _ _
  · exact mild_malformed _

section

variable {format : String}

theorem mild_date (once : Date.NamesOnce format) (text what : String) : Mild (date text format what) := by
  unfold date
  split
  · exact avoids_ok _ _
  · next field failed => exact absurd failed (once.not_repeated text field)
  · exact mild_malformed _

theorem mild_lastPost (once : Date.NamesOnce format) (cell : Option Element) (what : String) :
    Mild (lastPost? cell format what) := by
  unfold lastPost?
  split
  · exact avoids_ok _ _
  · split
    · exact avoids_ok _ _
    · split
      · exact mild_malformed _
      · split
        · exact mild_malformed _
        · refine (mild_date once _ _).bind fun _ => ?_
          split
          · exact mild_malformed _
          · exact avoids_ok _ _

theorem mild_plainForum (once : Date.NamesOnce format) (row : Element) (heading : Option Element)
    (link : Element) (position : Nat) (category : Category) :
    Mild (plainForum row heading link format position category) := by
  unfold plainForum
  split
  · split
    · exact (mild_lastPost once _ _).bind fun _ => (mild_intCell _ _).bind fun _ =>
        (mild_intCell _ _).bind fun _ => avoids_ok _ _
    · exact mild_malformed _
  · exact mild_malformed _

theorem mild_forum (once : Date.NamesOnce format) (row : Element) (position : Nat)
    (category : Category) : Mild (forum row format position category) := by
  unfold forum
  dsimp only
  split
  · exact mild_malformed _
  · split
    · exact mild_malformed _
    · split
      · exact mild_redirectForum _ _ _ _ _
      · exact mild_plainForum once _ _ _ _ _

theorem mild_topic (once : Date.NamesOnce format) (row : Element) (forum : Int) :
    Mild (topic row format forum) := by
  unfold topic
  dsimp only
  split
  · split
    · refine (mild_lastPost once _ _).bind fun last => ?_
      split
      · exact (mild_intCell _ _).bind fun _ => (mild_intCell _ _).bind fun _ => avoids_ok _ _
      · exact mild_malformed _
    · exact mild_malformed _
  · exact mild_malformed _

theorem mild_posterNumber (poster : Element) (post : Int) : Mild (posterNumber poster post) := by
  unfold posterNumber
  split
  · exact avoids_ok _ _
  · split
    · exact avoids_ok _ _
    · exact mild_malformed _

theorem mild_postHead (once : Date.NamesOnce format) (block : Element) : Mild (postHead block format) := by
  unfold postHead
  dsimp only
  split
  · exact mild_malformed _
  · split
    · split
      · refine (mild_posterNumber _ _).bind fun posterId => ?_
        split
        · split
          · exact avoids_ok _ _
          · exact (mild_date once _ _).bind fun _ => avoids_ok _ _
        · exact mild_malformed _
      · exact mild_malformed _
    · exact mild_malformed _

theorem mild_postBody (once : Date.NamesOnce format) (head : PostHead) (block : Element)
    (topic : Option Int) : Mild (postBody head block format topic) := by
  unfold postBody
  dsimp only
  split
  · split
    · exact (mild_date once _ _).bind fun _ => avoids_ok _ _
    · exact mild_malformed _
  · exact mild_malformed _

theorem mild_post (once : Date.NamesOnce format) (block : Element) (topic : Option Int) :
    Mild (post block format topic) := by
  unfold post
  exact (mild_postHead once block).bind fun head => mild_postBody once head _ topic

end

/-- What a read comes to: the record, or an error in its place. -/
inductive Found {α : Type} (make : α → Record) : Except Failure α → Item → Prop where
  | record (a : α) : Found make (.ok a) (.record (make a))
  | malformed (message : String) : Found make (.error (.malformed message)) (.malformed ⟨message⟩)

theorem Mild.found {α : Type} {read : Except Failure α} (mild : Mild read) (make : α → Record) :
    ∃ item, asItem (read.map make) = .ok item ∧ Found make read item := by
  cases read with
  | ok a => exact ⟨_, rfl, .record a⟩
  | error failure =>
    cases failure with
    | malformed message => exact ⟨_, rfl, .malformed message⟩
    | fatal error => exact absurd ⟨error, rfl⟩ (mild _ rfl)

/-- A record among the finds was read. -/
theorem Found.read {α : Type} {make : α → Record} {read : Except Failure α} {record : Record}
    (found : Found make read (.record record)) : ∃ a, read = .ok a ∧ make a = record := by
  cases found
  exact ⟨_, rfl, rfl⟩

end BoardMigration.Page
