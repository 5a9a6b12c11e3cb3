import BoardMigration.Html.Document
import BoardMigration.Proofs.Html.Charset
import BoardMigration.Proofs.Html.Tokens

/-! The size of a tree. Only a start tag adds an element, so the tree of a page has no more elements
than the page has bytes. -/
namespace BoardMigration.Html

namespace Nodes

/-- Number of elements. -/
def elementCount : Nodes → Nat
  | nil => 0
  | text _ _ next => next.elementCount
  | element _ inside next => inside.elementCount + next.elementCount + 1

theorem length_elements (nodes : Nodes) (above : List Tag) :
    (nodes.elements above).length = nodes.elementCount := by
  induction nodes generalizing above with
  | nil => rfl
  | text kind content next ih => exact ih above
  | element tag inside next ihInside ihNext =>
    simp [elements, elementCount, ihInside, ihNext]

/-- Fewer elements are inside one of the elements than there are in all. -/
theorem elementCount_lt {nodes : Nodes} {above : List Tag} {e : Element}
    (member : e ∈ nodes.elements above) : e.inside.elementCount < nodes.elementCount := by
  induction nodes generalizing above with
  | nil => cases member
  | text kind content next ih => exact ih member
  | element tag inside next ihInside ihNext =>
    simp only [elements, List.mem_cons, List.mem_append] at member
    simp only [elementCount]
    rcases member with rfl | within | behind
    · dsimp only
      omega
    · have fewer := ihInside within
      omega
    · have fewer := ihNext behind
      omega

@[simp] theorem elementCount_reverseOnto (nodes others : Nodes) :
    (nodes.reverseOnto others).elementCount = nodes.elementCount + others.elementCount := by
  induction nodes generalizing others with
  | nil => simp [reverseOnto, elementCount]
  | text kind content next ih => simp [reverseOnto, elementCount, ih]
  | element tag inside next _ ih =>
    simp only [reverseOnto, elementCount, ih]
    omega

end Nodes

namespace Builder

/-- Elements among and before the open elements, these included. -/
def openCount : List (Tag × Nodes) → Nat
  | [] => 0
  | (_, outer) :: rest => outer.elementCount + 1 + openCount rest

@[simp] theorem openCount_cons (tag : Tag) (outer : Nodes) (opened : List (Tag × Nodes)) :
    openCount ((tag, outer) :: opened) = outer.elementCount + 1 + openCount opened := rfl

/-- Number of elements so far. -/
def elementCount (b : Builder) : Nat := b.before.elementCount + openCount b.opened

@[simp] theorem elementCount_flush (kind : TextKind) (b : Builder) :
    (b.flush kind).elementCount = b.elementCount := by
  unfold flush
  split <;> rfl

@[simp] theorem elementCount_write (chars : List Char) (b : Builder) :
    (b.write chars).elementCount = b.elementCount := rfl

@[simp] theorem elementCount_insert (kind : TextKind) (chars : List Char) (b : Builder) :
    (b.insert kind chars).elementCount = b.elementCount := by simp [insert]

theorem elementCount_enter (tag : Tag) (b : Builder) :
    (b.enter tag).elementCount = b.elementCount + 1 := by
  have same := elementCount_flush .plain b
  simp only [elementCount, enter, openCount_cons, Nodes.elementCount] at same ⊢
  omega

theorem elementCount_leave (p : Tag → Bool) (before : Nodes) (opened : List (Tag × Nodes)) :
    (leave p before opened).1.elementCount + openCount (leave p before opened).2 =
      before.elementCount + openCount opened := by
  induction opened generalizing before with
  | nil => rfl
  | cons entry rest ih =>
    obtain ⟨tag, outer⟩ := entry
    unfold leave
    split
    · simp only [Nodes.elementCount, Nodes.elementCount_reverseOnto, openCount_cons]
      omega
    · rw [ih]
      simp only [Nodes.elementCount, Nodes.elementCount_reverseOnto, openCount_cons]
      omega

@[simp] theorem elementCount_close (name : String) (b : Builder) :
    (b.close name).elementCount = b.elementCount := by
  unfold close
  dsimp only
  split
  · exact (elementCount_leave _ _ _).trans (elementCount_flush .plain b)
  · exact elementCount_flush .plain b

@[simp] theorem elementCount_closeWritten (name : String) (b : Builder) :
    (b.closeWritten name).elementCount = b.elementCount := by
  unfold closeWritten
  split
  · rfl
  · exact elementCount_close name b

theorem elementCount_take (charset : Charset) (b : Builder) (token : Token) :
    (b.take charset token).elementCount = b.elementCount + openings [token] := by
  cases token with
  | opening name found selfClosed =>
    have one : openings [.opening name found selfClosed] = 1 := rfl
    rw [one, ← elementCount_enter ⟨name, found⟩ b]
    simp only [take]
    split
    · exact elementCount_close name _
    · split
      · exact elementCount_close name _
      · rfl
  | marked chars =>
    rw [openings_singleton_of_not rfl]
    simp only [take]
    split
    · exact elementCount_insert .cdata _ b
    · exact elementCount_insert .declaration _ b
  | text chars => rfl
  | number n => rfl
  | closing name => exact elementCount_closeWritten name b
  | comment chars => exact elementCount_insert .comment chars b
  | doctype chars => exact elementCount_insert .doctype _ b
  | instruction chars => exact elementCount_insert .instruction chars b

theorem elementCount_foldl (charset : Charset) (found : List Token) (b : Builder) :
    (found.foldl (take charset) b).elementCount = b.elementCount + openings found := by
  induction found generalizing b with
  | nil => rfl
  | cons token rest ih =>
    have apart : openings (token :: rest) = openings [token] + openings rest :=
      openings_append [token] rest
    rw [List.foldl_cons, ih, elementCount_take, apart]
    omega

theorem elementCount_finish (b : Builder) : b.finish.elementCount ≤ b.elementCount := by
  have same := elementCount_leave (fun _ => false) (b.flush .plain).before (b.flush .plain).opened
  have flushed := elementCount_flush .plain b
  simp only [finish, Nodes.elementCount_reverseOnto, Nodes.elementCount, elementCount] at flushed ⊢
  omega

end Builder

theorem elementCount_load {page : List UInt8} {document : Element} (loaded : load page = .ok document) :
    document.inside.elementCount ≤ page.length := by
  unfold load at loaded
  obtain ⟨found, read, made⟩ := bind_ok loaded
  obtain rfl := Except.ok.inj made
  calc (found.foldl (Builder.take (decodePage page).charset) {}).finish.elementCount
      ≤ (found.foldl (Builder.take (decodePage page).charset) {}).elementCount :=
        Builder.elementCount_finish _
    _ = openings found := by
        rw [Builder.elementCount_foldl]
        exact Nat.zero_add _
    _ ≤ (decodePage page).text.length := openings_tokens read
    _ ≤ page.length := length_decodePage page

end BoardMigration.Html
