import BoardMigration.Proofs.Export.Tree

/-! What a path leads to. Links are followed as far as they may be; a path that goes on from a directory goes on from
where the directory is, and a way down through directories alone ends at its own entry. -/
namespace BoardMigration.Export

/-- Where the target of a link is looked up from. -/
def start (root : Listing) (within : Chain) (target : String) : Chain :=
  if (Path.ofString target).absolute then [("", root)] else within

/-- What a path leads to from a directory if as many links may be followed. -/
inductive Leads (root : Listing) : Nat → Chain → List String → Found → Prop where
  | directory {links : Nat} {within : Chain} : Leads root links within [] (.directory within)
  | page {links : Nat} {within : Chain} {name : String} {bytes : List UInt8} (named : name ≠ "..")
    (found : within.listing.lookup name = some (.file bytes)) : Leads root links within [name] (.page bytes)
  | database {links : Nat} {within : Chain} {name : String} {db : Store.Database} (named : name ≠ "..")
    (found : within.listing.lookup name = some (.database db)) :
    Leads root links within [name] (.database (within.names ++ [name]) db)
  | up {links : Nat} {within : Chain} {parts : List String} {found : Found}
    (further : Leads root links within.parent parts found) : Leads root links within (".." :: parts) found
  | down {links : Nat} {within : Chain} {name : String} {parts : List String} {entries : Listing} {found : Found}
    (named : name ≠ "..") (inside : within.listing.lookup name = some (.directory entries))
    (further : Leads root links ((name, entries) :: within) parts found) : Leads root links within (name :: parts) found
  | through {links : Nat} {within : Chain} {name target : String} {parts : List String} {found : Found}
    (named : name ≠ "..") (linked : within.listing.lookup name = some (.link target))
    (further : Leads root links (start root within target) ((Path.ofString target).parts ++ parts) found) :
    Leads root (links + 1) within (name :: parts) found

section Resolve

variable {root : Listing} {links : Nat} {within : Chain} {name : String} {parts : List String} {found : Found}

theorem resolve_nil : resolve root links within [] = some (.directory within) := by
  cases links <;> rfl

theorem resolve_cons : resolve root links within (name :: parts) =
    if name == ".." then resolve root links within.parent parts
    else match within.listing.lookup name with
      | none => none
      | some (.directory entries) => resolve root links ((name, entries) :: within) parts
      | some (.link target) =>
        match links with
        | 0 => none
        | links + 1 => resolve root links (start root within target) ((Path.ofString target).parts ++ parts)
      | some (.file bytes) => if parts.isEmpty then some (.page bytes) else none
      | some (.database db) => if parts.isEmpty then some (.database (within.names ++ [name]) db) else none := by
  cases links <;> rfl

theorem resolve_up : resolve root links within (".." :: parts) = resolve root links within.parent parts := by
  rw [resolve_cons, if_pos (beq_self_eq_true _)]

section Step

variable (named : name ≠ "..")

include named

theorem resolve_none (missing : within.listing.lookup name = none) :
    resolve root links within (name :: parts) = none := by
  rw [resolve_cons, if_neg (mt eq_of_beq named), missing]

theorem resolve_down {entries : Listing} (inside : within.listing.lookup name = some (.directory entries)) :
    resolve root links within (name :: parts) = resolve root links ((name, entries) :: within) parts := by
  rw [resolve_cons, if_neg (mt eq_of_beq named), inside]

theorem resolve_page {bytes : List UInt8} (inside : within.listing.lookup name = some (.file bytes)) :
    resolve root links within (name :: parts) = if parts.isEmpty then some (.page bytes) else none := by
  rw [resolve_cons, if_neg (mt eq_of_beq named), inside]

theorem resolve_database {db : Store.Database} (inside : within.listing.lookup name = some (.database db)) :
    resolve root links within (name :: parts) =
      if parts.isEmpty then some (.database (within.names ++ [name]) db) else none := by
  rw [resolve_cons, if_neg (mt eq_of_beq named), inside]

theorem resolve_through {target : String} (linked : within.listing.lookup name = some (.link target)) :
    resolve root (links + 1) within (name :: parts) =
      resolve root links (start root within target) ((Path.ofString target).parts ++ parts) := by
  rw [resolve_cons, if_neg (mt eq_of_beq named), linked]

theorem resolve_unfollowed {target : String} (linked : within.listing.lookup name = some (.link target)) :
    resolve root 0 within (name :: parts) = none := by
  rw [resolve_cons, if_neg (mt eq_of_beq named), linked]

end Step

theorem Leads.resolve (leads : Leads root links within parts found) : resolve root links within parts = some found := by
  induction leads with
  | directory => exact resolve_nil
  | page named inside => exact resolve_page named inside
  | database named inside => exact resolve_database named inside
  | up _ ih => rw [resolve_up, ih]
  | down named inside _ ih => rw [resolve_down named inside, ih]
  | through named linked _ ih => rw [resolve_through named linked, ih]

/-- Resolving a path finds what it leads to. -/
theorem resolve_iff : resolve root links within parts = some found ↔ Leads root links within parts found := by
  refine ⟨fun done => ?_, Leads.resolve⟩
  induction links using Nat.strongRecOn generalizing within parts with
  | ind links fewer =>
    induction parts generalizing within with
    | nil =>
      rw [resolve_nil] at done
      obtain rfl := Option.some.inj done
      exact .directory
    | cons name parts ih =>
      by_cases named : name = ".."
      · rw [named, resolve_up] at done
        rw [named]
        exact .up (ih done)
      cases inside : within.listing.lookup name with
      | none =>
        rw [resolve_none named inside] at done
        cases done
      | some entry =>
        cases entry with
        | directory entries =>
          rw [resolve_down named inside] at done
          exact .down named inside (ih done)
        | file bytes =>
          rw [resolve_page named inside] at done
          cases parts with
          | nil =>
            obtain rfl := Option.some.inj done
            exact .page named inside
          | cons => cases done
        | database db =>
          rw [resolve_database named inside] at done
          cases parts with
          | nil =>
            obtain rfl := Option.some.inj done
            exact .database named inside
          | cons => cases done
        | link target =>
          cases links with
          | zero =>
            rw [resolve_unfollowed named inside] at done
            cases done
          | succ links =>
            rw [resolve_through named inside] at done
            exact .through named inside (fewer links (Nat.lt_succ_self links) done)

/-- Parts behind those that lead to a directory are taken from there. -/
theorem Leads.resolve_append {inner : Chain} (leads : Leads root links within parts (.directory inner)) :
    ∃ left, ∀ more, Export.resolve root links within (parts ++ more) = Export.resolve root left inner more := by
  generalize reached : Found.directory inner = found at leads
  induction leads with
  | directory =>
    obtain rfl := Found.directory.inj reached
    exact ⟨_, fun _ => rfl⟩
  | page => cases reached
  | database => cases reached
  | up _ ih =>
    obtain ⟨left, goes⟩ := ih reached
    exact ⟨left, fun more => by rw [List.cons_append, resolve_up, goes]⟩
  | down named inside _ ih =>
    obtain ⟨left, goes⟩ := ih reached
    exact ⟨left, fun more => by rw [List.cons_append, resolve_down named inside, goes]⟩
  | through named linked _ ih =>
    obtain ⟨left, goes⟩ := ih reached
    exact ⟨left, fun more => by rw [List.cons_append, resolve_through named linked, ← List.append_assoc, goes]⟩

end Resolve

/-- Whether all directories of a chain are sound. -/
def Chain.Sound (within : Chain) : Prop := ∀ level ∈ within, soundBelow level.2 = true

section Sound

variable {root held : Listing} {links : Nat} {within inner : Chain} {names parts : List String} {entry : Entry}

theorem Chain.Sound.listing (sound : within.Sound) : soundBelow within.listing = true := by
  cases within with
  | nil => rfl
  | cons level outer => exact sound level List.mem_cons_self

theorem Chain.Sound.parent (sound : within.Sound) : within.parent.Sound := by
  match within, sound with
  | [], sound => exact sound
  | [_], sound => exact sound
  | _ :: _ :: _, sound => exact fun level member => sound level (List.mem_cons_of_mem _ member)

theorem Chain.sound_root (whole : soundBelow root = true) : Chain.Sound [("", root)] := by
  simpa [Chain.Sound] using whole

theorem Chain.Sound.start {target : String} (whole : soundBelow root = true) (sound : within.Sound) :
    (start root within target).Sound := by
  unfold Export.start
  split
  · exact Chain.sound_root whole
  · exact sound

theorem Chain.Sound.enter {name : String} {entries : Listing} (sound : within.Sound)
    (inside : within.listing.lookup name = some (.directory entries)) : Chain.Sound ((name, entries) :: within) := by
  have below : soundBelow entries = true := by
    simpa [Entry.isSound] using (soundBelow_of_mem sound.listing (mem_of_lookup inside)).2
  exact List.forall_mem_cons.mpr ⟨below, sound⟩

theorem Leads.sound (leads : Leads root links within parts (.directory inner)) (whole : soundBelow root = true)
    (sound : within.Sound) : inner.Sound := by
  generalize reached : Found.directory inner = found at leads
  induction leads with
  | directory =>
    obtain rfl := Found.directory.inj reached
    exact sound
  | page => cases reached
  | database => cases reached
  | up _ ih => exact ih sound.parent reached
  | down _ inside _ ih => exact ih (sound.enter inside) reached
  | through _ _ _ ih => exact ih (sound.start whole) reached

/-- Going down through directories alone ends at the very entry, with no link followed. -/
theorem Below.resolve (below : Below held names entry) (sound : within.Sound) (here : within.listing = held) :
    ∃ inner name, inner.listing.lookup name = some entry ∧ name ≠ ".." ∧
      Export.resolve root links within names = Export.resolve root links inner [name] := by
  induction below generalizing within with
  | here member =>
    subst here
    have named := (soundBelow_of_mem sound.listing member).1
    exact ⟨within, _, lookup_of_mem sound.listing member, ne_dots_of_isName named, rfl⟩
  | inside member _ ih =>
    subst here
    have named := (soundBelow_of_mem sound.listing member).1
    have listed := lookup_of_mem sound.listing member
    obtain ⟨inner, name, last, other, same⟩ := ih (sound.enter listed) rfl
    exact ⟨inner, name, last, other, by rw [resolve_down (ne_dots_of_isName named) listed, same]⟩

end Sound

end BoardMigration.Export
