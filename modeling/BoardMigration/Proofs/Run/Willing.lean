import BoardMigration.Proofs.Resolution.Claims
import BoardMigration.Proofs.Run.Records

/-! Runs over a target that takes every record. Whatever goes wrong is then the files' own fault: each
error of the run can be seen in the file it is told of. -/
namespace BoardMigration

def Item.error? : Item → Option FileError
  | .malformed error => some (.malformed error)
  | .record _ => none

/-- What is wrong with a file by itself. -/
def Contents.errors : Contents → List FileError
  | .unreadable => [.unreadable]
  | .garbled => [.garbled]
  | .items found => found.filterMap Item.error?
  | _ => []

/-- The errors a file brings to a run, under the names they are told by. -/
def SourceFile.errors (file : SourceFile) : List (String × FileError) :=
  match file.contents with
  | .broken message => [(unknownName, .unexpected message)]
  | contents => contents.errors.map ((file.name, ·))

namespace Effect

def errors (effects : List Effect) : List FileError := effects.filterMap error?

@[simp] theorem errors_append (first second : List Effect) :
    errors (first ++ second) = errors first ++ errors second := List.filterMap_append

@[simp] theorem errors_ofAssigned (assigned : List Assignment) :
    errors (ofAssigned assigned) = [] := by
  simp [errors, ofAssigned, error?]

end Effect

namespace Resolution

variable {all : List (Int × Int)} {r : Resolution}

/-- An item whose topic contradicts none goes wrong only by itself. -/
theorem Within.route_errors (within : Within all r) (consistent : Consistent all) (item : Item)
    (inside : ∀ claim ∈ claims item.registration?.toList, claim ∈ all) :
    Effect.errors (r.route item).2 = item.error?.toList := by
  cases item with
  | malformed error => rfl
  | record record =>
    cases record with
    | post post =>
      cases pending : post.isPending <;>
        simp [route, pending, Effect.errors, Effect.error?, Item.error?]
    | topic topic =>
      have claimed : (topic.lastPost, topic.id) ∈ all := inside _ List.mem_cons_self
      obtain ⟨done, -⟩ := within.register consistent claimed
      have quiet := Effect.errors_ofAssigned ((r.under topic.lastPost).flatMap (·.assign topic.id))
      simp only [route, done]
      exact quiet
    | _ => rfl

theorem Within.routeItems_errors (within : Within all r) (consistent : Consistent all)
    (items : List Item)
    (inside : ∀ claim ∈ claims (items.filterMap Item.registration?), claim ∈ all) :
    Effect.errors (r.routeItems items).2 = items.filterMap Item.error? := by
  induction items generalizing r with
  | nil => rfl
  | cons item rest ih =>
    rw [filterMap_cons_toList, claims_append] at inside
    have here : ∀ claim ∈ claims item.registration?.toList, claim ∈ all :=
      fun claim member => inside claim (List.mem_append_left _ member)
    have next : Within all (r.route item).1 := by
      rw [(route_eq r item).1]
      exact (within.performAll consistent _ here).1
    rw [filterMap_cons_toList, routeItems, Effect.errors_append]
    rw [within.route_errors consistent item here,
      ih next fun claim member => inside claim (List.mem_append_right _ member)]

theorem routePage_errors (open_ : r.flushed = false) (posts : List Post) :
    Effect.errors (r.routePage posts).2 = [] := by
  rcases file_cases r posts with ⟨rfl, done⟩ | ⟨-, late, -⟩ | ⟨-, -, topic, found, done⟩ |
    ⟨-, -, unknown, done⟩
  · simp [routePage, topicOf?, done]
  · exact absurd (open_.symm.trans late) (by simp)
  · simp [routePage, found]
  · simp [routePage, unknown, done, Effect.errors, Effect.error?]

theorem Within.routeContents_errors (within : Within all r) (consistent : Consistent all)
    (open_ : r.flushed = false) (contents : Contents)
    (inside : ∀ claim ∈ claims contents.calls, claim ∈ all) :
    Effect.errors (r.routeContents contents).2 = contents.errors := by
  cases contents with
  | items items =>
    have early : ∀ claim ∈ claims (items.filterMap Item.registration?), claim ∈ all := by
      intro claim member
      apply inside
      simpa [claims, Contents.calls] using .inl (by simpa [claims] using member)
    have still : (r.routeItems items).1.flushed = false := by rw [routeItems_flushed, open_]
    simp only [routeContents, Contents.errors]
    split
    · exact within.routeItems_errors consistent items early
    · rw [Effect.errors_append, within.routeItems_errors consistent items early,
        routePage_errors still, List.append_nil]
  | _ => rfl

end Resolution

namespace Target

variable {σ : Type} {target : Target σ}

/-- Every insert succeeds, whether or not the record is new. -/
def Willing (target : Target σ) : Prop :=
  ∀ sink record, ∃ written, (target.insert sink record).1 = .ok written

theorem Willing.carryAll_errors (willing : target.Willing) (sink : σ) (o : Outcome)
    (effects : List Effect) :
    (target.carryAll sink o effects).2.name = o.name ∧
    (target.carryAll sink o effects).2.errors = o.errors ++ Effect.errors effects := by
  induction effects generalizing sink o with
  | nil => simp [carryAll, Effect.errors]
  | cons effect rest ih =>
    obtain ⟨name, errors⟩ := ih (target.carry sink o effect).1 (target.carry sink o effect).2
    rw [carryAll, name, errors]
    cases effect with
    | write record =>
      obtain ⟨written, done⟩ := willing sink record
      cases written <;>
        simp [carry, done, Outcome.count, Effect.errors, Effect.error?, List.filterMap_cons]
    | fail error => simp [carry, Outcome.fail, Effect.errors, Effect.error?]
    | wait posts => simp [carry, Effect.errors, Effect.error?, List.filterMap_cons]

theorem endOf_errors {file : SourceFile} {o : Outcome} (name : o.name = file.name)
    (errors : o.errors = file.contents.errors) :
    FileEnd.errors (endOf file.contents o) = file.errors := by
  unfold SourceFile.errors
  cases kind : file.contents with
  | broken message => rfl
  | _ =>
    rw [kind] at errors
    simp [endOf, FileEnd.errors, name, errors]

/-- Each file ends with the errors it brings. -/
theorem Willing.carryFiles_errors (willing : target.Willing) {all : List (Int × Int)}
    (consistent : Resolution.Consistent all) {r : Resolution} (within : Resolution.Within all r)
    (open_ : r.flushed = false) (sink : σ) (files : List SourceFile)
    (inside : ∀ file ∈ files, ∀ claim ∈ Resolution.claims file.contents.calls, claim ∈ all) :
    (target.carryFiles sink files (r.routeAll files).2).2.map FileEnd.errors =
      files.map SourceFile.errors := by
  induction files generalizing sink r with
  | nil => rfl
  | cons file rest ih =>
    rw [List.forall_mem_cons] at inside
    obtain ⟨table, -⟩ := Resolution.routeContents_eq open_ file.contents
    have next : Resolution.Within all (r.routeContents file.contents).1 := by
      rw [table]
      exact (within.performAll consistent _ inside.1).1
    have still := Resolution.routeContents_flushed open_ file.contents
    have wrong := within.routeContents_errors consistent open_ file.contents inside.1
    obtain ⟨name, errors⟩ := willing.carryAll_errors sink { name := file.name }
      (r.routeContents file.contents).2
    simp only [Resolution.routeAll, carryFiles, List.map_cons, ih next still _ inside.2]
    rw [endOf_errors name (by rw [errors, wrong, List.nil_append])]

/-- The errors of a run whose topics agree are those of the files. -/
theorem Willing.account_errors (willing : target.Willing) (sink : σ) (fallback : Int)
    (files : List SourceFile)
    (consistent : Resolution.Consistent (Resolution.claims (files.flatMap (·.contents.calls)))) :
    let summary := target.account sink fallback files
    summary.errors = files.flatMap SourceFile.errors ∧
    summary.processed = files.countP (·.errors.isEmpty) ∧
    summary.failed = files.countP (!·.errors.isEmpty) := by
  have inside : ∀ file ∈ files, ∀ claim ∈ Resolution.claims file.contents.calls,
      claim ∈ Resolution.claims (files.flatMap (·.contents.calls)) := by
    intro file member claim claimed
    rw [Resolution.claims, List.filterMap_flatMap, List.mem_flatMap]
    exact ⟨file, member, claimed⟩
  have ends := willing.carryFiles_errors consistent (Resolution.within_empty _) rfl sink files inside
  generalize done : (target.carryFiles sink files (Resolution.routeAll {} files).2) = carried at ends
  obtain ⟨-, last⟩ := willing.carryAll_errors carried.1 { name := unresolvedName }
    (Effect.ofAssigned ((Resolution.routeAll {} files).1.flush fallback).2)
  have counted (p : List (String × FileError) → Bool) :
      carried.2.countP (p ·.errors) = files.countP (p ·.errors) := by
    have whole := congrArg (List.countP p) ends
    rwa [List.countP_map, List.countP_map] at whole
  simp only [account, summarize, done]
  refine ⟨?_, ?_, ?_⟩
  · rw [last, Effect.errors_ofAssigned, List.flatMap_def, ends, ← List.flatMap_def]
    simp
  · simpa [FileEnd.failed] using counted List.isEmpty
  · exact counted (!List.isEmpty ·)

end Target
end BoardMigration
