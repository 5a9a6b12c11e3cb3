import BoardMigration.Proofs.Run.Order

/-! Topics that contradict earlier ones. The first topic that claims a last post keeps it, whatever else
happens in a run, so which topics are refused can be seen from the files alone, and so can all errors of a
file but failed writes. -/
namespace BoardMigration

/-- The conflict of a topic with those before it. -/
def Topic.conflict? (earlier : List Topic) (t : Topic) : Option Conflict :=
  match earlier.find? (·.lastPost == t.lastPost) with
  | some first => if first.id = t.id then none else some ⟨t.lastPost, first.id, t.id⟩
  | none => none

/-- Conflicts of topics with those before them, and with each other. -/
def conflicts (earlier : List Topic) : List Topic → List Conflict
  | [] => []
  | t :: rest => (t.conflict? earlier).toList ++ conflicts (earlier ++ [t]) rest

def Item.topic? (item : Item) : Option Topic := item.record?.bind Record.topic?

def Contents.topics (contents : Contents) : List Topic := contents.records.filterMap Record.topic?

/-- What is wrong with a file that comes after some topics, failed writes apart. -/
def Contents.faultsAfter (earlier : List Topic) (contents : Contents) : List FileError :=
  contents.errors ++ (conflicts earlier contents.topics).map .conflict

theorem topics_items (items : List Item) : (Contents.items items).topics = items.filterMap Item.topic? := by
  rw [Contents.topics, Contents.records, List.filterMap_filterMap]
  rfl

theorem topicsOf_eq (files : List SourceFile) : topicsOf files = files.flatMap (·.contents.topics) := by
  simp only [topicsOf, recordsOf, List.filterMap_flatMap, Contents.topics]

theorem conflicts_append (earlier first second : List Topic) :
    conflicts earlier (first ++ second) =
      conflicts earlier first ++ conflicts (earlier ++ first) second := by
  induction first generalizing earlier with
  | nil => simp [conflicts]
  | cons t rest ih => simp [conflicts, ih]

namespace Resolution

/-- Whether a resolution holds, for each last post, the first topic that claimed it. -/
def Knows (r : Resolution) (earlier : List Topic) : Prop :=
  ∀ key, r.topic? key = (earlier.find? (·.lastPost == key)).map (·.id)

variable {r : Resolution} {earlier : List Topic}

theorem knows_empty : Knows {} [] := fun _ => rfl

theorem Knows.conflict? (knows : r.Knows earlier) (t : Topic) : t.conflict? earlier =
    match r.topic? t.lastPost with
    | some existing => if existing = t.id then none else some ⟨t.lastPost, existing, t.id⟩
    | none => none := by
  rw [knows, Topic.conflict?]
  cases earlier.find? (·.lastPost == t.lastPost) <;> rfl

/-- A further topic is known unless an earlier one claimed the same post. -/
theorem Knows.append {next : Resolution} (knows : r.Knows earlier) (t : Topic)
    (step : ∀ key, next.topic? key = (r.topic? key).or (if t.lastPost = key then some t.id else none)) :
    next.Knows (earlier ++ [t]) := by
  intro key
  rw [step, knows, List.find?_append]
  by_cases here : t.lastPost = key
  · cases earlier.find? (·.lastPost == key) <;> simp [here]
  · cases earlier.find? (·.lastPost == key) <;> simp [here]

/-- An item goes wrong by itself or by contradicting an earlier topic. -/
theorem Knows.route (knows : r.Knows earlier) (item : Item) :
    (r.route item).1.Knows (earlier ++ item.topic?.toList) ∧
    Effect.errors (r.route item).2 =
      item.error?.toList ++ (conflicts earlier item.topic?.toList).map .conflict := by
  have same : r.Knows (earlier ++ []) := by rwa [List.append_nil]
  cases item with
  | malformed error => exact ⟨same, rfl⟩
  | record record =>
    cases record with
    | topic t =>
      have topic : (Item.record (.topic t)).topic?.toList = [t] := rfl
      have own : conflicts earlier [t] = (t.conflict? earlier).toList := List.append_nil _
      rw [topic, own, knows.conflict?]
      rcases register_cases r t.lastPost t.id with ⟨existing, known, differs, refused⟩ | ⟨agrees, done⟩
      · simp only [Resolution.route, refused, known, if_neg differs]
        refine ⟨knows.append t fun key => ?_, rfl⟩
        by_cases here : t.lastPost = key
        · subst here
          rw [known]
          rfl
        · simp [here]
      · have quiet := Effect.errors_ofAssigned ((r.under t.lastPost).flatMap (·.assign t.id))
        simp only [Resolution.route, done]
        refine ⟨knows.append t fun key => ?_, ?_⟩
        · rw [topic?_released r agrees]
          by_cases here : key = t.lastPost
          · subst here
            rcases agrees with new | old
            · simp [new]
            · simp [old]
          · simp [here, Ne.symm here]
        · rcases agrees with new | old
          · rw [new]
            exact quiet
          · simp only [old, ↓reduceIte]
            exact quiet
    | post post => cases pending : post.isPending <;> simpa only [Resolution.route, pending] using ⟨same, rfl⟩
    | _ => exact ⟨same, rfl⟩

theorem Knows.routeItems (knows : r.Knows earlier) (items : List Item) :
    (r.routeItems items).1.Knows (earlier ++ items.filterMap Item.topic?) ∧
    (Effect.errors (r.routeItems items).2).Perm
      (items.filterMap Item.error? ++ (conflicts earlier (items.filterMap Item.topic?)).map .conflict) := by
  induction items generalizing r earlier with
  | nil => exact ⟨by rwa [List.filterMap_nil, List.append_nil], .nil⟩
  | cons item rest ih =>
    obtain ⟨next, wrong⟩ := knows.route item
    obtain ⟨final, others⟩ := ih next
    rw [filterMap_cons_toList, filterMap_cons_toList, conflicts_append, ← List.append_assoc]
    refine ⟨final, ?_⟩
    simp only [Resolution.routeItems, Effect.errors_append, wrong, List.map_append]
    exact (others.append_left _).trans (append_shuffle _ _ _ _)

/-- Filing a page makes no topic known. -/
theorem Knows.routePage (knows : r.Knows earlier) (open_ : r.flushed = false) (posts : List Post) :
    (r.routePage posts).1.Knows earlier := by
  intro key
  rw [(routePage_eq open_ posts).1, topic?_file, knows]

theorem Knows.routeContents (knows : r.Knows earlier) (open_ : r.flushed = false) (contents : Contents) :
    (r.routeContents contents).1.Knows (earlier ++ contents.topics) ∧
    (Effect.errors (r.routeContents contents).2).Perm (contents.faultsAfter earlier) := by
  cases contents with
  | items items =>
    obtain ⟨next, wrong⟩ := knows.routeItems items
    have still : (r.routeItems items).1.flushed = false := by rw [routeItems_flushed, open_]
    rw [Contents.faultsAfter, topics_items]
    unfold Resolution.routeContents
    dsimp only
    split
    · exact ⟨next, wrong⟩
    · refine ⟨next.routePage still _, ?_⟩
      rw [Effect.errors_append, routePage_errors still, List.append_nil]
      exact wrong
  | _ => exact ⟨(List.append_nil earlier).symm ▸ knows, .refl _⟩

end Resolution
end BoardMigration
