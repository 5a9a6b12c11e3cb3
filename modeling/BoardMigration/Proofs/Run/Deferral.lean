import BoardMigration.Proofs.Resolution.Reachable
import BoardMigration.Proofs.Run.Records

/-! Filing a page while other files go on. A page looks for its topic post by post, and only when all those
lookups failed is it filed, which looks once more. Whatever other files register and file in between, the
page goes out whole with a topic that is registered for a post of it, or it waits, and then no post of it is
registered. With nothing in between it comes to what filing it at once comes to. -/
namespace BoardMigration
namespace Resolution

structure Amid where
  resolution : Resolution
  handed : List Assignment
  filing : Filing
  deriving DecidableEq, Repr

/-- Looks for a topic post by post. Before the lookup at place `i` the calls `gaps i` of other files take
effect. -/
def seek (gaps : Nat → List Call) (i : Nat) (r : Resolution) :
    List Post → Resolution × List Assignment × Option Int
  | [] => (r, [], none)
  | post :: rest =>
    let (r, handed) := r.performAll (gaps i)
    match r.topic? post.id with
    | some topic => (r, handed, some topic)
    | none =>
      let (r, more, found) := seek gaps (i + 1) r rest
      (r, handed ++ more, found)

/-- Files the posts of a page, which are looked up from the last on, while calls of other files take
effect. -/
def fileAmid (gaps : Nat → List Call) (r : Resolution) (posts : List Post) : Amid :=
  match r.seek gaps 0 posts.reverse with
  | (r, handed, some topic) => ⟨r, handed, .assigned (posts.map (⟨·, topic⟩))⟩
  | (r, handed, none) =>
    let (r, more) := r.performAll (gaps posts.length)
    let (r, filing) := r.file posts
    ⟨r, handed ++ more, filing⟩

/-- What the file of a page does with what became of the page. -/
def Filing.effects (posts : List Post) : Filing → List Effect
  | .assigned out => Effect.ofAssigned out
  | .waits => [.wait posts.length]
  | .refused => [.fail (.unexpected lateMessage)]

/-- What may become of a page at one moment. -/
inductive Filed (now : Resolution) (posts : List Post) : Resolution → Filing → Prop where
  /-- It goes out with a topic of one of its posts, and leaves no trace. -/
  | out (topic : Int) (known : ∃ post ∈ posts, now.topic? post.id = some topic) :
    Filed now posts now (.assigned (posts.map (⟨·, topic⟩)))
  /-- It waits beside all others, and none of its posts has a topic. -/
  | waits (batch : Batch) (whole : batch.posts = posts)
    (unknown : ∀ post ∈ posts, now.topic? post.id = none)
    (kept : (now.withBatch posts).batches.Perm (now.batches ++ [batch])) :
    Filed now posts (now.withBatch posts) .waits

variable {r : Resolution}

theorem Valid.performAll (valid : Valid r) (calls : List Call) : Valid (r.performAll calls).1 := by
  induction calls generalizing r with
  | nil => exact valid
  | cons call rest ih => exact ih (valid.perform call)

theorem seek_still (i : Nat) (r : Resolution) (posts : List Post) :
    r.seek (fun _ => []) i posts = (r, [], posts.findSome? fun post => r.topic? post.id) := by
  induction posts generalizing i with
  | nil => rfl
  | cons post rest ih =>
    simp only [seek, performAll, List.findSome?_cons]
    cases r.topic? post.id with
    | some topic => rfl
    | none => simp [ih]

/-- The lookups before filing come to what filing finds itself. -/
theorem fileAmid_still (open_ : r.flushed = false) {posts : List Post} (filled : posts ≠ []) :
    r.fileAmid (fun _ => []) posts = ⟨(r.file posts).1, [], (r.file posts).2⟩ := by
  have looked := seek_still 0 r posts.reverse
  change _ = (r, [], r.topicOf? posts) at looked
  rw [fileAmid, looked]
  rcases file_cases r posts with ⟨empty, -⟩ | ⟨-, late, -⟩ | ⟨-, -, topic, found, done⟩ |
    ⟨-, -, unknown, done⟩
  · exact absurd empty filled
  · exact absurd (open_.symm.trans late) (by simp)
  · rw [found, done]
  · rw [unknown, done]
    simp [performAll, done]

theorem routePage_eq_file (open_ : r.flushed = false) {posts : List Post} (filled : posts ≠ []) :
    r.routePage posts = ((r.file posts).1, (r.file posts).2.effects posts) := by
  rcases file_cases r posts with ⟨empty, -⟩ | ⟨-, late, -⟩ | ⟨-, -, topic, found, done⟩ |
    ⟨-, -, unknown, done⟩
  · exact absurd empty filled
  · exact absurd (open_.symm.trans late) (by simp)
  · simp [routePage, found, done, Filing.effects]
  · simp [routePage, unknown, done, Filing.effects]

/-- A lookup that finds a topic finds it after the calls so far; without one all calls took effect. -/
theorem seek_spec (gaps : Nat → List Call) (i : Nat) (r : Resolution) (posts : List Post) :
    ∃ taken, taken <+: (List.range' i posts.length).flatMap gaps ∧
      (r.seek gaps i posts).1 = (r.performAll taken).1 ∧
      (r.seek gaps i posts).2.1 = (r.performAll taken).2 ∧
      ((r.seek gaps i posts).2.2 = none → taken = (List.range' i posts.length).flatMap gaps) ∧
      ∀ topic, (r.seek gaps i posts).2.2 = some topic →
        ∃ post ∈ posts, (r.performAll taken).1.topic? post.id = some topic := by
  induction posts generalizing i r with
  | nil => exact ⟨[], List.nil_prefix, rfl, rfl, fun _ => rfl, nofun⟩
  | cons post rest ih =>
    rw [List.length_cons, List.range'_succ, List.flatMap_cons]
    cases known : (r.performAll (gaps i)).1.topic? post.id with
    | some topic =>
      refine ⟨gaps i, List.prefix_append _ _, ?_⟩
      simp only [seek, known]
      refine ⟨trivial, trivial, nofun, ?_⟩
      intro other same
      obtain rfl := Option.some.inj same
      exact ⟨post, List.mem_cons_self, known⟩
    | none =>
      obtain ⟨taken, begins, same, handed, all, found⟩ := ih (i + 1) (r.performAll (gaps i)).1
      refine ⟨gaps i ++ taken, (List.prefix_append_right_inj _).mpr begins, ?_⟩
      simp only [seek, known, performAll_append, same, handed]
      refine ⟨trivial, trivial, fun none => by rw [all none], ?_⟩
      intro topic some
      obtain ⟨other, inside, here⟩ := found topic some
      exact ⟨other, List.mem_cons_of_mem _ inside, here⟩

theorem filed_of_file (valid : Valid r) (open_ : r.flushed = false) {posts : List Post}
    (filled : posts ≠ []) : Filed r posts (r.file posts).1 (r.file posts).2 := by
  rcases file_cases r posts with ⟨empty, -⟩ | ⟨-, late, -⟩ | ⟨-, -, topic, found, done⟩ |
    ⟨-, -, unknown, done⟩
  · exact absurd empty filled
  · exact absurd (open_.symm.trans late) (by simp)
  · rw [done]
    exact .out topic (topicOf?_eq_some found)
  · rw [done]
    exact .waits ⟨r.next, posts⟩ rfl ((topicOf?_eq_none r posts).mp unknown)
      (batches_withBatch valid open_ unknown filled)

/-- A page comes to one moment among the calls of other files: it goes out there, or is filed there. -/
theorem filed_amid (valid : Valid r) (open_ : r.flushed = false) {posts : List Post}
    (filled : posts ≠ []) (gaps : Nat → List Call) :
    ∃ taken, taken <+: (List.range (posts.length + 1)).flatMap gaps ∧
      (r.fileAmid gaps posts).handed = (r.performAll taken).2 ∧
      Filed (r.performAll taken).1 posts (r.fileAmid gaps posts).resolution
        (r.fileAmid gaps posts).filing := by
  obtain ⟨taken, begins, same, handed, all, found⟩ := seek_spec gaps 0 r posts.reverse
  rw [List.length_reverse, ← List.range_eq_range'] at begins all
  rw [List.range_succ, List.flatMap_append, List.flatMap_singleton]
  cases looked : (r.seek gaps 0 posts.reverse).2.2 with
  | some topic =>
    obtain ⟨post, inside, known⟩ := found topic looked
    have came : r.fileAmid gaps posts =
        ⟨(r.performAll taken).1, (r.performAll taken).2, .assigned (posts.map (⟨·, topic⟩))⟩ := by
      rw [fileAmid, ← same, ← handed]
      generalize r.seek gaps 0 posts.reverse = end_ at looked
      obtain ⟨_, _, _⟩ := end_
      cases looked
      rfl
    refine ⟨taken, begins.trans (List.prefix_append _ _), ?_⟩
    rw [came]
    exact ⟨rfl, .out topic ⟨post, List.mem_reverse.mp inside, known⟩⟩
  | none =>
    have whole := all looked
    have came : r.fileAmid gaps posts =
        ⟨((r.performAll (taken ++ gaps posts.length)).1.file posts).1,
          (r.performAll (taken ++ gaps posts.length)).2,
          ((r.performAll (taken ++ gaps posts.length)).1.file posts).2⟩ := by
      rw [fileAmid, performAll_append, ← same, ← handed]
      generalize r.seek gaps 0 posts.reverse = end_ at looked
      obtain ⟨_, _, _⟩ := end_
      cases looked
      rfl
    refine ⟨taken ++ gaps posts.length, whole ▸ List.prefix_refl _, ?_⟩
    rw [came]
    exact ⟨rfl, filed_of_file (valid.performAll _) ((performAll_flushed r _).trans open_) filled⟩

/-- Filing a page the way its file does, with the lookups before it, comes to what filing it at once comes
to, whatever the target: the same writes in the same order, the same resolution, and it waits in the same
cases. If calls of other files take effect before each lookup and before the filing itself, what these are
handed is what they are handed without the page, and the page goes out once, whole, with a topic of one of
its posts, or waits at a moment when none of its posts has a topic. -/
theorem defer_agrees (calls : List Call) {posts : List Post} (filled : posts ≠ []) :
    let r := (({} : Resolution).performAll calls).1
    (∀ {σ : Type} (target : Target σ) (sink : σ) (o : Outcome),
      target.defer ⟨r, sink⟩ o posts =
        target.settle sink o ((r.file posts).1, (r.file posts).2.effects posts)) ∧
    r.fileAmid (fun _ => []) posts = ⟨(r.file posts).1, [], (r.file posts).2⟩ ∧
    ∀ gaps : Nat → List Call, ∃ taken, taken <+: (List.range (posts.length + 1)).flatMap gaps ∧
      (r.fileAmid gaps posts).handed = (r.performAll taken).2 ∧
      Filed (r.performAll taken).1 posts (r.fileAmid gaps posts).resolution
        (r.fileAmid gaps posts).filing := by
  intro r
  have valid : Valid r := valid_empty.performAll calls
  have open_ : r.flushed = false := performAll_flushed {} calls
  refine ⟨fun target sink o => ?_, fileAmid_still open_ filled, filed_amid valid open_ filled⟩
  rw [Target.defer_eq, routePage_eq_file open_ filled]

/-- Another file registers the topic of post 1 after the page looked for it, and that of post 2 by the time
the page is filed; a page of post 9 waits meanwhile. -/
theorem defer_agrees_overtaken :
    let post (n : Int) : Post := { id := n, poster := "Bob" }
    let posts := [post 2, post 1]
    let r := (({} : Resolution).performAll [.file [post 9], .register 3 8]).1
    let gaps : Nat → List Call := fun i => if i = 1 then [.register 1 7] else [.file [post 9, post 2]]
    posts ≠ [] ∧
    (∀ (sink : Nat) (o : Outcome),
      let target : Target Nat := ⟨fun n _ => (.ok true, n + 1), id⟩
      target.defer ⟨r, sink⟩ o posts =
        target.settle sink o ((r.file posts).1, (r.file posts).2.effects posts)) ∧
    (r.fileAmid gaps posts).filing = .assigned [⟨post 2, 7⟩, ⟨post 1, 7⟩] ∧
    ∃ taken, taken <+: (List.range (posts.length + 1)).flatMap gaps ∧
      (r.fileAmid gaps posts).handed = (r.performAll taken).2 ∧
      Filed (r.performAll taken).1 posts (r.fileAmid gaps posts).resolution
        (r.fileAmid gaps posts).filing := by
  intro post posts r gaps
  have filled : posts ≠ [] := by decide
  obtain ⟨same, -, amid⟩ := defer_agrees [.file [post 9], .register 3 8] filled
  exact ⟨filled, fun sink o => same _ sink o, by decide, amid gaps⟩

end Resolution
end BoardMigration
