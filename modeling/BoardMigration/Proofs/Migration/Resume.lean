import BoardMigration.Proofs.Migration.Board

/-! Stopping a migration and taking it up again. A stopped migration still writes the posts that wait,
with the topic to fall back on; the migration that takes it up leaves such rows as they are. Topics and
users end as if nothing had stopped, and so do all posts that were not written too early. -/
namespace BoardMigration

open Schema (Table)

theorem routeAll_append (r : Resolution) (first second : List SourceFile) :
    (r.routeAll (first ++ second)).2 =
      (r.routeAll first).2 ++ ((r.routeAll first).1.routeAll second).2 := by
  induction first generalizing r with
  | nil => rfl
  | cons file rest ih => exact congrArg (_ :: ·) (ih _)

/-- What is written before a stop is written first in any case. -/
theorem earlyRecords_take (files : List SourceFile) (k : Nat) :
    earlyRecords (files.take k) <+: earlyRecords files := by
  have whole := routeAll_append {} (files.take k) (files.drop k)
  rw [List.take_append_drop] at whole
  rw [earlyRecords, earlyRecords, whole, List.flatMap_append]
  exact List.prefix_append _ _

theorem mem_latePosts {files : List SourceFile} {fallback : Int} {record : Record}
    (member : record ∈ latePosts files fallback) :
    ∃ p : Post, record = .post (p.withTopic fallback) := by
  obtain ⟨a, inside, rfl⟩ := List.mem_map.mp member
  have topic : a.topic = fallback := by
    unfold Resolution.flush at inside
    split at inside
    · cases inside
    · obtain ⟨batch, -, here⟩ := List.mem_flatMap.mp inside
      obtain ⟨post, -, rfl⟩ := List.mem_map.mp here
      rfl
  exact ⟨a.post, by rw [Assignment.resolved, topic]⟩

namespace Store

theorem stored_append (shape : Table) (first second : List Record) :
    stored shape (first ++ second) = stored shape first ++ stored shape second := List.filterMap_append

theorem stored_latePosts {shape : Table} (other : shape.name ≠ "posts") (files : List SourceFile)
    (fallback : Int) : stored shape (latePosts files fallback) = [] := by
  rw [stored, List.filterMap_eq_nil_iff]
  intro record member
  obtain ⟨p, rfl⟩ := mem_latePosts member
  have table : (Record.post (p.withTopic fallback)).table ≠ shape.name := fun same => other same.symm
  simp [Sink.stored?, table]

theorem topic_of_stored {p : Post} {topic : Int} {row : Row}
    (found : Sink.stored? Table.posts (.post (p.withTopic topic)) = some row) :
    row.value "topic_id" = .int topic := by
  simp only [Sink.stored?] at found
  split at found
  · cases found
    rfl
  · cases found

theorem added_extends (rows : Table → List Row) (records : List Record) (shape : Table) :
    rows shape ⊆ added rows records shape := (prefix_keepFirst _ _ _).subset

theorem added_distinct {rows : Table → List Row} {shape : Table}
    (distinct : ((rows shape).map (StoredTable.keyOf shape)).Nodup) (records : List Record) :
    ((added rows records shape).map (StoredTable.keyOf shape)).Nodup := nodup_keepFirst _ distinct _

/-- Rows that a stopped migration adds before its last writes are added by a whole one. -/
theorem added_take (rows : Table → List Row) (files : List SourceFile) (fallback : Int) (k : Nat)
    {shape : Table} {row : Row} (early : row ∈ added rows (insertions (files.take k) fallback) shape)
    (missing : row ∉ added rows (insertions files fallback) shape) :
    row ∈ stored shape (latePosts (files.take k) fallback) := by
  rw [added, insertions, stored_append, keepFirst_append] at early
  rcases mem_keepFirst _ early with before | last
  · obtain ⟨rest, whole⟩ := earlyRecords_take files k
    refine absurd ?_ missing
    rw [added, insertions, ← whole, List.append_assoc, stored_append, keepFirst_append]
    exact (prefix_keepFirst _ _ _).subset before
  · exact last

/-- What a migration leaves that was stopped and taken up, beside what a whole one leaves. -/
structure Resumed (tablePrefix : String) (fallback : Int) (stopped resumed whole : Database) :
    Prop where
  topics : (resumed.rowsOf tablePrefix "topics").Perm (whole.rowsOf tablePrefix "topics")
  users : (resumed.rowsOf tablePrefix "users").Perm (whole.rowsOf tablePrefix "users")
  /-- Posts end alike if and only if the stop left none that a whole migration does not leave. -/
  posts : (resumed.rowsOf tablePrefix "posts").Perm (whole.rowsOf tablePrefix "posts") ↔
    ∀ row ∈ stopped.rowsOf tablePrefix "posts", row ∈ whole.rowsOf tablePrefix "posts"
  /-- Such a post was written by the stop, with the topic to fall back on. -/
  early : ∀ row ∈ stopped.rowsOf tablePrefix "posts", row ∉ whole.rowsOf tablePrefix "posts" →
    row.value "topic_id" = .int fallback

section

variable {stopped resumed whole : Database} {tablePrefix start : String} {rows : Table → List Row}
variable {files : List SourceFile} {fallback : Int} {k : Nat}

/-- Rows of any table end alike if and only if the stop left none that a whole migration does not. -/
theorem rows_alike_iff
    (first : Board stopped tablePrefix start (added rows (insertions (files.take k) fallback)))
    (second : Board resumed tablePrefix start
      (added (added rows (insertions (files.take k) fallback)) (insertions files fallback)))
    (once : Board whole tablePrefix start (added rows (insertions files fallback)))
    {shape : Table} (member : shape ∈ Sink.numbered) {name : String} (named : shape.name = name)
    (distinct : ((rows shape).map (StoredTable.keyOf shape)).Nodup) :
    (resumed.rowsOf tablePrefix name).Perm (whole.rowsOf tablePrefix name) ↔
      ∀ row ∈ stopped.rowsOf tablePrefix name, row ∈ whole.rowsOf tablePrefix name := by
  subst named
  rw [first.rowsOf member, second.rowsOf member, once.rowsOf member]
  exact keepFirst_perm_iff (added_distinct distinct _) (added_extends _ _ _) distinct

theorem row_of_stop
    (first : Board stopped tablePrefix start (added rows (insertions (files.take k) fallback)))
    (once : Board whole tablePrefix start (added rows (insertions files fallback)))
    {shape : Table} (member : shape ∈ Sink.numbered) {name : String} (named : shape.name = name)
    {row : Row} (early : row ∈ stopped.rowsOf tablePrefix name)
    (missing : row ∉ whole.rowsOf tablePrefix name) :
    row ∈ stored shape (latePosts (files.take k) fallback) := by
  subst named
  rw [first.rowsOf member] at early
  rw [once.rowsOf member] at missing
  exact added_take rows files fallback k early missing

theorem resumed_of_boards
    (first : Board stopped tablePrefix start (added rows (insertions (files.take k) fallback)))
    (second : Board resumed tablePrefix start
      (added (added rows (insertions (files.take k) fallback)) (insertions files fallback)))
    (once : Board whole tablePrefix start (added rows (insertions files fallback)))
    (distinct : ∀ shape ∈ Sink.numbered, ((rows shape).map (StoredTable.keyOf shape)).Nodup) :
    Resumed tablePrefix fallback stopped resumed whole := by
  have others {shape : Table} (member : shape ∈ Sink.numbered) {name : String}
      (named : shape.name = name) (other : name ≠ "posts") :
      (resumed.rowsOf tablePrefix name).Perm (whole.rowsOf tablePrefix name) := by
    rw [rows_alike_iff first second once member named (distinct shape member)]
    intro row early
    by_contra missing
    have last := row_of_stop first once member named early missing
    rw [stored_latePosts (named ▸ other)] at last
    cases last
  have topics : Table.topics ∈ Sink.numbered := by decide
  have users : Table.users ∈ Sink.numbered := by decide
  have posts : Table.posts ∈ Sink.numbered := by decide
  constructor
  · exact others topics rfl (by decide)
  · exact others users rfl (by decide)
  · exact rows_alike_iff first second once posts rfl (distinct _ posts)
  · intro row early missing
    have last := row_of_stop first once posts rfl early missing
    obtain ⟨record, member, found⟩ := List.mem_filterMap.mp last
    obtain ⟨p, rfl⟩ := mem_latePosts member
    exact topic_of_stored found

end

end Store

namespace Job

/-- The migration with new tables, up to a halt. -/
def afresh (job : Job) (halt : Halt) : Job :=
  { job with config := { job.config with append := false }, halt }

/-- The migration over the rows that are there. -/
def again (job : Job) : Job :=
  { job with config := { job.config with append := true }, halt := .never }

variable (job : Job) (db : Store.Database) (files : List SourceFile)

/-- A migration that ends otherwise than for its tables could create them. -/
theorem creatable_of_begun {halt : Halt}
    (begun : ∀ error, ((job.afresh halt).fill db files).result ≠ .error (.provision error)) :
    Store.Creatable db job.config.tablePrefix := by
  unfold Store.Creatable
  cases attempt : (Store.Sink.connect db job.config.tablePrefix).provision with
  | mk provisioned sink =>
    cases provisioned with
    | ok _ => rfl
    | error error =>
      have refused : ((job.afresh halt).fill db files).result = .error (.provision error) := by
        simp [fill, afresh, attempt]
      exact absurd refused (begun error)

theorem creatable_of_fill {halt : Halt} {summary : Summary}
    (done : ((job.afresh halt).fill db files).result = .ok summary) :
    Store.Creatable db job.config.tablePrefix :=
  job.creatable_of_begun db files fun _ refused => absurd (done.symm.trans refused) (by simp)

/-- A migration with new tables is a run on a new board. -/
theorem fill_afresh (halt : Halt) (creatable : Store.Creatable db job.config.tablePrefix) :
    let run := Store.target.run
      (.connect (Store.created db job.config.tablePrefix) job.config.tablePrefix)
      job.config.fallbackTopic files halt
    ((job.afresh halt).fill db files).database = run.sink.database ∧
    ((job.afresh halt).fill db files).result = resultOf run := by
  simp [fill, afresh, creatable.provision]

theorem fill_again :
    (job.again.fill db files).database =
      (Store.target.run (.connect db job.config.tablePrefix) job.config.fallbackTopic files
        .never).sink.database := rfl

/-- The rows of the tables after a stop, after the migration that takes it up and after a whole one. -/
theorem boards_of_fill (k : Nat) (creatable : Store.Creatable db job.config.tablePrefix) :
    let stopped := ((job.afresh (.stopBefore k)).fill db files).database
    let first := Store.firstRows job.config.tablePrefix
    let early := insertions (files.take k) job.config.fallbackTopic
    let all := insertions files job.config.fallbackTopic
    ∃ start, Store.Board stopped job.config.tablePrefix start (Store.added first early) ∧
      Store.Board (job.again.fill stopped files).database job.config.tablePrefix start
        (Store.added (Store.added first early) all) ∧
      Store.Board ((job.afresh .never).fill db files).database job.config.tablePrefix start
        (Store.added first all) := by
  intro stopped first early all
  obtain ⟨start, board⟩ := creatable.board
  have unbroken : (Halt.stopBefore k).ending files.length ≠ .aborted := by
    simp only [Halt.ending]
    split <;> simp
  have once := board.run job.config.fallbackTopic files .never (by simp [Halt.ending])
  have begun := board.run job.config.fallbackTopic files (.stopBefore k) unbroken
  rw [← (job.fill_afresh db files _ creatable).1] at once begun
  have resumed := begun.run job.config.fallbackTopic files .never (by simp [Halt.ending])
  rw [← job.fill_again] at resumed
  exact ⟨start, begun, resumed, once⟩

/-- A migration that is stopped and taken up ends like one that goes through, but for posts that the
stop wrote with the topic to fall back on. -/
theorem fill_resumed (k : Nat) {summary : Summary}
    (done : ((job.afresh .never).fill db files).result = .ok summary) :
    let stopped := ((job.afresh (.stopBefore k)).fill db files).database
    Store.Resumed job.config.tablePrefix job.config.fallbackTopic stopped
      (job.again.fill stopped files).database ((job.afresh .never).fill db files).database := by
  have creatable := job.creatable_of_fill db files done
  obtain ⟨start, stopped, resumed, whole⟩ := job.boards_of_fill db files k creatable
  exact Store.resumed_of_boards stopped resumed whole fun _ => Store.firstRows_distinct _

/-- The page of post 5 is taken before the stop, the topic that ends with it afterwards. -/
theorem fill_resumed_divided :
    let job : Job := {
      root := .ofString "export", address := "sqlite:board.db"
      config := ⟨some 1, 16, false, "%Y-%m-%d", "old_", 0⟩ }
    let files : List SourceFile := [
      ⟨"topic.html", .items [.record (.user { id := 2, username := "Bob" }),
        .record (.post { id := 5, poster := "Bob", posterId := 2 })]⟩,
      ⟨"forum.html", .items [.record (.topic { id := 7, subject := "News", lastPost := 5 }),
        .malformed ⟨"no id"⟩, .record (.post { id := 6, poster := "Ann", topic := some 7 })]⟩]
    let stopped := ((job.afresh (.stopBefore 1)).fill {} files).database
    (∃ summary, ((job.afresh .never).fill {} files).result = .ok summary) ∧
    Store.Resumed "old_" 0 stopped (job.again.fill stopped files).database
      ((job.afresh .never).fill {} files).database := by
  intro job files stopped
  have creatable : Store.Creatable {} "old_" :=
    Store.creatable_plain (by decide +kernel) (by decide +kernel)
  have done : ∃ summary, ((job.afresh .never).fill {} files).result = .ok summary := by
    rw [(job.fill_afresh {} files .never creatable).2, resultOf, Target.run_summary]
    exact ⟨_, rfl⟩
  obtain ⟨summary, through⟩ := done
  exact ⟨⟨summary, through⟩, job.fill_resumed {} files 1 through⟩

/-- Post 5 is stored without its topic by the stop, and stays so. -/
theorem fill_not_resumed :
    let job : Job := {
      root := .ofString "export", address := "sqlite:board.db"
      config := ⟨some 1, 16, false, "%Y-%m-%d", "", 0⟩ }
    let files : List SourceFile := [
      ⟨"topic.html", .items [.record (.post { id := 5, poster := "Bob" })]⟩,
      ⟨"forum.html", .items [.record (.topic { id := 7, subject := "News", lastPost := 5 })]⟩]
    let stopped := ((job.afresh (.stopBefore 1)).fill {} files).database
    ¬∀ name ∈ ["topics", "posts", "users"],
      ((job.again.fill stopped files).database.rowsOf "" name).Perm
        (((job.afresh .never).fill {} files).database.rowsOf "" name) := by
  intro job files stopped same
  have creatable : Store.Creatable {} "" :=
    Store.creatable_plain (by decide +kernel) (by decide +kernel)
  obtain ⟨start, -, resumed, whole⟩ := job.boards_of_fill {} files 1 creatable
  have posts : Table.posts ∈ Store.Sink.numbered := by decide
  have alike := same Table.posts.name (by decide)
  rw [resumed.rowsOf posts, whole.rowsOf posts] at alike
  revert alike
  decide +kernel

end Job
end BoardMigration
