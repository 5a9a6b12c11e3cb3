import BoardMigration.Record

/-! Finding the topics of posts. A page that does not link to its topic still holds the topic's last
post, and the listing of the topic names that post. Whichever is met first waits for the other here:
topics are registered by their last posts, pages are filed under every post they hold. -/
namespace BoardMigration

/-- The posts of one page, which wait for their topic together. The number tells batches of equal posts apart. -/
structure Batch where
  number : Nat
  posts : List Post
  deriving DecidableEq, Repr

def Batch.keys (batch : Batch) : List Int := batch.posts.map (·.id)

structure Assignment where
  post : Post
  topic : Int
  deriving DecidableEq, Repr

def Assignment.resolved (a : Assignment) : Post := a.post.withTopic a.topic

def Batch.assign (topic : Int) (batch : Batch) : List Assignment := batch.posts.map (⟨·, topic⟩)

/-- A last post that two topics claim. The first keeps it. -/
structure Conflict where
  key : Int
  existing : Int
  claimed : Int
  deriving DecidableEq, Repr

def Conflict.message (c : Conflict) : String :=
  s!"Last post {c.key} claimed by topic {c.claimed}, already belongs to topic {c.existing}"

/-- Topics by their last posts, and waiting batches by the posts they hold, keys in the order of their arrival. -/
structure Resolution where
  topics : List (Int × Int) := []
  waiting : List (Int × List Batch) := []
  next : Nat := 0
  flushed : Bool := false
  deriving DecidableEq, Repr

namespace Resolution

def topic? (r : Resolution) (key : Int) : Option Int := r.topics.lookup key

def under (r : Resolution) (key : Int) : List Batch := (r.waiting.lookup key).getD []

/-- Every waiting batch once, in the order of the keys. -/
def batches (r : Resolution) : List Batch := (r.waiting.flatMap (·.2)).eraseDups

def pending (r : Resolution) : Nat := (r.batches.flatMap (·.posts)).length

/-- Takes a batch from under one of its keys. A key with none left goes. -/
def leave (batch : Batch) : List (Int × List Batch) → Int → List (Int × List Batch)
  | [], _ => []
  | (other, batches) :: rest, key =>
    if other == key then
      let left := batches.filter (· != batch)
      if left.isEmpty then rest else (other, left) :: rest
    else (other, batches) :: leave batch rest key

def detach (gone : List Batch) (waiting : List (Int × List Batch)) : List (Int × List Batch) :=
  gone.foldl (fun waiting batch => batch.keys.foldl (leave batch) waiting) waiting

/-- Registers a topic under its last post, and hands out the posts that waited for it. -/
def register (r : Resolution) (key topic : Int) :
    Except Conflict (Resolution × List Assignment) :=
  match r.topic? key with
  | some existing =>
    if existing == topic then .ok (release r) else .error ⟨key, existing, topic⟩
  | none => .ok (release { r with topics := (key, topic) :: r.topics })
where
  release (r : Resolution) : Resolution × List Assignment :=
    let batches := r.under key
    ({ r with waiting := detach batches r.waiting }, batches.flatMap (·.assign topic))

def fileUnder (batch : Batch) : List (Int × List Batch) → Int → List (Int × List Batch)
  | [], key => [(key, [batch])]
  | (other, batches) :: rest, key =>
    if other == key then (other, batches ++ [batch]) :: rest
    else (other, batches) :: fileUnder batch rest key

/-- The topic registered for one of the posts; the last post is tried first. -/
def topicOf? (r : Resolution) (posts : List Post) : Option Int :=
  posts.reverse.findSome? fun post => r.topic? post.id

/-- What became of a page of posts. It is refused once the waiting posts went out. -/
inductive Filing where
  | assigned (assignments : List Assignment)
  | waits
  | refused
  deriving DecidableEq, Repr

def file (r : Resolution) (posts : List Post) : Resolution × Filing :=
  if posts.isEmpty then (r, .assigned [])
  else if r.flushed then (r, .refused)
  else match r.topicOf? posts with
    | some topic => (r, .assigned (posts.map (⟨·, topic⟩)))
    | none =>
      let batch : Batch := ⟨r.next, posts⟩
      ({ r with waiting := batch.keys.foldl (fileUnder batch) r.waiting, next := r.next + 1 }, .waits)

/-- Hands out all waiting posts with a topic to fall back on. Nothing can be filed afterwards. -/
def flush (r : Resolution) (fallback : Int) : Resolution × List Assignment :=
  if r.flushed then (r, [])
  else ({ r with waiting := [], flushed := true }, r.batches.flatMap (·.assign fallback))

def lateMessage : String := "Resolution table already flushed"

end Resolution
end BoardMigration
