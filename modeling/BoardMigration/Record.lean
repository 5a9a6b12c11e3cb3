/-! What a migration moves: categories, forums, topics, posts and users, each of which becomes one row
of the table of its kind. -/
namespace BoardMigration

/-- The user number that all guests share. -/
def guestUser : Int := 1

structure Category where
  name : String
  position : Int := 0
  deriving DecidableEq, Repr

structure Forum where
  /-- Redirect forums have no number; they get one when they are written. -/
  id : Option Int := none
  name : String
  redirect : Option String := none
  description : Option String := none
  topics : Int := 0
  posts : Int := 0
  lastPosted : Option Int := none
  lastPost : Option Int := none
  lastPoster : Option String := none
  sortedByStart : Bool := false
  position : Int := 0
  categoryName : String
  categoryPosition : Int := 0
  deriving DecidableEq, Repr

structure Topic where
  id : Int
  poster : String := ""
  subject : String
  posted : Int := 0
  lastPosted : Int := 0
  /-- The number by which posts on pages without a topic link find their topic. -/
  lastPost : Int
  lastPoster : Option String := none
  views : Int := 0
  replies : Int := 0
  closed : Bool := false
  sticky : Bool := false
  forum : Int := 0
  deriving DecidableEq, Repr

structure Post where
  id : Int
  poster : String
  posterId : Int := guestUser
  message : String := ""
  hideSmilies : Bool := false
  posted : Int := 0
  edited : Option Int := none
  editedBy : Option String := none
  /-- Unknown until the post's topic is. -/
  topic : Option Int := none
  deriving DecidableEq, Repr

structure User where
  id : Int
  username : String
  title : Option String := none
  avatar : Bool := false
  signature : Option String := none
  deriving DecidableEq, Repr

def Forum.isRedirect (forum : Forum) : Bool := forum.redirect.isSome

def Post.isPending (post : Post) : Bool := post.topic.isNone

def Post.withTopic (post : Post) (topic : Int) : Post := { post with topic := some topic }

/-- What a row holds in one column. -/
inductive Value where
  | null
  | int (n : Int)
  | text (s : String)
  deriving DecidableEq, Repr

namespace Value

def ofInt? (n : Option Int) : Value := n.elim null int

def ofText? (s : Option String) : Value := s.elim null text

def ofBool (b : Bool) : Value := int (if b then 1 else 0)

end Value

inductive Record where
  | category (category : Category)
  | forum (forum : Forum)
  | topic (topic : Topic)
  | post (post : Post)
  | user (user : User)
  deriving DecidableEq, Repr

namespace Record

/-- Name of the table, without its prefix. -/
def table : Record → String
  | category _ => "categories"
  | forum _ => "forums"
  | topic _ => "topics"
  | post _ => "posts"
  | user _ => "users"

/-- The row's number, where the record brings one. -/
def key : Record → Option Int
  | category _ => none
  | forum f => f.id
  | topic t => some t.id
  | post p => some p.id
  | user u => some u.id

/-- Columns and values of the row. A forum's category is left to the store, which numbers it. -/
def row : Record → List (String × Value)
  | category c => [("cat_name", .text c.name), ("disp_position", .int c.position)]
  | forum f => [
      ("id", .ofInt? f.id), ("forum_name", .text f.name), ("forum_desc", .ofText? f.description),
      ("redirect_url", .ofText? f.redirect), ("num_topics", .int f.topics),
      ("num_posts", .int f.posts), ("last_post", .ofInt? f.lastPosted),
      ("last_post_id", .ofInt? f.lastPost), ("last_poster", .ofText? f.lastPoster),
      ("sort_by", .ofBool f.sortedByStart), ("disp_position", .int f.position)]
  | topic t => [
      ("id", .int t.id), ("poster", .text t.poster), ("subject", .text t.subject),
      ("posted", .int t.posted), ("last_post", .int t.lastPosted), ("last_post_id", .int t.lastPost),
      ("last_poster", .ofText? t.lastPoster), ("num_views", .int t.views),
      ("num_replies", .int t.replies), ("closed", .ofBool t.closed), ("sticky", .ofBool t.sticky),
      ("forum_id", .int t.forum)]
  | post p => [
      ("id", .int p.id), ("poster", .text p.poster), ("poster_id", .int p.posterId),
      ("message", .text p.message), ("hide_smilies", .ofBool p.hideSmilies), ("posted", .int p.posted),
      ("edited", .ofInt? p.edited), ("edited_by", .ofText? p.editedBy), ("topic_id", .ofInt? p.topic)]
  | user u => [
      ("id", .int u.id), ("username", .text u.username), ("title", .ofText? u.title),
      ("use_avatar", .ofBool u.avatar), ("signature", .ofText? u.signature)]

end Record

/-- What is wrong with a record that could not be read from a page. -/
structure Malformed where
  message : String
  deriving DecidableEq, Repr

/-- One find of a page: a record, or why there is none. -/
inductive Item where
  | record (record : Record)
  | malformed (error : Malformed)
  deriving DecidableEq, Repr

end BoardMigration
