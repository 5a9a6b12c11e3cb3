import BoardMigration.Store.Database

/-! Reading tables out for inspection. -/
namespace BoardMigration.Store

/-- Null comes before integers, integers before text. -/
def Value.le : Value → Value → Bool
  | .null, _ => true
  | .int _, .null => false
  | .int a, .int b => a ≤ b
  | .int _, .text _ => true
  | .text _, .null => false
  | .text _, .int _ => false
  | .text a, .text b => a ≤ b

/-- Columns shown of a table of records, unless others are asked for. -/
def shownColumns : String → List String
  | "categories" => ["id", "cat_name", "disp_position"]
  | "forums" => ["id", "forum_name", "forum_desc", "redirect_url", "num_topics", "num_posts",
      "last_post", "last_post_id", "last_poster", "sort_by", "disp_position", "cat_id"]
  | "topics" => ["id", "poster", "subject", "posted", "last_post", "last_post_id", "last_poster",
      "num_views", "num_replies", "closed", "sticky", "forum_id"]
  | "posts" => ["id", "poster", "poster_id", "message", "hide_smilies", "posted", "edited",
      "edited_by", "topic_id"]
  | "users" => ["id", "group_id", "username", "title", "use_avatar", "signature"]
  | _ => []

def recordTables : List String := ["categories", "forums", "topics", "posts", "users"]

def Database.rows? (db : Database) (name : String) (columns : List String) :
    Option (List (List Value)) :=
  (db.table? name).map fun t =>
    let byNumber := t.rows.mergeSort fun a b => Value.le (a.value "id") (b.value "id")
    (byNumber.map fun row => columns.map row.value).mergeSort fun a b =>
      Value.le (a.headD .null) (b.headD .null)

def Database.sortedObjects (db : Database) : List (String × String) :=
  db.objects.mergeSort fun a b => a.1 < b.1 || (a.1 == b.1 && a.2 ≤ b.2)

end BoardMigration.Store
