import BoardMigration.Record

/-! The tables of a board. -/
namespace BoardMigration.Schema

inductive ColumnKind where
  /-- The number of a row, which the database assigns if it is left out. -/
  | key
  | integer | mediumInt | smallInt | tinyInt | flag | real | text
  | varchar (length : Nat)
  deriving DecidableEq, Repr

/-- Whether a value is stored in a column as it is. -/
def ColumnKind.holds : ColumnKind → Value → Bool
  | _, .null => true
  | .text, .text _ => true
  | .varchar _, .text _ => true
  | .text, .int _ => false
  | .varchar _, .int _ => false
  | _, .int _ => true
  | _, .text _ => false

structure Column where
  name : String
  kind : ColumnKind
  /-- The value of a column that must not be null when none is given. -/
  default? : Option Value
  deriving DecidableEq, Repr

namespace Column

def free (name : String) (kind : ColumnKind) : Column := ⟨name, kind, none⟩

def needed (name : String) (kind : ColumnKind) (value : Value) : Column := ⟨name, kind, some value⟩

end Column

structure Table where
  name : String
  columns : List Column
  /-- Columns of the primary key. -/
  key : List String
  inMemory : Bool := false
  deriving DecidableEq, Repr

namespace Table

def bans : Table := {
  name := "bans", columns := [
    .free "id" .key, .free "username" (.varchar 200), .free "ip" (.varchar 255),
    .free "email" (.varchar 50), .free "message" (.varchar 255), .free "expire" .integer],
  key := ["id"] }

def categories : Table := {
  name := "categories", columns := [
    .free "id" .key, .needed "cat_name" (.varchar 80) (.text "New Category"),
    .needed "disp_position" .integer (.int 0)],
  key := ["id"] }

def censoring : Table := {
  name := "censoring", columns := [
    .free "id" .key, .needed "search_for" (.varchar 60) (.text ""),
    .needed "replace_with" (.varchar 60) (.text "")],
  key := ["id"] }

def config : Table := {
  name := "config", columns := [
    .needed "conf_name" (.varchar 255) (.text ""), .free "conf_value" .text],
  key := ["conf_name"] }

def forumPerms : Table := {
  name := "forum_perms", columns := [
    .needed "group_id" .integer (.int 0), .needed "forum_id" .integer (.int 0),
    .needed "read_forum" .flag (.int 1), .needed "read_replies" .flag (.int 1),
    .needed "post_topics" .flag (.int 1)],
  key := ["group_id", "forum_id"] }

def forums : Table := {
  name := "forums", columns := [
    .free "id" .key, .needed "forum_name" (.varchar 80) (.text "New forum"),
    .free "forum_desc" .text, .free "redirect_url" (.varchar 100), .free "moderators" .text,
    .needed "num_topics" .mediumInt (.int 0), .needed "num_posts" .mediumInt (.int 0),
    .free "last_post" .integer, .free "last_post_id" .integer, .free "last_poster" (.varchar 200),
    .needed "sort_by" .flag (.int 0), .needed "disp_position" .integer (.int 0),
    .needed "cat_id" .integer (.int 0)],
  key := ["id"] }

def groups : Table := {
  name := "groups", columns := [
    .free "g_id" .key, .needed "g_title" (.varchar 50) (.text ""),
    .free "g_user_title" (.varchar 50), .needed "g_read_board" .flag (.int 1),
    .needed "g_post_replies" .flag (.int 1), .needed "g_post_topics" .flag (.int 1),
    .needed "g_post_polls" .flag (.int 1), .needed "g_edit_posts" .flag (.int 1),
    .needed "g_delete_posts" .flag (.int 1), .needed "g_delete_topics" .flag (.int 1),
    .needed "g_set_title" .flag (.int 1), .needed "g_search" .flag (.int 1),
    .needed "g_search_users" .flag (.int 1),
    .needed "g_edit_subjects_interval" .smallInt (.int 300),
    .needed "g_post_flood" .smallInt (.int 30), .needed "g_search_flood" .smallInt (.int 30)],
  key := ["g_id"] }

def online : Table := {
  name := "online", columns := [
    .needed "user_id" .integer (.int 1), .needed "ident" (.varchar 200) (.text ""),
    .needed "logged" .integer (.int 0), .needed "idle" .flag (.int 0)],
  key := [], inMemory := true }

def posts : Table := {
  name := "posts", columns := [
    .free "id" .key, .needed "poster" (.varchar 200) (.text ""),
    .needed "poster_id" .integer (.int 1), .free "poster_ip" (.varchar 15),
    .free "poster_email" (.varchar 50), .free "message" .text,
    .needed "hide_smilies" .flag (.int 0), .needed "posted" .integer (.int 0),
    .free "edited" .integer, .free "edited_by" (.varchar 200),
    .needed "topic_id" .integer (.int 0)],
  key := ["id"] }

def ranks : Table := {
  name := "ranks", columns := [
    .free "id" .key, .needed "rank" (.varchar 50) (.text ""),
    .needed "min_posts" .mediumInt (.int 0)],
  key := ["id"] }

def reports : Table := {
  name := "reports", columns := [
    .free "id" .key, .needed "post_id" .integer (.int 0), .needed "topic_id" .integer (.int 0),
    .needed "forum_id" .integer (.int 0), .needed "reported_by" .integer (.int 0),
    .needed "created" .integer (.int 0), .free "message" .text, .free "zapped" .integer,
    .free "zapped_by" .integer],
  key := ["id"] }

def searchCache : Table := {
  name := "search_cache", columns := [
    .needed "id" .integer (.int 0), .needed "ident" (.varchar 200) (.text ""),
    .free "search_data" .text],
  key := ["id"] }

def searchMatches : Table := {
  name := "search_matches", columns := [
    .needed "post_id" .integer (.int 0), .needed "word_id" .mediumInt (.int 0),
    .needed "subject_match" .flag (.int 0)],
  key := [] }

def subscriptions : Table := {
  name := "subscriptions", columns := [
    .needed "user_id" .integer (.int 0), .needed "topic_id" .integer (.int 0)],
  key := ["user_id", "topic_id"] }

def topics : Table := {
  name := "topics", columns := [
    .free "id" .key, .needed "poster" (.varchar 200) (.text ""),
    .needed "subject" (.varchar 255) (.text ""), .needed "posted" .integer (.int 0),
    .needed "last_post" .integer (.int 0), .needed "last_post_id" .integer (.int 0),
    .free "last_poster" (.varchar 200), .needed "num_views" .mediumInt (.int 0),
    .needed "num_replies" .mediumInt (.int 0), .needed "closed" .flag (.int 0),
    .needed "sticky" .flag (.int 0), .free "moved_to" .integer,
    .needed "forum_id" .integer (.int 0)],
  key := ["id"] }

def users : Table := {
  name := "users", columns := [
    .free "id" .key, .needed "group_id" .integer (.int 4),
    .needed "username" (.varchar 200) (.text ""), .needed "password" (.varchar 40) (.text ""),
    .needed "email" (.varchar 50) (.text ""), .free "title" (.varchar 50),
    .free "realname" (.varchar 40), .free "url" (.varchar 100), .free "jabber" (.varchar 75),
    .free "icq" (.varchar 12), .free "msn" (.varchar 50), .free "aim" (.varchar 30),
    .free "yahoo" (.varchar 30), .free "location" (.varchar 30),
    .needed "use_avatar" .flag (.int 0), .free "signature" .text, .free "disp_topics" .tinyInt,
    .free "disp_posts" .tinyInt, .needed "email_setting" .flag (.int 1),
    .needed "save_pass" .flag (.int 1), .needed "notify_with_post" .flag (.int 0),
    .needed "show_smilies" .flag (.int 1), .needed "show_img" .flag (.int 1),
    .needed "show_img_sig" .flag (.int 1), .needed "show_avatars" .flag (.int 1),
    .needed "show_sig" .flag (.int 1), .needed "timezone" .real (.int 0),
    .needed "language" (.varchar 25) (.text "English"),
    .needed "style" (.varchar 25) (.text "Oxygen"), .needed "num_posts" .integer (.int 0),
    .free "last_post" .integer, .needed "registered" .integer (.int 0),
    .needed "registration_ip" (.varchar 15) (.text "0.0.0.0"),
    .needed "last_visit" .integer (.int 0), .free "admin_note" (.varchar 30),
    .free "activate_string" (.varchar 50), .free "activate_key" (.varchar 8)],
  key := ["id"] }

def searchWords : Table := {
  name := "search_words", columns := [.free "id" .key, .needed "word" (.varchar 20) (.text "")],
  key := ["id"] }

/-- Every table, in the order of creation. -/
def all : List Table := [
  bans, categories, censoring, config, forumPerms, forums, groups, online, posts, ranks, reports,
  searchCache, searchMatches, searchWords, subscriptions, topics, users]

/-- Names in alphabetical order. -/
def names : List String := [
  "bans", "categories", "censoring", "config", "forum_perms", "forums", "groups", "online", "posts",
  "ranks", "reports", "search_cache", "search_matches", "search_words", "subscriptions", "topics",
  "users"]

end Table

structure Index where
  name : String
  table : String
  columns : List String
  unique : Bool := false
  deriving DecidableEq, Repr

namespace Index

def standard : List Index := [
  ⟨"online_user_id_idx", "online", ["user_id"], true⟩,
  ⟨"posts_topic_id_idx", "posts", ["topic_id"], false⟩,
  ⟨"posts_multi_idx", "posts", ["poster_id", "topic_id"], false⟩,
  ⟨"reports_zapped_idx", "reports", ["zapped"], false⟩,
  ⟨"search_matches_word_id_idx", "search_matches", ["word_id"], false⟩,
  ⟨"search_matches_post_id_idx", "search_matches", ["post_id"], false⟩,
  ⟨"topics_forum_id_idx", "topics", ["forum_id"], false⟩,
  ⟨"topics_moved_to_idx", "topics", ["moved_to"], false⟩,
  ⟨"users_registered_idx", "users", ["registered"], false⟩,
  ⟨"users_username_idx", "users", ["username"], false⟩,
  ⟨"search_cache_ident_idx", "search_cache", ["ident"], false⟩]

/-- An index that MySQL declares together with its table. -/
def searchWords : Index := ⟨"search_words_id_idx", "search_words", ["id"], false⟩

end Index

/-- A row that every new board begins with: the table and the values of some columns. -/
structure Seed where
  table : String
  row : List (String × Value)

def groupColumns : List String := [
  "g_id", "g_title", "g_user_title", "g_read_board", "g_post_replies", "g_post_topics",
  "g_post_polls", "g_edit_posts", "g_delete_posts", "g_delete_topics", "g_set_title", "g_search",
  "g_search_users", "g_edit_subjects_interval", "g_post_flood", "g_search_flood"]

def group (id : Nat) (title : String) (userTitle : Value) (rights : List Int) : Seed :=
  ⟨"groups", groupColumns.zip (.int id :: .text title :: userTitle :: rights.map .int)⟩

def guestGroup : Int := 3

/-- The four user groups and the user that stands for all guests. -/
def seeds : List Seed := [
  group 1 "Administrators" (.text "Administrator") [1, 1, 1, 1, 1, 1, 1, 1, 1, 1, 0, 0, 0],
  group 2 "Moderators" (.text "Moderator") [1, 1, 1, 1, 1, 1, 1, 1, 1, 1, 0, 0, 0],
  group 3 "Guest" .null [1, 0, 0, 0, 0, 0, 0, 0, 1, 1, 0, 0, 0],
  group 4 "Members" .null [1, 1, 1, 1, 1, 1, 1, 0, 1, 1, 300, 60, 30],
  ⟨"users", [("id", .int guestUser), ("group_id", .int guestGroup), ("username", .text "Guest"),
    ("password", .text "Guest"), ("email", .text "Guest")]⟩]

end BoardMigration.Schema
