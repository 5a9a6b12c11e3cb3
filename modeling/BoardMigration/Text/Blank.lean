/-! Blanks, words and the white space between them. A text is its words: collapsing joins them by
single spaces, so leading, trailing and repeated blanks do not count. -/
namespace BoardMigration.Text

/-- Tabs, line and paragraph breaks, the four information separators and every space that has
width, the no-break ones included. -/
def isBlank (c : Char) : Bool :=
  let n := c.toNat
  (9 ≤ n && n ≤ 13) || (28 ≤ n && n ≤ 32) || n == 133 || n == 160 || n == 5760 ||
    (8192 ≤ n && n ≤ 8202) || n == 8232 || n == 8233 || n == 8239 || n == 8287 || n == 12288

def trim (p : Char → Bool) (text : List Char) : List Char :=
  ((text.dropWhile p).reverse.dropWhile p).reverse

def strip (text : List Char) : List Char := trim isBlank text

/-- The maximal runs of characters that are no blanks. -/
def words : List Char → List (List Char)
  | [] => []
  | c :: rest =>
    if isBlank c then words rest
    else match rest with
      | [] => [[c]]
      | d :: _ =>
        if isBlank d then [c] :: words rest
        else match words rest with
          | [] => [[c]]
          | word :: more => (c :: word) :: more

/-- The words of a text with one space between neighbours. -/
def collapse (text : List Char) : List Char := [' '].intercalate (words text)

/-- Each run of blanks becomes one space, at the ends too. -/
def squeeze : List Char → List Char
  | [] => []
  | c :: rest =>
    if isBlank c then
      match rest with
      | [] => [' ']
      | d :: _ => if isBlank d then squeeze rest else ' ' :: squeeze rest
    else c :: squeeze rest

def isBlankText (text : List Char) : Bool := text.all isBlank

end BoardMigration.Text
