/-! Cutting a text at a separator. -/
namespace BoardMigration.Text

/-- The pieces between separators, one more than there are separators. -/
def split (separator : Char) : List Char → List (List Char)
  | [] => [[]]
  | c :: rest =>
    if c == separator then [] :: split separator rest
    else match split separator rest with
      | [] => [[c]]
      | piece :: more => (c :: piece) :: more

end BoardMigration.Text
