/-! # Words

The words of a text are its longest runs of characters that are no ASCII blanks. -/

namespace RuleAtlas.Text

/-- Cuts a text into its words. -/
def words : List Char → List (List Char)
  | [] => []
  | c :: rest =>
    if c.isWhitespace then words rest
    else
      match rest with
      | [] => [[c]]
      | next :: _ =>
        if next.isWhitespace then [c] :: words rest
        else
          match words rest with
          | [] => [[c]]
          | word :: others => (c :: word) :: others

end RuleAtlas.Text
