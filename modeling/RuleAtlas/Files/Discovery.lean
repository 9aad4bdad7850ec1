import RuleAtlas.Files.Expansion

/-! # Discovery

The files of several patterns are those of the first one, then those of the next one, and so
on, each file once.  That there are none at all is a failure. -/

namespace RuleAtlas.Files

/-- The paths without those that were there before. -/
def firstOccurrences : List String → List String
  | [] => []
  | path :: rest =>
    path :: (firstOccurrences rest).filter fun other => Path.key other != Path.key path

def nothingFound (patterns : List String) : Failure :=
  ((Failure.of .invalidArgument "no rule files matched the given patterns").withOperation
    "discovery::discover_files").withContext "patterns" (Text.joinWith " " patterns)

def FileSource.discover {m : Type → Type} [Monad m] (source : FileSource m)
    (patterns : List String) : m (Except Failure (List String)) := do
  let found ← collect source.fitting patterns
  pure <|
    match firstOccurrences found with
    | [] => .error (nothingFound patterns)
    | paths => .ok paths

end RuleAtlas.Files
