import RuleAtlas.Text.Blank

/-! # Paths

A path names a place by the names on the way to it, with slashes between them.  Paths are kept
as they are written: two of them may be written differently and still be the same. -/

namespace RuleAtlas.Files

namespace Path

def pieces (path : String) : List String := (Text.split '/' path.toList).map String.ofList

def isAbsolute (path : String) : Bool := path.toList.head? = some '/'

/-- The path ends in a slash, so that only a directory fits it. -/
def endsInSlash (path : String) : Bool := path.toList.getLast? = some '/'

/-- The piece of a path leads nowhere else. -/
def isIdle (piece : String) : Bool := piece = "" || piece = "."

/-- What two paths that are the same have in common: all their pieces but the idle ones behind
the first; the empty path has none. -/
def key (path : String) : List String :=
  match pieces path with
  | [] => []
  | [""] => []
  | first :: rest => first :: rest.filter (!isIdle ·)

def isHere (path : String) : Bool := key path = ["."]

def join (path name : String) : String :=
  if path.isEmpty || endsInSlash path then path ++ name else path ++ "/" ++ name

/-- The path of a name in a directory; in the current directory it is the name alone. -/
def within (path name : String) : String := if isHere path then name else join path name

end Path

end RuleAtlas.Files
