import RuleAtlas.Files.Glob
import RuleAtlas.Files.Source

/-! # Expansion of globs

The expansion of a glob are the paths that it fits.  In a directory they come in the order of
the names; what is found for a directory itself comes before what is found inside it. -/

namespace RuleAtlas.Files

variable {m : Type → Type} [Monad m]

/-- A path and whether it leads to a directory. -/
structure Place where
  path : String
  isDirectory : Bool
  deriving DecidableEq, Repr, Inhabited

namespace FileSource

def place (source : FileSource m) (path : String) : m Place := do
  pure ⟨path, (← source.kind? path) = some .directory⟩

def members (source : FileSource m) (place : Place) : m (List (String × Place)) := do
  if place.isDirectory then
    collect (fun name => do pure [(name, ← source.place (Path.within place.path name))])
      (← source.names place.path)
  else pure []

/-- What is found for the members of a place, and for theirs, down to a depth. -/
def descend (source : FileSource m) (visit : String × Place → m (List String)) :
    Nat → Place → m (List String)
  | 0, _ => pure []
  | depth + 1, place => do
    collect (fun member => do
      let own ← visit member
      let inner ← descend source visit depth member.2
      pure (own ++ inner)) (← source.members place)

/-- The paths that the components fit from a place on. -/
def walk (source : FileSource m) (directoriesOnly : Bool) :
    List Component → Place → m (List String)
  | [], place => pure (if directoriesOnly && !place.isDirectory then [] else [place.path])
  | .plain name :: rest, place => do
    let path := Path.within place.path name
    let kind ← source.kind? path
    -- A directory always has these two names; whether the path behind them is there is not asked.
    let isThere := if name = "." || name = ".." then place.isDirectory else kind.isSome
    if isThere then walk source directoriesOnly rest ⟨path, kind = some .directory⟩
    else pure []
  | .wild wildcards :: rest, place => do
    let component := Component.wild wildcards
    let dots ←
      if place.isDirectory then
        collect (fun name => do
          walk source directoriesOnly rest (← source.place (Path.join place.path name)))
          component.dotNames
      else pure []
    let inner ← collect (fun member =>
      if component.accepts member.1 then walk source directoriesOnly rest member.2 else pure [])
      (← source.members place)
    pure (dots ++ inner)
  | [.anyDepth], place =>
    source.descend (fun member => pure (if member.2.isDirectory then [member.2.path] else []))
      source.depth place
  | .anyDepth :: next :: rest, place =>
    source.descend (fun member =>
      if next.accepts member.1 then walk source directoriesOnly rest member.2 else pure [])
      source.depth place

def expand (source : FileSource m) (glob : Glob) : m (List String) := do
  source.walk glob.directoriesOnly glob.components (← source.place glob.start)

/-- The paths that a pattern fits; one that is no glob fits none. -/
def fitting (source : FileSource m) (pattern : String) : m (List String) :=
  match Glob.ofText? pattern with
  | none => pure []
  | some glob => source.expand glob

end FileSource

end RuleAtlas.Files
