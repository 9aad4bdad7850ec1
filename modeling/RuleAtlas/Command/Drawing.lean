import RuleAtlas.Files.Discovery
import RuleAtlas.Graph.Building
import RuleAtlas.Graph.Dot
import RuleAtlas.Rules.Catalogue

/-! # Drawing rule files

The drawing of the files that fit some patterns is the graph of all their rules as a text.
Every file is read, and every rule looked at, before there is a drawing; nothing is written
here. -/

namespace RuleAtlas.Command

open Files

def drawGroups (loaded : Except Report (List RuleGroup)) : Except Failure String :=
  match loaded with
  | .error report => .error report.toFailure
  | .ok groups =>
    match RuleGraph.ofGroups groups with
    | .error error => .error error.toFailure
    | .ok graph => .ok graph.render

def draw {m : Type → Type} [Monad m] (source : FileSource m) (patterns : List String) :
    m (Except Failure String) := do
  match ← source.discover patterns with
  | .error failure => pure (.error failure)
  | .ok paths => do
    let loaded ← collect (fun path => do pure [loadRead path (← source.text path)]) paths
    pure (drawGroups (combine loaded))

def sinkFailure (path : String) (fault : FileFault) : Failure :=
  ((Failure.ofFileFault fault).withOperation "output::open_sink").withContext "path" path

end RuleAtlas.Command
