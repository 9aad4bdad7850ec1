import RuleAtlas.Command.Drawing
import RuleAtlas.Command.Request
import RuleAtlas.Files.Tree

/-! # Sessions

A session is what a run of the program leaves behind: the files, and what was printed.  A
drawing is all or nothing: if anything fails, no file changes and nothing is printed but the
failure. -/

namespace RuleAtlas.Command

open Files

/-- What drawing into a sink came to. -/
structure Delivery where
  result : Except Failure Unit
  tree : FileTree
  printed : String

/-- Draws the files of a tree into a sink. -/
def deliver (tree : FileTree) (options : Options) : Delivery :=
  match draw tree.source options.patterns with
  | .error failure => ⟨.error failure, tree, ""⟩
  | .ok drawing =>
    match options.sink with
    | .standardOutput => ⟨.ok (), tree, drawing⟩
    | .file path =>
      match tree.write path drawing.toUTF8 with
      | .error fault => ⟨.error (sinkFailure path fault), tree, ""⟩
      | .ok changed => ⟨.ok (), changed, ""⟩

/-- The exit code of a run that succeeds, of one that fails, and of one that is refused. -/
inductive ExitCode where
  | success
  | failure
  | refusal
  deriving DecidableEq, Repr, Inhabited

def ExitCode.number : ExitCode → Nat
  | .success => 0
  | .failure => 1
  | .refusal => 2

def failureLine (failure : Failure) : String := "Error: " ++ failure.render ++ "\n"

/-- What a run of the program leaves behind. -/
structure Session where
  exitCode : ExitCode
  output : String
  complaint : String
  tree : FileTree

def Session.run (tree : FileTree) (arguments : List String) : Session :=
  match Request.ofArguments? arguments with
  | none => ⟨.refusal, "", refusalText, tree⟩
  | some .help => ⟨.success, helpText, "", tree⟩
  | some .version => ⟨.success, versionText, "", tree⟩
  | some (.draw options) =>
    let delivery := deliver tree options
    match delivery.result with
    | .ok () => ⟨.success, delivery.printed, "", delivery.tree⟩
    | .error failure => ⟨.failure, delivery.printed, failureLine failure, delivery.tree⟩

end RuleAtlas.Command
