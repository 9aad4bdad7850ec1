import RuleAtlas.Command.Session

/-! # Command line

Runs the program on the files of the system. -/

namespace RuleAtlas.Command

open Files

/-- The fault that an error of the system amounts to. -/
def faultOfError (error : IO.Error) : FileFault :=
  match error with
  | .noFileOrDirectory _ code words => .ofSystem .notFound words code.toNat
  | .permissionDenied _ code words => .ofSystem .permissionDenied words code.toNat
  | .inappropriateType _ code words => .ofSystem .isADirectory words code.toNat
  | .otherError code words => .ofSystem .other words code.toNat
  | other => ⟨.other, toString other⟩

def catchFault {α : Type} (action : IO α) : IO (Except FileFault α) := do
  match ← action.toBaseIO with
  | .ok value => pure (.ok value)
  | .error error => pure (.error (faultOfError error))

def kindOfPath (path : String) : IO (Option FileKind) := do
  match ← catchFault (IO.FS.realPath path) with
  | .error _ => pure none
  | .ok real => pure (some (if ← real.isDir then .directory else .file))

/-- The names in a directory, in ascending order. -/
def namesInDirectory (path : String) : IO (List String) := do
  match ← catchFault (do (← IO.FS.realPath path).readDir) with
  | .error _ => pure []
  | .ok members => pure ((members.toList.map fun member => member.fileName).mergeSort)

/-- The files of the system; a path has no more than 4096 characters. -/
def systemFiles : FileSource IO where
  kind? := kindOfPath
  names := namesInDirectory
  bytes path := catchFault (IO.FS.readBinFile path)
  depth := 4096

def tell (failure : Failure) : IO UInt32 := do
  IO.eprint (failureLine failure)
  pure ExitCode.failure.number.toUInt32

def deliverOnSystem (options : Options) : IO UInt32 := do
  match ← draw systemFiles options.patterns with
  | .error failure => tell failure
  | .ok drawing =>
    match options.sink with
    | .standardOutput =>
      IO.print drawing
      pure ExitCode.success.number.toUInt32
    | .file path =>
      match ← catchFault (IO.FS.writeFile path drawing) with
      | .error fault => tell (sinkFailure path fault)
      | .ok () => pure ExitCode.success.number.toUInt32

end RuleAtlas.Command

open RuleAtlas.Command in
def main (arguments : List String) : IO UInt32 := do
  match Request.ofArguments? arguments with
  | none =>
    IO.eprint refusalText
    pure ExitCode.refusal.number.toUInt32
  | some .help =>
    IO.print helpText
    pure ExitCode.success.number.toUInt32
  | some .version =>
    IO.print versionText
    pure ExitCode.success.number.toUInt32
  | some (.draw options) => deliverOnSystem options
