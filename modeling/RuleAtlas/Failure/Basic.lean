import RuleAtlas.Text.Blank
import RuleAtlas.Text.Quoted

/-! # Failures

A failure says what kind of thing went wrong, in which operation, where (pairs of context in
the order in which they were added), with which message, and what caused it.  The one-line
form is for users, the detailed form shows every field. -/

namespace RuleAtlas

inductive FailureKind where
  | unexpected
  | invalidArgument
  | parseFailed
  | syntaxError
  | deserializationFailed
  | validationFailed
  | loadFailed
  | fileNotFound
  | permissionDenied
  | ioFailed
  deriving DecidableEq, Repr, Inhabited

def FailureKind.name : FailureKind → String
  | .unexpected => "Unexpected"
  | .invalidArgument => "InvalidArgument"
  | .parseFailed => "ParseFailed"
  | .syntaxError => "SyntaxError"
  | .deserializationFailed => "DeserializationFailed"
  | .validationFailed => "ValidationFailed"
  | .loadFailed => "LoadFailed"
  | .fileNotFound => "FileNotFound"
  | .permissionDenied => "PermissionDenied"
  | .ioFailed => "IoFailed"

inductive FileFaultKind where
  | notFound
  | permissionDenied
  | isADirectory
  | notADirectory
  | invalidData
  | brokenPipe
  | other
  deriving DecidableEq, Repr, Inhabited

def FileFaultKind.name : FileFaultKind → String
  | .notFound => "NotFound"
  | .permissionDenied => "PermissionDenied"
  | .isADirectory => "IsADirectory"
  | .notADirectory => "NotADirectory"
  | .invalidData => "InvalidData"
  | .brokenPipe => "BrokenPipe"
  | .other => "Other"

structure FileFault where
  kind : FileFaultKind
  message : String
  deriving DecidableEq, Repr, Inhabited

/-- What caused a failure: another failure, or a fault found outside the library's own rules. -/
inductive Cause (α : Type) where
  | failure (inner : α)
  | file (fault : FileFault)
  | malformedDocument
  | invalidPattern
  deriving DecidableEq, Repr, Inhabited

/-- A failure with its circumstances; an empty operation is one that was not set. -/
structure Failure where
  kind : FailureKind
  message : String
  operation : String
  context : List (String × String)
  cause : Option (Cause Failure)
  deriving Repr, Inhabited

namespace Failure

def of (kind : FailureKind) (message : String) : Failure := ⟨kind, message, "", [], none⟩

/-- Sets the operation; one that was set before is kept in the context as `called`. -/
def withOperation (failure : Failure) (operation : String) : Failure :=
  { failure with
    operation := operation
    context :=
      if failure.operation.isEmpty then failure.context
      else failure.context ++ [("called", failure.operation)] }

def withContext (failure : Failure) (key value : String) : Failure :=
  { failure with context := failure.context ++ [(key, value)] }

def withCause (failure : Failure) (cause : Cause Failure) : Failure :=
  { failure with cause := some cause }

def contextValue? (failure : Failure) (key : String) : Option String :=
  (failure.context.find? (·.1 = key)).map Prod.snd

def ofFileFault (fault : FileFault) : Failure :=
  let kind :=
    match fault.kind with
    | .notFound => .fileNotFound
    | .permissionDenied => .permissionDenied
    | _ => .ioFailed
  ((of kind fault.message).withOperation "io").withCause (.file fault)

/-- The failure in one line: kind, operation, context and message, those that are set. -/
def render (failure : Failure) : String :=
  let operation := if failure.operation.isEmpty then "" else " at " ++ failure.operation
  let pairs := failure.context.map fun pair => pair.1 ++ ": " ++ pair.2
  let context :=
    if pairs.isEmpty then "" else ", context \x7b " ++ Text.joinWith ", " pairs ++ " \x7d"
  let message := if failure.message.isEmpty then "" else " => " ++ failure.message
  failure.kind.name ++ operation ++ context ++ message

/-- A fault of a file operation with all its fields. -/
def fileFaultDetail (fault : FileFault) : String :=
  "Custom \x7b kind: " ++ fault.kind.name ++ ", error: " ++ Text.quoted fault.message ++ " \x7d"

mutual

/-- The failure with all its fields, those that are set, and its cause. -/
def detail : Failure → String
  | ⟨kind, message, operation, context, cause⟩ =>
    let operation := if operation.isEmpty then "" else ", operation: " ++ Text.quoted operation
    let pairs := context.map fun pair =>
      "(" ++ Text.quoted pair.1 ++ ", " ++ Text.quoted pair.2 ++ ")"
    let context := if pairs.isEmpty then "" else ", context: [" ++ Text.joinWith ", " pairs ++ "]"
    "Error \x7b kind: " ++ kind.name ++ operation ++ ", message: " ++ Text.quoted message ++
      context ++ causeDetail cause ++ " \x7d"

/-- The last field of a failure, when it has a cause. -/
def causeDetail : Option (Cause Failure) → String
  | none => ""
  | some (.failure inner) => ", source: " ++ inner.detail
  | some (.file fault) => ", source: " ++ fileFaultDetail fault
  | some .malformedDocument => ", source: malformed document"
  | some .invalidPattern => ", source: invalid pattern"

end

/-- The cause in one line, where it has a message of its own. -/
def causeText? (failure : Failure) : Option String :=
  match failure.cause with
  | some (.failure inner) => some inner.render
  | some (.file fault) => some fault.message
  | some .malformedDocument => none
  | some .invalidPattern => none
  | none => none

/-- The cause lies outside the library's own rules. -/
def hasForeignCause (failure : Failure) : Bool :=
  match failure.cause with
  | none => false
  | some (.failure _) => false
  | some _ => true

end Failure

end RuleAtlas
