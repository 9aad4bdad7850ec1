import RuleAtlas.Failure.Basic

/-! # Sources of files

A source answers questions about files: what a path leads to, which names a directory holds,
and what a file contains.  Asking changes nothing. -/

namespace RuleAtlas

/-- The fault that the system reports in these words and with this number. -/
def FileFault.ofSystem (kind : FileFaultKind) (words : String) (code : Nat) : FileFault :=
  ⟨kind, words ++ " (os error " ++ toString code ++ ")"⟩

def FileFault.missing : FileFault := .ofSystem .notFound "No such file or directory" 2

def FileFault.directory : FileFault := .ofSystem .isADirectory "Is a directory" 21

def FileFault.noDirectory : FileFault := .ofSystem .notADirectory "Not a directory" 20

def FileFault.longName : FileFault := .ofSystem .other "File name too long" 36

/-- A path holds the character that ends texts for the system. -/
def FileFault.zeroInPath : FileFault := ⟨.other, "file name contained an unexpected NUL byte"⟩

def FileFault.noText : FileFault := ⟨.invalidData, "stream did not contain valid UTF-8"⟩

end RuleAtlas

namespace RuleAtlas.Files

inductive FileKind where
  | file
  | directory
  deriving DecidableEq, Repr, Inhabited

/-- Where files come from.  The names in a directory are in ascending order; one that cannot be
read shows none.  Directories are nested no deeper than the depth. -/
structure FileSource (m : Type → Type) where
  kind? : String → m (Option FileKind)
  names : String → m (List String)
  bytes : String → m (Except FileFault ByteArray)
  depth : Nat

def textOfBytes (bytes : ByteArray) : Except FileFault String :=
  match String.fromUTF8? bytes with
  | some text => .ok text
  | none => .error .noText

def FileSource.text {m : Type → Type} [Monad m] (source : FileSource m) (path : String) :
    m (Except FileFault String) := do
  pure ((← source.bytes path).bind textOfBytes)

/-- The answers for all members of a list, one after the other. -/
def collect {m : Type → Type} [Monad m] {α β : Type} (ask : α → m (List β)) :
    List α → m (List β)
  | [] => pure []
  | a :: rest => do
    let first ← ask a
    let others ← collect ask rest
    pure (first ++ others)

end RuleAtlas.Files
