import RuleAtlas.Files.Path
import RuleAtlas.Files.Source
import RuleAtlas.SortedMap

/-! # File trees

A file tree holds files and directories at locations, that is, under the names on the way from
the root, and knows which directory is the current one.  Paths are resolved step by step as a
system does it: only a directory has names, a dot stays there, two dots go up. -/

namespace RuleAtlas.Files

/-- The names on the way from the root. -/
abbrev Location := List String

inductive Entry where
  | file (content : ByteArray)
  | directory
  deriving Inhabited

instance : DecidableEq Entry
  | .file a, .file b =>
    decidable_of_iff (a.data = b.data) ⟨fun same => congrArg Entry.file (ByteArray.ext same),
      fun same => congrArg ByteArray.data (Entry.file.inj same)⟩
  | .directory, .directory => isTrue rfl
  | .file _, .directory => isFalse fun same => Entry.noConfusion same
  | .directory, .file _ => isFalse fun same => Entry.noConfusion same

def Entry.kind : Entry → FileKind
  | .file _ => .file
  | .directory => .directory

/-- Files and directories at their locations; the root itself is not listed. -/
structure FileTree where
  entries : SortedMap Location Entry
  current : Location
  deriving DecidableEq, Inhabited

namespace FileTree

/-! ## Looking up -/

def entry? (tree : FileTree) (location : Location) : Option Entry :=
  if location.isEmpty then some .directory else tree.entries.find? location

def isDirectory (tree : FileTree) (location : Location) : Bool :=
  (tree.entry? location).map Entry.kind = some .directory

def maxNameLength : Nat := 255

/-- The number of bytes that a path has at least when it is too long. -/
def pathLimit : Nat := 4096

/-- Goes from a location to the next one. -/
def step (tree : FileTree) (location : Location) (name : String) : Except FileFault Location :=
  if !tree.isDirectory location then .error .noDirectory
  else if Path.isIdle name then .ok location
  else if name = ".." then .ok location.dropLast
  else if maxNameLength < name.utf8ByteSize then .error .longName
  else if (tree.entry? (location ++ [name])).isSome then .ok (location ++ [name])
  else .error .missing

def startOf (tree : FileTree) (path : String) : Location :=
  if Path.isAbsolute path then [] else tree.current

/-- What is wrong with a path as such. -/
def pathFault? (path : String) : Option FileFault :=
  if path.isEmpty then some .missing
  else if '\x00' ∈ path.toList then some .zeroInPath
  else if pathLimit ≤ path.utf8ByteSize then some .longName
  else none

/-- The location that a path leads to. -/
def locate (tree : FileTree) (path : String) : Except FileFault Location :=
  match pathFault? path with
  | some fault => .error fault
  | none => (Path.pieces path).foldlM tree.step (tree.startOf path)

def lookup (tree : FileTree) (path : String) : Except FileFault Entry :=
  (tree.locate path).bind fun location =>
    match tree.entry? location with
    | some entry => .ok entry
    | none => .error .missing

/-- The name of a location in a directory. -/
def nameIn : Location → Location → Option String
  | [], [name] => some name
  | a :: directory, b :: location => if a = b then nameIn directory location else none
  | _, _ => none

/-- The names in the directory at a location, in ascending order. -/
def namesAt (tree : FileTree) (location : Location) : List String :=
  tree.entries.keys.filterMap (nameIn location)

def bytes (tree : FileTree) (path : String) : Except FileFault ByteArray :=
  (tree.lookup path).bind fun
    | .file content => .ok content
    | .directory => .error .directory

/-- No directory of the tree is nested as deeply as this. -/
def depth (tree : FileTree) : Nat := (tree.entries.keys.map List.length).foldl max 0 + 1

def source (tree : FileTree) : FileSource Id where
  kind? path := pure ((tree.lookup path).toOption.map Entry.kind)
  names path := pure ((tree.locate path).toOption.elim [] tree.namesAt)
  bytes path := pure (tree.bytes path)
  depth := tree.depth

/-! ## Changing -/

def put (tree : FileTree) (location : Location) (entry : Entry) : FileTree :=
  { tree with entries := tree.entries.insert location entry }

/-- The place for a file of this name in the directory at a location. -/
def placeFor (tree : FileTree) (path : String) (directory : Location) (name : String) :
    Except FileFault Location :=
  if !tree.isDirectory directory then .error .noDirectory
  else if Path.endsInSlash path || name = "." || name = ".." then .error .directory
  else if maxNameLength < name.utf8ByteSize then .error .longName
  else if tree.isDirectory (directory ++ [name]) then .error .directory
  else .ok (directory ++ [name])

/-- Where a file that a path names is, or is to be: in a directory that is there, and not
itself a directory. -/
def locateFile (tree : FileTree) (path : String) : Except FileFault Location :=
  let names := (Path.pieces path).filter (· ≠ "")
  match pathFault? path, names.getLast? with
  | some fault, _ => .error fault
  | none, none => .error .directory
  | none, some name =>
    (names.dropLast.foldlM tree.step (tree.startOf path)).bind fun directory =>
      tree.placeFor path directory name

/-- The tree with a content in the file that a path names; the file is made if it is not
there. -/
def write (tree : FileTree) (path : String) (content : ByteArray) : Except FileFault FileTree :=
  (tree.locateFile path).map fun location => tree.put location (.file content)

/-! ## Building -/

/-- The tree with directories at a location and above it, where nothing was. -/
def makeDirectories (tree : FileTree) (location : Location) : FileTree :=
  let locations := (List.range location.length).map fun count => location.take (count + 1)
  let entries :=
    locations.foldl (fun entries each => entries.insertNew each .directory) tree.entries
  { tree with entries := entries }

/-- The tree with an entry at a location, in directories that are made for it. -/
def create (tree : FileTree) (location : Location) (entry : Entry) : FileTree :=
  (tree.makeDirectories location.dropLast).put location entry

/-- The tree in which the current directory is empty. -/
def emptyAt (current : Location) : FileTree :=
  FileTree.makeDirectories ⟨.empty, current⟩ current

end FileTree

end RuleAtlas.Files
