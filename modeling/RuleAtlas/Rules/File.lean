import RuleAtlas.Yaml.Decode

/-! # Rule files

A rule file lists groups, and every group lists rules.  This is the form in which they are
written; whether they make sense is another matter.  Fields that are not known are refused. -/

namespace RuleAtlas

structure RuleEntry where
  record : Option String := none
  alert : Option String := none
  expr : Option String := none
  holdFor : Option String := none
  keepFiringFor : Option String := none
  labels : SortedMap String String := .empty
  annotations : SortedMap String String := .empty
  deriving DecidableEq, Repr, Inhabited

structure GroupEntry where
  name : String := ""
  interval : Option String := none
  limit : Option Nat := none
  queryOffset : Option String := none
  labels : SortedMap String String := .empty
  rules : List RuleEntry := []
  deriving DecidableEq, Repr, Inhabited

structure RuleFile where
  groups : List GroupEntry := []
  deriving DecidableEq, Repr, Inhabited

open Yaml Yaml.Decode

namespace RuleEntry

def fields : List (RecordField RuleEntry) :=
  [⟨"record", fun _ path rule => do pure { rule with record := ← optional (text path) }⟩,
   ⟨"alert", fun _ path rule => do pure { rule with alert := ← optional (text path) }⟩,
   ⟨"expr", fun depth path rule => do
      pure { rule with expr := ← optional (scalarText depth path) }⟩,
   ⟨"for", fun _ path rule => do pure { rule with holdFor := ← optional (text path) }⟩,
   ⟨"keep_firing_for", fun _ path rule => do
      pure { rule with keepFiringFor := ← optional (text path) }⟩,
   ⟨"labels", fun depth path rule => do pure { rule with labels := ← scalarMap depth path }⟩,
   ⟨"annotations", fun depth path rule => do
      pure { rule with annotations := ← scalarMap depth path }⟩]

def decode (depth : Nat) (path : Path) : Decode RuleEntry :=
  Decode.record "RuleDoc" fields {} depth path

end RuleEntry

namespace GroupEntry

def fields : List (RecordField GroupEntry) :=
  [⟨"name", fun _ path group => do pure { group with name := ← text path }⟩,
   ⟨"interval", fun _ path group => do pure { group with interval := ← optional (text path) }⟩,
   ⟨"limit", fun _ path group => do pure { group with limit := ← optional (natural path) }⟩,
   ⟨"query_offset", fun _ path group => do
      pure { group with queryOffset := ← optional (text path) }⟩,
   ⟨"labels", fun depth path group => do pure { group with labels := ← scalarMap depth path }⟩,
   ⟨"rules", fun depth path group => do
      pure { group with rules := ← sequence depth path RuleEntry.decode }⟩]

def decode (depth : Nat) (path : Path) : Decode GroupEntry :=
  Decode.record "GroupDoc" fields {} depth path

end GroupEntry

namespace RuleFile

def fields : List (RecordField RuleFile) :=
  [⟨"groups", fun depth path file => do
      pure { file with groups := ← sequence depth path GroupEntry.decode }⟩]

def decode (depth : Nat) (path : Path) : Decode RuleFile :=
  Decode.record "RuleFileDoc" fields {} depth path

/-- The line says nothing: it is blank, a comment, or the mark between documents. -/
def isBlankLine (line : List Char) : Bool :=
  match Text.trim line with
  | [] => true
  | c :: rest => c = '#' || c :: rest = ['-', '-', '-']

/-- No line of the text says anything. -/
def isBlank (content : List Char) : Bool := (Text.splitLines content).all isBlankLine

/-- The groups that the content of a file gives; a blank content gives none. -/
def ofText (content : String) : Except DecodeError RuleFile :=
  if isBlank content.toList then .ok {} else Decode.run decode content.toList

end RuleFile

end RuleAtlas
