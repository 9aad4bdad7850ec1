import RuleAtlas.Failure.Basic

/-! # Reports

A report collects the failures of independent operations in the order in which they were
found.  It is flat: a report that is added to another one adds its failures.  The empty
report means that nothing failed. -/

namespace RuleAtlas

/-- Failures in the order in which they were found. -/
structure Report where
  failures : List Failure
  deriving Repr, Inhabited

namespace Report

def empty : Report := ⟨[]⟩

def single (failure : Failure) : Report := ⟨[failure]⟩

def push (report : Report) (failure : Failure) : Report := ⟨report.failures ++ [failure]⟩

def append (report : Report) (failures : List Failure) : Report := ⟨report.failures ++ failures⟩

def size (report : Report) : Nat := report.failures.length

def hasFailures (report : Report) : Bool := !report.failures.isEmpty

def render (report : Report) : String :=
  Text.joinWith "\n" (report.failures.map Failure.render)

def detail (report : Report) : String :=
  "[" ++ Text.joinWith ", " (report.failures.map Failure.detail) ++ "]"

/-- The report as one failure, which counts the failures and lists them in its message. -/
def toFailure (report : Report) : Failure :=
  (Failure.of .loadFailed report.render).withContext "errors" (toString report.size)

/-- The value, unless something failed. -/
def toResult {α : Type} (report : Report) (value : α) : Except Report α :=
  if report.hasFailures then .error report else .ok value

end Report

end RuleAtlas
