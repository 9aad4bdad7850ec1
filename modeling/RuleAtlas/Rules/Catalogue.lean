import RuleAtlas.Rules.Validation

/-! # Loading rules

A content is decoded and validated; it gives all its groups, or all that is wrong with it.
Several files give the groups of all of them, or the failures of all of them. -/

namespace RuleAtlas

def Yaml.DecodeError.toFailure (file : String) (error : Yaml.DecodeError) : Failure :=
  let failure :=
    ((Failure.of .deserializationFailed error.render).withOperation "rules::decode").withContext
      "file" file
  let located :=
    match error.mark? with
    | none => failure
    | some mark => failure.withContext "line" (toString (mark.line + 1))
  located.withCause .malformedDocument

/-- The groups of a file as it was decoded, if nothing is wrong with it. -/
def loadDecoded (file : String) (decoded : Except Yaml.DecodeError RuleFile) :
    Except Report (List RuleGroup) :=
  match decoded with
  | .error error => .error (.single (error.toFailure file))
  | .ok decoded =>
    (Report.mk (decoded.violations.map (Violation.toFailure file))).toResult decoded.toGroups

/-- The groups of the content of a file, if nothing is wrong with it. -/
def loadContent (file content : String) : Except Report (List RuleGroup) :=
  loadDecoded file (RuleFile.ofText content)

/-- Groups and failures of several files. -/
structure Loaded where
  groups : List RuleGroup
  report : Report

/-- What was loaded before, and one file more. -/
def Loaded.add (loaded : Loaded) : Except Report (List RuleGroup) → Loaded
  | .ok groups => { loaded with groups := loaded.groups ++ groups }
  | .error report => { loaded with report := loaded.report.append report.failures }

/-- The groups of all files in order, if all of them were loaded. -/
def combine (results : List (Except Report (List RuleGroup))) : Except Report (List RuleGroup) :=
  let loaded := results.foldl Loaded.add ⟨[], .empty⟩
  loaded.report.toResult loaded.groups

/-- The groups of the files at these paths. -/
def loadAll (load : String → Except Report (List RuleGroup)) (paths : List String) :
    Except Report (List RuleGroup) :=
  combine (paths.map load)

/-- The groups of a file that was read, or the fault that reading it ran into. -/
def loadRead (path : String) (content : Except FileFault String) :
    Except Report (List RuleGroup) :=
  match content with
  | .ok text => loadContent path text
  | .error fault => .error (.single ((Failure.ofFileFault fault).withContext "file" path))

end RuleAtlas
