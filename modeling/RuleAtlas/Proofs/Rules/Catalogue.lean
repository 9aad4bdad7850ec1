import RuleAtlas.Proofs.Rules.Loading

/-! # Loading several files

What several files come to is put together from what each of them comes to: the groups of all
that were loaded, and the failures of all that were not.  No file is refused without a failure,
so none is missing unnoticed. -/

namespace RuleAtlas

def groupsOf : Except Report (List RuleGroup) → List RuleGroup
  | .ok groups => groups
  | .error _ => []

def failuresOf : Except Report (List RuleGroup) → List Failure
  | .ok _ => []
  | .error report => report.failures

theorem foldl_add (results : List (Except Report (List RuleGroup))) (loaded : Loaded) :
    results.foldl Loaded.add loaded =
      ⟨loaded.groups ++ results.flatMap groupsOf,
        ⟨loaded.report.failures ++ results.flatMap failuresOf⟩⟩ := by
  induction results generalizing loaded with
  | nil => simp
  | cons result results inductionHypothesis =>
    rw [List.foldl_cons, inductionHypothesis]
    cases result <;> simp [Loaded.add, Report.append, groupsOf, failuresOf]

theorem combine_eq (results : List (Except Report (List RuleGroup))) :
    combine results =
      (Report.mk (results.flatMap failuresOf)).toResult (results.flatMap groupsOf) := by
  rw [combine, foldl_add]
  rfl

/-- Where failures are never empty, all files of a catalogue that was loaded were loaded. -/
theorem loaded_of_combine {results : List (Except Report (List RuleGroup))}
    {groups : List RuleGroup}
    (carries : ∀ result ∈ results, ∀ report, result = .error report → report.failures ≠ [])
    (combined : combine results = .ok groups) :
    ∃ loaded : List (List RuleGroup), results = loaded.map .ok ∧ groups = loaded.flatten := by
  rw [combine_eq, Report.toResult_eq_ok] at combined
  obtain ⟨noFailures, rfl⟩ := combined
  refine ⟨results.map groupsOf, ?_, List.flatMap_def⟩
  rw [List.map_map]
  refine (List.map_congr_left fun result member => ?_).trans (List.map_id results) |>.symm
  cases result with
  | ok groups => rfl
  | error report =>
    exact absurd (List.flatMap_eq_nil_iff.1 noFailures _ member) (carries _ member report rfl)

theorem failures_ne_nil_of_toResult {α : Type} {report other : Report} {value : α}
    (refused : report.toResult value = .error other) : other.failures ≠ [] := by
  unfold Report.toResult Report.hasFailures at refused
  split at refused
  · rename_i some_failures
    cases refused
    simpa using some_failures
  · cases refused

/-- A file that is not loaded says why. -/
theorem failures_ne_nil_of_loadRead {path : String} {content : Except FileFault String}
    {report : Report} (refused : loadRead path content = .error report) :
    report.failures ≠ [] := by
  cases content with
  | error fault =>
    cases refused
    simp [Report.single]
  | ok text =>
    change loadDecoded path (RuleFile.ofText text) = _ at refused
    cases decoded : RuleFile.ofText text with
    | error error =>
      rw [decoded] at refused
      cases refused
      simp [Report.single]
    | ok file =>
      rw [decoded] at refused
      exact failures_ne_nil_of_toResult refused

/-- What each path comes to, one after the other: the groups of a file that is loaded, or the
report of one that is not. -/
inductive Outcomes (load : String → Except Report (List RuleGroup)) :
    List String → List (List RuleGroup) → List Report → Prop
  | nil : Outcomes load [] [] []
  | loaded {path : String} {paths : List String} {groups : List RuleGroup}
      {loaded : List (List RuleGroup)} {reports : List Report} (came : load path = .ok groups)
      (others : Outcomes load paths loaded reports) :
      Outcomes load (path :: paths) (groups :: loaded) reports
  | refused {path : String} {paths : List String} {report : Report}
      {loaded : List (List RuleGroup)} {reports : List Report} (came : load path = .error report)
      (others : Outcomes load paths loaded reports) :
      Outcomes load (path :: paths) loaded (report :: reports)

/-! ## One path after the other -/

theorem toResult_eq_error {α : Type} {report other : Report} {value : α} :
    report.toResult value = .error other ↔ report.failures ≠ [] ∧ report = other := by
  unfold Report.toResult Report.hasFailures
  cases report.failures <;> simp

namespace Outcomes

variable {load : String → Except Report (List RuleGroup)} {paths : List String}
  {loaded : List (List RuleGroup)} {reports : List Report}

theorem exists_of_load (load : String → Except Report (List RuleGroup)) (paths : List String) :
    ∃ loaded reports, Outcomes load paths loaded reports := by
  induction paths with
  | nil => exact ⟨[], [], .nil⟩
  | cons path paths inductionHypothesis =>
    obtain ⟨loaded, reports, others⟩ := inductionHypothesis
    cases came : load path with
    | ok groups => exact ⟨groups :: loaded, reports, .loaded came others⟩
    | error report => exact ⟨loaded, report :: reports, .refused came others⟩

theorem flatMap_groupsOf (outcomes : Outcomes load paths loaded reports) :
    (paths.map load).flatMap groupsOf = loaded.flatten := by
  induction outcomes with
  | nil => rfl
  | loaded came _ inductionHypothesis => simp [came, groupsOf, inductionHypothesis]
  | refused came _ inductionHypothesis => simp [came, groupsOf, inductionHypothesis]

theorem flatMap_failuresOf (outcomes : Outcomes load paths loaded reports) :
    (paths.map load).flatMap failuresOf = reports.flatMap Report.failures := by
  induction outcomes with
  | nil => rfl
  | loaded came _ inductionHypothesis => simp [came, failuresOf, inductionHypothesis]
  | refused came _ inductionHypothesis => simp [came, failuresOf, inductionHypothesis]

theorem reports_eq_nil_iff (outcomes : Outcomes load paths loaded reports) :
    reports = [] ↔ ∀ path ∈ paths, ∃ groups, load path = .ok groups := by
  induction outcomes with
  | nil => simp
  | loaded came _ inductionHypothesis => simp [came, inductionHypothesis]
  | refused came _ inductionHypothesis => simp [came]

theorem loadAll_eq (outcomes : Outcomes load paths loaded reports) :
    loadAll load paths = (Report.mk (reports.flatMap Report.failures)).toResult loaded.flatten := by
  rw [loadAll, combine_eq, outcomes.flatMap_groupsOf, outcomes.flatMap_failuresOf]

/-- Each report is that of one of the paths. -/
theorem exists_of_mem_reports (outcomes : Outcomes load paths loaded reports) :
    ∀ report ∈ reports, ∃ path ∈ paths, load path = .error report := by
  induction outcomes with
  | nil => simp
  | loaded came _ inductionHypothesis =>
    intro report member
    obtain ⟨path, inside, refused⟩ := inductionHypothesis report member
    exact ⟨path, List.mem_cons_of_mem _ inside, refused⟩
  | refused came _ inductionHypothesis =>
    refine List.forall_mem_cons.2 ⟨⟨_, List.mem_cons_self, came⟩, fun report member => ?_⟩
    obtain ⟨path, inside, refused⟩ := inductionHypothesis report member
    exact ⟨path, List.mem_cons_of_mem _ inside, refused⟩

end Outcomes

/-! ## All paths -/

theorem joinWith_eq_intercalate (separator : String) (texts : List String) :
    Text.joinWith separator texts = separator.intercalate texts := by
  induction texts with
  | nil => rfl
  | cons text texts inductionHypothesis =>
    cases texts with
    | nil => rw [Text.joinWith, String.intercalate_singleton]
    | cons next texts =>
      rw [Text.joinWith, inductionHypothesis, String.intercalate_cons_cons]
      simp

/-- The failure that a report is turned into counts its failures and lists them line by line. -/
theorem toFailure_eq (report : Report) : report.toFailure =
    ⟨.loadFailed, "\n".intercalate (report.failures.map Failure.render), "",
      [("errors", toString report.failures.length)], none⟩ := by
  rw [Report.toFailure, Report.render, joinWith_eq_intercalate]
  rfl

theorem failures_ne_nil_of_loadContent {file content : String} {report : Report}
    (refused : loadContent file content = .error report) : report.failures ≠ [] := by
  have read : loadRead file (.ok content) = .error report := refused
  exact failures_ne_nil_of_loadRead read

/-- The content of a file is never refused without a failure.  Where this is so of all files,
several files are loaded exactly if each of them is, and they come to all their groups in order.
Otherwise they come to the failures of all files that are not loaded, in order, which are turned
into one failure that counts them and lists them line by line. -/
theorem loadAll_gathers :
    (∀ file content report, loadContent file content = .error report → report.failures ≠ []) ∧
      ∀ load : String → Except Report (List RuleGroup),
        (∀ path report, load path = .error report → report.failures ≠ []) →
        ∀ paths, ∃ loaded reports, Outcomes load paths loaded reports ∧
          ((∃ groups, loadAll load paths = .ok groups) ↔
            ∀ path ∈ paths, ∃ groups, load path = .ok groups) ∧
          (∀ groups, loadAll load paths = .ok groups ↔
            reports = [] ∧ groups = loaded.flatten) ∧
          (∀ report, loadAll load paths = .error report ↔
            reports ≠ [] ∧ report.failures = reports.flatMap Report.failures) ∧
          ∀ report, loadAll load paths = .error report → report.toFailure =
            ⟨.loadFailed, "\n".intercalate (report.failures.map Failure.render), "",
              [("errors", toString report.failures.length)], none⟩ := by
  refine ⟨fun file content report => failures_ne_nil_of_loadContent, fun load carries paths => ?_⟩
  obtain ⟨loaded, reports, outcomes⟩ := Outcomes.exists_of_load load paths
  -- A report without failures could not be told from a load that went well.
  have failures : reports.flatMap Report.failures = [] ↔ reports = [] := by
    constructor
    · intro none
      refine List.eq_nil_iff_forall_not_mem.2 fun report member => ?_
      obtain ⟨path, -, refused⟩ := outcomes.exists_of_mem_reports report member
      exact carries path report refused (List.flatMap_eq_nil_iff.1 none report member)
    · rintro rfl
      rfl
  have accepted : ∀ groups, loadAll load paths = .ok groups ↔
      reports = [] ∧ groups = loaded.flatten := by
    intro groups
    rw [outcomes.loadAll_eq, Report.toResult_eq_ok, failures, eq_comm (b := groups)]
  refine ⟨loaded, reports, outcomes, ?_, accepted, fun report => ?_,
    fun report _ => toFailure_eq report⟩
  · rw [← outcomes.reports_eq_nil_iff]
    exact ⟨fun ⟨groups, came⟩ => ((accepted groups).1 came).1,
      fun none => ⟨_, (accepted _).2 ⟨none, rfl⟩⟩⟩
  · rw [outcomes.loadAll_eq, toResult_eq_error, ne_eq, failures]
    obtain ⟨failures⟩ := report
    simp [eq_comm]

/-- The failures of two files, behind each of which stands a file that is loaded. -/
theorem loadAll_gathers_mixed :
    let first := Failure.of .validationFailed "bad1: first"
    let second := Failure.of .validationFailed "bad1: second"
    let only := Failure.of .validationFailed "bad2: only"
    let load := fun path => if path = "bad1" then Except.error ⟨[first, second]⟩
      else if path = "bad2" then .error (.single only) else .ok [⟨path, none, none, []⟩]
    (∀ path report, load path = .error report → report.failures ≠ []) ∧
      loadAll load ["bad1", "ok", "bad2", "fine"] = .error ⟨[first, second, only]⟩ := by
  intro first second only load
  have carries : ∀ path report, load path = .error report → report.failures ≠ [] := by
    intro path report refused
    simp only [load] at refused
    split at refused
    · cases refused
      simp
    · split at refused
      · cases refused
        simp [Report.single]
      · cases refused
  obtain ⟨loaded, reports, outcomes, -, -, gathered, -⟩ :=
    loadAll_gathers.2 load carries ["bad1", "ok", "bad2", "fine"]
  refine ⟨carries, (gathered _).2 ?_⟩
  cases outcomes with
  | loaded came => cases came
  | refused came others =>
    cases came
    cases others with
    | refused came => cases came
    | loaded came others =>
      cases others with
      | loaded came => cases came
      | refused came others =>
        cases came
        cases others with
        | refused came => cases came
        | loaded came others =>
          cases others
          exact ⟨by simp, rfl⟩

end RuleAtlas
