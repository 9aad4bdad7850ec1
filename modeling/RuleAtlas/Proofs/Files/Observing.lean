import RuleAtlas.Command.Drawing
import RuleAtlas.Files.Tree

/-! # Observing a file tree that may change

A program that works on the files of a system asks about them one after the other, and each
answer is about the tree as it is at that time.  A drawing only asks.  So it leaves the tree as
it is, and all its answers are about the tree in which it began. -/

namespace RuleAtlas.Files

/-- The answer of the tree as it is now. -/
def askNow {α : Type} (ask : FileTree → α) : StateM FileTree α := fun tree => (ask tree, tree)

/-- The files of a tree that may change between two questions. -/
def presentFiles (depth : Nat) : FileSource (StateM FileTree) where
  kind? path := askNow fun tree => tree.source.kind? path
  names path := askNow fun tree => tree.source.names path
  bytes path := askNow fun tree => tree.source.bytes path
  depth := depth

/-- The program answers this, and leaves the tree as it is. -/
def Observes (tree : FileTree) {α : Type} (program : StateM FileTree α) (answer : Id α) : Prop :=
  program tree = (answer.run, tree)

namespace Observes

variable {tree : FileTree} {α β : Type}

theorem pure (a : α) : Observes tree (Pure.pure a) (Pure.pure a) := rfl

theorem bind {program : StateM FileTree α} {answer : Id α} {more : α → StateM FileTree β}
    {answers : α → Id β} (first : Observes tree program answer)
    (second : ∀ a, Observes tree (more a) (answers a)) :
    Observes tree (program >>= more) (answer >>= answers) := by
  show more (program tree).1 (program tree).2 = _
  rw [first]
  exact second answer.run

theorem ite {condition : Prop} [Decidable condition] {program other : StateM FileTree α}
    {answer otherAnswer : Id α} (here : Observes tree program answer)
    (there : Observes tree other otherAnswer) :
    Observes tree (if condition then program else other)
      (if condition then answer else otherAnswer) := by
  by_cases holds : condition
  · simpa only [if_pos holds] using here
  · simpa only [if_neg holds] using there

theorem collect {ask : α → StateM FileTree (List β)} {answers : α → Id (List β)}
    (each : ∀ a, Observes tree (ask a) (answers a)) (list : List α) :
    Observes tree (Files.collect ask list) (Files.collect answers list) := by
  induction list with
  | nil => exact .pure []
  | cons a rest inductionHypothesis =>
    apply (each a).bind
    intro first
    apply inductionHypothesis.bind
    intro others
    exact .pure _

/-! ## Expanding globs -/

variable {visit : String × Place → StateM FileTree (List String)}
  {visited : String × Place → Id (List String)}

theorem kind (path : String) :
    Observes tree ((presentFiles tree.depth).kind? path) (tree.source.kind? path) := rfl

theorem names (path : String) :
    Observes tree ((presentFiles tree.depth).names path) (tree.source.names path) := rfl

theorem bytes (path : String) :
    Observes tree ((presentFiles tree.depth).bytes path) (tree.source.bytes path) := rfl

theorem place (path : String) :
    Observes tree ((presentFiles tree.depth).place path) (tree.source.place path) :=
  (kind path).bind fun _ => .pure _

theorem members (place : Place) :
    Observes tree ((presentFiles tree.depth).members place) (tree.source.members place) := by
  apply ite
  · apply (names place.path).bind
    intro found
    apply collect
    intro name
    exact (Observes.place _).bind fun _ => .pure _
  · exact .pure []

theorem descend (each : ∀ member, Observes tree (visit member) (visited member)) (depth : Nat)
    (place : Place) :
    Observes tree ((presentFiles tree.depth).descend visit depth place)
      (tree.source.descend visited depth place) := by
  induction depth generalizing place with
  | zero => exact .pure []
  | succ depth inductionHypothesis =>
    apply (members place).bind
    intro found
    apply collect
    intro member
    apply (each member).bind
    intro own
    apply (inductionHypothesis member.2).bind
    intro inner
    exact .pure _

/-- What a walk does for each of the members that it goes on with. -/
theorem choose {accepted : Bool} {program : StateM FileTree (List String)}
    {answer : Id (List String)} (observed : Observes tree program answer) :
    Observes tree (if accepted then program else Pure.pure [])
      (if accepted then answer else Pure.pure []) :=
  observed.ite (.pure [])

/-- What is found for the members of a place that are accepted, behind what was found before. -/
theorem accepted (each : ∀ member, Observes tree (visit member) (visited member))
    (accepts : String → Bool) (place : Place) (before : List String) :
    Observes tree
      (do
        let found ← (presentFiles tree.depth).members place
        let inner ← Files.collect (fun member : String × Place =>
          if accepts member.1 then visit member else Pure.pure []) found
        Pure.pure (before ++ inner))
      (do
        let found ← tree.source.members place
        let inner ← Files.collect (fun member : String × Place =>
          if accepts member.1 then visited member else Pure.pure []) found
        Pure.pure (before ++ inner)) := by
  apply (members place).bind
  intro found
  refine Observes.bind (collect (fun member => ?_) found) fun inner => .pure _
  exact choose (each member)

theorem walk (directoriesOnly : Bool) : ∀ (components : List Component) (place : Place),
    Observes tree ((presentFiles tree.depth).walk directoriesOnly components place)
      (tree.source.walk directoriesOnly components place)
  | [], place => .pure _
  | .plain name :: rest, place => by
    simp only [FileSource.walk]
    apply (kind (Path.within place.path name)).bind
    intro found
    apply choose
    exact walk directoriesOnly rest _
  | .wild wildcards :: rest, place => by
    simp only [FileSource.walk]
    have inner : ∀ dots, Observes tree _ _ :=
      accepted (fun member => walk directoriesOnly rest member.2)
        (Component.wild wildcards).accepts place
    apply ite
    · refine Observes.bind (collect (fun name => ?_) _) inner
      exact (Observes.place _).bind fun dot => walk directoriesOnly rest dot
    · exact (Observes.pure []).bind inner
  | [.anyDepth], place => descend (fun _ => .pure _) _ place
  | .anyDepth :: next :: rest, place =>
    descend (fun member => choose (walk directoriesOnly rest member.2)) _ place

theorem fitting (pattern : String) :
    Observes tree ((presentFiles tree.depth).fitting pattern) (tree.source.fitting pattern) := by
  unfold FileSource.fitting
  cases Glob.ofText? pattern with
  | none => exact .pure []
  | some glob => exact (place glob.start).bind fun start => walk _ _ start

/-! ## Drawing -/

theorem discover (patterns : List String) :
    Observes tree ((presentFiles tree.depth).discover patterns)
      (tree.source.discover patterns) :=
  (collect fitting patterns).bind fun _ => .pure _

theorem text (path : String) :
    Observes tree ((presentFiles tree.depth).text path) (tree.source.text path) :=
  (bytes path).bind fun _ => .pure _

/-- A drawing leaves the tree as it is, and is about that tree alone. -/
theorem draw (patterns : List String) :
    Observes tree (Command.draw (presentFiles tree.depth) patterns)
      (Command.draw tree.source patterns) := by
  apply (discover patterns).bind
  intro found
  cases found with
  | error failure => exact .pure _
  | ok paths =>
    refine Observes.bind (collect (fun path => ?_) paths) fun results => .pure _
    exact (text path).bind fun content => .pure [loadRead path content]

end Observes

end RuleAtlas.Files
