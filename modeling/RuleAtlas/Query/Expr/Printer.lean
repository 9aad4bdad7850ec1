import RuleAtlas.Query.Expr

/-! # The text of expressions

The text of an expression writes every part in one fixed way: one blank around binary
operators, behind commas and before clauses, the grouping of an aggregation before its
operand, the point in time before the offset.  It adds no parentheses; those of the tree are
written. -/

namespace RuleAtlas.Query

/-- How the numbers without digits are written. -/
def numberNames : Binary64.SpecialNames := ⟨"NaN", "+Inf", "-Inf"⟩

def renderNumber (value : Binary64) : String := value.render numberNames

def renderLabels (labels : List String) : String := "(" ++ Text.joinWith ", " labels ++ ")"

def Instant.render : Instant → String
  | .timestamp seconds => renderNumber seconds
  | .rangeStart => "start()"
  | .rangeEnd => "end()"

def Offset.render (offset : Offset) : String :=
  (if offset.negative then "-" else "") ++ offset.duration.render

def Modifiers.render (modifiers : Modifiers) : String :=
  (match modifiers.instant with
    | .none => ""
    | .some instant => " @ " ++ instant.render) ++
  (match modifiers.offset with
    | .none => ""
    | .some offset => " offset " ++ offset.render)

/-- The text of a selector up to the clauses that move it in time. -/
def Selector.renderBase (selector : Selector) : String :=
  let matchers := "\x7b" ++ Text.joinWith ", " (selector.matchers.map LabelMatcher.render) ++ "\x7d"
  match selector.name? with
  | .none => matchers
  | .some name => if selector.matchers.isEmpty then name else name ++ matchers

def Grouping.render : Grouping → String
  | .by labels => " by " ++ renderLabels labels ++ " "
  | .without labels => " without " ++ renderLabels labels ++ " "

def MatchingLabels.render : MatchingLabels → String
  | .on labels => " on" ++ renderLabels labels
  | .ignoring labels => " ignoring" ++ renderLabels labels

def GroupModifier.render : GroupModifier → String
  | .left labels => " group_left" ++ renderLabels labels
  | .right labels => " group_right" ++ renderLabels labels

def VectorMatching.render (matching : VectorMatching) : String :=
  matching.labels.render ++ (match matching.group with
    | .none => ""
    | .some group => group.render)

/-- The text between two operands. -/
def BinaryClause.render (clause : BinaryClause) : String :=
  " " ++ clause.op.symbol ++ (if clause.returnsBool then " bool" else "") ++
    (match clause.matching with
      | .none => ""
      | .some matching => matching.render) ++ " "

def SubqueryClause.render (clause : SubqueryClause) : String :=
  "[" ++ clause.range.render ++ ":" ++
    (match clause.step with
      | .none => ""
      | .some step => step.render) ++ "]" ++ clause.modifiers.render

namespace Expr

mutual

def render : Expr → String
  | .number value => renderNumber value
  | .string value => Text.quoted value
  | .vector selector => selector.renderBase ++ selector.modifiers.render
  | .matrix selector range =>
    selector.renderBase ++ "[" ++ range.render ++ "]" ++ selector.modifiers.render
  | .subquery body clause => body.render ++ clause.render
  | .call name arguments => name ++ "(" ++ Text.joinWith ", " (renderAll arguments) ++ ")"
  | .aggregate op parameter body grouping =>
    op.symbol ++ (match grouping with
      | none => ""
      | some grouping => grouping.render) ++
    "(" ++ renderParameter parameter ++ body.render ++ ")"
  | .binary clause left right => left.render ++ clause.render ++ right.render
  | .unary op body => op.symbol ++ body.render
  | .paren body => "(" ++ body.render ++ ")"

def renderAll : List Expr → List String
  | [] => []
  | argument :: arguments => argument.render :: renderAll arguments

/-- The text of a parameter and of the comma behind it. -/
def renderParameter : Option Expr → String
  | none => ""
  | some parameter => parameter.render ++ ", "

end

end Expr

end RuleAtlas.Query
