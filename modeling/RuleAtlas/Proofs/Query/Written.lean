import RuleAtlas.Query.Expr.Printer
import RuleAtlas.Query.Token

/-! # The tokens that trees are written with

The tokens of the text of a tree, each placed at the beginning of an input: where a token
stands does not matter to how it is read. -/

namespace RuleAtlas.Query

/-! ## Single tokens -/

namespace Written

def word (text : String) : Token := ⟨.ident, text, 0⟩

def string (text : String) : Token := ⟨.string, text, 0⟩

/-- The token of a number or duration. -/
def digits (kind : TokenKind) (text : List Char) : Token := ⟨kind, String.ofList text, 0⟩

def leftParen : Token := ⟨.leftParen, "(", 0⟩

def rightParen : Token := ⟨.rightParen, ")", 0⟩

def leftBrace : Token := ⟨.leftBrace, "\x7b", 0⟩

def rightBrace : Token := ⟨.rightBrace, "\x7d", 0⟩

def leftBracket : Token := ⟨.leftBracket, "[", 0⟩

def rightBracket : Token := ⟨.rightBracket, "]", 0⟩

def comma : Token := ⟨.comma, ",", 0⟩

def colon : Token := ⟨.colon, ":", 0⟩

def atSign : Token := ⟨.atSign, "@", 0⟩

def minus : Token := ⟨.sub, "-", 0⟩

/-- Pieces with commas between them. -/
def joined : List (List Token) → List Token
  | [] => []
  | [piece] => piece
  | piece :: pieces => piece ++ comma :: joined pieces

theorem joined_cons_cons (piece next : List Token) (pieces : List (List Token)) :
    joined (piece :: next :: pieces) = piece ++ comma :: joined (next :: pieces) := rfl

end Written

open Written

/-! ## Parts of trees -/

def BinaryOp.tokenKind : BinaryOp → TokenKind
  | .add => .add
  | .sub => .sub
  | .mul => .mul
  | .div => .div
  | .mod => .mod
  | .pow => .pow
  | .equal => .equal
  | .notEqual => .notEqual
  | .greater => .greater
  | .less => .less
  | .greaterEqual => .greaterEqual
  | .lessEqual => .lessEqual
  | .atan2 => .ident
  | .and => .ident
  | .or => .ident
  | .unless => .ident

def BinaryOp.token (op : BinaryOp) : Token := ⟨op.tokenKind, op.symbol, 0⟩

def UnaryOp.token : UnaryOp → Token
  | .neg => ⟨.sub, "-", 0⟩
  | .pos => ⟨.add, "+", 0⟩

def MatchKind.tokenKind : MatchKind → TokenKind
  | .equal => .assign
  | .notEqual => .notEqual
  | .like => .equalRegex
  | .unlike => .notEqualRegex

def MatchKind.token (kind : MatchKind) : Token := ⟨kind.tokenKind, kind.symbol, 0⟩

/-- The tokens of a number; an infinity is written with a sign and a word. -/
def numberTokens : Binary64 → List Token
  | .nan => [word "NaN"]
  | .infinity negative => [if negative then minus else UnaryOp.token .pos, word "Inf"]
  | .finite negative significand exponent =>
    (if negative then [minus] else []) ++
      [digits .number (Binary64.finiteText false significand exponent)]

def Duration.token (duration : Duration) : Token := digits .duration duration.text

def labelTokens (labels : List String) : List Token :=
  leftParen :: joined (labels.map fun label => [word label]) ++ [rightParen]

def LabelMatcher.tokens (matcher : LabelMatcher) : List Token :=
  [word matcher.label, matcher.condition.kind.token, string matcher.condition.text]

def Instant.tokens : Instant → List Token
  | .timestamp seconds => numberTokens seconds
  | .rangeStart => [word "start", leftParen, rightParen]
  | .rangeEnd => [word "end", leftParen, rightParen]

def Offset.tokens (offset : Offset) : List Token :=
  (if offset.negative then [minus] else []) ++ [offset.duration.token]

/-- The tokens of what may be missing. -/
def optionalTokens {α : Type} (tokens : α → List Token) : Option α → List Token
  | none => []
  | some a => tokens a

def Modifiers.tokens (modifiers : Modifiers) : List Token :=
  optionalTokens (fun instant => atSign :: instant.tokens) modifiers.instant ++
    optionalTokens (fun offset => word "offset" :: offset.tokens) modifiers.offset

def matcherTokens (matchers : List LabelMatcher) : List Token :=
  leftBrace :: joined (matchers.map LabelMatcher.tokens) ++ [rightBrace]

/-- The tokens of a selector up to the clauses that move it in time. -/
def Selector.baseTokens (selector : Selector) : List Token :=
  match selector.name? with
  | none => matcherTokens selector.matchers
  | some name =>
    word name :: if selector.matchers.isEmpty then [] else matcherTokens selector.matchers

def Grouping.tokens : Grouping → List Token
  | .by labels => word "by" :: labelTokens labels
  | .without labels => word "without" :: labelTokens labels

def MatchingLabels.tokens : MatchingLabels → List Token
  | .on labels => word "on" :: labelTokens labels
  | .ignoring labels => word "ignoring" :: labelTokens labels

def GroupModifier.tokens : GroupModifier → List Token
  | .left labels => word "group_left" :: labelTokens labels
  | .right labels => word "group_right" :: labelTokens labels

def VectorMatching.tokens (matching : VectorMatching) : List Token :=
  matching.labels.tokens ++ optionalTokens GroupModifier.tokens matching.group

/-- The tokens between an operator and its right operand. -/
def BinaryClause.wordTokens (clause : BinaryClause) : List Token :=
  (if clause.returnsBool then [word "bool"] else []) ++
    optionalTokens VectorMatching.tokens clause.matching

/-- The tokens between two operands. -/
def BinaryClause.tokens (clause : BinaryClause) : List Token :=
  clause.op.token :: clause.wordTokens

def rangeTokens (range : Duration) : List Token := [leftBracket, range.token, rightBracket]

/-- The tokens behind the operand of a subquery. -/
def SubqueryClause.tokens (clause : SubqueryClause) : List Token :=
  [leftBracket, clause.range.token, colon] ++
    optionalTokens (fun step => [step.token]) clause.step ++ rightBracket :: clause.modifiers.tokens

/-! ## Trees -/

theorem numberTokens_ne_nil (value : Binary64) : numberTokens value ≠ [] := by
  cases value <;> simp [numberTokens]

theorem Selector.baseTokens_ne_nil (selector : Selector) : selector.baseTokens ≠ [] := by
  unfold Selector.baseTokens
  split <;> simp [matcherTokens]

namespace Expr

mutual

def tokens : Expr → List Token
  | .number value => numberTokens value
  | .string value => [Written.string value]
  | .vector selector => selector.baseTokens ++ selector.modifiers.tokens
  | .matrix selector range =>
    selector.baseTokens ++ (rangeTokens range ++ selector.modifiers.tokens)
  | .subquery body clause => body.tokens ++ clause.tokens
  | .call name arguments => word name :: leftParen :: joined (tokensAll arguments) ++ [rightParen]
  | .aggregate op parameter body grouping =>
    word op.symbol :: optionalTokens Grouping.tokens grouping ++
      leftParen :: (parameterTokens parameter ++ body.tokens) ++ [rightParen]
  | .binary clause left right => left.tokens ++ (clause.tokens ++ right.tokens)
  | .unary op body => op.token :: body.tokens
  | .paren body => leftParen :: body.tokens ++ [rightParen]

def tokensAll : List Expr → List (List Token)
  | [] => []
  | argument :: arguments => argument.tokens :: tokensAll arguments

/-- The tokens of a parameter and of the comma behind it. -/
def parameterTokens : Option Expr → List Token
  | none => []
  | some parameter => parameter.tokens ++ [comma]

end

theorem tokens_ne_nil (expr : Expr) : expr.tokens ≠ [] := by
  cases expr with
  | number value => simpa [tokens] using numberTokens_ne_nil value
  | string value => simp [tokens]
  | vector selector => simp [tokens, selector.baseTokens_ne_nil]
  | matrix selector range => simp [tokens, selector.baseTokens_ne_nil]
  | subquery body clause => simp [tokens, SubqueryClause.tokens]
  | call name arguments => simp [tokens]
  | aggregate op parameter body grouping => simp [tokens]
  | binary clause left right => simp [tokens, BinaryClause.tokens]
  | unary op body => simp [tokens]
  | paren body => simp [tokens]

@[simp] theorem tokensAll_eq_map (arguments : List Expr) :
    tokensAll arguments = arguments.map tokens := by
  induction arguments with
  | nil => rw [tokensAll, List.map_nil]
  | cons argument arguments inductionHypothesis =>
    rw [tokensAll, List.map_cons, inductionHypothesis]

@[simp] theorem renderAll_eq_map (arguments : List Expr) :
    renderAll arguments = arguments.map render := by
  induction arguments with
  | nil => rw [renderAll, List.map_nil]
  | cons argument arguments inductionHypothesis =>
    rw [renderAll, List.map_cons, inductionHypothesis]

end Expr

end RuleAtlas.Query
