import RuleAtlas.Text.CharSet

/-! # Regular expressions

A regular expression over characters: sets of characters, conditions on the place between
two characters, sequence, choice, counted repetition and groups.  Which of several matches is
preferred has no place here, since only whether a text matches is ever asked. -/

namespace RuleAtlas

/-- A condition on a place in a text.  The conditions on words come with Unicode words or with
words of ASCII characters. -/
inductive Look where
  | textStart
  | textEnd
  | lineStart
  | lineEnd
  | lineStartCrlf
  | lineEndCrlf
  | wordBoundary (unicode : Bool)
  | noWordBoundary (unicode : Bool)
  | wordStart (unicode : Bool)
  | wordEnd (unicode : Bool)
  | noWordBefore (unicode : Bool)
  | noWordAfter (unicode : Bool)
  deriving DecidableEq, Repr, Inhabited

inductive Regex where
  | empty
  | set (characters : CharSet)
  | look (condition : Look)
  | sequence (first second : Regex)
  | choice (first second : Regex)
  | repeated (body : Regex) (least : Nat) (most : Option Nat)
  | group (body : Regex)
  deriving DecidableEq, Repr, Inhabited

namespace Regex

def char (c : Char) : Regex := .set (.singleton c)

def sequenceOf : List Regex → Regex
  | [] => .empty
  | [regex] => regex
  | regex :: rest => .sequence regex (sequenceOf rest)

def choiceOf : List Regex → Regex
  | [] => .empty
  | [regex] => regex
  | regex :: rest => .choice regex (choiceOf rest)

end Regex

end RuleAtlas
