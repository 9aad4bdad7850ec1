import RuleAtlas.Failure.Basic

/-! # Tokens of query expressions

A token has a kind, a text and the byte offset where it begins.  The text of a string token
is the value that the string stands for; all other tokens carry the characters they were
written with.  The token at the end of the input has the kind `eof`. -/

namespace RuleAtlas.Query

inductive TokenKind where
  | ident
  | number
  | duration
  | string
  | leftParen
  | rightParen
  | leftBrace
  | rightBrace
  | leftBracket
  | rightBracket
  | comma
  | colon
  | atSign
  | assign
  | equal
  | notEqual
  | equalRegex
  | notEqualRegex
  | less
  | lessEqual
  | greater
  | greaterEqual
  | add
  | sub
  | mul
  | div
  | mod
  | pow
  | eof
  deriving DecidableEq, Repr, Inhabited

def TokenKind.name : TokenKind → String
  | .ident => "ident"
  | .number => "number"
  | .duration => "duration"
  | .string => "string"
  | .leftParen => "left_paren"
  | .rightParen => "right_paren"
  | .leftBrace => "left_brace"
  | .rightBrace => "right_brace"
  | .leftBracket => "left_bracket"
  | .rightBracket => "right_bracket"
  | .comma => "comma"
  | .colon => "colon"
  | .atSign => "at"
  | .assign => "assign"
  | .equal => "eql"
  | .notEqual => "neq"
  | .equalRegex => "eql_regex"
  | .notEqualRegex => "neq_regex"
  | .less => "lss"
  | .lessEqual => "lte"
  | .greater => "gtr"
  | .greaterEqual => "gte"
  | .add => "add"
  | .sub => "sub"
  | .mul => "mul"
  | .div => "div"
  | .mod => "mod"
  | .pow => "pow"
  | .eof => "eof"

/-- A token, with the byte offset of its first character. -/
structure Token where
  kind : TokenKind
  text : String
  pos : Nat
  deriving DecidableEq, Repr, Inhabited

namespace Token

/-- The token stands for the end of the input. -/
def isEof (token : Token) : Bool := token.kind == .eof

/-- The token as messages name it. -/
def describe (token : Token) : String :=
  match token.kind with
  | .eof => "end of input"
  | .string => "string " ++ Text.quoted token.text
  | _ => "\"" ++ token.text ++ "\""

end Token

/-- What is wrong with the characters of a token. -/
inductive LexicalFault where
  | badNumber
  | badDuration
  | badNumberOrDuration
  | unterminatedString
  | unterminatedRawString
  | unterminatedEscape
  | unknownEscape (c : Char)
  | illegalEscapeDigit
  | octalTooLarge
  | invalidCodePoint
  | loneExclamation
  | unexpectedCharacter (c : Char)
  deriving DecidableEq, Repr, Inhabited

def LexicalFault.message : LexicalFault → String
  | .badNumber => "bad number syntax"
  | .badDuration => "bad duration syntax"
  | .badNumberOrDuration => "bad number or duration syntax"
  | .unterminatedString => "unterminated quoted string"
  | .unterminatedRawString => "unterminated raw string"
  | .unterminatedEscape => "escape sequence not terminated"
  | .unknownEscape c => "unknown escape sequence '\\" ++ c.toString ++ "'"
  | .illegalEscapeDigit => "illegal character in escape sequence"
  | .octalTooLarge => "octal escape value > 255"
  | .invalidCodePoint => "escape sequence is invalid Unicode"
  | .loneExclamation => "unexpected character after '!'"
  | .unexpectedCharacter c => "unexpected character " ++ Text.quotedChar c

/-- A fault and its byte offset in the input. -/
structure LexicalError where
  fault : LexicalFault
  position : Nat
  deriving DecidableEq, Repr, Inhabited

def LexicalError.toFailure (error : LexicalError) : Failure :=
  ((Failure.of .syntaxError error.fault.message).withOperation "promql::lex").withContext
    "position" (toString error.position)

end RuleAtlas.Query
