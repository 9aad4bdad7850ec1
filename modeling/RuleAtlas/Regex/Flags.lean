/-! # Flags of regular expressions

Flags change how the text of a regular expression is read.  They are written as letters in
parentheses, those behind a dash are switched off; no letter may come twice. -/

namespace RuleAtlas.Regex

structure Flags where
  ignoreCase : Bool := false
  multiLine : Bool := false
  dotAll : Bool := false
  unicode : Bool := true
  crlf : Bool := false
  ignoreBlanks : Bool := false
  deriving DecidableEq, Repr, Inhabited

/-- Switches one flag; that of lazy repetition changes no match. -/
def Flags.switch (flags : Flags) (letter : Char) (value : Bool) : Option Flags :=
  match letter with
  | 'i' => some { flags with ignoreCase := value }
  | 'm' => some { flags with multiLine := value }
  | 's' => some { flags with dotAll := value }
  | 'u' => some { flags with unicode := value }
  | 'R' => some { flags with crlf := value }
  | 'x' => some { flags with ignoreBlanks := value }
  | 'U' => some flags
  | _ => none

/-- Switches the flags of a list of letters, in which `seen` came before; from a dash on they
are switched off.  The list may not end with the dash. -/
def Flags.switchAll (flags : Flags) (value : Bool) (seen : List Char) : List Char → Option Flags
  | [] => some flags
  | '-' :: rest =>
    if '-' ∈ seen || rest.isEmpty then none else flags.switchAll false ('-' :: seen) rest
  | letter :: rest =>
    if letter ∈ seen then none
    else
      match flags.switch letter value with
      | none => none
      | some flags => flags.switchAll value (letter :: seen) rest

def Flags.update (flags : Flags) (letters : List Char) : Option Flags :=
  flags.switchAll true [] letters

end RuleAtlas.Regex
