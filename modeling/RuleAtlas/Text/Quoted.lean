import RuleAtlas.Unicode.Lookup

/-! # Quoted text

A text in double quotes, or a character in single quotes, that shows every character: the
quote and the backslash behind a backslash, the common control characters by a letter, and
all others that leave no visible mark of their own by their code point in braces. -/

namespace RuleAtlas.Text

/-- The categories whose characters leave no mark: controls, formats, private and unassigned
code points, and separators. -/
def unprintableCategories : CharSet :=
  Unicode.categories ["cc", "cf", "co", "cn", "zs", "zl", "zp"]

/-- Marks that attach to the character before them. -/
def attachingMarks : CharSet := (Unicode.property? "graphemeextend").getD .empty

/-- Characters that are not displayed where they are not supported, such as fillers. -/
def ignorableCharacters : CharSet := (Unicode.property? "defaultignorablecodepoint").getD .empty

/-- The character is written as its code point. -/
def needsCode (c : Char) : Bool :=
  if c.toNat < 0x7F then c.toNat < 0x20
  else unprintableCategories.contains c || attachingMarks.contains c ||
    ignorableCharacters.contains c

/-- A code point in braces behind a backslash and the letter u, in lower-case hexadecimal. -/
def codeEscape (c : Char) : List Char :=
  ['\\', 'u', '\x7b'] ++ Nat.toDigits 16 c.toNat ++ ['\x7d']

/-- One character as it stands between the given quotes. -/
def escapeChar (quote : Char) (c : Char) : List Char :=
  if c = '\x00' then ['\\', '0']
  else if c = '\t' then ['\\', 't']
  else if c = '\r' then ['\\', 'r']
  else if c = '\n' then ['\\', 'n']
  else if c = '\\' || c = quote then ['\\', c]
  else if needsCode c then codeEscape c
  else [c]

def quoted (text : String) : String :=
  String.ofList ('\x22' :: (text.toList.flatMap (escapeChar '\x22') ++ ['\x22']))

def quotedChar (c : Char) : String :=
  String.ofList ('\x27' :: (escapeChar '\x27' c ++ ['\x27']))

end RuleAtlas.Text
