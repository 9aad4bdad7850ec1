import RuleAtlas.Yaml.Token

/-! # Tags, anchors and directives

A tag is an address in angle brackets, or a handle and a suffix.  The handle is a name between
exclamation marks; directives say which address it stands for.  Bytes of an address may be
written in hexadecimal behind a percent sign. -/

namespace RuleAtlas.Yaml

open Scan

/-! ## Addresses -/

/-- The character may stand in the address of a tag; brackets and commas only where the
address is not a suffix. -/
def isAddressCharacter (whole : Bool) (c : Char) : Bool :=
  isNameCharacter c ||
    c ∈ [';', '/', '?', ':', '@', '&', '=', '+', '$', '.', '%', '!', '~', '*', '\'', '(', ')'] ||
    (whole && c ∈ [',', '[', ']'])

def hexDigit? (c : Char) : Option Nat :=
  if c.isDigit then some (c.toNat - 48)
  else if 'a' ≤ c && c ≤ 'f' then some (c.toNat - 87)
  else if 'A' ≤ c && c ≤ 'F' then some (c.toNat - 55)
  else none

/-- The byte written behind a percent sign at the head of a text. -/
def escapedOctet? : List Char → Option Nat
  | '%' :: high :: low :: _ =>
    match hexDigit? high, hexDigit? low with
    | some a, some b => some (a * 16 + b)
    | _, _ => none
  | _ => none

/-- The number of bytes of a character whose first byte is given. -/
def octetCount (octet : Nat) : Nat :=
  if octet < 0x80 then 1
  else if octet < 0xC0 then 0
  else if octet < 0xE0 then 2
  else if octet < 0xF0 then 3
  else if octet < 0xF8 then 4
  else 0

/-- What is being read, and where it began. -/
structure TagSite where
  activity : Activity
  start : Mark

/-- An error of a tag at the cursor. -/
def TagSite.fail {α : Type} (site : TagSite) (problem : Problem) : Scan α :=
  Scan.fail problem site.activity site.start

/-- Reads a byte behind a percent sign, if it is of a class. -/
def readOctet (site : TagSite) (inClass : Nat → Bool) (problem : Problem) : Scan Nat := do
  match escapedOctet? (← get).rest with
  | none => site.fail .tagEscape
  | some octet =>
    if inClass octet then
      skip 3
      pure octet
    else site.fail problem

/-- Reads the further bytes of a character. -/
def readTrailingOctets (site : TagSite) : Nat → Scan (List Char)
  | 0 => pure []
  | count + 1 => do
    let octet ← readOctet site (fun octet => 0x80 ≤ octet && octet < 0xC0) .tagTrailingOctet
    let others ← readTrailingOctets site count
    pure (Char.ofNat octet :: others)

/-- Reads the bytes of one character. -/
def readEscapedCharacter (site : TagSite) : Scan (List Char) := do
  let octet ← readOctet site (fun octet => octetCount octet ≠ 0) .tagLeadingOctet
  let others ← readTrailingOctets site (octetCount octet - 1)
  pure (Char.ofNat octet :: others)

/-- Reads the characters of an address, at most as many as said. -/
def readAddressCharacters (site : TagSite) (whole : Bool) : Nat → Scan (List Char)
  | 0 => pure []
  | count + 1 => do
    match (← get).head? with
    | none => pure []
    | some c =>
      if c = '%' then
        let read ← readEscapedCharacter site
        let others ← readAddressCharacters site whole count
        pure (read ++ others)
      else if isAddressCharacter whole c then
        skip 1
        let others ← readAddressCharacters site whole count
        pure (c :: others)
      else pure []

/-- Reads an address, of which a part may have been read as a handle: all of the handle but
its exclamation mark belongs to the address. -/
def readAddress (site : TagSite) (whole : Bool) (handle : List Char) : Scan (List Char) := do
  let read ← readAddressCharacters site whole (← get).left
  if handle.isEmpty && read.isEmpty then site.fail .tagMissing
  else pure (handle.drop 1 ++ read)

/-! ## Tags -/

/-- Reads an exclamation mark, a name, and a second exclamation mark if there is one. -/
def readHandle : Scan (List Char) := do
  skip 1
  let name ← takeRun isNameCharacter
  if ← isAt '!' then
    skip 1
    pure ('!' :: (name ++ ['!']))
  else pure ('!' :: name)

/-- The text is a handle with a second exclamation mark. -/
def isFullHandle (handle : List Char) : Bool :=
  2 ≤ handle.length && handle.getLast? == some '!'

def readBracketedTag : Scan TokenValue := do
  let start ← mark
  skip 2
  let address ← readAddress ⟨.tagAddress, start⟩ true []
  if ← isAt '>' then
    skip 1
    pure (.tag [] address)
  else Scan.fail .tagBracket .tag start

def readShortTag : Scan TokenValue := do
  let start ← mark
  let handle ← readHandle
  if isFullHandle handle then
    let suffix ← readAddress ⟨.tagAddress, start⟩ false []
    pure (.tag handle suffix)
  else
    let suffix ← readAddress ⟨.tagAddress, start⟩ false handle
    if suffix.isEmpty then pure (.tag [] ['!']) else pure (.tag ['!'] suffix)

/-- Reads a tag; a blank or line break follows it, or a comma in a flow collection. -/
def readTag (inFlow : Bool) : Scan TokenValue := do
  let start ← mark
  let found ← if ((← get).advance 1).isAt '<' then readBracketedTag else readShortTag
  let behind ← get
  if behind.endsWordAfter 0 || (inFlow && behind.isAt ',') then pure found
  else Scan.fail .tagLineEnd .tag start

/-! ## Anchors and aliases -/

/-- The character may follow the name of an anchor. -/
def endsAnchor (c : Char) : Bool :=
  isBlank c || isBreak c || c ∈ ['?', ':', ',', ']', '\x7d', '%', '@', '\x60']

/-- Reads an indicator and the name of an anchor or alias behind it. -/
def readAnchorName (activity : Activity) : Scan (List Char) := do
  let start ← mark
  skip 1
  let name ← takeRun isNameCharacter
  if name.isEmpty || !(← get).head?.all endsAnchor then Scan.fail .anchorCharacter activity start
  else pure name

/-! ## Directives -/

def readVersionNumber (start : Mark) : Scan Nat := do
  let digits := (← get).run Char.isDigit
  if digits.isEmpty then Scan.fail .versionMissing .versionDirective start
  else if 9 < digits.length then
    skip 9
    Scan.fail .versionTooLong .versionDirective start
  else
    skip digits.length
    pure (digits.foldl (fun number c => number * 10 + (c.toNat - 48)) 0)

def readVersion (start : Mark) : Scan TokenValue := do
  skipBlanks
  let major ← readVersionNumber start
  if ← isAt '.' then
    skip 1
    let minor ← readVersionNumber start
    pure (.versionDirective major minor)
  else Scan.fail .versionDot .versionDirective start

def readDirectiveHandle (start : Mark) : Scan (List Char) := do
  if ← isAt '!' then
    let handle ← readHandle
    if handle.length = 1 || isFullHandle handle then pure handle
    else Scan.fail .tagMark .tagHandle start
  else Scan.fail .tagMark .tagDirectiveHandle start

/-- Reads a handle and the address that it stands for. -/
def readTagDirective (start : Mark) : Scan TokenValue := do
  skipBlanks
  let handle ← readDirectiveHandle start
  if (← get).isAtAny isBlank then
    skipBlanks
    let leader ← readAddress ⟨.tagDirectivePrefix, start⟩ true []
    if (← get).endsWordAfter 0 then pure (.tagDirective handle leader)
    else Scan.fail .directiveLineEnd .tagDirective start
  else Scan.fail .directiveBlank .tagDirective start

/-- Reads the name and the values of a directive. -/
def readDirectiveValue : Scan TokenValue := do
  let start ← mark
  skip 1
  let name ← takeRun isNameCharacter
  if name.isEmpty then Scan.fail .directiveNameMissing .directive start
  else if !(← get).endsWordAfter 0 then Scan.fail .directiveNameCharacter .directive start
  else if name = ['Y', 'A', 'M', 'L'] then readVersion start
  else if name = ['T', 'A', 'G'] then readTagDirective start
  else Scan.fail .unknownDirective .directive start

/-- Reads a directive with the rest of its line. -/
def readDirective : Scan Token := do
  let start ← mark
  let found ← Scan.token readDirectiveValue
  skipLineTail
  if (← get).isAtLineEnd then
    modify Cursor.skipBreak
    pure found
  else Scan.fail .directiveTail .directive start

end RuleAtlas.Yaml
