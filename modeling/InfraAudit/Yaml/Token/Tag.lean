import InfraAudit.Yaml.Cursor
import InfraAudit.Yaml.Token

/-!
Reading tags, handles and directives.

A tag is written in full between angle brackets, or as a suffix to a handle. A
directive gives the version of the language or the text that a handle stands for.
-/
namespace InfraAudit.Yaml

/-! ### Text of tags -/

/-- Whether a character may stand in a tag; within angle brackets and in
    directives (`free`) also where a flow collection would take it. -/
def isTagChar (free : Bool) (c : Char) : Bool :=
  isNameChar c ||
    [';', '/', '?', ':', '@', '&', '=', '+', '$', '.', '%', '!', '~', '*', '\'', '(', ')'].contains c ||
    (free && [',', '[', ']'].contains c)

/-- The byte that an escape at the start of a text denotes. -/
def escapedByte? : List Char → Option (Nat × List Char)
  | '%' :: rest => (hexNumber? 2 rest).map (·, rest.drop 2)
  | _ => none

/-- The number of bytes of a character by its first byte. -/
def encodedWidth? (byte : Nat) : Option Nat :=
  if byte < 0x80 then some 1
  else if byte / 0x20 = 0x6 then some 2
  else if byte / 0x10 = 0xE then some 3
  else if byte / 0x08 = 0x1E then some 4
  else none

/-- Reads escaped bytes that go on a character. -/
def readTrailing : (count : Nat) → List Char → Option (TagText × List Char)
  | 0, text => some ([], text)
  | count + 1, text => do
    let (byte, rest) ← escapedByte? text
    if byte / 0x40 ≠ 0x2 then none
    let (bytes, rest) ← readTrailing count rest
    return (UInt8.ofNat byte :: bytes, rest)

/-- Reads a character that is written as escaped bytes. -/
def readEscapedChar (text : List Char) : Option (TagText × List Char) := do
  let (byte, rest) ← escapedByte? text
  let width ← encodedWidth? byte
  let (bytes, rest) ← readTrailing (width - 1) rest
  return (UInt8.ofNat byte :: bytes, rest)

/-- Reads the text of a tag as far as it goes. -/
def readTagText (free : Bool) : (fuel : Nat) → List Char → Option (TagText × List Char)
  | 0, text => some ([], text)
  | _ + 1, [] => some ([], [])
  | fuel + 1, c :: rest =>
    if !isTagChar free c then some ([], c :: rest)
    else do
      let (here, rest) ← if c = '%' then readEscapedChar (c :: rest)
        else some (asciiBytes [c], rest)
      let (more, rest) ← readTagText free fuel rest
      return (here ++ more, rest)

/-- Moves a cursor forward to a later rest of its text. -/
def Cursor.moveTo (c : Cursor) (rest : List Char) : Cursor := c.skip (c.rest.length - rest.length)

/-- Reads the text of a tag at a cursor. -/
def Cursor.tagText (free : Bool) (c : Cursor) : Option (TagText × Cursor) :=
  (readTagText free (c.rest.length + 1) c.rest).map fun (text, rest) => (text, c.moveTo rest)

/-! ### Handles and tags -/

/-- Reads a handle: an exclamation mark, a name and, where it stands, a second
    mark. -/
def readHandle (cursor : Cursor) : Option (List Char × Cursor) :=
  if cursor.rest.head? ≠ some '!' then none
  else
    let name := cursor.next.run isNameChar
    let after := cursor.next.skip name.length
    if after.rest.head? = some '!' then some ('!' :: name ++ ['!'], after.next)
    else some ('!' :: name, after)

/-- Whether a text that was read as a handle ends with a mark of its own. -/
def isClosedHandle (handle : List Char) : Bool :=
  decide (1 < handle.length) && handle.getLast? == some '!'

/-- Reads a tag without the text that must follow it. -/
def readTagBody (cursor : Cursor) : Option (Token × Cursor) := do
  if cursor.rest.take 2 = ['!', '<'] then
    let (text, cursor) ← (cursor.skip 2).tagText true
    if text.isEmpty || cursor.rest.head? != some '>' then none
    return (.tag "" text, cursor.next)
  else
    let (handle, cursor) ← readHandle cursor
    let (text, cursor) ← cursor.tagText false
    if isClosedHandle handle then
      if text.isEmpty then none
      return (.tag (String.ofList handle) text, cursor)
    else
      let suffix := asciiBytes (handle.drop 1) ++ text
      if suffix.isEmpty then return (.tag "" (asciiBytes ['!']), cursor)
      else return (.tag "!" suffix, cursor)

/-- Reads a tag, which a gap must follow or, in a flow collection, a comma. -/
def readTag (flow : Bool) (cursor : Cursor) : Option (Token × Cursor) := do
  let (token, cursor) ← readTagBody cursor
  if startsGap cursor.rest || (flow && cursor.rest.head? == some ',') then
    return (token, cursor)
  else none

/-! ### Anchors -/

/-- Whether a text may follow the name of an anchor. -/
def mayFollowAnchor (text : List Char) : Bool :=
  startsGap text ||
    text.head?.any (fun c => ['?', ':', ',', ']', '\x7d', '%', '@', '`'].contains c)

/-- Reads the name of an anchor after its mark. -/
def readAnchorName (cursor : Cursor) : Option (String × Cursor) :=
  let name := cursor.run isNameChar
  let after := cursor.skip name.length
  if name.isEmpty || !mayFollowAnchor after.rest then none else some (String.ofList name, after)

/-! ### Directives -/

/-- Reads a number of one to nine digits. -/
def readVersionPart (cursor : Cursor) : Option (Nat × Cursor) :=
  let digits := cursor.run Char.isDigit
  if digits.isEmpty ∨ 9 < digits.length then none
  else some (digits.foldl (fun n c => 10 * n + (c.toNat - '0'.toNat)) 0, cursor.skip digits.length)

/-- Reads the version that a directive gives. -/
def readVersion (cursor : Cursor) : Option (Token × Cursor) := do
  let (major, cursor) ← readVersionPart (cursor.skipWhile isBlank)
  if cursor.rest.head? ≠ some '.' then none
  let (minor, cursor) ← readVersionPart cursor.next
  return (.version major minor, cursor)

/-- Reads a handle and the text that it stands for. -/
def readHandleDirective (cursor : Cursor) : Option (Token × Cursor) := do
  let (handle, cursor) ← readHandle (cursor.skipWhile isBlank)
  if handle ≠ ['!'] ∧ !isClosedHandle handle then none
  if !cursor.rest.head?.any isBlank then none
  let (lead, cursor) ← (cursor.skipWhile isBlank).tagText true
  if lead.isEmpty || !startsGap cursor.rest then none
  return (.handleDirective (String.ofList handle) lead, cursor)

/-- Reads a directive with the rest of its line. -/
def readDirective (cursor : Cursor) : Option (Token × Cursor) := do
  let name := cursor.next.run isNameChar
  let cursor := cursor.next.skip name.length
  if !startsGap cursor.rest then none
  let (token, cursor) ←
    if name = ['Y', 'A', 'M', 'L'] then readVersion cursor
    else if name = ['T', 'A', 'G'] then readHandleDirective cursor
    else none
  let cursor := cursor.skipRemark
  if startsBreak cursor.rest then return (token, cursor.next) else none

end InfraAudit.Yaml
