/-!
Characters of a YAML text and a cursor over them.

A text is prepared before it is read: it may hold printable characters, tabs and
line breaks only, and its line breaks are made line feeds. A cursor knows the
line and column in which the rest of the text starts.
-/
namespace InfraAudit.Yaml

/-! ### Characters -/

/-- Whether a character may stand in a text. -/
def isAllowed (c : Char) : Bool :=
  let n := c.toNat
  n == 0x09 || n == 0x0A || n == 0x0D || (0x20 ≤ n && n ≤ 0x7E) || n == 0x85 ||
    (0xA0 ≤ n && n ≤ 0xD7FF) || (0xE000 ≤ n && n ≤ 0xFFFD) || 0x10000 ≤ n

/-- A text whose carriage returns, with or without a line feed, and next-line
    characters are made line feeds. -/
def normalizeBreaks : List Char → List Char
  | [] => []
  | '\r' :: '\n' :: rest => '\n' :: normalizeBreaks rest
  | c :: rest => (if c = '\r' ∨ c = '\u0085' then '\n' else c) :: normalizeBreaks rest

/-- The text as it is read; none when it holds a character it may not hold. -/
def prepare? (text : List Char) : Option (List Char) :=
  if text.all isAllowed then some (normalizeBreaks text) else none

/-- Whether a character separates words within a line. -/
def isBlank (c : Char) : Bool := c == ' ' || c == '\t'

/-- Whether a character ends a line. -/
def isBreak (c : Char) : Bool := c == '\n' || c == '\u2028' || c == '\u2029'

/-- Whether a character is a blank or a line break. -/
def isGap (c : Char) : Bool := isBlank c || isBreak c

/-- Whether a character may stand in the name of an anchor, a handle or a
    directive. -/
def isNameChar (c : Char) : Bool := c.isAlphanum || c == '_' || c == '-'

/-- Whether a text starts with a blank or a line break, or is at its end. -/
def startsGap : List Char → Bool
  | [] => true
  | c :: _ => isGap c

/-- Whether a text starts with a line break, or is at its end. -/
def startsBreak : List Char → Bool
  | [] => true
  | c :: _ => isBreak c

/-- The value of a hexadecimal digit. -/
def hexDigit? (c : Char) : Option Nat :=
  if c.isDigit then some (c.toNat - '0'.toNat)
  else if 'a' ≤ c ∧ c ≤ 'f' then some (c.toNat - 'a'.toNat + 10)
  else if 'A' ≤ c ∧ c ≤ 'F' then some (c.toNat - 'A'.toNat + 10)
  else none

/-- The number that exactly `count` hexadecimal digits at the start of a text
    denote. -/
def hexNumber? (count : Nat) (text : List Char) : Option Nat :=
  if text.length < count then none
  else (text.take count).foldlM (fun n c => (hexDigit? c).map (n * 16 + ·)) 0

/-! ### Cursors -/

/-- A place in a text: what follows it, and its index, line and column. -/
structure Cursor where
  rest : List Char
  index : Nat
  line : Nat
  column : Nat

namespace Cursor

/-- The cursor at the start of a text. -/
def start (text : List Char) : Cursor := ⟨text, 0, 0, 0⟩

/-- The cursor after one character. -/
def next (c : Cursor) : Cursor :=
  match c.rest with
  | [] => c
  | x :: rest =>
    if isBreak x then ⟨rest, c.index + 1, c.line + 1, 0⟩
    else ⟨rest, c.index + 1, c.line, c.column + 1⟩

/-- The cursor after some characters. -/
def skip : (count : Nat) → Cursor → Cursor
  | 0, c => c
  | count + 1, c => skip count c.next

/-- The characters from a cursor on that meet a condition. -/
def run (p : Char → Bool) (c : Cursor) : List Char := c.rest.takeWhile p

/-- The cursor after the characters that meet a condition. -/
def skipWhile (p : Char → Bool) (c : Cursor) : Cursor := c.skip (c.run p).length

/-- The cursor after blanks and a comment, at the end of the line when nothing
    else stands there. -/
def skipRemark (c : Cursor) : Cursor :=
  let c := c.skipWhile isBlank
  if c.rest.head? = some '#' then c.skipWhile (fun x => !isBreak x) else c

/-- Whether three given characters stand at the start of a line, alone or before
    a gap. -/
def atMark (c : Cursor) (mark : Char) : Bool :=
  match c.rest with
  | x :: y :: z :: rest => c.column == 0 && x == mark && y == mark && z == mark && startsGap rest
  | _ => false

/-- Whether a marker of the start or the end of a document stands here. -/
def atDocumentMark (c : Cursor) : Bool := c.atMark '-' || c.atMark '.'

end Cursor

end InfraAudit.Yaml
