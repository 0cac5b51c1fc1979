import InfraAudit.Toml.Scalar
import InfraAudit.Toml.Table

/-!
Reading TOML text.

A document is a sequence of lines: headers of tables, keys with values, blank lines
and comments. The value of a document is an object; a text that is no document has
no value.
-/
namespace InfraAudit.Toml

/-! ### Space -/

/-- Whether a character separates words within a line. -/
def isBlank (c : Char) : Bool := c == ' ' || c == '\t'

/-- Whether a character may stand in a comment or within quotes. -/
def isText (c : Char) : Bool := c == '\t' || (0x20 ≤ c.toNat && c.toNat != 0x7F)

/-- A text without the blanks it starts with. -/
def skipBlanks (text : List Char) : List Char := text.dropWhile isBlank

/-- The text after a line break. -/
def newline? : List Char → Option (List Char)
  | '\n' :: rest => some rest
  | '\r' :: '\n' :: rest => some rest
  | _ => none

/-- A text without the blanks and the comment it starts with. -/
def skipRemark (text : List Char) : List Char :=
  match skipBlanks text with
  | '#' :: rest => rest.dropWhile isText
  | rest => rest

/-- The text after the end of a line. -/
def lineEnd? (text : List Char) : Option (List Char) :=
  match skipRemark text with
  | [] => some []
  | rest => newline? rest

/-- A text without the blanks, comments and line breaks it starts with. -/
def skipLines : (fuel : Nat) → List Char → List Char
  | 0, text => text
  | fuel + 1, text =>
    match newline? (skipRemark text) with
    | some rest => skipLines fuel rest
    | none => skipRemark text

/-! ### Strings -/

/-- The character that a backslash and a letter denote. -/
def namedEscape? : Char → Option Char
  | 'b' => some '\x08'
  | 't' => some '\t'
  | 'n' => some '\n'
  | 'f' => some '\x0c'
  | 'r' => some '\r'
  | '"' => some '"'
  | '\\' => some '\\'
  | _ => none

/-- The character of a code point, unless it is none. -/
def charOfCode? (n : Nat) : Option Char :=
  if (0xD800 ≤ n ∧ n ≤ 0xDFFF) ∨ 0x10FFFF < n then none else some (Char.ofNat n)

/-- Reads the character of an escape after its backslash. -/
def readEscape : List Char → Option (Char × List Char)
  | 'u' :: rest => do return (← charOfCode? (← hexNumber? 4 rest), rest.drop 4)
  | 'U' :: rest => do return (← charOfCode? (← hexNumber? 8 rest), rest.drop 8)
  | e :: rest => (namedEscape? e).map (·, rest)
  | [] => none

/-- Reads a string on one line after its opening quote; `seen` holds the characters
    read so far, the last one first. -/
def readLine (quote : Char) : (fuel : Nat) → (seen : List Char) → List Char → Option (String × List Char)
  | 0, _, _ => none
  | _ + 1, _, [] => none
  | fuel + 1, seen, c :: rest =>
    if c = quote then some (String.ofList seen.reverse, rest)
    else if c = '\\' ∧ quote = '"' then do
      let (x, rest) ← readEscape rest
      readLine quote fuel (x :: seen) rest
    else if isText c then readLine quote fuel (c :: seen) rest
    else none

/-- The text after a backslash at the end of a line, and the blanks and line breaks
    that follow it. -/
def joinedLine? (text : List Char) : Option (List Char) :=
  (newline? (skipBlanks text)).map (·.dropWhile (fun c => isBlank c || c == '\n' || c == '\r'))

/-- Reads a string on several lines after its opening quotes. Three quotes end it,
    and up to two more before them belong to it. -/
def readLinesFrom (quote : Char) : (fuel : Nat) → (seen : List Char) → List Char → Option (String × List Char)
  | 0, _, _ => none
  | _ + 1, _, [] => none
  | fuel + 1, seen, c :: rest =>
    if c = quote then
      let quotes := ((c :: rest).takeWhile (· == quote)).length
      if quotes < 3 then readLinesFrom quote fuel (c :: seen) rest
      else
        let more := min 2 (quotes - 3)
        some (String.ofList (List.replicate more quote ++ seen).reverse, rest.drop (more + 2))
    else
      match newline? (c :: rest) with
      | some rest => readLinesFrom quote fuel ('\n' :: seen) rest
      | none =>
        if c = '\\' ∧ quote = '"' then
          match joinedLine? rest with
          | some rest => readLinesFrom quote fuel seen rest
          | none => do
            let (x, rest) ← readEscape rest
            readLinesFrom quote fuel (x :: seen) rest
        else if isText c then readLinesFrom quote fuel (c :: seen) rest
        else none

/-- Reads a string on several lines; a line break directly after the opening quotes
    does not belong to it. -/
def readLines (quote : Char) (text : List Char) : Option (String × List Char) :=
  readLinesFrom quote (text.length + 1) [] ((newline? text).getD text)

/-! ### Keys -/

/-- Whether a character may stand in a key without quotes. -/
def isKeyChar (c : Char) : Bool := c.isAlphanum || c == '_' || c == '-'

/-- Reads a part of a key. -/
def readKeyPart : List Char → Option (String × List Char)
  | '"' :: rest => readLine '"' (rest.length + 1) [] rest
  | '\'' :: rest => readLine '\'' (rest.length + 1) [] rest
  | text =>
    let name := text.takeWhile isKeyChar
    if name.isEmpty then none else some (String.ofList name, text.dropWhile isKeyChar)

/-- Reads a key, whose parts are divided by dots: the parts before the last one, and
    the last one. -/
def readKey : (fuel : Nat) → List Char → Option ((List String × String) × List Char)
  | 0, _ => none
  | fuel + 1, text => do
    let (part, rest) ← readKeyPart (skipBlanks text)
    match skipBlanks rest with
    | '.' :: rest =>
      let ((path, key), rest) ← readKey fuel rest
      return ((part :: path, key), rest)
    | rest => return (([], part), rest)

/-! ### Values -/

/-- Whether a character may stand in a scalar that is not a string. -/
def isScalarChar (c : Char) : Bool :=
  c.isAlphanum || c == '_' || c == '-' || c == '+' || c == '.' || c == ':'

/-- The length of a scalar at the start of a text. One blank may stand between a
    date and a time. -/
def scalarLength (text : List Char) : Nat :=
  let first := text.takeWhile isScalarChar
  match text.drop first.length with
  | ' ' :: rest =>
    if date? first = some [] ∧ rest.head?.any Char.isDigit then
      first.length + 1 + (rest.takeWhile isScalarChar).length
    else first.length
  | _ => first.length

/-- Reads a scalar that is not a string. -/
def readScalar (text : List Char) : Option (Value × List Char) :=
  let length := scalarLength text
  (scalar? (text.take length)).map (·, text.drop length)

mutual

/-- Reads a value that may hold `depth` arrays and inline tables inside each other. -/
def readValue : (fuel depth : Nat) → List Char → Option (Value × List Char)
  | 0, _, _ => none
  | fuel + 1, depth, text =>
    match text with
    | '"' :: '"' :: '"' :: rest => (readLines '"' rest).map fun (s, r) => (.string s, r)
    | '\'' :: '\'' :: '\'' :: rest => (readLines '\'' rest).map fun (s, r) => (.string s, r)
    | '"' :: rest => (readLine '"' (rest.length + 1) [] rest).map fun (s, r) => (.string s, r)
    | '\'' :: rest => (readLine '\'' (rest.length + 1) [] rest).map fun (s, r) => (.string s, r)
    | '[' :: rest =>
      match depth with
      | 0 => none
      | depth + 1 => readItems fuel depth [] rest
    | '\x7b' :: rest =>
      match depth with
      | 0 => none
      | depth + 1 =>
        match skipBlanks rest with
        | '\x7d' :: rest => some (.object [], rest)
        | rest => readEntries fuel depth [] rest
    | _ => readScalar text

/-- Reads the items of an array after those in `seen`, the last one first. -/
def readItems : (fuel depth : Nat) → (seen : List Value) → List Char → Option (Value × List Char)
  | 0, _, _, _ => none
  | fuel + 1, depth, seen, text =>
    match skipLines (text.length + 1) text with
    | ']' :: rest => some (.array seen.reverse, rest)
    | text => do
      let (v, rest) ← readValue fuel depth text
      match skipLines (rest.length + 1) rest with
      | ',' :: rest => readItems fuel depth (v :: seen) rest
      | ']' :: rest => return (.array (v :: seen).reverse, rest)
      | _ => none

/-- Reads the entries of an inline table after those that are known. -/
def readEntries : (fuel depth : Nat) → (known : Entries) → List Char → Option (Value × List Char)
  | 0, _, _, _ => none
  | fuel + 1, depth, known, text => do
    let ((path, key), rest) ← readKey (text.length + 1) text
    match skipBlanks rest with
    | '=' :: rest =>
      let (v, rest) ← readValue fuel depth (skipBlanks rest)
      let known ← known.insertDotted? v key path
      match skipBlanks rest with
      | ',' :: rest => readEntries fuel depth known rest
      | '\x7d' :: rest => return (Value.ofFields (fieldsOf known), rest)
      | _ => none
    | _ => none

end

/-- The number of arrays and inline tables that may stand inside each other. -/
def deepest : Nat := 80

/-! ### Documents -/

/-- A document as far as it is read: its tables, and the header of the section in
    which keys stand. -/
structure Document where
  root : Entries
  header : List String

/-- Reads a key with its value, up to the end of the line. -/
def Document.readEntry (d : Document) (text : List Char) : Option (Document × List Char) := do
  let ((path, key), rest) ← readKey (text.length + 1) text
  match skipBlanks rest with
  | '=' :: rest =>
    let (v, rest) ← readValue (2 * rest.length + 2) deepest (skipBlanks rest)
    let root ← d.root.change? (Entries.insertDotted? v key path) d.header
    return (⟨root, d.header⟩, ← lineEnd? rest)
  | _ => none

/-- Reads the header of a table after its bracket, up to the end of the line. -/
def Document.readHeader (d : Document) (text : List Char) : Option (Document × List Char) := do
  let ((path, key), rest) ← readKey (text.length + 1) text
  match rest with
  | ']' :: rest =>
    let root ← d.root.change? (Entries.define? key) path
    return (⟨root, path ++ [key]⟩, ← lineEnd? rest)
  | _ => none

/-- Reads the header of an element of a list of tables after its brackets, up to the
    end of the line. -/
def Document.readElementHeader (d : Document) (text : List Char) : Option (Document × List Char) := do
  let ((path, key), rest) ← readKey (text.length + 1) text
  match rest with
  | ']' :: ']' :: rest =>
    let root ← d.root.change? (Entries.defineElement? key) path
    return (⟨root, path ++ [key]⟩, ← lineEnd? rest)
  | _ => none

/-- Reads the lines of a document. -/
def Document.readAll : (fuel : Nat) → Document → List Char → Option Document
  | 0, _, _ => none
  | fuel + 1, d, text =>
    match skipLines (text.length + 1) text with
    | [] => some d
    | '[' :: '[' :: rest => do
      let (d, rest) ← d.readElementHeader rest
      readAll fuel d rest
    | '[' :: rest => do
      let (d, rest) ← d.readHeader rest
      readAll fuel d rest
    | rest => do
      let (d, rest) ← d.readEntry rest
      readAll fuel d rest

/-- A text without the byte order mark it starts with. -/
def skipByteOrderMark : List Char → List Char
  | '\uFEFF' :: rest => rest
  | text => text

/-- The value of a document. -/
def parse? (text : String) : Option Value :=
  let text := skipByteOrderMark text.toList
  (Document.readAll (text.length + 1) ⟨[], []⟩ text).map fun d => Value.ofFields (fieldsOf d.root)

end InfraAudit.Toml
