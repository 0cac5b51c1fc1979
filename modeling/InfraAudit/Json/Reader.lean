import InfraAudit.Value

/-!
Reading JSON text.

The reader is strict: one value, only space, tab, carriage return and line feed
around its parts, no raw control characters in strings, no lone surrogates, and
at most `deepest` arrays and objects inside each other. A fault tells whether the
text ended too early or has an offending character, and on which line.
-/
namespace InfraAudit.Json

/-- How a text fails to be JSON. -/
inductive FaultKind where
  /-- The text ends where more is needed. -/
  | endOfText
  /-- A character stands where it may not stand. -/
  | malformed
  deriving Repr, DecidableEq

/-- A fault at a line of the text, counted from one. -/
structure SyntaxError where
  kind : FaultKind
  line : Nat
  deriving Repr, DecidableEq

/-- A fault as text. -/
def SyntaxError.message (e : SyntaxError) : String :=
  (match e.kind with
    | .endOfText => "unexpected end of text"
    | .malformed => "unexpected character") ++
  " at line " ++ toString e.line

/-- A fault together with the text after the offending character. -/
structure Fault where
  kind : FaultKind
  rest : List Char

/-- What a reader gives: a result and the text after it, or a fault. -/
abbrev Reading (α : Type) := Except Fault (α × List Char)

/-- The fault of a text that ends too early. -/
def endFault {α : Type} : Except Fault α := .error ⟨.endOfText, []⟩

/-- The fault of an offending character that stands before `rest`. -/
def offending {α : Type} (rest : List Char) : Except Fault α := .error ⟨.malformed, rest⟩

/-- The fault at the first character of a text, or at its end. -/
def faultAt {α : Type} : List Char → Except Fault α
  | [] => endFault
  | _ :: rest => offending rest

/-- The characters that may stand between the parts of a text. -/
def isSpace (c : Char) : Bool := c == ' ' || c == '\t' || c == '\n' || c == '\r'

/-- A text without the space it starts with. -/
def skipSpace (text : List Char) : List Char := text.dropWhile isSpace

/-- Reads the remaining letters of a word. -/
def readWord {α : Type} (result : α) : (letters text : List Char) → Reading α
  | [], text => .ok (result, text)
  | _ :: _, [] => endFault
  | l :: letters, c :: rest => if l = c then readWord result letters rest else offending rest

/-! ### Numbers -/

/-- The value of a decimal digit. -/
def digit? (c : Char) : Option Nat := if c.isDigit then some (c.toNat - '0'.toNat) else none

/-- The greatest significand that is kept exactly. -/
def maxSignificand : Nat := 0xFFFFFFFFFFFFFFFF

/-- The powers of ten that are doubles. -/
def maxPower : Nat := 308

/-- A power of ten as a double. -/
def powerOfTen (n : Nat) : Float := Float.ofScientific 1 false n

/-- Divides by powers of ten until the exponent is used up or the value is zero. -/
def scaleDown : (fuel : Nat) → Float → Nat → Float
  | 0, f, _ => f
  | fuel + 1, f, exponent =>
    if exponent ≤ maxPower then f / powerOfTen exponent
    else if f == 0.0 then f
    else scaleDown fuel (f / powerOfTen maxPower) (exponent - maxPower)

/-- The magnitude `significand · 10^exponent` as a double, scaled in steps that
    are doubles themselves; none when it is too large. -/
def scaled? (significand : Nat) (exponent : Int) : Option Float :=
  let f := (UInt64.ofNat significand).toFloat
  if 0 ≤ exponent then
    if exponent ≤ maxPower then
      let scaled := f * powerOfTen exponent.toNat
      if scaled.isInf then none else some scaled
    else if f == 0.0 then some f else none
  else some (scaleDown 3 f exponent.natAbs)

/-- A double of the given sign. -/
def signed (negative : Bool) (f : Float) : Number := .double (if negative then -f else f)

/-- The double of a significand and an exponent. -/
def readDouble (negative : Bool) (significand : Nat) (exponent : Int) (rest : List Char) :
    Reading Number :=
  match scaled? significand exponent with
  | some f => .ok (signed negative f, rest)
  | none => offending rest

/-- The greatest exponent that is told apart from larger ones. -/
def maxExponent : Nat := 0x7FFFFFFF

/-- Reads the digits of an exponent after the first one. An exponent that is too
    large makes zero of every value but a large one, which is a fault. -/
def readExponentDigits (negative : Bool) (significand : Nat) (start : Int) (positive : Bool)
    (exponent : Nat) : List Char → Reading Number
  | [] => finish []
  | c :: rest =>
    match digit? c with
    | none => finish (c :: rest)
    | some d =>
      if maxExponent < exponent * 10 + d then
        if significand ≠ 0 ∧ positive then offending rest
        else .ok (signed negative 0.0, rest.dropWhile Char.isDigit)
      else readExponentDigits negative significand start positive (exponent * 10 + d) rest
where
  /-- Applies the whole exponent. -/
  finish (rest : List Char) : Reading Number :=
    readDouble negative significand (if positive then start + exponent else start - exponent) rest

/-- Reads what follows the letter `e` of a number. -/
def readExponent (negative : Bool) (significand : Nat) (start : Int) (text : List Char) :
    Reading Number :=
  let (positive, digits) :=
    match text with
    | '+' :: rest => (true, rest)
    | '-' :: rest => (false, rest)
    | _ => (true, text)
  match digits with
  | [] => endFault
  | c :: rest =>
    match digit? c with
    | none => offending rest
    | some d => readExponentDigits negative significand start positive d rest

/-- Reads the end of a number whose digits have all been read. -/
def readScale (negative : Bool) (significand : Nat) (exponent : Int) : List Char → Reading Number
  | 'e' :: rest | 'E' :: rest => readExponent negative significand exponent rest
  | rest => readDouble negative significand exponent rest

/-- Reads the digits of a fraction. From the first digit that the significand
    cannot take, the digits are passed over. -/
def readFraction (negative : Bool) (significand : Nat) (exponent : Int) (seen : Bool) :
    List Char → Reading Number
  | [] => if seen then readScale negative significand exponent [] else endFault
  | c :: rest =>
    match digit? c with
    | none => if seen then readScale negative significand exponent (c :: rest) else offending rest
    | some d =>
      if maxSignificand < significand * 10 + d then
        readScale negative significand exponent (rest.dropWhile Char.isDigit)
      else readFraction negative (significand * 10 + d) (exponent - 1) true rest

/-- Reads the digits of an integer part that is too long to be kept. -/
def readLongInteger (negative : Bool) (significand : Nat) (exponent : Nat) :
    List Char → Reading Number
  | [] => readDouble negative significand exponent []
  | c :: rest =>
    if c.isDigit then readLongInteger negative significand (exponent + 1) rest
    else if c = '.' then readFraction negative significand exponent false rest
    else readScale negative significand exponent (c :: rest)

/-- An integer, or the double next to it when its 64 bits cannot hold it. A
    negative zero is a double. -/
def integer (negative : Bool) (significand : Nat) : Number :=
  if !negative then .int significand
  else if significand = 0 ∨ 0x8000000000000000 < significand then
    signed true (UInt64.ofNat significand).toFloat
  else .int (-significand)

/-- Reads the digits of an integer part after the first one. -/
def readInteger (negative : Bool) (significand : Nat) : List Char → Reading Number
  | [] => .ok (integer negative significand, [])
  | c :: rest =>
    match digit? c with
    | some d =>
      if maxSignificand < significand * 10 + d then readLongInteger negative significand 1 rest
      else readInteger negative (significand * 10 + d) rest
    | none =>
      if c = '.' then readFraction negative significand 0 false rest
      else if c = 'e' ∨ c = 'E' then readExponent negative significand 0 rest
      else .ok (integer negative significand, c :: rest)

/-- Reads a number whose sign has been read. -/
def readNumber (negative : Bool) : List Char → Reading Number
  | [] => endFault
  | '0' :: rest =>
    match rest with
    | c :: after => if c.isDigit then offending after else readInteger negative 0 rest
    | [] => readInteger negative 0 []
  | c :: rest =>
    match digit? c with
    | some d => readInteger negative d rest
    | none => offending rest

/-! ### Strings -/

/-- The value of a hexadecimal digit. -/
def hexDigit? (c : Char) : Option Nat :=
  if c.isDigit then some (c.toNat - '0'.toNat)
  else if 'a' ≤ c ∧ c ≤ 'f' then some (c.toNat - 'a'.toNat + 10)
  else if 'A' ≤ c ∧ c ≤ 'F' then some (c.toNat - 'A'.toNat + 10)
  else none

/-- The value of some hexadecimal digits. -/
def hexValue? (digits : List Char) : Option Nat :=
  digits.foldlM (fun n c => (hexDigit? c).map (n * 16 + ·)) 0

/-- The text after at least `count` bytes, characters being kept whole. -/
def dropBytes? : (count : Nat) → List Char → Option (List Char)
  | 0, text => some text
  | _ + 1, [] => none
  | count + 1, c :: rest => dropBytes? (count + 1 - c.utf8Size) rest
termination_by _ text => text.length

/-- Reads the four digits of a code unit. -/
def readUnit (text : List Char) : Reading Nat :=
  match dropBytes? 4 text with
  | none => endFault
  | some rest =>
    match hexValue? (text.take 4) with
    | some n => .ok (n, rest)
    | none => offending rest

/-- Whether a code unit is the first of a surrogate pair. -/
def isLeading (n : Nat) : Bool := 0xD800 ≤ n && n ≤ 0xDBFF

/-- Whether a code unit is the second of a surrogate pair. -/
def isTrailing (n : Nat) : Bool := 0xDC00 ≤ n && n ≤ 0xDFFF

/-- Reads the character that the units of an escape denote. -/
def readUnicode (text : List Char) : Reading Char :=
  match readUnit text with
  | .error e => .error e
  | .ok (n, rest) =>
    if isTrailing n then offending rest
    else if !isLeading n then .ok (Char.ofNat n, rest)
    else
      match rest with
      | '\\' :: 'u' :: second =>
        match readUnit second with
        | .error e => .error e
        | .ok (m, after) =>
          if isTrailing m then
            .ok (Char.ofNat ((n - 0xD800) * 0x400 + (m - 0xDC00) + 0x10000), after)
          else offending after
      | '\\' :: after => faultAt after
      | after => faultAt after

/-- The characters that are escaped by one letter. -/
def simpleEscape? : Char → Option Char
  | '"' => some '"'
  | '\\' => some '\\'
  | '/' => some '/'
  | 'b' => some '\x08'
  | 'f' => some '\x0c'
  | 'n' => some '\n'
  | 'r' => some '\r'
  | 't' => some '\t'
  | _ => none

/-- Reads a string after its opening quote; `seen` holds the characters read so
    far, the last one first, and every character takes at most one step of
    `fuel`. -/
def readString : (fuel : Nat) → (seen : List Char) → List Char → Reading String
  | 0, _, _ => endFault
  | _ + 1, _, [] => endFault
  | fuel + 1, seen, c :: rest =>
    if c = '"' then .ok (String.ofList seen.reverse, rest)
    else if c = '\\' then
      match rest with
      | [] => endFault
      | 'u' :: units =>
        match readUnicode units with
        | .error e => .error e
        | .ok (u, after) => readString fuel (u :: seen) after
      | e :: after =>
        match simpleEscape? e with
        | some u => readString fuel (u :: seen) after
        | none => offending after
    else if c.toNat < 0x20 then offending rest
    else readString fuel (c :: seen) rest

/-! ### Values -/

mutual

/-- Reads a value that may hold `depth` arrays and objects inside each other. No
    more than two steps of `fuel` are taken for a character, so that twice as many
    steps as there are characters are enough, for the strings as well. -/
def readValue : (fuel depth : Nat) → List Char → Reading Value
  | 0, _, _ => endFault
  | fuel + 1, depth, text =>
    match skipSpace text with
    | [] => endFault
    | 'n' :: rest => readWord .null ['u', 'l', 'l'] rest
    | 't' :: rest => readWord (.bool true) ['r', 'u', 'e'] rest
    | 'f' :: rest => readWord (.bool false) ['a', 'l', 's', 'e'] rest
    | '"' :: rest => (readString fuel [] rest).map (fun (s, r) => (.string s, r))
    | '[' :: rest =>
      match depth with
      | 0 => offending rest
      | depth + 1 => readItems fuel depth [] rest
    | '\x7b' :: rest =>
      match depth with
      | 0 => offending rest
      | depth + 1 => readFields fuel depth [] rest
    | '-' :: rest => (readNumber true rest).map (fun (n, r) => (.number n, r))
    | c :: rest =>
      if c.isDigit then (readNumber false (c :: rest)).map (fun (n, r) => (.number n, r))
      else offending rest

/-- Reads the items of an array after those in `seen`, the last one first. -/
def readItems : (fuel depth : Nat) → (seen : List Value) → List Char → Reading Value
  | 0, _, _, _ => endFault
  | fuel + 1, depth, seen, text =>
    match skipSpace text with
    | [] => endFault
    | ']' :: rest => .ok (.array seen.reverse, rest)
    | c :: rest =>
      let item : Except Fault (List Char) :=
        if seen.isEmpty then .ok (c :: rest)
        else if c = ',' then
          match skipSpace rest with
          | [] => endFault
          | ']' :: after => offending after
          | after => .ok after
        else offending rest
      match item with
      | .error e => .error e
      | .ok text =>
        match readValue fuel depth text with
        | .error e => .error e
        | .ok (v, after) => readItems fuel depth (v :: seen) after

/-- Reads the fields of an object after those in `seen`, the last one first. -/
def readFields : (fuel depth : Nat) → (seen : Fields) → List Char → Reading Value
  | 0, _, _, _ => endFault
  | fuel + 1, depth, seen, text =>
    match skipSpace text with
    | [] => endFault
    | '\x7d' :: rest => .ok (Value.ofFields seen.reverse, rest)
    | c :: rest =>
      let key : Except Fault (List Char) :=
        if seen.isEmpty then .ok (c :: rest)
        else if c = ',' then
          match skipSpace rest with
          | [] => endFault
          | after => .ok after
        else offending rest
      match key with
      | .error e => .error e
      | .ok ('"' :: text) =>
        match readString fuel [] text with
        | .error e => .error e
        | .ok (name, after) =>
          match skipSpace after with
          | ':' :: text =>
            match readValue fuel depth text with
            | .error e => .error e
            | .ok (v, after) => readFields fuel depth ((name, v) :: seen) after
          | other => faultAt other
      | .ok other => faultAt other

end

/-- The number of arrays and objects that may stand inside each other. -/
def deepest : Nat := 127

/-- Reads a whole text. -/
def readText (text : List Char) : Except Fault Value :=
  match readValue (2 * text.length + 2) deepest text with
  | .error e => .error e
  | .ok (v, rest) =>
    match skipSpace rest with
    | [] => .ok v
    | _ :: after => offending after

/-- The number of line feeds in a text. -/
def lineFeeds (text : List Char) : Nat := text.count '\n'

/-- The value that a JSON text denotes. -/
def parse (text : String) : Except SyntaxError Value :=
  match readText text.toList with
  | .ok v => .ok v
  | .error fault => .error ⟨fault.kind, 1 + lineFeeds text.toList - lineFeeds fault.rest⟩

end InfraAudit.Json
