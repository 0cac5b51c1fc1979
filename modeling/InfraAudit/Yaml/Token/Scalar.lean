import InfraAudit.Yaml.Cursor

/-!
Reading scalars: plain ones, quoted ones and blocks.

Within plain and quoted scalars a run of blanks and line breaks is folded: blanks
alone are kept, a single line break becomes a space, and of several line breaks
the first is dropped.
-/
namespace InfraAudit.Yaml

/-! ### Gaps -/

/-- The line breaks of a run of blanks and breaks. -/
def breaksOf (run : List Char) : List Char := run.filter isBreak

/-- What line breaks become when they are folded. Only a line feed is folded. -/
def foldBreaks : List Char → List Char
  | [] => []
  | c :: more => if c = '\n' then (if more.isEmpty then [' '] else more) else c :: more

/-- What a run of blanks and breaks becomes within a scalar. -/
def foldGap (run : List Char) : List Char :=
  if (breaksOf run).isEmpty then run else foldBreaks (breaksOf run)

/-- Whether a run of blanks and breaks that starts within a line has a tab in the
    indentation of a later line. -/
def tabIndented (indent : Nat) : (fresh : Bool) → (column : Nat) → List Char → Bool
  | _, _, [] => false
  | fresh, column, c :: rest =>
    if isBreak c then tabIndented indent true 0 rest
    else (fresh && c == '\t' && decide (column < indent)) || tabIndented indent fresh (column + 1) rest

/-! ### Plain scalars -/

/-- Whether a character is special in flow collections. -/
def isFlowMark (c : Char) : Bool := [',', '[', ']', '\x7b', '\x7d'].contains c

/-- Whether a text starts with a character that may not follow a colon within a
    plain scalar of a flow collection. -/
def startsAfterColon : List Char → Bool
  | [] => false
  | c :: _ => isFlowMark c || c == '?'

/-- The characters of a plain scalar up to a gap or a mark that ends the scalar;
    none when a colon is followed by a mark. -/
def plainWord? (flow : Bool) : List Char → Option (List Char)
  | [] => some []
  | c :: rest =>
    if isGap c then some []
    else if flow && c == ':' && startsAfterColon rest then none
    else if (c == ':' && startsGap rest) || (flow && isFlowMark c) then some []
    else (plainWord? flow rest).map (c :: ·)

/-- A scalar that has been read, with the cursor after it. -/
structure ScalarRead where
  text : List Char
  after : Cursor
  /-- Whether line breaks were passed since the last character of the text. -/
  broken : Bool

/-- Reads on in a plain scalar; `seen` holds the characters read so far, the last
    one first, `gap` is what separates them from the next word, and `broken` tells
    whether that gap has line breaks. -/
def readPlainFrom (flow : Bool) (indent : Nat) : (fuel : Nat) → (seen gap : List Char) →
    (broken : Bool) → Cursor → Option ScalarRead
  | 0, _, _, _, _ => none
  | fuel + 1, seen, gap, broken, cursor => do
    if cursor.atDocumentMark || cursor.rest.head? == some '#' then
      return ⟨seen.reverse, cursor, broken⟩
    let word ← plainWord? flow cursor.rest
    let seen := if word.isEmpty then seen else (gap ++ word).reverse ++ seen
    let broken := broken && word.isEmpty
    let cursor := cursor.skip word.length
    let run := cursor.run isGap
    if run.isEmpty then return ⟨seen.reverse, cursor, broken⟩
    if tabIndented indent false cursor.column run then none
    let cursor := cursor.skip run.length
    let broken := !(breaksOf run).isEmpty
    if !flow && decide (cursor.column < indent) then return ⟨seen.reverse, cursor, broken⟩
    readPlainFrom flow indent fuel seen (foldGap run) broken cursor

/-- Reads a plain scalar; outside flow collections it ends before a line that is
    indented by less than `indent`. -/
def readPlain (flow : Bool) (indent : Nat) (cursor : Cursor) : Option ScalarRead :=
  readPlainFrom flow indent (cursor.rest.length + 1) [] [] false cursor

/-! ### Quoted scalars -/

/-- The character that a backslash and a letter denote. -/
def namedEscape? : Char → Option Char
  | '0' => some '\x00'
  | 'a' => some '\x07'
  | 'b' => some '\x08'
  | 't' | '\t' => some '\t'
  | 'n' => some '\n'
  | 'v' => some '\x0b'
  | 'f' => some '\x0c'
  | 'r' => some '\r'
  | 'e' => some '\x1b'
  | ' ' => some ' '
  | '"' => some '"'
  | '/' => some '/'
  | '\\' => some '\\'
  | 'N' => some '\u0085'
  | '_' => some '\u00a0'
  | 'L' => some '\u2028'
  | 'P' => some '\u2029'
  | _ => none

/-- The number of digits after the letter of a numeric escape. -/
def escapeWidth? : Char → Option Nat
  | 'x' => some 2
  | 'u' => some 4
  | 'U' => some 8
  | _ => none

/-- The character of a code point, unless it is none. -/
def charOfCode? (n : Nat) : Option Char :=
  if (0xD800 ≤ n ∧ n ≤ 0xDFFF) ∨ 0x10FFFF < n then none else some (Char.ofNat n)

/-- What stands next within quotes. -/
inductive QuotedPart where
  /-- A character of the scalar, and how many characters it is written with. -/
  | char (c : Char) (width : Nat)
  /-- An escaped line break. -/
  | escapedBreak
  /-- The closing quote, a gap or the end of the text. -/
  | stop

/-- The next part of a scalar within the given quotes; none for a bad escape. -/
def quotedPart? (quote : Char) : List Char → Option QuotedPart
  | [] => some .stop
  | c :: rest =>
    if isGap c then some .stop
    else if c = quote then
      if quote = '\'' ∧ rest.head? = some '\'' then some (.char '\'' 2) else some .stop
    else if c = '\\' ∧ quote = '"' then
      match rest with
      | [] => none
      | e :: digits =>
        if isBreak e then some .escapedBreak
        else
          match namedEscape? e with
          | some x => some (.char x 2)
          | none => do
            let width ← escapeWidth? e
            let x ← charOfCode? (← hexNumber? width digits)
            return .char x (width + 2)
    else some (.char c 1)

/-- Reads on within quotes up to the closing one; `seen` holds the characters read
    so far, the last one first. -/
def readQuotedFrom (quote : Char) : (fuel : Nat) → (seen : List Char) → Cursor → Option ScalarRead
  | 0, _, _ => none
  | fuel + 1, seen, cursor => do
    if cursor.atDocumentMark || cursor.rest.isEmpty then none
    match ← quotedPart? quote cursor.rest with
    | .char c width => readQuotedFrom quote fuel (c :: seen) (cursor.skip width)
    | .escapedBreak =>
      let cursor := cursor.skip 2
      let run := cursor.run isGap
      readQuotedFrom quote fuel ((breaksOf run).reverse ++ seen) (cursor.skip run.length)
    | .stop =>
      if cursor.rest.head? = some quote then return ⟨seen.reverse, cursor.next, false⟩
      let run := cursor.run isGap
      readQuotedFrom quote fuel ((foldGap run).reverse ++ seen) (cursor.skip run.length)

/-- Reads a quoted scalar, from its opening quote on. -/
def readQuoted (quote : Char) (cursor : Cursor) : Option ScalarRead :=
  readQuotedFrom quote (cursor.rest.length + 1) [] cursor.next

/-! ### Blocks -/

/-- What becomes of the line breaks at the end of a block. -/
inductive Chomping where
  /-- None is kept. -/
  | strip
  /-- The first is kept. -/
  | clip
  /-- All are kept. -/
  | keep
  deriving DecidableEq

/-- The chomping that a header asks for by a sign. -/
def chomping? : Char → Option Chomping
  | '+' => some .keep
  | '-' => some .strip
  | _ => none

/-- The indentation that a header asks for by a digit, which is not zero. -/
def increment? (c : Char) : Option Nat :=
  if c.isDigit && c != '0' then some (c.toNat - '0'.toNat) else none

/-- The header of a block: its chomping, its indentation and its length. -/
def blockHeader? (text : List Char) : Option (Chomping × Option Nat × Nat) :=
  match text with
  | [] => some (.clip, none, 0)
  | c :: rest =>
    match chomping? c with
    | some chomping =>
      match rest with
      | d :: _ => if d.isDigit then (increment? d).map (chomping, some ·, 2) else some (chomping, none, 1)
      | [] => some (chomping, none, 1)
    | none =>
      if c.isDigit then do
        let increment ← increment? c
        match rest.head?.bind chomping? with
        | some chomping => return (chomping, some increment, 2)
        | none => return (.clip, some increment, 1)
      else some (.clip, none, 0)

/-- The blank lines before a line of a block. -/
structure BlankLines where
  breaks : List Char
  after : Cursor
  /-- The greatest column that was reached. -/
  widest : Nat

/-- Reads blank lines and the indentation after them: up to `indent` spaces, or
    any number while the indentation is not known. None when a tab stands in the
    indentation. -/
def readBlankLines (indent : Option Nat) : (fuel : Nat) → (breaks : List Char) → (widest : Nat) →
    Cursor → Option BlankLines
  | 0, _, _, _ => none
  | fuel + 1, breaks, widest, cursor =>
    let spaces := (cursor.run (· == ' ')).length
    let wanted := match indent with
      | some n => min spaces (n - cursor.column)
      | none => spaces
    let cursor := cursor.skip wanted
    let widest := max widest cursor.column
    let inside := match indent with
      | some n => decide (cursor.column < n)
      | none => true
    match cursor.rest with
    | [] => some ⟨breaks, cursor, widest⟩
    | c :: _ =>
      if inside && c == '\t' then none
      else if isBreak c then readBlankLines indent fuel (breaks ++ [c]) widest cursor.next
      else some ⟨breaks, cursor, widest⟩

/-- Reads the lines of a block; `seen` holds the characters read so far, the last one
    first. `ending` is the break that ends the line before, `breaks` are the blank
    lines after it, and `wasBlank` tells whether that line started with a blank. Of a
    folded block, the break between two lines that do not start with blanks is
    folded. -/
def readBlockLines (literal : Bool) (indent : Nat) : (fuel : Nat) → (seen ending breaks : List Char) →
    (wasBlank : Bool) → Cursor → Option (List Char × List Char × List Char × Cursor)
  | 0, _, _, _, _, _ => none
  | fuel + 1, seen, ending, breaks, wasBlank, cursor =>
    if cursor.column = indent ∧ !cursor.rest.isEmpty then do
      let isBlankLine := cursor.rest.head?.any isBlank
      let joint :=
        if !literal && ending == ['\n'] && !wasBlank && !isBlankLine then
          (if breaks.isEmpty then [' '] else breaks)
        else ending ++ breaks
      let line := cursor.run (fun c => !isBreak c)
      let cursor := cursor.skip line.length
      let ending := cursor.rest.take 1
      let cursor := cursor.next
      let blank ← readBlankLines (some indent) (cursor.rest.length + 1) [] 0 cursor
      readBlockLines literal indent fuel ((joint ++ line).reverse ++ seen) ending blank.breaks
        isBlankLine blank.after
    else some (seen.reverse, ending, breaks, cursor)

/-- Reads a block from its indicator on, inside a collection of the indentation
    `outer` (-1 at the top). -/
def readBlock (literal : Bool) (outer : Int) (cursor : Cursor) : Option ScalarRead := do
  let cursor := cursor.next
  let (chomping, increment, width) ← blockHeader? cursor.rest
  let cursor := (cursor.skip width).skipRemark
  if !startsBreak cursor.rest then none
  let cursor := cursor.next
  let fuel := cursor.rest.length + 1
  let asked := increment.map (fun n => outer.toNat + n)
  let blank ← readBlankLines asked fuel [] 0 cursor
  let indent := asked.getD (max (max blank.widest (outer + 1).toNat) 1)
  let (text, ending, breaks, after) ←
    readBlockLines literal indent fuel [] [] blank.breaks false blank.after
  let tail := match chomping with
    | .strip => []
    | .clip => ending
    | .keep => ending ++ breaks
  return ⟨text ++ tail, after, false⟩

end InfraAudit.Yaml
