import InfraAudit.Yaml.Token
import InfraAudit.Yaml.Token.Scalar
import InfraAudit.Yaml.Token.Tag

/-!
The tokens of a YAML text.

Whether a scalar is a key is known only when a colon follows it. The lexer
therefore remembers, for each open flow collection and for the block around them,
where a key may have started; when the colon comes, the key token is put at that
place, together with the start of a mapping if the key's column opens one.
-/
namespace InfraAudit.Yaml

/-- A place at which a key may have started. -/
structure KeyCandidate where
  /-- Whether only a key may stand there. -/
  required : Bool
  /-- The number of tokens before the key. -/
  position : Nat
  index : Nat
  line : Nat
  column : Nat

/-- The state of the lexer. -/
structure Lexer where
  cursor : Cursor
  /-- The column of the innermost open block collection; -1 when none is open. -/
  indent : Int
  /-- The columns of the block collections around it. -/
  outerIndents : List Int
  /-- Whether a key may start at the next token. -/
  keyAllowed : Bool
  /-- The candidate of the innermost flow collection, or of the block. -/
  candidate : Option KeyCandidate
  /-- The candidates around it, one for each open flow collection. -/
  outerCandidates : List (Option KeyCandidate)
  tokens : Array Token

namespace Lexer

/-- The state at the start of a text. -/
def start (text : List Char) : Lexer :=
  { cursor := .start text, indent := -1, outerIndents := [], keyAllowed := true
    candidate := none, outerCandidates := [], tokens := #[] }

/-- Whether a flow collection is open. -/
def inFlow (l : Lexer) : Bool := !l.outerCandidates.isEmpty

/-- Adds a token at the end. -/
def emit (t : Token) (l : Lexer) : Lexer := { l with tokens := l.tokens.push t }

/-- Passes over some characters. -/
def skip (count : Nat) (l : Lexer) : Lexer := { l with cursor := l.cursor.skip count }

/-- Says whether a key may start at the next token. -/
def allowKey (allowed : Bool) (l : Lexer) : Lexer := { l with keyAllowed := allowed }

/-! ### Indentation -/

/-- Closes the block collections that are indented by more than a column. -/
def closeTo (column : Int) : (fuel : Nat) → Lexer → Lexer
  | 0, l => l
  | fuel + 1, l =>
    if l.indent ≤ column then l
    else
      let l := l.emit .blockEnd
      closeTo column fuel
        { l with indent := l.outerIndents.head?.getD (-1), outerIndents := l.outerIndents.drop 1 }

/-- Closes the block collections that a token in a column ends. Within flow
    collections the column does not count. -/
def closeBlocks (column : Int) (l : Lexer) : Lexer :=
  if l.inFlow then l else l.closeTo column (l.outerIndents.length + 1)

/-- Opens a block collection in a column that is indented by more than the
    innermost one; its token is put at a position. -/
def openBlock (column : Nat) (position : Nat) (opening : Token) (l : Lexer) : Lexer :=
  if l.inFlow || decide ((column : Int) ≤ l.indent) then l
  else
    { l with
      indent := column
      outerIndents := l.indent :: l.outerIndents
      tokens := l.tokens.insertIdxIfInBounds position opening }

/-! ### Keys -/

/-- Gives up the innermost candidate; none when it had to be a key. -/
def dropCandidate (l : Lexer) : Option Lexer :=
  if l.candidate.any (·.required) then none else some { l with candidate := none }

/-- Makes the present place the innermost candidate, if a key may start here. -/
def saveCandidate (l : Lexer) : Option Lexer :=
  if l.keyAllowed then do
    let l ← l.dropCandidate
    let c := l.cursor
    let required := !l.inFlow && l.indent == c.column
    return { l with candidate := some ⟨required, l.tokens.size, c.index, c.line, c.column⟩ }
  else some l

/-- The greatest number of characters from the start of a key to its colon. -/
def maxKeyLength : Nat := 1024

/-- Whether a key that started at a candidate would be too long, or not on one
    line. -/
def isStale (cursor : Cursor) (k : KeyCandidate) : Bool :=
  decide (k.line < cursor.line ∨ k.index + maxKeyLength < cursor.index)

/-- Gives up the candidates that are stale; none when one had to be a key. -/
def dropStale (l : Lexer) : Option Lexer :=
  let isLost (k : KeyCandidate) := isStale l.cursor k && k.required
  if l.candidate.any isLost || l.outerCandidates.any (fun k => k.any isLost) then none
  else
    let keep (k : Option KeyCandidate) := k.filter (fun k => !isStale l.cursor k)
    some { l with candidate := keep l.candidate, outerCandidates := l.outerCandidates.map keep }

/-! ### Space between tokens -/

/-- Whether a blank may be passed over: a tab only where no key may start. -/
def isPassable (l : Lexer) (c : Char) : Bool :=
  c == ' ' || ((l.inFlow || !l.keyAllowed) && c == '\t')

/-- Passes over blanks, comments and line breaks. After a line break a key may
    start, outside flow collections. -/
def skipSpace : (fuel : Nat) → Lexer → Lexer
  | 0, l => l
  | fuel + 1, l =>
    let cursor := l.cursor.skipWhile l.isPassable
    let cursor :=
      if cursor.rest.head? = some '#' then cursor.skipWhile (fun x => !isBreak x) else cursor
    match cursor.rest with
    | [] => { l with cursor := cursor }
    | c :: _ =>
      if isBreak c then
        skipSpace fuel { l with cursor := cursor.next, keyAllowed := l.keyAllowed || !l.inFlow }
      else { l with cursor := cursor }

/-- Passes over a byte order mark at the start of the text. -/
def skipByteOrderMark (l : Lexer) : Lexer :=
  if l.cursor.index = 0 ∧ l.cursor.rest.head? = some '\uFEFF' then l.skip 1 else l

/-! ### Tokens of structure -/

/-- A token that stands outside all block collections. -/
def leaveBlocks (l : Lexer) : Option Lexer :=
  (l.closeBlocks (-1)).dropCandidate.map (allowKey false)

/-- A marker of the start or the end of a document. -/
def readDocumentMark (t : Token) (l : Lexer) : Option Lexer :=
  l.leaveBlocks.map fun l => (l.skip 3).emit t

/-- The opening of a flow collection. -/
def openFlow (t : Token) (l : Lexer) : Option Lexer := do
  let l ← l.saveCandidate
  let l := { l with outerCandidates := l.candidate :: l.outerCandidates, candidate := none }
  return ((l.allowKey true).skip 1).emit t

/-- The closing of a flow collection. -/
def closeFlow (t : Token) (l : Lexer) : Option Lexer := do
  let l ← l.dropCandidate
  let l :=
    match l.outerCandidates with
    | [] => l
    | k :: outer => { l with candidate := k, outerCandidates := outer }
  return ((l.allowKey false).skip 1).emit t

/-- A comma. -/
def readFlowEntry (l : Lexer) : Option Lexer := do
  let l ← l.dropCandidate
  return ((l.allowKey true).skip 1).emit .flowEntry

/-- Outside flow collections, opens a block collection in the present column,
    where one may start. -/
def openBlockHere (opening : Token) (l : Lexer) : Option Lexer :=
  if l.inFlow then some l
  else if l.keyAllowed then some (l.openBlock l.cursor.column l.tokens.size opening)
  else none

/-- The hyphen of an item. -/
def readBlockEntry (l : Lexer) : Option Lexer := do
  let l ← l.openBlockHere .blockSequenceStart
  let l ← l.dropCandidate
  return ((l.allowKey true).skip 1).emit .blockEntry

/-- The question mark of a key. -/
def readKey (l : Lexer) : Option Lexer := do
  let l ← l.openBlockHere .blockMappingStart
  let l ← l.dropCandidate
  return ((l.allowKey !l.inFlow).skip 1).emit .key

/-- The colon before a value. -/
def readValue (l : Lexer) : Option Lexer := do
  let l ←
    match l.candidate with
    | some k =>
      let l := { l with tokens := l.tokens.insertIdxIfInBounds k.position .key }
      let l := l.openBlock k.column k.position .blockMappingStart
      some { l with candidate := none, keyAllowed := false }
    | none => (l.openBlockHere .blockMappingStart).map fun l => l.allowKey !l.inFlow
  return (l.skip 1).emit .value

/-! ### Tokens of nodes -/

/-- A directive. -/
def readDirectiveToken (l : Lexer) : Option Lexer := do
  let l ← l.leaveBlocks
  let (t, cursor) ← readDirective l.cursor
  return ({ l with cursor := cursor }).emit t

/-- An anchor or an alias. -/
def readName (token : String → Token) (l : Lexer) : Option Lexer := do
  let l := (← l.saveCandidate).allowKey false
  let (name, cursor) ← readAnchorName l.cursor.next
  return ({ l with cursor := cursor }).emit (token name)

/-- A tag. -/
def readTagToken (l : Lexer) : Option Lexer := do
  let l := (← l.saveCandidate).allowKey false
  let (t, cursor) ← readTag l.inFlow l.cursor
  return ({ l with cursor := cursor }).emit t

/-- A block scalar. -/
def readBlockToken (literal : Bool) (l : Lexer) : Option Lexer := do
  let l := (← l.dropCandidate).allowKey true
  let s ← readBlock literal l.indent l.cursor
  return ({ l with cursor := s.after }).emit (.scalar (String.ofList s.text) false)

/-- A quoted scalar. -/
def readQuotedToken (quote : Char) (l : Lexer) : Option Lexer := do
  let l := (← l.saveCandidate).allowKey false
  let s ← readQuoted quote l.cursor
  return ({ l with cursor := s.after }).emit (.scalar (String.ofList s.text) false)

/-- A plain scalar. -/
def readPlainToken (l : Lexer) : Option Lexer := do
  let l := (← l.saveCandidate).allowKey false
  let s ← readPlain l.inFlow (l.indent + 1).toNat l.cursor
  return ({ l with cursor := s.after, keyAllowed := s.broken }).emit
    (.scalar (String.ofList s.text) true)

/-! ### The next token -/

/-- The characters that start no plain scalar by themselves. -/
def indicators : List Char :=
  ['-', '?', ':', ',', '[', ']', '\x7b', '\x7d', '#', '&', '*', '!', '|', '>', '\'', '"', '%', '@', '`']

/-- Whether a plain scalar starts with a character before a text. -/
def startsPlain (flow : Bool) (c : Char) (rest : List Char) : Bool :=
  (!isGap c && !indicators.contains c) ||
    (c == '-' && !rest.head?.any isBlank) ||
    (!flow && (c == '?' || c == ':') && !startsGap rest)

/-- Reads the token that starts with a character. -/
def readToken (c : Char) (rest : List Char) (l : Lexer) : Option Lexer :=
  if l.cursor.column = 0 ∧ c = '%' then l.readDirectiveToken
  else if l.cursor.atMark '-' then l.readDocumentMark .documentStart
  else if l.cursor.atMark '.' then l.readDocumentMark .documentEnd
  else if c = '[' then l.openFlow .flowSequenceStart
  else if c = '\x7b' then l.openFlow .flowMappingStart
  else if c = ']' then l.closeFlow .flowSequenceEnd
  else if c = '\x7d' then l.closeFlow .flowMappingEnd
  else if c = ',' then l.readFlowEntry
  else if c = '-' ∧ startsGap rest then l.readBlockEntry
  else if c = '?' ∧ (l.inFlow || startsGap rest) then l.readKey
  else if c = ':' ∧ (l.inFlow || startsGap rest) then l.readValue
  else if c = '*' then l.readName .alias
  else if c = '&' then l.readName .anchor
  else if c = '!' then l.readTagToken
  else if c = '|' ∧ !l.inFlow then l.readBlockToken true
  else if c = '>' ∧ !l.inFlow then l.readBlockToken false
  else if c = '\'' ∨ c = '"' then l.readQuotedToken c
  else if startsPlain l.inFlow c rest then l.readPlainToken
  else none

/-- Reads all tokens of the text. -/
def readAll : (fuel : Nat) → Lexer → Option (Array Token)
  | 0, _ => none
  | fuel + 1, l => do
    let l := l.skipByteOrderMark.skipSpace (fuel + 1)
    let l ← l.dropStale
    let l := l.closeBlocks l.cursor.column
    match l.cursor.rest with
    | [] => return (← l.leaveBlocks).tokens
    | c :: rest => readAll fuel (← l.readToken c rest)

end Lexer

/-- The tokens of a text; none when it has no tokens of the language. -/
def tokens? (text : String) : Option (List Token) := do
  let chars ← prepare? text.toList
  return (← (Lexer.start chars).readAll (chars.length + 1)).toList

end InfraAudit.Yaml
