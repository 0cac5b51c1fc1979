import InfraAudit.Yaml.Token

/-!
The tree of nodes of a YAML document, and how it is read from tokens.

Every anchor is given a number: the count of the names that are anchors so far.
A name that is used again takes a new number, and an alias stands for the number
its name has where the alias stands.
-/
namespace InfraAudit.Yaml

/-- A node of a document. -/
inductive Node where
  /-- A scalar; `plain` tells whether it is written without quotes or header. -/
  | scalar (anchor : Option Nat) (tag : Option TagText) (text : String) (plain : Bool)
  | sequence (anchor : Option Nat) (tag : Option TagText) (items : List Node)
  | mapping (anchor : Option Nat) (tag : Option TagText) (entries : List (Node × Node))
  /-- The node whose anchor has a number. -/
  | alias (number : Nat)
  deriving Inhabited

namespace Node

/-- The node of a place where nothing is written. -/
def empty : Node := .scalar none none "" true

mutual

/-- The number of marks that a serial form of a node has: one for a scalar or an
    alias, two around a collection. -/
def size : Node → Nat
  | .scalar .. => 1
  | .alias _ => 1
  | .sequence _ _ items => 2 + sizeItems items
  | .mapping _ _ entries => 2 + sizeEntries entries

/-- The sum of the sizes of some nodes. -/
def sizeItems : List Node → Nat
  | [] => 0
  | n :: rest => size n + sizeItems rest

/-- The sum of the sizes of some keys and values. -/
def sizeEntries : List (Node × Node) → Nat
  | [] => 0
  | (k, v) :: rest => size k + size v + sizeEntries rest

end

/-- A node with its number, if it has one. -/
def numbered (number : Option Nat) (n : Node) : List (Nat × Node) :=
  match number with
  | some i => [(i, n)]
  | none => []

mutual

/-- The nodes with anchors, by number, in the order in which they start. -/
def anchored : Node → List (Nat × Node)
  | .scalar a t s p => numbered a (.scalar a t s p)
  | .alias _ => []
  | .sequence a t items => numbered a (.sequence a t items) ++ anchoredItems items
  | .mapping a t entries => numbered a (.mapping a t entries) ++ anchoredEntries entries

/-- The nodes with anchors among some nodes. -/
def anchoredItems : List Node → List (Nat × Node)
  | [] => []
  | n :: rest => anchored n ++ anchoredItems rest

/-- The nodes with anchors among some keys and values. -/
def anchoredEntries : List (Node × Node) → List (Nat × Node)
  | [] => []
  | (k, v) :: rest => anchored k ++ anchored v ++ anchoredEntries rest

end

end Node

/-! ### Reading nodes -/

/-- What reading nodes depends on and changes. -/
structure NodeReader where
  tokens : List Token
  /-- The names of anchors with their numbers. -/
  names : List (String × Nat)
  /-- What the handles of tags stand for. -/
  handles : List (String × TagText)

namespace NodeReader

/-- The next token; none at the end of the stream. -/
def peek (r : NodeReader) : Option Token := r.tokens.head?

/-- The reader after one token. -/
def next (r : NodeReader) : NodeReader := { r with tokens := r.tokens.drop 1 }

/-- Whether the next token is one of some tokens. -/
def isAt (tokens : List Token) (r : NodeReader) : Bool := r.peek.any tokens.contains

/-- Gives a name a new number. -/
def declare (name : String) (r : NodeReader) : Nat × NodeReader :=
  let number := r.names.length
  let others := r.names.filter (fun (n, _) => n != name)
  (number, { r with names := (name, number) :: others })

/-- The text of a tag given by a handle and a suffix. -/
def tagText? (r : NodeReader) (handle : String) (suffix : TagText) : Option TagText :=
  if handle.isEmpty then some suffix else (r.handles.lookup handle).map (· ++ suffix)

/-- What stands before a node: its anchor and its tag. -/
structure Properties where
  anchor : Option String
  tag : Option (String × TagText)

/-- Reads an anchor and a tag, in either order. -/
def properties (r : NodeReader) : Properties × NodeReader :=
  match r.peek with
  | some (.anchor name) =>
    match r.next.peek with
    | some (.tag handle suffix) => (⟨some name, some (handle, suffix)⟩, r.next.next)
    | _ => (⟨some name, none⟩, r.next)
  | some (.tag handle suffix) =>
    match r.next.peek with
    | some (.anchor name) => (⟨some name, some (handle, suffix)⟩, r.next.next)
    | _ => (⟨none, some (handle, suffix)⟩, r.next)
  | _ => (⟨none, none⟩, r)

/-- Numbers an anchor, if there is one. -/
def declare? (name : Option String) (r : NodeReader) : Option Nat × NodeReader :=
  match name with
  | some name => let (number, r) := r.declare name; (some number, r)
  | none => (none, r)

/-- The tag that only says that a node has no tag. -/
def nonSpecific : TagText := asciiBytes ['!']

mutual

/-- Reads a node. Only a `block` node may be a block collection, and only where
    `indentless` holds may its items stand in the column of the key. -/
def readNode : (fuel : Nat) → (block indentless : Bool) → NodeReader → Option (Node × NodeReader)
  | 0, _, _, _ => none
  | fuel + 1, block, indentless, r =>
    match r.peek with
    | some (.alias name) => (r.names.lookup name).map fun number => (.alias number, r.next)
    | _ => do
      let (props, r) := r.properties
      let tag ← match props.tag with
        | none => some none
        | some (handle, suffix) => (r.tagText? handle suffix).map some
      let (anchor, r) := r.declare? props.anchor
      match r.peek with
      | some .blockEntry =>
        if indentless then
          let (items, r) ← readIndentless fuel r
          return (.sequence anchor tag items, r)
        else readEmpty anchor tag r
      | some (.scalar text plain) =>
        return (.scalar anchor (tag.filter (· != nonSpecific)) text plain, r.next)
      | some .flowSequenceStart => do
        let (items, r) ← readFlowItems fuel true r.next
        return (.sequence anchor tag items, r)
      | some .flowMappingStart => do
        let (entries, r) ← readFlowEntries fuel true r.next
        return (.mapping anchor tag entries, r)
      | some .blockSequenceStart =>
        if block then
          let (items, r) ← readBlockItems fuel r.next
          return (.sequence anchor tag items, r)
        else readEmpty anchor tag r
      | some .blockMappingStart =>
        if block then
          let (entries, r) ← readBlockEntries fuel r.next
          return (.mapping anchor tag entries, r)
        else readEmpty anchor tag r
      | _ => readEmpty anchor tag r

/-- An empty node, which needs an anchor or a tag. -/
def readEmpty (anchor : Option Nat) (tag : Option TagText) (r : NodeReader) :
    Option (Node × NodeReader) :=
  if anchor.isSome || tag.isSome then some (.scalar anchor tag "" true, r) else none

/-- Reads the items of a block sequence. -/
def readBlockItems : (fuel : Nat) → NodeReader → Option (List Node × NodeReader)
  | 0, _ => none
  | fuel + 1, r =>
    match r.peek with
    | some .blockEntry => do
      let (item, r) ← readUnless fuel [.blockEntry, .blockEnd] true false r.next
      let (items, r) ← readBlockItems fuel r
      return (item :: items, r)
    | some .blockEnd => some ([], r.next)
    | _ => none

/-- Reads the items of a sequence that is indented like the key before it. -/
def readIndentless : (fuel : Nat) → NodeReader → Option (List Node × NodeReader)
  | 0, _ => none
  | fuel + 1, r =>
    match r.peek with
    | some .blockEntry => do
      let (item, r) ← readUnless fuel [.blockEntry, .key, .value, .blockEnd] true false r.next
      let (items, r) ← readIndentless fuel r
      return (item :: items, r)
    | _ => some ([], r)

/-- Reads the entries of a block mapping. -/
def readBlockEntries : (fuel : Nat) → NodeReader → Option (List (Node × Node) × NodeReader)
  | 0, _ => none
  | fuel + 1, r =>
    match r.peek with
    | some .key => do
      let (k, r) ← readUnless fuel [.key, .value, .blockEnd] true true r.next
      let (v, r) ←
        if r.isAt [.value] then readUnless fuel [.key, .value, .blockEnd] true true r.next
        else some (.empty, r)
      let (entries, r) ← readBlockEntries fuel r
      return ((k, v) :: entries, r)
    | some .blockEnd => some ([], r.next)
    | _ => none

/-- Reads the items of a flow sequence. An item may be a mapping of one entry
    without braces. -/
def readFlowItems : (fuel : Nat) → (first : Bool) → NodeReader → Option (List Node × NodeReader)
  | 0, _, _ => none
  | fuel + 1, first, r =>
    if r.isAt [.flowSequenceEnd] then some ([], r.next)
    else if !first && !r.isAt [.flowEntry] then none
    else
      let r := if first then r else r.next
      match r.peek with
      | some .flowSequenceEnd => some ([], r.next)
      | some .key => do
        let r := r.next
        let (k, r) ←
          if r.isAt [.value, .flowEntry, .flowSequenceEnd] then some (.empty, r.next)
          else readNode fuel false false r
        let (v, r) ← readFlowValue fuel .flowSequenceEnd r
        let (items, r) ← readFlowItems fuel false r
        return (.mapping none none [(k, v)] :: items, r)
      | _ => do
        let (item, r) ← readNode fuel false false r
        let (items, r) ← readFlowItems fuel false r
        return (item :: items, r)

/-- Reads the entries of a flow mapping. -/
def readFlowEntries : (fuel : Nat) → (first : Bool) → NodeReader →
    Option (List (Node × Node) × NodeReader)
  | 0, _, _ => none
  | fuel + 1, first, r =>
    if r.isAt [.flowMappingEnd] then some ([], r.next)
    else if !first && !r.isAt [.flowEntry] then none
    else
      let r := if first then r else r.next
      match r.peek with
      | some .flowMappingEnd => some ([], r.next)
      | some .key => do
        let (k, r) ← readUnless fuel [.value, .flowEntry, .flowMappingEnd] false false r.next
        let (v, r) ← readFlowValue fuel .flowMappingEnd r
        let (entries, r) ← readFlowEntries fuel false r
        return ((k, v) :: entries, r)
      | _ => do
        let (k, r) ← readNode fuel false false r
        let (entries, r) ← readFlowEntries fuel false r
        return ((k, .empty) :: entries, r)

/-- Reads the value of a flow entry, if one is written. -/
def readFlowValue : (fuel : Nat) → (closing : Token) → NodeReader → Option (Node × NodeReader)
  | 0, _, _ => none
  | fuel + 1, closing, r =>
    if r.isAt [.value] then readUnless fuel [.flowEntry, closing] false false r.next
    else some (.empty, r)

/-- Reads a node, or an empty one before some tokens. -/
def readUnless : (fuel : Nat) → (stops : List Token) → (block indentless : Bool) → NodeReader →
    Option (Node × NodeReader)
  | 0, _, _, _, _ => none
  | fuel + 1, stops, block, indentless, r =>
    if r.isAt stops then some (.empty, r) else readNode fuel block indentless r

end

end NodeReader

/-! ### Documents -/

/-- The handles that need no directive. -/
def defaultHandles : List (String × TagText) :=
  [("!", asciiBytes ['!']), ("!!", asciiBytes "tag:yaml.org,2002:".toList)]

/-- The directives before a document: the handles they declare, and what follows.
    There may be one version, which has to be 1.1 or 1.2, and one directive for
    each handle. -/
def readDirectives (versioned : Bool) (handles : List (String × TagText)) :
    List Token → Option (List (String × TagText) × List Token)
  | .version major minor :: rest =>
    if versioned ∨ major ≠ 1 ∨ ¬ (minor = 1 ∨ minor = 2) then none
    else readDirectives true handles rest
  | .handleDirective handle lead :: rest =>
    if (handles.lookup handle).isSome then none
    else readDirectives versioned (handles ++ [(handle, lead)]) rest
  | rest => some (handles, rest)

/-- Reads the node of a document that starts with a marker or without one. -/
def readRoot (marked : Bool) (handles : List (String × TagText)) (tokens : List Token) :
    Option (Node × List Token) :=
  let r : NodeReader := ⟨tokens, [], handles ++ defaultHandles⟩
  let isEmpty := marked && (tokens.isEmpty || r.isAt [.documentStart, .documentEnd] ||
    match r.peek with
    | some (.version ..) | some (.handleDirective ..) => true
    | _ => false)
  if isEmpty then some (.empty, tokens)
  else (r.readNode (5 * tokens.length + 5) true false).map fun (n, r) => (n, r.tokens)

/-- The node of the single document that some tokens make up. No token at all
    makes up a document with an empty node. -/
def Node.ofTokens? (tokens : List Token) : Option Node :=
  match tokens with
  | [] => some .empty
  | first :: _ => do
    let (handles, rest) ← readDirectives false [] tokens
    let isBare := first != .documentStart && rest.length == tokens.length
    let (root, rest) ←
      if isBare then readRoot false [] tokens
      else
        match rest with
        | .documentStart :: rest => readRoot true handles rest
        | _ => none
    if rest.all (· == .documentEnd) then return root else none

end InfraAudit.Yaml
