/-!
The tokens of a YAML stream. Where indentation opens and closes collections,
tokens of their own say so; the end of the list of tokens is the end of the
stream.
-/
namespace InfraAudit.Yaml

/-- A tag's text. It is a list of bytes, since escapes can write any byte. -/
abbrev TagText := List UInt8

/-- A token of a stream. -/
inductive Token where
  /-- A directive that gives the version of the language. -/
  | version (major minor : Nat)
  /-- A directive that lets a handle stand for the start of tags. -/
  | handleDirective (handle : String) (lead : TagText)
  | documentStart
  | documentEnd
  | blockSequenceStart
  | blockMappingStart
  /-- The end of a collection that indentation has opened. -/
  | blockEnd
  | flowSequenceStart
  | flowSequenceEnd
  | flowMappingStart
  | flowMappingEnd
  /-- The hyphen before an item. -/
  | blockEntry
  /-- The comma after an item. -/
  | flowEntry
  | key
  | value
  | alias (name : String)
  | anchor (name : String)
  | tag (handle : String) (suffix : TagText)
  /-- A scalar's text, and whether it is written without any quotes or header. -/
  | scalar (text : String) (plain : Bool)
  deriving DecidableEq, Repr

/-- The bytes of a text in ASCII. -/
def asciiBytes (text : List Char) : TagText := text.map (fun c => UInt8.ofNat c.toNat)

end InfraAudit.Yaml
