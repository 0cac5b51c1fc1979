import InfraAudit.Text.Blank
import InfraAudit.Text.Lines

/-!
The documents of a manifest stream.

Separator lines divide a stream into runs of lines; the runs that hold more than
blank lines and comments are its documents.
-/
namespace InfraAudit.Manifest

/-- Whether a line separates documents: three hyphens, alone or followed by a space
    and more. Blanks at the end of the line do not count. -/
def isSeparator (line : List Char) : Bool :=
  let line := Text.trimEnd line
  line == ['-', '-', '-'] || ['-', '-', '-', ' '].isPrefixOf line

/-- Whether a line holds at most blanks and a comment. -/
def isBlankLine (line : List Char) : Bool :=
  let line := Text.trim line
  line.isEmpty || line.head? == some '#'

/-- Lines that follow each other, with the number of the first one, counted from one. -/
structure Run where
  start : Nat
  lines : List (List Char)
  deriving DecidableEq, Repr

/-- The runs of lines between separators. `pending` holds the lines of the first
    run that are known already, and `line` is the number of the next line. -/
def runsFrom (start : Nat) (pending : List (List Char)) (line : Nat) : List (List Char) → List Run
  | [] => [⟨start, pending⟩]
  | l :: rest =>
    if isSeparator l then ⟨start, pending⟩ :: runsFrom (line + 1) [] (line + 1) rest
    else runsFrom start (pending ++ [l]) (line + 1) rest

/-- The runs of lines of a text, also the empty ones. -/
def runs (text : List Char) : List Run := runsFrom 1 [] 1 (Text.lines text)

/-- Whether a run holds nothing but blank lines and comments. -/
def Run.isBlank (r : Run) : Bool := r.lines.all isBlankLine

/-- The text of a run, each line ended by a line feed. -/
def Run.text (r : Run) : String := String.ofList (r.lines.flatMap Text.closeLine)

/-- The documents of a text. -/
def documents (text : String) : List Run := (runs text.toList).filter (fun r => !r.isBlank)

end InfraAudit.Manifest
