/-!
Styles of text on terminals.
-/
namespace InfraAudit.Report

/-- A way to set off text on a terminal. -/
inductive Style where
  | bold
  | dim
  | red
  | boldRed
  | yellow
  | blue
  deriving DecidableEq, Repr

/-- The sequence that ends a style. -/
def resetSequence : List Char := ['\x1b', '[', '0', 'm']

/-- The sequence that starts a style. -/
def Style.sequence : Style → List Char
  | .bold => ['\x1b', '[', '1', 'm']
  | .dim => ['\x1b', '[', '2', 'm']
  | .red => ['\x1b', '[', '3', '1', 'm']
  | .boldRed => ['\x1b', '[', '1', ';', '3', '1', 'm']
  | .yellow => ['\x1b', '[', '3', '3', 'm']
  | .blue => ['\x1b', '[', '3', '4', 'm']

/-- A text in which a style goes on after each sequence that ends it. -/
def restart (start : List Char) : List Char → List Char
  | '\x1b' :: '[' :: '0' :: 'm' :: rest => resetSequence ++ start ++ restart start rest
  | c :: rest => c :: restart start rest
  | [] => []

/-- A text in a style; without colors it is left as it is. -/
def styled (color : Bool) (s : Style) (text : String) : String :=
  if color then
    String.ofList (s.sequence ++ restart s.sequence text.toList ++ resetSequence)
  else text

end InfraAudit.Report
