/-!
The lines of a text. A line feed ends a line and a carriage return directly
before it belongs to the ending; text after the last line feed is a line of its
own when there is any.
-/
namespace InfraAudit.Text

/-- A line without the carriage return it ends with. -/
def dropReturn (line : List Char) : List Char :=
  if line.getLast? = some '\r' then line.dropLast else line

/-- The lines of a text; `seen` holds the part of the first line that was read
    before, the last character first. -/
def linesFrom (seen : List Char) : List Char → List (List Char)
  | [] => if seen.isEmpty then [] else [seen.reverse]
  | c :: rest =>
    if c = '\n' then dropReturn seen.reverse :: linesFrom [] rest
    else linesFrom (c :: seen) rest

/-- The lines of a text. -/
def lines (text : List Char) : List (List Char) := linesFrom [] text

/-- A line together with the line feed that ends it. -/
def closeLine (line : List Char) : List Char := line ++ ['\n']

end InfraAudit.Text
