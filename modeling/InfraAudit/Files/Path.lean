/-!
Paths of files.
-/
namespace InfraAudit.Path

/-- The parts of a path between its slashes. -/
def split : List Char → List (List Char)
  | [] => [[]]
  | c :: rest =>
    match split rest with
    | [] => [[c]]
    | part :: parts => if c = '/' then [] :: part :: parts else (c :: part) :: parts

/-- The parts of a path. -/
def parts (path : String) : List String := (split path.toList).map String.ofList

/-- The path of a name within a directory. A slash divides them, unless the
    directory's path ends with one or is empty. -/
def join (directory name : String) : String :=
  if directory.isEmpty || directory.toList.getLast? == some '/' then directory ++ name
  else directory ++ "/" ++ name

/-- The name of the file at a path. Slashes and dots at the end do not count; the
    parent of a directory has no name. -/
def fileName? (path : String) : Option String :=
  ((parts path).filter (fun p => !p.isEmpty && p != ".")).getLast?.filter (· != "..")

/-- The extension of a file's name: what follows its last dot, unless the name starts
    with that dot. -/
def extension? (name : String) : Option String :=
  let chars := name.toList
  let extension := (chars.reverse.takeWhile (· != '.')).reverse
  if chars.length ≤ extension.length + 1 then none else some (String.ofList extension)

end InfraAudit.Path
