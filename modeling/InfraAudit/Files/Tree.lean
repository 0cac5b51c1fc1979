import InfraAudit.Files.System

/-!
A tree of files as a file system. Paths are relative to its root, and nothing is
found outside of it.
-/
namespace InfraAudit.FileTree

/-- Puts an entry at the place of its name among ordered ones, where it replaces an
    entry of the same name. -/
def insertEntry (name : String) (e : FileEntry) : List (String × FileEntry) → List (String × FileEntry)
  | [] => [(name, e)]
  | (n, x) :: rest =>
    if name < n then (name, e) :: (n, x) :: rest
    else if name = n then (name, e) :: rest
    else (n, x) :: insertEntry name e rest

/-- Adds an entry at a path to those of a directory, with the directories above it. -/
def add (e : FileEntry) : (path : List String) → List (String × FileEntry) → List (String × FileEntry)
  | [], entries => entries
  | [name], entries =>
    match e, entries.lookup name with
    | .directory [], some (.directory inner) => insertEntry name (.directory inner) entries
    | _, _ => insertEntry name e entries
  | name :: path, entries =>
    let inner :=
      match entries.lookup name with
      | some (.directory inner) => inner
      | _ => []
    insertEntry name (.directory (add e path inner)) entries

/-- The tree of some entries by their paths. -/
def ofEntries (entries : List (String × FileEntry)) : FileEntry :=
  .directory (entries.foldl
    (fun tree (path, e) => add e ((Path.parts path).filter (fun p => !p.isEmpty && p != ".")) tree) [])

/-- Follows the parts of a path from an entry, which stands in the directories
    `above`, the nearest first. -/
def follow (above : List FileEntry) (e : FileEntry) : List String → Except FileError FileEntry
  | [] => .ok e
  | part :: rest =>
    match e with
    | .file _ => .error .notDirectory
    | .directory entries =>
      if part.isEmpty || part == "." then follow above e rest
      else if part == ".." then
        match above with
        | [] => .error .notFound
        | parent :: above => follow above parent rest
      else
        match entries.lookup part with
        | none => .error .notFound
        | some inner => follow (e :: above) inner rest

/-- What is found at a path of a tree. -/
def lookup (tree : FileEntry) (path : String) : Except FileError FileEntry :=
  if path.isEmpty || path.toList.head? == some '/' then .error .notFound
  else if path.toList.contains '\x00' then .error .invalidName
  else follow [] tree (Path.parts path)

/-- The file system of a tree. -/
def toFileSystem (tree : FileEntry) (home : Option String) : FileSystem := ⟨lookup tree, home⟩

end InfraAudit.FileTree
