import InfraAudit.Files.Path
import InfraAudit.Manifest.Parse

/-!
Files as the program sees them: what is found at a path, and which manifests a
directory holds.
-/
namespace InfraAudit

/-- Why a file cannot be read. -/
inductive FileError where
  | notFound
  | isDirectory
  | notDirectory
  | invalidText
  | invalidName
  /-- Another reason, in the words of the operating system. -/
  | other (reason : String)
  deriving DecidableEq, Repr

/-- An error as text. -/
def FileError.message : FileError → String
  | .notFound => "No such file or directory (os error 2)"
  | .isDirectory => "Is a directory (os error 21)"
  | .notDirectory => "Not a directory (os error 20)"
  | .invalidText => "stream did not contain valid UTF-8"
  | .invalidName => "file name contained an unexpected NUL byte"
  | .other reason => reason

/-- What stands at a path: a file, which may not be readable as text, or a directory
    with the entries of its names, in order. -/
inductive FileEntry where
  | file (content : Except FileError String)
  | directory (entries : List (String × FileEntry))
  deriving Inhabited

namespace FileEntry

mutual

/-- The files below an entry at a path, with their contents: the entries of a
    directory in their order, each with all below it. -/
def filesBelow (path : String) : FileEntry → List (String × Except FileError String)
  | .file content => [(path, content)]
  | .directory entries => filesOf path entries

/-- The files below the entries of a directory. -/
def filesOf (path : String) : List (String × FileEntry) → List (String × Except FileError String)
  | [] => []
  | (name, e) :: rest => filesBelow (Path.join path name) e ++ filesOf path rest

end

/-- Whether an entry is a directory. -/
def isDirectory : FileEntry → Bool
  | .directory _ => true
  | .file _ => false

end FileEntry

/-- The files of a system. -/
structure FileSystem where
  /-- What is found at a path. -/
  lookup : String → Except FileError FileEntry
  /-- The home directory of the user. -/
  home : Option String

namespace FileSystem

/-- The text of the file at a path. -/
def readText (fs : FileSystem) (path : String) : Except FileError String :=
  match fs.lookup path with
  | .error e => .error e
  | .ok (.file content) => content
  | .ok (.directory _) => .error .isDirectory

/-- Whether anything is found at a path. -/
def hasEntry (fs : FileSystem) (path : String) : Bool := (fs.lookup path).toBool

/-- Whether a directory is found at a path. -/
def hasDirectory (fs : FileSystem) (path : String) : Bool :=
  (fs.lookup path).toOption.any FileEntry.isDirectory

/-- The files below the directory at a path. -/
def filesBelow (fs : FileSystem) (path : String) : List (String × Except FileError String) :=
  match fs.lookup path with
  | .ok entry => entry.filesBelow path
  | .error _ => []

end FileSystem

/-! ### Manifests -/

/-- The encoding of the manifest at a path. -/
def Manifest.Format.ofPath? (path : String) : Option Manifest.Format :=
  ((Path.fileName? path).bind Path.extension?).bind Manifest.Format.ofExtension?

/-- A file that holds a manifest. -/
structure ManifestFile where
  path : String
  format : Manifest.Format
  content : Except FileError String

/-- The manifest that a file holds, by its name. -/
def ManifestFile.of? (file : String × Except FileError String) : Option ManifestFile :=
  (Manifest.Format.ofPath? file.1).map fun format => ⟨file.1, format, file.2⟩

/-- The manifests below the directory at a path. -/
def FileSystem.manifests (fs : FileSystem) (path : String) : List ManifestFile :=
  (fs.filesBelow path).filterMap ManifestFile.of?

end InfraAudit
