import InfraAudit.CommandLine.Run
import InfraAudit.Files.Tree
import Std.Time.Format

/-!
The program. It loads the files that a command may look at, runs the command on
them, and writes the outcome.
-/
namespace InfraAudit.Program

/-- The reason of a failure. -/
def fileError : IO.Error → FileError
  | .noFileOrDirectory .. => .notFound
  | .inappropriateType .. => .notDirectory
  | e => .other (toString e)

/-- The deepest directories that are looked into. -/
def deepest : Nat := 64

/-- Loads what stands at a path. -/
def load : (depth : Nat) → (path : String) → IO (Except FileError FileEntry)
  | depth, path => do
    try
      let here := (← IO.currentDir) / path
      if !(← here.pathExists) then return .error .notFound
      else if ← here.isDir then
        match depth with
        | 0 => return .ok (.directory [])
        | depth + 1 =>
          let mut entries := []
          for e in ← here.readDir do
            if let .ok entry ← load depth (Path.join path e.fileName) then
              entries := FileTree.insertEntry e.fileName entry entries
          return .ok (.directory entries)
      else
        let bytes ← IO.FS.readBinFile here
        match String.fromUTF8? bytes with
        | some text => return .ok (.file (.ok text))
        | none => return .ok (.file (.error .invalidText))
    catch e => return .error (fileError e)

/-- Loads the files of a command. -/
def loadFiles (home : Option String) (i : CommandLine.Invocation) : IO FileSystem := do
  let loaded ← (CommandLine.pathsOf home i).mapM fun path => do
    return (path, ← load deepest path)
  return ⟨fun path => (loaded.lookup path).getD (.error .notFound), home⟩

/-- The present time of the zero meridian. -/
def now : IO String := do
  let t ← Std.Time.Timestamp.now
  let t := Std.Time.PlainDateTime.ofWallTime (.ofDuration t.toDurationSinceUnixEpoch)
  return t.format "uuuu-MM-dd" ++ "T" ++ t.format "HH:mm:ss.SSSSSSSSS" ++ "Z"

/-- Whether output has colors: on a terminal, unless the user does not want any. -/
def wantsColor : IO Bool := do
  return (← (← IO.getStdout).isTty) && (← IO.getEnv "NO_COLOR").isNone

/-- Runs the command that some arguments ask for. -/
def execute (args : List String) : IO UInt32 := do
  match CommandLine.parse args with
  | .error .version =>
    IO.print CommandLine.versionText
    return 0
  | .error .help =>
    IO.print CommandLine.usage
    return 0
  | .error .error =>
    IO.eprint CommandLine.usage
    return 2
  | .ok i =>
    let files ← loadFiles (← IO.getEnv "HOME") i
    match CommandLine.run ⟨files, ← now, ← wantsColor⟩ i with
    | .ok outcome =>
      IO.print outcome.stdout
      return UInt32.ofNat outcome.exit
    | .error e =>
      IO.eprintln ("Error: " ++ e.message)
      return 1

end InfraAudit.Program

/-- The entry point of the program. -/
def main (args : List String) : IO UInt32 := InfraAudit.Program.execute args
