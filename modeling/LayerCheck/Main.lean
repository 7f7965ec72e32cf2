import LayerCheck.Command.Basic

/-!
The command line. The files that a command may need are read into a snapshot first; the report is
written after the command has run on that snapshot.
-/

namespace LayerCheck

/-- The place of an absolute path without links. -/
def placeOfText (path : String) : Place :=
  (Segments.split '/' path).filter (· ≠ "")

/-- Adds a directory and everything below it. Links are entered with the place that they lead to. Of a
directory that cannot be read there are no entries, of a file that cannot be read there is no text, and
other entries that cannot be read are passed over. -/
partial def loadDirectory (s : Snapshot) (path : String) : IO Snapshot := do
  let mut s := s.put (placeOfText path) .directory
  let entries ← try (← IO.FS.realPath path).readDir catch _ => pure #[]
  for entry in entries do
    let text := entry.path.toString
    let place := placeOfText text
    match ← entry.path.symlinkMetadata.toBaseIO with
    | .error _ => pure ()
    | .ok data =>
      match data.type with
      | .dir => s ← loadDirectory s text
      | .symlink =>
        match ← (IO.FS.realPath entry.path).toBaseIO with
        | .ok target => s := s.put place (.link target.toString)
        | .error _ => pure ()
      | .file =>
        match ← (IO.FS.readBinFile entry.path).toBaseIO with
        | .ok bytes => s := s.put place (.file (String.fromUTF8? bytes))
        | .error _ => s := s.put place (.file none)
      | .other => pure ()
  return s

/-- Adds the directory that a path leads to, or the one that its file is in. -/
def loadAround (s : Snapshot) (path : String) : IO Snapshot := do
  match ← (IO.FS.realPath path).toBaseIO with
  | .error _ => return s
  | .ok real =>
    if ← real.isDir then loadDirectory s real.toString
    else
      match real.parent with
      | some parent => loadDirectory s parent.toString
      | none => return s

/-- The snapshot that an analysis needs: the working directory, the directory of the configuration and
the roots of the project. -/
def loadSnapshot (working : String) (o : Command.Options) : IO Snapshot := do
  let mut s ← loadDirectory { working := placeOfText working } working
  for p in o.config.toList ++ o.output.toList do
    s ← loadAround s (Config.baseOf p).text
    s ← loadAround s p.text
  match Command.configPath s o.config with
  | .error _ => return s
  | .ok file =>
    match Analysis.loadConfig s file with
    | .error _ => return s
    | .ok c => c.paths.foldlM (fun s p => loadAround s p.text) s

def explain : Command.Error → String
  | .usage => "error: invalid arguments\n\n" ++ Command.helpText
  | .noWorkingDirectory => "Error: Failed to read working directory\n"
  | .config e => "Error: " ++ e.code ++ (e.message?.map (": " ++ ·)).getD "" ++ "\n"
  | .unrenderable => "Error: Failed to render report\n"
  | .unprintable _ => "Error: Failed to write report to stdout\n"
  | .unwritable p _ => "Error: Failed to write report to " ++ p.text ++ "\n"

def fail (e : Command.Error) : IO Nat := do
  (← IO.getStderr).putStr (explain e)
  return Command.exitCode (.error e)

/-- Prints a text, and tells whether all of it went out. -/
def print (text : String) : IO Bool := do
  let stdout ← IO.getStdout
  try
    stdout.putStr text
    stdout.flush
    return true
  catch _ => return false

/-- Writes what a command on `s` leaves behind, and gives the exit code. A text that cannot be printed
is an error if it is a report. -/
def finish (s : Snapshot) (request : Command.Request)
    (result : Except Command.Error Command.Done) : IO Nat := do
  let printed ← print (Command.standardOutput result)
  match request, result with
  | _, .error e => fail e
  | .analyze o, .ok _ =>
    if !printed then fail (.unprintable "")
    else
      match o.output.bind fun p => ((Command.filesAfter s result).read? p).map (p, ·) with
      | none => return Command.exitCode result
      | some (p, report) =>
        try
          IO.FS.writeFile p.text report
          return Command.exitCode result
        catch _ => fail (.unwritable p none)
  | _, .ok _ => return Command.exitCode result

end LayerCheck

open LayerCheck

def main (args : List String) : IO UInt32 := do
  let code ← match Command.request? args with
    | none => fail .usage
    | some (.analyze o) =>
      match ← IO.currentDir.toBaseIO with
      | .error _ => fail .noWorkingDirectory
      | .ok working =>
        let s ← loadSnapshot working.toString o
        finish s (.analyze o) (Command.run s args)
    | some request => finish {} request (Command.run {} args)
  return code.toUInt32
