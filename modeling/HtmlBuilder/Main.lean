import HtmlBuilder.Command.Run

/-!
The command itself: it looks at the files that an invocation may touch, runs on
them, and carries out what the run decided.
-/

namespace HtmlBuilder.Command

def Invocation.paths (invocation : Invocation) : List String :=
  let settings := localSettings :: invocation.config?.toList
  settings ++ settings.map (· ++ ".toml") ++ invocation.input?.toList ++
  invocation.output?.toList

/-- A path without names that stand for the directory itself or the one around
it. -/
def directPath (names : List String) : Path :=
  names.foldl (fun path name =>
    if name == "." then path
    else if name == ".." then path.dropLast
    else path ++ [name]) []

def writtenPath (path : Path) : String :=
  "/" ++ "/".intercalate path

def content? (path : Path) : IO (Option ByteArray) := do
  try return some (← IO.FS.readBinFile (writtenPath path))
  catch _ => return none

/-- Adds what stands at a path, and the directories on the way to it. -/
def observe (files : FileTree) (path : String) : IO FileTree := do
  let here ← IO.currentDir
  let path := directPath (files.absoluteNames path)
  let mut seen := files
  for directory in FileTree.ancestors path do
    if ← (here / writtenPath directory).isDir then
      seen := seen.addDirectory directory
  match ← content? path with
  | some content => return seen.addFile path content
  | none => return seen

/-- All that is given to a run besides its arguments. -/
partial def readAll (stream : IO.FS.Stream) (done : ByteArray) :
  IO ByteArray := do
  let bytes ← stream.read 65536
  if bytes.isEmpty then return done else readAll stream (done ++ bytes)

/-- Tells why a run failed. -/
def report (failure : Failure) : IO UInt32 := do
  if let some message := failure.message then IO.eprintln message
  return failure.exitCode.toUInt32

/-- Carries out what a run decided; `output?` is the file that its result goes
to. -/
def conclude (output? : Option String) (result : Except Failure Success) :
    IO UInt32 := do
  match result with
  | .error failure => report failure
  | .ok success =>
    IO.print success.stdout
    match output? with
    | none => return 0
    | some path =>
      try
        IO.FS.writeBinFile path ((success.files.bytes? path).getD .empty)
        return 0
      catch _ => report (.output path)

end HtmlBuilder.Command

open HtmlBuilder HtmlBuilder.Command in
def main (arguments : List String) : IO UInt32 := do
  let working := FileTree.namesOf (← IO.currentDir).toString
  match Invocation.parse arguments with
  | .error _ => conclude none (run arguments .empty { working })
  | .ok invocation =>
    let files ← invocation.paths.foldlM observe { working }
    let needsStdin := invocation.input?.all (· == "-")
    let stdin ←
      if needsStdin then readAll (← IO.getStdin) .empty else pure .empty
    let output? := if invocation.check then none else invocation.output?
    conclude output? (run arguments stdin files)
