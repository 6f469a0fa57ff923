import HtmlBuilder.Command.Run

/-!
A run as a process, which changes the world around it step by step: it takes its
input, ends there if it only checks, loads its settings and puts its result out.
A step that fails ends the process, and what the steps before it have changed
stays changed.
-/

namespace HtmlBuilder.Command

/-- What a process can see and change. -/
structure World where
  stdin : ByteArray := .empty
  files : FileTree := {}
  stdout : String := ""

/-- Steps of a process; a failure keeps the world as it is at that point. -/
abbrev Process : Type → Type :=
  EStateM Failure World

namespace Process

def takeStdin : Process String := do
  let world ← get
  set { world with stdin := .empty }
  match FileTree.decode world.stdin with
  | .ok text => return text
  | .error _ => throw .stdin

def readFile (path : String) : Process String := do
  let world ← get
  match world.files.read path with
  | .ok text => return text
  | .error _ => throw (.input path)

def writeFile (path text : String) : Process Unit := do
  let world ← get
  match world.files.write? path text with
  | some files => set { world with files }
  | none => throw (.output path)

def print (text : String) : Process Unit := do
  let world ← get
  set { world with stdout := world.stdout ++ text }

def takeInput (invocation : Invocation) : Process String :=
  match invocation.input? with
  | none | some "-" => takeStdin
  | some path => readFile path

def loadSettings (invocation : Invocation) : Process Settings := do
  let world ← get
  match invocation.loader.build world.files with
  | .ok settings => return settings
  | .error _ => throw .settings

def putResult (invocation : Invocation) (result : String) : Process Unit :=
  match invocation.output? with
  | none => print result
  | some path => writeFile path result

def perform (invocation : Invocation) : Process Unit := do
  let input ← takeInput invocation
  if invocation.check then
    if containsMarkup input then return () else throw .noMarkup
  else
    let settings ← loadSettings invocation
    putResult invocation (resultOf settings input)

def ofArguments (arguments : List String) : Process Unit :=
  match Invocation.parse arguments with
  | .ok invocation => perform invocation
  | .error (.help isLong) => print (if isLong then longHelp else shortHelp)
  | .error .version => print versionText
  | .error (.error error) => throw (.usage error)

end Process

/-- What is seen of a process when it has ended. -/
structure Ending where
  exitCode : Nat
  stdout : String
  /-- The line that tells why the process failed. -/
  failure? : Option String
  files : FileTree

def runProcess (arguments : List String) (stdin : ByteArray)
    (files : FileTree) : Ending :=
  match (Process.ofArguments arguments).run { stdin, files } with
  | .ok () world => ⟨0, world.stdout, none, world.files⟩
  | .error failure world =>
    ⟨failure.exitCode, world.stdout, failure.message, world.files⟩

end HtmlBuilder.Command
