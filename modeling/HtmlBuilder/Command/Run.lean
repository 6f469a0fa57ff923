import HtmlBuilder.Command.Usage
import HtmlBuilder.Markup.Document
import HtmlBuilder.Settings.Loader

/-!
One run of the command: the arguments are read, then the input; a check ends
there. Otherwise the settings are loaded, the input is converted or left as it
is, and the result is written. A run that fails writes nothing.
-/

namespace HtmlBuilder.Command

inductive Failure where
  | usage (error : UsageError)
  | stdin
  | input (path : String)
  | settings
  | output (path : String)
  /-- A check found no markup. -/
  | noMarkup

structure Success where
  stdout : String
  files : FileTree

def Failure.exitCode : Failure → Nat
  | .usage _ => 2
  | _ => 1

def Failure.message : Failure → Option String
  | .usage error => some ("error: " ++ error.message)
  | .stdin => some "Error: Failed to read stdin"
  | .input path => some ("Error: Failed to read '" ++ path ++ "'")
  | .settings => some "Error: Failed to load configuration"
  | .output path => some ("Error: Failed to write '" ++ path ++ "'")
  | .noMarkup => none

def localSettings : String := "html2kara.toml"

def Invocation.loader (invocation : Invocation) : Settings.Loader :=
  let loader := Settings.Loader.withOptionalFile {} localSettings
  let loader :=
    match invocation.config? with
    | some path => loader.withFile path
    | none => loader
  let set := fun (loader : Settings.Loader) (table field : String) (content :
    Settings.Scalar) =>
    loader.override ⟨table, [.name field]⟩ (.scalar none content)
  let loader :=
    match invocation.indentWidth? with
    | some width =>
      set loader "formatter" "indent"
        (.string (String.ofList (List.replicate width.toNat ' ')))
    | none => loader
  let loader :=
    match invocation.baseDepth? with
    | some depth =>
      set loader "formatter" "base_indent_depth" (.integer depth.toNat)
    | none => loader
  let loader :=
    if invocation.directLinks then
      set loader "conversion" "href_to_direct_link" (.boolean true)
    else loader
  if invocation.force then
    set loader "conversion" "only_when_html" (.boolean false)
  else loader

def readInput (invocation : Invocation) (stdin : ByteArray) (files : FileTree) :
    Except Failure String :=
  match invocation.input? with
  | none | some "-" =>
    match FileTree.decode stdin with
    | .ok text => .ok text
    | .error _ => .error .stdin
  | some path =>
    match files.read path with
    | .ok text => .ok text
    | .error _ => .error (.input path)

/-- The result of a run: the converted input, or the input as it is if it has no
markup and only markup is to be converted. -/
def resultOf (settings : Settings) (input : String) : String :=
  if containsMarkup input || !settings.onlyMarkup then
    Converter.convert
      { options := settings.options, formatter := settings.formatter } input
  else input

def writeResult (invocation : Invocation) (files : FileTree) (result : String) :
    Except Failure Success :=
  match invocation.output? with
  | none => .ok ⟨result, files⟩
  | some path =>
    match files.write? path result with
    | some files => .ok ⟨"", files⟩
    | none => .error (.output path)

def execute (invocation : Invocation) (stdin : ByteArray) (files : FileTree) :
    Except Failure Success := do
  let input ← readInput invocation stdin files
  if invocation.check then
    if containsMarkup input then .ok ⟨"", files⟩ else .error .noMarkup
  else
    match invocation.loader.build files with
    | .error _ => .error .settings
    | .ok settings => writeResult invocation files (resultOf settings input)

def run (arguments : List String) (stdin : ByteArray) (files : FileTree) :
    Except Failure Success :=
  match Invocation.parse arguments with
  | .ok invocation => execute invocation stdin files
  | .error (.help isLong) => .ok ⟨if isLong then longHelp else shortHelp, files⟩
  | .error .version => .ok ⟨versionText, files⟩
  | .error (.error error) => .error (.usage error)

end HtmlBuilder.Command
