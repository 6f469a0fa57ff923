import HtmlBuilder.FileTree
import HtmlBuilder.Settings.Key
import HtmlBuilder.Settings.Typed
import HtmlBuilder.Toml.Document

/-!
Settings in layers: the built-in ones, files on top of them in the order in
which they are added, and single values on top of all files. A file that has to
be there and is not, or that is no well-formed document, makes loading fail; a
file that may be missing is passed over.
-/

namespace HtmlBuilder.Settings

def entries (settings : Settings) : List (String × Value) :=
  [("formatter", .table none
      [("indent", .scalar none (.string settings.formatter.indent)),
        ("line_break", .scalar none (.string settings.formatter.lineBreak)),
        ("base_indent_depth",
          .scalar none (.integer settings.formatter.baseDepth))]),
    ("conversion", .table none
      [("href_to_direct_link",
        .scalar none (.boolean settings.options.directLinks)),
        ("only_when_html", .scalar none (.boolean settings.onlyMarkup))])]

def defaults : Settings := {}

structure Source where
  path : String
  /-- Whether the file has to be there. -/
  isRequired : Bool
deriving DecidableEq

/-- Settings that are still being put together. -/
structure Loader where
  sources : List Source := []
  overrides : List (Key × Value) := []

namespace Loader

def withFile (loader : Loader) (path : String) : Loader :=
  { loader with sources := loader.sources ++ [⟨path, true⟩] }

def withOptionalFile (loader : Loader) (path : String) : Loader :=
  { loader with sources := loader.sources ++ [⟨path, false⟩] }

/-- Sets a single value under a key, in place of the one that was set there. -/
def override (loader : Loader) (key : Key) (value : Value) : Loader :=
  { loader with overrides := putEntry loader.overrides key value }

end Loader

/-- The names of a path that lead to the file of a source, and its content: the
file of that name, or the one with an extension added to the name. -/
def findSource (files : FileTree) (path : String) :
    Option (List String × ByteArray) :=
  let names := (files.absoluteNames path).filter (· != ".")
  match files.bytes? path with
  | some content => some (names, content)
  | none =>
    match names.reverse with
    | [] => none
    | last :: before =>
      if last == ".." then none
      else
        let extended := before.reverse ++ [last ++ ".toml"]
        match files.follow extended with
        | some (_, .file content) => some (extended, content)
        | _ => none

/-- A path from the root as it is named from the working directory. -/
def relativeName (working names : List String) : String :=
  match working, names with
  | directory :: working, name :: names =>
    if directory = name then relativeName working names
    else
      "/".intercalate
        ((directory :: working).map (fun _ => "..") ++ name :: names)
  | working, names => "/".intercalate (working.map (fun _ => "..") ++ names)

def readSource (files : FileTree) (source : Source) :
    Except Error (List (String × Value)) :=
  match findSource files source.path with
  | none => if source.isRequired then .error (.notFound source.path) else .ok []
  | some (names, content) =>
    match FileTree.decode content with
    | .error _ => if source.isRequired then .error .notUnicode else .ok []
    | .ok text =>
      match Toml.parse? text with
      | none => .error (.malformed (relativeName files.working names))
      | some entries =>
        .ok (Value.ofTomlEntries
          (some (relativeName files.working names)) entries)

def mergeSources (files : FileTree) (merged : Value) (sources : List Source) :
    Except Error Value :=
  match sources with
  | [] => .ok merged
  | source :: rest => do
    let entries ← readSource files source
    mergeSources files (merged.layer entries) rest

namespace Loader

/-- The merged table: all sources as one layer, and the overrides on top of
it. -/
def merge (loader : Loader) (files : FileTree) : Except Error Value := do
  let merged ←
    mergeSources files (Value.emptyTable.layer defaults.entries) loader.sources
  .ok (loader.overrides.foldl (fun root (key, value) => root.assign key value)
    (Value.emptyTable.layer merged.entries))

def build (loader : Loader) (files : FileTree) : Except Error Settings := do
  ofValue (← loader.merge files)

end Loader

end HtmlBuilder.Settings
