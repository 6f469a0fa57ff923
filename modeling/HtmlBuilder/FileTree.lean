import HtmlBuilder.Entries

/-!
The files and directories that a run can see. A path is a list of names from the
root; a written path is taken from the working directory unless it begins with a
slash, and every name on its way has to be a directory. Files are bytes, which
may or may not be text.
-/

namespace HtmlBuilder

/-- The names on the way from the root to a file or a directory. -/
abbrev Path := List String

structure FileTree where
  working : Path := []
  directories : List Path := []
  files : List (Path × ByteArray) := []

inductive Entry where
  | file (content : ByteArray)
  | directory
  /-- Nothing, but a file can be put there. -/
  | vacant

inductive ReadError where
  | missing
  | notUnicode
deriving DecidableEq

namespace FileTree

/-- The names in a written path; empty ones do not count. -/
def namesOf (path : String) : List String :=
  ((path.toList.splitOn '/').filter fun name => !name.isEmpty).map String.ofList

def isAbsolute (path : String) : Bool :=
  path.toList.head? == some '/'

def absoluteNames (tree : FileTree) (path : String) : List String :=
  (if isAbsolute path then [] else tree.working) ++ namesOf path

def isDirectory (tree : FileTree) (path : Path) : Bool :=
  path.isPrefixOf tree.working || tree.directories.contains path

/-- Goes from a directory on along names, each of which has to lead to a
directory. -/
def enter (tree : FileTree) (directory : Path) : List String → Option Path
  | [] => some directory
  | "." :: rest => tree.enter directory rest
  | ".." :: rest => tree.enter directory.dropLast rest
  | name :: rest =>
    if tree.isDirectory (directory ++ [name]) then
      tree.enter (directory ++ [name]) rest
    else none

def entryAt (tree : FileTree) (path : Path) : Entry :=
  match tree.files.lookup path with
  | some content => .file content
  | none => if tree.isDirectory path then .directory else .vacant

def follow (tree : FileTree) (names : List String) : Option (Path × Entry) :=
  match names.reverse with
  | [] => some ([], .directory)
  | last :: before =>
    if last == "." || last == ".." then
      (tree.enter [] names).map (·, .directory)
    else
      (tree.enter [] before.reverse).map fun directory =>
        (directory ++ [last], tree.entryAt (directory ++ [last]))

/-- The place that a written path leads to; a slash at its end asks for a
directory. -/
def locate (tree : FileTree) (path : String) : Option (Path × Entry) :=
  if path = "" then none
  else if path.toList.getLast? == some '/' then
    (tree.enter [] (tree.absoluteNames path)).map (·, .directory)
  else tree.follow (tree.absoluteNames path)

def bytes? (tree : FileTree) (path : String) : Option ByteArray :=
  match tree.locate path with
  | some (_, .file content) => some content
  | _ => none

def decode (content : ByteArray) : Except ReadError String :=
  match String.fromUTF8? content with
  | some text => .ok text
  | none => .error .notUnicode

def read (tree : FileTree) (path : String) : Except ReadError String :=
  match tree.bytes? path with
  | some content => decode content
  | none => .error .missing

def write? (tree : FileTree) (path text : String) : Option FileTree :=
  match tree.locate path with
  | some (place, .file _) | some (place, .vacant) =>
    some { tree with files := putEntry tree.files place text.toUTF8 }
  | _ => none

/-- All directories on the way to a path, the path itself included. -/
def ancestors (path : Path) : List Path :=
  (List.range path.length).map fun n => path.take (n + 1)

def addDirectory (tree : FileTree) (path : Path) : FileTree :=
  { tree with directories := tree.directories ++ ancestors path }

def addFile (tree : FileTree) (path : Path) (content : ByteArray) : FileTree :=
  { tree.addDirectory path.dropLast with
    files := putEntry tree.files path content }

end FileTree

end HtmlBuilder
