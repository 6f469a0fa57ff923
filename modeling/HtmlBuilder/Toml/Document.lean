import HtmlBuilder.Toml.Moment
import HtmlBuilder.Toml.Number
import HtmlBuilder.Toml.Table

/-!
Reading a whole TOML document: values, which may be nested up to a fixed depth,
and lines, which are blank, give a key a value or begin a table. A document that
is malformed anywhere gives nothing.
-/

namespace HtmlBuilder.Toml

def splitPath (path : List String) : Option (List String × String) :=
  match path.reverse with
  | [] => none
  | key :: parents => some (parents.reverse, key)

def readItems (readItem : List Char → Option (Value × List Char))
    (done : List Value)
    (fuel : Nat) (input : List Char) : Option (Value × List Char) :=
  match fuel with
  | 0 => none
  | fuel + 1 => do
    match ← skipLines false input with
    | ']' :: rest => some (.array done.reverse, rest)
    | input => do
      let (item, rest) ← readItem input
      match ← skipLines false rest with
      | ',' :: rest => readItems readItem (item :: done) fuel rest
      | ']' :: rest => some (.array (item :: done).reverse, rest)
      | _ => none

/-- Reads a key with its value; the value begins behind the equals sign and
space. -/
def readPair (readItem : List Char → Option (Value × List Char))
    (input : List Char) :
    Option (List String × String × Value × List Char) := do
  let (path, rest) ← readPath maxDepth input
  let (path, key) ← splitPath path
  let (value, rest) ← readItem (skipSpace (← expect? '=' rest))
  some (path, key, value, rest)

def readPairs (readItem : List Char → Option (Value × List Char)) (done : Items)
    (fuel : Nat) (input : List Char) : Option (Value × List Char) :=
  match fuel with
  | 0 => none
  | fuel + 1 => do
    let (path, key, value, rest) ← readPair readItem input
    let items ← insertValue path key value done
    match skipSpace rest with
    | ',' :: rest => readPairs readItem items fuel rest
    | '\x7d' :: rest => some (.table (entriesOf items), rest)
    | _ => none

/-- Reads a value that may contain others down to a given depth. -/
def readValue (depth : Nat) (input : List Char) : Option (Value × List Char) :=
  match input with
  | '"' :: _ | '\'' :: _ =>
    (readString input).map fun (text, rest) =>
      (.string (String.ofList text), rest)
  | 't' :: 'r' :: 'u' :: 'e' :: rest => some (.boolean true, rest)
  | 'f' :: 'a' :: 'l' :: 's' :: 'e' :: rest => some (.boolean false, rest)
  | '[' :: rest =>
    match depth with
    | 0 => none
    | depth + 1 => readItems (readValue depth) [] (rest.length + 1) rest
  | '\x7b' :: rest =>
    match depth with
    | 0 => none
    | depth + 1 =>
      match skipSpace rest with
      | '\x7d' :: rest => some (.table [], rest)
      | rest => readPairs (readValue depth) [] (rest.length + 1) rest
  | input =>
    match readMoment input with
    | some (text, rest) => some (.moment text, rest)
    | none => readNumber input

def readHeader (reading : Reading) (input : List Char) :
    Option (Reading × List Char) :=
  match input with
  | '[' :: rest => do
    let (path, rest) ← readPath maxDepth rest
    let (parents, key) ← splitPath path
    let rest ← lineEnd? (← expect? ']' (← expect? ']' rest))
    let reading ← reading.startElement parents key
    some (reading, rest)
  | input => do
    let (path, rest) ← readPath maxDepth input
    let (parents, key) ← splitPath path
    let rest ← lineEnd? (← expect? ']' rest)
    let reading ← reading.startTable parents key
    some (reading, rest)

def readLine (reading : Reading) (input : List Char) :
    Option (Reading × List Char) := do
  let (path, key, value, rest) ← readPair (readValue maxDepth) input
  let rest ← lineEnd? rest
  let reading ← reading.insert path key value
  some (reading, rest)

/-- Reads lines to the end of the document; every line takes at least one
character. -/
def readLines (reading : Reading) (fuel : Nat) (input : List Char) :
    Option Reading :=
  match fuel, skipSpace input with
  | _, [] => some reading
  | 0, _ => none
  | fuel + 1, '#' :: rest =>
    do readLines reading fuel (← lineEnd? ('#' :: rest))
  | fuel + 1, '[' :: rest => do
    let (reading, rest) ← readHeader reading rest
    readLines reading fuel rest
  | fuel + 1, rest =>
    match lineBreak? rest with
    | some rest => readLines reading fuel rest
    | none => do
      let (reading, rest) ← readLine reading rest
      readLines reading fuel rest

/-- The table that a document stands for, if it is well-formed. A byte order
mark may stand at its start. -/
def parse? (text : String) : Option Entries := do
  let input :=
    match text.toList with
    | '\ufeff' :: rest => rest
    | input => input
  let reading ← readLines {} (input.length + 1) input
  let items ← reading.finish
  some (entriesOf items)

end HtmlBuilder.Toml
