import HtmlBuilder.Settings.Value

/-!
Keys that lead into nested values: a name, followed by more names behind dots
and by positions in brackets. A position below zero counts from the end of an
array. Putting a value under such a key makes tables and arrays of what is on
the way.
-/

namespace HtmlBuilder.Settings

inductive KeyStep where
  | name (name : String)
  | position (n : Int)
deriving DecidableEq

structure Key where
  first : String
  steps : List KeyStep := []
deriving DecidableEq

namespace Key

def isNameCharacter (c : Char) : Bool :=
  c.isAlphanum || c == '_' || c == '-' || c == ' '

def readName (input : List Char) : Option (String × List Char) :=
  match input.takeWhile isNameCharacter with
  | [] => none
  | name => some (String.ofList name, input.dropWhile isNameCharacter)

def isSpace (c : Char) : Bool :=
  c == ' ' || c == '\t'

/-- Reads a position behind its bracket: a whole number of 64 bits with space
around it. -/
def readPosition (input : List Char) : Option (Int × List Char) :=
  let input := input.dropWhile isSpace
  let negative := input.head? == some '-'
  let unsigned := if negative then input.drop 1 else input
  let digits := unsigned.takeWhile Char.isDigit
  let n := digits.foldl (fun n c => n * 10 + (c.toNat - '0'.toNat)) 0
  let limit := if negative then Nat.pow 2 63 else Nat.pow 2 63 - 1
  if digits.isEmpty || n > limit then none
  else
    match (unsigned.dropWhile Char.isDigit).dropWhile isSpace with
    | ']' :: rest => some (if negative then -(n : Int) else n, rest)
    | _ => none

def readSteps (done : List KeyStep) (fuel : Nat) (input : List Char) :
    Option (List KeyStep) :=
  match fuel, input with
  | _, [] => some done.reverse
  | 0, _ => none
  | fuel + 1, '.' :: rest => do
    let (name, rest) ← readName rest
    readSteps (.name name :: done) fuel rest
  | fuel + 1, '[' :: rest => do
    let (n, rest) ← readPosition rest
    readSteps (.position n :: done) fuel rest
  | _, _ => none

def parse? (text : String) : Option Key := do
  let input := text.toList
  let (first, rest) ← readName input
  let steps ← readSteps [] rest.length rest
  some { first, steps }

end Key

namespace Value

/-- The index that a position stands for in an array of a given size. -/
def indexOf (n : Int) (size : Nat) : Nat :=
  if n < 0 then size - n.natAbs else n.toNat

/-- Changes an item of an array; an array that is too short is filled up, and
what is no array becomes one. -/
def updateItem (value : Value) (n : Int) (change : Value → Value) : Value :=
  let (origin?, items) :=
    match value with
    | .array origin? items => (origin?, items)
    | _ => (none, [])
  let index := indexOf n items.length
  let filled := items ++ List.replicate (index + 1 - items.length) nothing
  .array origin? (filled.modify index change)

def putBelow (root : Value) (steps : List KeyStep) (value : Value) : Value :=
  match steps with
  | [] => value
  | [.name name] => root.asTable.put name value
  | .name name :: rest => root.update name fun old? =>
    (old?.getD nothing).putBelow rest value
  | .position n :: rest => root.updateItem n fun old => old.putBelow rest value

def assign (root : Value) (key : Key) (value : Value) : Value :=
  root.putBelow (.name key.first :: key.steps) value

/-- Puts the entries of a source under their keys. A key that cannot be read as
one is a name. -/
def layer (root : Value) (entries : List (String × Value)) : Value :=
  entries.foldl (fun root (text, value) =>
    match Key.parse? text with
    | some key => root.assign key value
    | none => root.put text value) root

end Value

end HtmlBuilder.Settings
