import HtmlBuilder.Entries
import HtmlBuilder.Toml.Value

/-!
Tables while a document is read. A table is written out by its own header, or it
comes into being because a longer path passes through it. What is written out is
written once: a header may not name a table that is already written out, and a
path of dotted keys may not enter one.
-/

namespace HtmlBuilder.Toml

inductive Origin where
  /-- Written out, by a header or in braces. -/
  | explicit
  /-- Passed through by the path of a header. -/
  | implicit
  /-- Passed through by a dotted key. -/
  | dotted
deriving DecidableEq

/-- An entry of a table that is being read: a value, a table or a list of
tables. -/
inductive Item where
  | value (value : Value)
  | table (origin : Origin) (entries : List (String × Item))
  | tables (elements : List (List (String × Item)))
deriving Inhabited

abbrev Items := List (String × Item)

/-- Changes the table at the end of a path. Tables that are missing on the way
come into being; of a list of tables the last one is entered. `origin` is the
origin of the table the path starts in. -/
def changeAt {α : Type} (dotted : Bool)
    (change : Origin → Items → Option (Items × α)) :
    List String → Origin → Items → Option (Items × α)
  | [], origin, items => change origin items
  | key :: path, _, items =>
    match items.lookup key with
    | none => do
      let origin := if dotted then Origin.dotted else Origin.implicit
      let (inner, result) ← changeAt dotted change path origin []
      some (items ++ [(key, .table origin inner)], result)
    | some (.value _) => none
    | some (.table origin inner) =>
      if dotted && origin == .explicit then none
      else do
        let (inner, result) ← changeAt dotted change path origin inner
        some (putEntry items key (.table origin inner), result)
    | some (.tables elements) =>
      match elements.reverse with
      | [] => none
      | last :: before => do
        let (last, result) ← changeAt dotted change path .explicit last
        some (putEntry items key (.tables (before.reverse ++ [last])), result)

def insertValue (path : List String) (key : String) (value : Value)
    (items : Items) : Option Items :=
  let change := fun (origin : Origin) (items : Items) =>
    if (origin == .dotted) == path.isEmpty || (items.lookup key).isSome then
      none
    else some (items ++ [(key, .value value)], ())
  (changeAt true change path .explicit items).map Prod.fst

mutual

def Item.toValue (item : Item) : Value :=
  match item with
  | .value value => value
  | .table _ entries => .table (entriesOf entries)
  | .tables elements => .array (elementsOf elements)

def entriesOf (items : List (String × Item)) : Entries :=
  match items with
  | [] => []
  | (key, item) :: rest => (key, item.toValue) :: entriesOf rest

def elementsOf (elements : List (List (String × Item))) : List Value :=
  match elements with
  | [] => []
  | items :: rest => .table (entriesOf items) :: elementsOf rest

end

/-- The state of reading a document: the tables that are finished, and the one
that lines go into with the path of its header. -/
structure Reading where
  root : Items := []
  current : Items := []
  /-- The path of the header and whether it adds to a list of tables; none
  before the first header. -/
  header? : Option (List String × String × Bool) := none

namespace Reading

def finish (reading : Reading) : Option Items :=
  match reading.header? with
  | none => some reading.current
  | some (parents, key, isElement) =>
    let change := fun (_ : Origin) (items : Items) =>
      match items.lookup key, isElement with
      | none, false =>
        some (items ++ [(key, .table .explicit reading.current)], ())
      | none, true => some (items ++ [(key, .tables [reading.current])], ())
      | some (.tables elements), true =>
        some (putEntry items key (.tables (elements ++ [reading.current])), ())
      | some _, _ => none
    (changeAt false change parents .explicit reading.root).map Prod.fst

/-- Begins the table of a header. A table that was only passed through keeps
what it has. -/
def startTable (reading : Reading) (parents : List String) (key : String) :
    Option Reading := do
  let root ← reading.finish
  let change := fun (_ : Origin) (items : Items) =>
    match items.lookup key with
    | none => some (items, ([] : Items))
    | some (.table .implicit inner) =>
      some (items.filter fun entry => entry.1 != key, inner)
    | some _ => none
  let (root, current) ← changeAt false change parents .explicit root
  some { root, current, header? := some (parents, key, false) }

def startElement (reading : Reading) (parents : List String) (key : String) :
    Option Reading := do
  let root ← reading.finish
  let change := fun (_ : Origin) (items : Items) =>
    match items.lookup key with
    | none => some (items ++ [(key, .tables [])], ())
    | some (.tables _) => some (items, ())
    | some _ => none
  let (root, ()) ← changeAt false change parents .explicit root
  some { root, current := [], header? := some (parents, key, true) }

def insert (reading : Reading) (path : List String) (key : String)
    (value : Value) : Option Reading :=
  (insertValue path key value reading.current).map fun current =>
    { reading with current }

end Reading

end HtmlBuilder.Toml
