import HtmlBuilder.Entries

/-!
The attributes of a node: a list of keys with their values in which no key
occurs twice. Setting a key that is present changes its value in place; setting
a new key puts it at the end. Two attribute lists with the same keys and values
are the same map, whatever their order.
-/

namespace HtmlBuilder

/-- Attributes in the order in which their keys were first set. -/
structure Attributes where
  entries : List (String × String)
  keys_nodup : (entries.map Prod.fst).Nodup
deriving DecidableEq

namespace Attributes

def empty : Attributes := ⟨[], by simp⟩

instance : EmptyCollection Attributes := ⟨empty⟩
instance : Inhabited Attributes := ⟨empty⟩

def keys (attributes : Attributes) : List String :=
  attributes.entries.map Prod.fst

/-- Gives a key a value; a key that is present keeps its place. -/
def set (attributes : Attributes) (key value : String) : Attributes :=
  ⟨putEntry attributes.entries key value,
    nodup_updateEntry attributes.keys_nodup key fun _ => value⟩

def get? (attributes : Attributes) (key : String) : Option String :=
  attributes.entries.lookup key

def contains (attributes : Attributes) (key : String) : Bool :=
  (attributes.get? key).isSome

def setAll (attributes : Attributes) (pairs : List (String × String)) :
    Attributes :=
  pairs.foldl (fun acc (key, value) => acc.set key value) attributes

def ofList (pairs : List (String × String)) : Attributes :=
  setAll ∅ pairs

/-- Whether two attribute lists hold the same keys with the same values, in any
order. -/
def sameMap (a b : Attributes) : Bool :=
  a.entries.length == b.entries.length &&
    a.entries.all fun (key, value) => b.get? key == some value

end Attributes

end HtmlBuilder
