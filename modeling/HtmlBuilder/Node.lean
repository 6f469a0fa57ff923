import HtmlBuilder.Attributes
import HtmlBuilder.Text.Lowercase

/-!
The markup tree that is written as builder calls. A node has a kind, a name,
perhaps a value, attributes and children. The names that start with a number
sign are reserved for the kinds other than elements; the kind of a new node
follows from its name.
-/

namespace HtmlBuilder

inductive NodeKind where
  | document
  | doctype
  | text
  | comment
  | rawData
  | element
deriving DecidableEq, Repr, Inhabited

/-- The kind that a node name stands for: a reserved name or the name of an
element. -/
def NodeKind.ofName (name : String) : NodeKind :=
  match name with
  | "#document" => .document
  | "#doctype" => .doctype
  | "#text" => .text
  | "#comment" => .comment
  | "#data" => .rawData
  | _ => .element

structure Node where
  kind : NodeKind
  name : String
  value? : Option String
  attributes : Attributes
  children : List Node
deriving Inhabited

namespace Node

def named (name : String) (value? : Option String) : Node :=
  ⟨NodeKind.ofName name, name, value?, ∅, []⟩

/-- An element without attributes. Its name is written in lower case before it
gets its kind. -/
def element (name : String) : Node :=
  named (Text.lowercase name) none

def elementWith (name : String) (pairs : List (String × String)) : Node :=
  { element name with attributes := Attributes.ofList pairs }

def text (value : String) : Node := named "#text" (some value)

def comment (value : String) : Node := named "#comment" (some value)

def rawData (value : String) : Node := named "#data" (some value)

def doctype : Node := named "#doctype" none

def document : Node := named "#document" none

def isElement (node : Node) : Bool := node.kind == .element

def isText (node : Node) : Bool := node.kind == .text

def value (node : Node) : String := node.value?.getD ""

def hasChildren (node : Node) : Bool := !node.children.isEmpty

def attr? (node : Node) (key : String) : Option String :=
  node.attributes.get? key

def hasAttr (node : Node) (key : String) : Bool := node.attributes.contains key

def setAttr (node : Node) (key value : String) : Node :=
  { node with attributes := node.attributes.set key value }

def addChild (node child : Node) : Node :=
  { node with children := node.children ++ [child] }

def wrap (node : Node) (name : String) : Node :=
  (element name).addChild node

mutual

def size (node : Node) : Nat :=
  match node with
  | ⟨_, _, _, _, children⟩ => 1 + sizeAll children

def sizeAll (nodes : List Node) : Nat :=
  match nodes with
  | [] => 0
  | node :: rest => size node + sizeAll rest

end

theorem size_eq (node : Node) : node.size = 1 + sizeAll node.children := by
  cases node
  simp [size]

mutual

/-- Whether two nodes are equal: same kind, name and value, the same attributes
in any order, and equal children in the same order. -/
def same (a b : Node) : Bool :=
  match a, b with
  | ⟨kindA, nameA, valueA, attributesA, childrenA⟩,
      ⟨kindB, nameB, valueB, attributesB, childrenB⟩ =>
    kindA == kindB && nameA == nameB && valueA == valueB &&
      attributesA.sameMap attributesB && sameAll childrenA childrenB

def sameAll (as bs : List Node) : Bool :=
  match as, bs with
  | [], [] => true
  | a :: as, b :: bs => same a b && sameAll as bs
  | _, _ => false

end

end Node

/-- The elements whose text is data of its own language, kept as it is. -/
def isRawTextElement (name : String) : Bool :=
  let lower := Text.lowercase name
  lower == "script" || lower == "style"

end HtmlBuilder
