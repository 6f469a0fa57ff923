import HtmlBuilder.Markup.TagName
import HtmlBuilder.Node

/-!
Parsed markup and the nodes made of it. The content of a template stands in a
subtree of its own below the template, which has no node: it is dropped when the
nodes are made. Text directly inside a script or a style sheet becomes raw data.
-/

namespace HtmlBuilder.Markup

inductive Dom where
  | element (name : TagName) (attributes : List (String × String))
      (children : List Dom)
  | text (value : String)
  | comment (value : String)
  | doctype
  /-- The content of a template. -/
  | contents (children : List Dom)
deriving Inhabited

namespace Dom

mutual

def size (tree : Dom) : Nat :=
  match tree with
  | .element _ _ children | .contents children => 1 + sizeAll children
  | .text _ | .comment _ | .doctype => 1

def sizeAll (trees : List Dom) : Nat :=
  match trees with
  | [] => 0
  | tree :: rest => size tree + sizeAll rest

end

def isNamed (name : TagName) (tree : Dom) : Bool :=
  match tree with
  | .element other _ _ => name == other
  | _ => false

def childrenOf (tree : Dom) : List Dom :=
  match tree with
  | .element _ _ children => children
  | _ => []

end Dom

/-- An element that is still being made: its node with the children so far,
newest first, and the trees its other children are made of. -/
structure Frame where
  node : Node
  /-- Whether text in the element is raw data. -/
  raw : Bool
  done : List Node
  pending : List Dom

namespace Frame

def start (name : TagName) (attributes : List (String × String))
    (children : List Dom) : Frame :=
  ⟨Node.elementWith name.text attributes, isRawTextElement name.text,
    [], children⟩

def add (frame : Frame) (child : Node) : Frame :=
  { frame with done := child :: frame.done }

def finish (frame : Frame) : Node :=
  { frame.node with children := frame.done.reverse }

def cost (frame : Frame) : Nat :=
  1 + 2 * Dom.sizeAll frame.pending

def costAll : List Frame → Nat
  | [] => 0
  | frame :: rest => frame.cost + costAll rest

end Frame

def assemble (frame : Frame) (parents : List Frame) : Node :=
  match frame with
  | ⟨node, raw, done, []⟩ =>
    let made := Frame.finish ⟨node, raw, done, []⟩
    match parents with
    | [] => made
    | parent :: parents => assemble (parent.add made) parents
  | ⟨node, raw, done, .element name attributes children :: rest⟩ =>
    assemble (Frame.start name attributes children)
      (⟨node, raw, done, rest⟩ :: parents)
  | ⟨node, raw, done, .text value :: rest⟩ =>
    let child := if raw then Node.rawData value else Node.text value
    assemble ⟨node, raw, child :: done, rest⟩ parents
  | ⟨node, raw, done, .comment value :: rest⟩ =>
    assemble ⟨node, raw, Node.comment value :: done, rest⟩ parents
  | ⟨node, raw, done, .doctype :: rest⟩ =>
    assemble ⟨node, raw, Node.doctype :: done, rest⟩ parents
  | ⟨node, raw, done, .contents _ :: rest⟩ =>
    assemble ⟨node, raw, done, rest⟩ parents
termination_by frame.cost + Frame.costAll parents
decreasing_by
  all_goals
    simp only [Frame.cost, Frame.costAll, Frame.add, Frame.start,
      Dom.sizeAll, Dom.size]
    omega

def elementNode (name : TagName) (attributes : List (String × String))
    (children : List Dom) : Node :=
  assemble (Frame.start name attributes children) []

end HtmlBuilder.Markup
