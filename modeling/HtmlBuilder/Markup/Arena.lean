import HtmlBuilder.Markup.Dom
import HtmlBuilder.Markup.Vocabulary

/-!
A tree under construction. Its nodes are cells with numbers, so that a node can
be found, moved and given children at any time: an element that is still open,
one that was moved in front of a table, or one that is split because its end tag
came too early. Cell zero is the document.
-/

namespace HtmlBuilder.Markup

inductive Content where
  | document
  | element (space : Namespace) (name : TagName)
      (attributes : List (String × String))
  | text (value : String)
  | comment (value : String)
  | doctype
  | contents
deriving Inhabited

structure Cell where
  content : Content
  parent? : Option Nat := none
  children : Array Nat := #[]
deriving Inhabited

structure Arena where
  cells : Array Cell

namespace Arena

/-- The arena that holds nothing but the document. -/
def empty : Arena := ⟨#[{ content := .document }]⟩

/-- The number that the next cell gets. -/
def next (arena : Arena) : Nat := arena.cells.size

def create (arena : Arena) (content : Content) : Arena :=
  ⟨arena.cells.push { content }⟩

def modify (arena : Arena) (id : Nat) (change : Cell → Cell) : Arena :=
  ⟨arena.cells.modify id change⟩

def parent? (arena : Arena) (id : Nat) : Option Nat :=
  arena.cells[id]?.bind Cell.parent?

def children (arena : Arena) (id : Nat) : Array Nat :=
  (arena.cells[id]?.map Cell.children).getD #[]

def append (arena : Arena) (parent child : Nat) : Arena :=
  (arena.modify child fun cell =>
    { cell with parent? := some parent }).modify parent fun cell =>
    { cell with children := cell.children.push child }

def detach (arena : Arena) (id : Nat) : Arena :=
  match arena.parent? id with
  | none => arena
  | some parent =>
    (arena.modify id fun cell =>
      { cell with parent? := none }).modify parent fun cell =>
      { cell with children := cell.children.filter (· != id) }

def insertBefore (arena : Arena) (parent sibling child : Nat) : Arena :=
  (arena.modify child fun cell =>
    { cell with parent? := some parent }).modify parent fun cell =>
    let (before, after) := cell.children.toList.span (· != sibling)
    { cell with children := (before ++ child :: after).toArray }

def moveChildren (arena : Arena) (source target : Nat) : Arena :=
  let moved := arena.children source
  let emptied := arena.modify source fun cell => { cell with children := #[] }
  moved.foldl (fun arena child => arena.append target child) emptied

def isText (arena : Arena) (id : Nat) : Bool :=
  match arena.cells[id]? with
  | some ⟨.text _, _, _⟩ => true
  | _ => false

def extendText (arena : Arena) (id : Nat) (c : Char) : Arena :=
  arena.modify id fun cell =>
    match cell with
    | ⟨.text value, parent?, children⟩ =>
      ⟨.text (value.push c), parent?, children⟩
    | cell => cell

/-- Puts a character behind the children of a parent; it joins a text that
stands last. -/
def appendCharacter (arena : Arena) (parent : Nat) (c : Char) : Arena :=
  match (arena.children parent).back? with
  | some last =>
    if arena.isText last then arena.extendText last c
    else (arena.create (.text (String.singleton c))).append parent arena.next
  | none => (arena.create (.text (String.singleton c))).append parent arena.next

def previousSibling? (arena : Arena) (parent sibling : Nat) : Option Nat :=
  ((arena.children parent).toList.takeWhile (· != sibling)).getLast?

/-- Puts a character in front of a sibling; it joins a text that stands
there. -/
def insertCharacterBefore (arena : Arena) (parent sibling : Nat)
    (c : Char) : Arena :=
  match arena.previousSibling? parent sibling with
  | some previous =>
    if arena.isText previous then arena.extendText previous c
    else
      (arena.create (.text (String.singleton c))).insertBefore
        parent sibling arena.next
  | none =>
    (arena.create (.text (String.singleton c))).insertBefore
      parent sibling arena.next

def addMissingAttributes (arena : Arena) (id : Nat)
    (attributes : List (String × String)) : Arena :=
  arena.modify id fun cell =>
    match cell with
    | ⟨.element space name old, parent?, children⟩ =>
      ⟨.element space name (old ++ attributes.filter fun (key, _) =>
        (old.lookup key).isNone), parent?, children⟩
    | cell => cell

/-- The cell that holds the content of a template, or the cell itself if it is
no template. -/
def contentsOf (arena : Arena) (id : Nat) : Nat :=
  let isContents := fun child =>
    match arena.cells[child]? with
    | some ⟨.contents, _, _⟩ => true
    | _ => false
  ((arena.children id).toList.find? isContents).getD id

def tree (arena : Arena) (depth id : Nat) : Dom :=
  match depth with
  | 0 => .contents []
  | depth + 1 =>
    match arena.cells[id]? with
    | none => .contents []
    | some cell =>
      match cell.content with
      | .document | .contents =>
        .contents (cell.children.toList.map (tree arena depth))
      | .element _ name attributes =>
        .element name attributes (cell.children.toList.map (tree arena depth))
      | .text value => .text value
      | .comment value => .comment value
      | .doctype => .doctype

/-- The trees of the children of a cell; no tree is deeper than there are
cells. -/
def childTrees (arena : Arena) (id : Nat) : List Dom :=
  (arena.children id).toList.map (tree arena arena.cells.size)

end Arena

end HtmlBuilder.Markup
