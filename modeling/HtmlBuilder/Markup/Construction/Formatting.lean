import HtmlBuilder.Markup.Construction.State

/-!
Formatting elements, such as bold text or links. They reach across the ends of
other elements: a formatting element whose end tag is still missing is opened
again where text goes on, and an end tag that comes too early splits the
elements in between. At most three equal elements are kept between two
boundaries.
-/

namespace HtmlBuilder.Markup

namespace FormatEntry

def isMarker (entry : FormatEntry) : Bool :=
  entry == .marker

def isElement (id : Nat) (entry : FormatEntry) : Bool :=
  match entry with
  | .marker => false
  | .element opened _ => opened.id == id

end FormatEntry

namespace Construction

/-- Whether two attribute lists without repeated keys hold the same attributes
in any order. -/
def sameAttributes (a b : List (String × String)) : Bool :=
  a.length == b.length && a.all b.contains

def recentFormatting (s : Construction) : List FormatEntry :=
  s.formatting.takeWhile fun entry => !entry.isMarker

def madeBy (tag : Tag) (entry : FormatEntry) : Bool :=
  match entry with
  | .marker => false
  | .element element attributes =>
    element.name == tag.name && sameAttributes attributes tag.attributes

def removeFormatting (s : Construction) (id : Nat) : Construction :=
  { s with formatting := s.formatting.eraseP (·.isElement id) }

def isFormatting (s : Construction) (id : Nat) : Bool :=
  s.formatting.any (·.isElement id)

/-- Opens a formatting element; the oldest of three equal ones is forgotten. -/
def openFormatting (s : Construction) (tag : Tag) : Construction :=
  let equal := s.recentFormatting.filter (madeBy tag)
  let s :=
    if equal.length < 3 then s
    else match equal.getLast? with
      | some (.element oldest _) => s.removeFormatting oldest.id
      | _ => s
  let (inserted, element) := s.insertElement .html tag.name tag.attributes
  { inserted.push element with
    formatting := .element element tag.attributes :: inserted.formatting }

/-- The newest formatting entries that have to be opened again, the newest one
first: the ones before the first boundary or open element. -/
def unopened (s : Construction) : List FormatEntry :=
  s.formatting.takeWhile fun entry =>
    match entry with
    | .marker => false
    | .element element _ => !s.isOpen element.id

/-- Opens formatting elements again, in order, and puts them in front of the
entries in `kept`. -/
def reopen (s : Construction) (kept : List FormatEntry) :
    List FormatEntry → Construction
  | [] => { s with formatting := kept }
  | .marker :: rest => s.reopen (.marker :: kept) rest
  | .element old attributes :: rest =>
    let (inserted, element) := s.insertElement .html old.name attributes
    (inserted.push element).reopen (.element element attributes :: kept) rest

def reconstruct (s : Construction) : Construction :=
  match s.unopened with
  | [] => s
  | entries => s.reopen (s.formatting.drop entries.length) entries.reverse

/-- Handles an end tag that closes whatever element of its name is open, unless
a special element stands before it. -/
def endOther (s : Construction) (name : TagName) : Construction :=
  match s.stack.find? fun element =>
    element.isNamed name.text || element.isSpecial with
  | some found =>
    if found.isNamed name.text then
      s.popThrough fun element => element.id == found.id
    else s
  | none => s

/-- Where the entry of a split element goes: in place of the old one, or newer
than another one. -/
inductive Bookmark where
  | replace
  | newerThan (id : Nat)

structure Splitting where
  state : Construction
  /-- The node that goes into the next element. -/
  last : Nat
  bookmark : Bookmark := .replace
  /-- The elements that stay open, the outermost one first. -/
  kept : List OpenElement := []
  count : Nat := 0

/-- Splits the element next to the ones split so far: it stays open as a copy if
it is a formatting element and among the first three, and is closed
otherwise. -/
def splitElement (block : Nat) (splitting : Splitting) (element : OpenElement) :
    Splitting :=
  let s := splitting.state
  let splitting := { splitting with count := splitting.count + 1 }
  match s.formatting.find? (·.isElement element.id) with
  | some (.element _ attributes) =>
    if splitting.count > 3 then
      { splitting with state := s.removeFormatting element.id }
    else
      let (created, copy) := s.createElement .html element.name attributes
      let arena :=
        (created.arena.detach splitting.last).append copy.id splitting.last
      let formatting := created.formatting.map fun entry =>
        if entry.isElement element.id then .element copy attributes else entry
      { splitting with
        state := { created with arena, formatting }
        last := copy.id
        bookmark :=
          if splitting.last == block then .newerThan copy.id
          else splitting.bookmark
        kept := copy :: splitting.kept }
  | _ => splitting

def placeEntry (entries : List FormatEntry) (bookmark : Bookmark) (old : Nat)
    (entry : FormatEntry) : List FormatEntry :=
  match bookmark with
  | .replace => entries.map fun other =>
    if other.isElement old then entry else other
  | .newerThan id =>
    (entries.flatMap fun other => if other.isElement id then [entry, other]
     else [other]).eraseP
      (·.isElement old)

/-- Whether handling an end tag of a formatting element goes on with the next
such element. -/
structure Adoption where
  state : Construction
  goesOn : Bool

/-- Splits the elements between a formatting element and the outermost block
inside it: the block keeps its content, which goes into a copy of the formatting
element. `inner` holds the open elements inside the formatting element, the
innermost one first, and `outer` the ones around it. -/
def splitAround (s : Construction) (formatting : OpenElement)
    (attributes : List (String × String))
    (block ancestor : OpenElement) (inner outer : List OpenElement) :
    Construction :=
  let insideBlock := inner.takeWhile fun element => element.id != block.id
  let between := (inner.dropWhile fun element => element.id != block.id).drop 1
  let split :=
    between.foldl (splitElement block.id) { state := s, last := block.id }
  let s := split.state
  let s := { s with arena := s.arena.detach split.last }
  let s := s.insertAt (s.placeIn ancestor) split.last
  let (s, copy) := s.createElement .html formatting.name attributes
  { s with
    arena := (s.arena.moveChildren block.id copy.id).append block.id copy.id
    formatting :=
      placeEntry s.formatting split.bookmark formatting.id
        (.element copy attributes)
    stack := insideBlock ++ copy :: block :: split.kept.reverse ++ outer }

def adoptOnce (s : Construction) (name : TagName) : Adoption :=
  match s.recentFormatting.find? fun entry =>
      match entry with
      | .marker => false
      | .element element _ => element.name == name with
  | some (.element element attributes) =>
    if !s.isOpen element.id then ⟨s.removeFormatting element.id, false⟩
    else if !s.inScope fun other => other.id == element.id then ⟨s, false⟩
    else
      let inner := s.stack.takeWhile fun other => other.id != element.id
      let outer :=
        (s.stack.dropWhile fun other => other.id != element.id).drop 1
      match inner.reverse.find? OpenElement.isSpecial, outer with
      | some block, ancestor :: _ =>
        ⟨s.splitAround element attributes block ancestor inner outer, true⟩
      | _, _ => ⟨{ s with stack := outer }.removeFormatting element.id, false⟩
  | _ => ⟨s.endOther name, false⟩

def adoptTimes (s : Construction) (name : TagName) : Nat → Construction
  | 0 => s
  | times + 1 =>
    let adoption := s.adoptOnce name
    if adoption.goesOn then adoption.state.adoptTimes name times
    else adoption.state

def adopt (s : Construction) (name : TagName) : Construction :=
  if s.currentIs fun element =>
    element.isNamed name.text && !s.isFormatting element.id then s.pop
  else s.adoptTimes name 8

def closeLink (s : Construction) (name : TagName) : Construction :=
  match s.recentFormatting.find? fun entry =>
      match entry with
      | .marker => false
      | .element element _ => element.isNamed "a" with
  | some (.element element _) =>
    ((s.adopt name).removeFormatting element.id).removeOpen element.id
  | _ => s

end Construction

end HtmlBuilder.Markup
