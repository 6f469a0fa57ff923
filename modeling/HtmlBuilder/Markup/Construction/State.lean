import HtmlBuilder.Markup.Arena
import HtmlBuilder.Markup.Token

/-!
The state in which a tree is constructed from tokens: the tree so far, the
elements that are still open, the formatting elements that reach across other
elements, and what kind of content is expected next. The operations here are the
ones that all rules are made of: finding out what is open, closing elements and
inserting nodes at the current place.
-/

namespace HtmlBuilder.Markup

structure OpenElement where
  id : Nat
  space : Namespace
  name : TagName
deriving DecidableEq, Inhabited

namespace OpenElement

def isHtml (element : OpenElement) : Bool := element.space == .html

def isOneOf (names : List String) (element : OpenElement) : Bool :=
  element.isHtml && names.contains element.name.text

def isNamed (name : String) (element : OpenElement) : Bool :=
  element.isHtml && element.name.text == name

/-- The elements of mathematical markup whose text is ordinary text. -/
def isTextPoint (element : OpenElement) : Bool :=
  element.space == .mathml &&
  ["mi", "mo", "mn", "ms", "mtext"].contains element.name.text

/-- The elements of vector graphics whose content is ordinary markup. -/
def isMarkupPoint (element : OpenElement) : Bool :=
  element.space == .svg &&
  ["foreignObject", "desc", "title"].contains element.name.text

/-- The elements that no search for an open element looks beyond. -/
def boundsScope (element : OpenElement) : Bool :=
  element.isOneOf
    ["applet", "caption", "html", "table", "td", "th", "marquee", "object",
      "template"] ||
    element.isTextPoint || element.isMarkupPoint

def boundsListScope (element : OpenElement) : Bool :=
  element.boundsScope || element.isOneOf ["ol", "ul"]

def boundsButtonScope (element : OpenElement) : Bool :=
  element.boundsScope || element.isNamed "button"

def boundsTableScope (element : OpenElement) : Bool :=
  element.isOneOf ["html", "table", "template"]

def boundsSelectScope (element : OpenElement) : Bool :=
  !element.isOneOf ["optgroup", "option"]

def mayBeUnclosed (element : OpenElement) : Bool :=
  element.isOneOf ["dd", "dt", "li", "option", "optgroup", "p", "rb", "rp",
    "rt", "rtc"]

/-- The elements that the end of a template closes. -/
def mayBeUnclosedInTemplate (element : OpenElement) : Bool :=
  element.mayBeUnclosed ||
    element.isOneOf ["caption", "colgroup", "tbody", "td", "tfoot", "th",
      "thead", "tr"]

def isHeading (element : OpenElement) : Bool :=
  element.isOneOf ["h1", "h2", "h3", "h4", "h5", "h6"]

def isCell (element : OpenElement) : Bool :=
  element.isOneOf ["td", "th"]

def specialNames : List String := [
  "address", "applet", "area", "article", "aside", "base", "basefont",
  "bgsound", "blockquote", "body", "br", "button", "caption", "center", "col",
  "colgroup", "dd", "details", "dir", "div", "dl", "dt", "embed", "fieldset",
  "figcaption", "figure", "footer", "form", "frame", "frameset", "h1", "h2",
  "h3", "h4", "h5", "h6", "head", "header", "hgroup", "hr", "html",
  "iframe", "img", "input", "isindex", "li", "link", "listing", "main",
  "marquee", "menu", "meta", "nav", "noembed", "noframes", "noscript", "object",
  "ol", "p", "param", "plaintext", "pre", "script", "search", "section",
  "select", "source", "style", "summary", "table", "tbody", "td", "template",
  "textarea", "tfoot", "th", "thead", "title", "tr", "track", "ul",
  "wbr", "xmp"]

/-- The elements that an end tag of another element does not close. -/
def isSpecial (element : OpenElement) : Bool :=
  element.isOneOf specialNames

end OpenElement

inductive Mode where
  | initial
  | beforeHtml
  | beforeHead
  | inHead
  | afterHead
  | inBody
  | text
  | inTable
  | inTableText
  | inCaption
  | inColumnGroup
  | inTableBody
  | inRow
  | inCell
  | inSelect
  | inSelectInTable
  | inTemplate
  | afterBody
  | inFrameset
  | afterFrameset
  | afterAfterBody
  | afterAfterFrameset
deriving DecidableEq, Inhabited

/-- An entry of the list of formatting elements: an element with the attributes
it was written with, or the boundary that some elements put up. -/
inductive FormatEntry where
  | marker
  | element (element : OpenElement) (attributes : List (String × String))
deriving DecidableEq

inductive Place where
  /-- Behind the children of a cell. -/
  | inside (parent : Nat)
  /-- In front of a table, or inside another cell if the table has no parent. -/
  | beforeTable (table fallback : Nat)

structure Construction where
  arena : Arena := .empty
  /-- The open elements, the innermost one first. -/
  stack : List OpenElement := []
  /-- The formatting elements, the newest one first. -/
  formatting : List FormatEntry := []
  mode : Mode := .initial
  /-- The mode to return to behind a text or the text of a table. -/
  returnMode : Mode := .initial
  templateModes : List Mode := []
  head? : Option OpenElement := none
  form? : Option OpenElement := none
  /-- Whether the body may still be replaced by a set of frames. -/
  framesetOk : Bool := true
  quirks : Bool := false
  /-- Whether nodes that do not belong into a table are put in front of it. -/
  fostering : Bool := false
  /-- The characters of a table that are not inserted yet, newest first. -/
  tableText : List Char := []
  /-- Whether a line feed that follows at once is dropped. -/
  skipLineFeed : Bool := false
  /-- How the text goes on inside an element of raw text. -/
  raw? : Option ContentMode := none
  /-- Whether the text is the content of a body instead of a whole document. -/
  fragment : Bool := false

namespace Construction

variable (s : Construction)

def current? : Option OpenElement := s.stack.head?

def currentIs (condition : OpenElement → Bool) : Bool :=
  s.current?.any condition

def push (element : OpenElement) : Construction :=
  { s with stack := element :: s.stack }

def pop : Construction :=
  { s with stack := s.stack.drop 1 }

def isOpen (id : Nat) : Bool :=
  s.stack.any fun element => element.id == id

def hasOpen (name : String) : Bool :=
  s.stack.any (·.isNamed name)

/-- Searches the open elements from the innermost one up to a boundary. -/
def inScopeOf (bounds target : OpenElement → Bool) : List OpenElement → Bool
  | [] => false
  | element :: rest =>
    if target element then true
    else if bounds element then false
    else inScopeOf bounds target rest

def inScope (target : OpenElement → Bool) : Bool :=
  inScopeOf OpenElement.boundsScope target s.stack

def inListScope (name : String) : Bool :=
  inScopeOf OpenElement.boundsListScope (·.isNamed name) s.stack

def inButtonScope (name : String) : Bool :=
  inScopeOf OpenElement.boundsButtonScope (·.isNamed name) s.stack

def inTableScope (target : OpenElement → Bool) : Bool :=
  inScopeOf OpenElement.boundsTableScope target s.stack

def inSelectScope (name : String) : Bool :=
  inScopeOf OpenElement.boundsSelectScope (·.isNamed name) s.stack

def popWhile (condition : OpenElement → Bool) : Construction :=
  { s with stack := s.stack.dropWhile condition }

def popThrough (condition : OpenElement → Bool) : Construction :=
  { s with
    stack := (s.stack.dropWhile fun element => !condition element).drop 1 }

def popUntil (condition : OpenElement → Bool) : Construction :=
  s.popWhile fun element => !condition element

def closeImplied : Construction :=
  s.popWhile OpenElement.mayBeUnclosed

def closeImpliedExcept (name : String) : Construction :=
  s.popWhile fun element => element.mayBeUnclosed && !element.isNamed name

def closeParagraph : Construction :=
  (s.closeImpliedExcept "p").popThrough (·.isNamed "p")

/-- Closes the paragraph that a block ends, if one is open. -/
def closeOpenParagraph : Construction :=
  if s.inButtonScope "p" then s.closeParagraph else s

def removeOpen (id : Nat) : Construction :=
  { s with stack := s.stack.eraseP fun element => element.id == id }

/-- Where the children of an element are put: for a template, into its
content. -/
def insideOf (element : OpenElement) : Place :=
  .inside (if element.isNamed "template" then s.arena.contentsOf element.id
           else element.id)

/-- The place in front of the innermost table, or in the content of a template
inside it. -/
def fosterPlace : List OpenElement → Place
  | [] => .inside 0
  | [outermost] => s.insideOf outermost
  | element :: outer :: rest =>
    if element.isNamed "template" then s.insideOf element
    else if element.isNamed "table" then .beforeTable element.id outer.id
    else fosterPlace (outer :: rest)

def placeIn (target : OpenElement) : Place :=
  if s.fostering && target.isOneOf ["table", "tbody", "tfoot",
    "thead", "tr"] then
    s.fosterPlace s.stack
  else s.insideOf target

def place : Place :=
  match s.current? with
  | some element => s.placeIn element
  | none => .inside 0

def insertAt (place : Place) (id : Nat) : Construction :=
  match place with
  | .inside parent => { s with arena := s.arena.append parent id }
  | .beforeTable table fallback =>
    match s.arena.parent? table with
    | some parent => { s with arena := s.arena.insertBefore parent table id }
    | none => { s with arena := s.arena.append fallback id }

def insertCharacter (c : Char) : Construction :=
  match s.place with
  | .inside parent => { s with arena := s.arena.appendCharacter parent c }
  | .beforeTable table fallback =>
    match s.arena.parent? table with
    | some parent =>
      { s with arena := s.arena.insertCharacterBefore parent table c }
    | none => { s with arena := s.arena.appendCharacter fallback c }

def insertCommentInside (parent : Nat) (text : String) : Construction :=
  { s with
    arena := (s.arena.create (.comment text)).append parent s.arena.next }

def insertComment (text : String) : Construction :=
  let place := s.place
  let id := s.arena.next
  { s with arena := s.arena.create (.comment text) }.insertAt place id

def createElement (space : Namespace) (name : TagName)
    (attributes : List (String × String)) : Construction × OpenElement :=
  let id := s.arena.next
  let arena := s.arena.create (.element space name attributes)
  let arena :=
    if space == .html && name.text == "template" then
      (arena.create .contents).append id arena.next
    else arena
  ({ s with arena }, ⟨id, space, name⟩)

def insertElement (space : Namespace) (name : TagName)
    (attributes : List (String × String)) : Construction × OpenElement :=
  let place := s.place
  let (created, element) := s.createElement space name attributes
  (created.insertAt place element.id, element)

def openHtml (name : TagName) (attributes : List (String × String)) :
    Construction :=
  let (inserted, element) := s.insertElement .html name attributes
  inserted.push element

def openTag (tag : Tag) : Construction :=
  s.openHtml tag.name tag.attributes

def insertTag (tag : Tag) : Construction :=
  (s.insertElement .html tag.name tag.attributes).1

def forbidFrameset : Construction :=
  { s with framesetOk := false }

/-- Opens an element whose text is read in a way of its own. -/
def openRaw (tag : Tag) (raw : ContentMode) : Construction :=
  { s.openTag tag with raw? := some raw, returnMode := s.mode, mode := .text }

def clearFormatting : Construction :=
  { s with
    formatting :=
      (s.formatting.dropWhile fun entry => entry != .marker).drop 1 }

def markFormatting : Construction :=
  { s with formatting := .marker :: s.formatting }

/-- The mode that the open elements ask for, looking from the innermost one
outwards. -/
def modeOf : List OpenElement → Mode
  | [] => .inBody
  | element :: outer =>
    if outer.isEmpty && s.fragment then .inBody
    else if !element.isHtml then modeOf outer
    else match element.name.text with
      | "select" =>
        match outer.find? (·.isOneOf ["template", "table"]) with
        | some found =>
          if found.isNamed "table" then .inSelectInTable else .inSelect
        | none => .inSelect
      | "td" | "th" => if outer.isEmpty then .inBody else .inCell
      | "tr" => .inRow
      | "tbody" | "thead" | "tfoot" => .inTableBody
      | "caption" => .inCaption
      | "colgroup" => .inColumnGroup
      | "table" => .inTable
      | "template" => s.templateModes.headD .inTemplate
      | "head" => if outer.isEmpty then .inBody else .inHead
      | "body" => .inBody
      | "frameset" => .inFrameset
      | "html" => if s.head?.isSome then .afterHead else .beforeHead
      | _ => modeOf outer

def resetMode : Construction :=
  { s with mode := s.modeOf s.stack }

end Construction

/-- The state behind a rule, and whether the same token is to be handled again
in its mode. -/
structure Outcome where
  state : Construction
  again : Bool

namespace Construction

def done (s : Construction) : Outcome := ⟨s, false⟩

def again (s : Construction) (mode : Mode) : Outcome := ⟨{ s with mode }, true⟩

end Construction

/-- The white space that separates markup, with the carriage returns that
references stand for. -/
def isSeparator (c : Char) : Bool :=
  isSpace c || c == '\r'

end HtmlBuilder.Markup
