import HtmlBuilder.Markup.Construction.Formatting
import HtmlBuilder.Markup.Construction.HeadContent

/-!
The content of the body. Start tags and end tags fall into classes by their
name, and each class has one rule: blocks end an open paragraph, formatting
elements are opened again where text goes on, list items end the item before
them, and so on.
-/

namespace HtmlBuilder.Markup

inductive BodyStart where
  | html
  | headContent
  | body
  | frameset
  | block
  | heading
  | preformatted
  | form
  | listItem
  | definition
  | plaintext
  | button
  | link
  | formatting
  | unbroken
  | bounded
  | table
  | empty
  | input
  | parameter
  | rule
  | image
  | textarea
  | example
  | frame
  | raw
  | select
  | option
  | rubyBase
  | rubyText
  | mathml
  | svg
  | misplaced
  | other
deriving DecidableEq

def BodyStart.ofName (name : String) : BodyStart :=
  match name with
  | "html" => .html
  | "base" | "basefont" | "bgsound" | "link" | "meta" | "noframes"
  | "script" | "style" | "template" | "title" => .headContent
  | "body" => .body
  | "frameset" => .frameset
  | "address" | "article" | "aside" | "blockquote" | "center" | "details"
  | "dialog" | "dir" | "div" | "dl" | "fieldset" | "figcaption" | "figure"
  | "footer" | "header" | "hgroup" | "main" | "menu" | "nav" | "ol" | "p"
  | "search" | "section" | "summary" | "ul" => .block
  | "h1" | "h2" | "h3" | "h4" | "h5" | "h6" => .heading
  | "pre" | "listing" => .preformatted
  | "form" => .form
  | "li" => .listItem
  | "dd" | "dt" => .definition
  | "plaintext" => .plaintext
  | "button" => .button
  | "a" => .link
  | "b" | "big" | "code" | "em" | "font" | "i" | "s" | "small" | "strike"
  | "strong" | "tt" | "u" => .formatting
  | "nobr" => .unbroken
  | "applet" | "marquee" | "object" => .bounded
  | "table" => .table
  | "area" | "br" | "embed" | "img" | "keygen" | "wbr" => .empty
  | "input" => .input
  | "param" | "source" | "track" => .parameter
  | "hr" => .rule
  | "image" => .image
  | "textarea" => .textarea
  | "xmp" => .example
  | "iframe" => .frame
  | "noembed" | "noscript" => .raw
  | "select" => .select
  | "optgroup" | "option" => .option
  | "rb" | "rtc" => .rubyBase
  | "rp" | "rt" => .rubyText
  | "math" => .mathml
  | "svg" => .svg
  | "caption" | "col" | "colgroup" | "frame" | "head" | "tbody" | "td" | "tfoot"
  | "th" | "thead" | "tr" => .misplaced
  | _ => .other

inductive BodyEnd where
  | body
  | html
  | block
  | form
  | paragraph
  | listItem
  | definition
  | heading
  | formatting
  | bounded
  | lineBreak
  | template
  | other
deriving DecidableEq

def BodyEnd.ofName (name : String) : BodyEnd :=
  match name with
  | "body" => .body
  | "html" => .html
  | "address" | "article" | "aside" | "blockquote" | "button" | "center"
  | "details" | "dialog" | "dir" | "div" | "dl" | "fieldset" | "figcaption"
  | "figure" | "footer" | "header" | "hgroup" | "listing" | "main" | "menu"
  | "nav" | "ol" | "pre" | "search" | "section" | "summary" | "ul" => .block
  | "form" => .form
  | "p" => .paragraph
  | "li" => .listItem
  | "dd" | "dt" => .definition
  | "h1" | "h2" | "h3" | "h4" | "h5" | "h6" => .heading
  | "a" | "b" | "big" | "code" | "em" | "font" | "i" | "nobr" | "s" | "small"
  | "strike" | "strong" | "tt" | "u" => .formatting
  | "applet" | "marquee" | "object" => .bounded
  | "br" => .lineBreak
  | "template" => .template
  | _ => .other

def Tag.isHidden (tag : Tag) : Bool :=
  (tag.attributes.lookup "type").any fun value =>
    value.toList.map Char.toLower == "hidden".toList

namespace Construction

def body? (s : Construction) : Option OpenElement :=
  match s.stack.reverse with
  | _ :: body :: _ => if body.isNamed "body" then some body else none
  | _ => none

/-- Gives the body the attributes of a repeated start tag that it lacks. -/
def startBody (s : Construction) (tag : Tag) : Construction :=
  match s.body? with
  | some body =>
    if s.hasOpen "template" then s
    else { s with
      framesetOk := false
      arena := s.arena.addMissingAttributes body.id tag.attributes }
  | none => s

def startFrameset (s : Construction) (tag : Tag) : Construction :=
  match s.framesetOk, s.body? with
  | true, some body =>
    let s := { s with
      arena := s.arena.detach body.id
      stack := s.stack.getLast?.toList }
    { s.openTag tag with mode := .inFrameset }
  | _, _ => s

/-- Closes the list item or the definition that a new one ends. The search stops
at special elements other than the ones that often stand inside items. -/
def closeItem (s : Construction) (names : List String) : Construction :=
  let stops := fun element : OpenElement =>
    element.isOneOf names ||
      (element.isSpecial && !element.isOneOf ["address", "div", "p"])
  match s.stack.find? stops with
  | some found =>
    if found.isOneOf names then
      (s.closeImpliedExcept found.name.text).popThrough
        (·.isNamed found.name.text)
    else s
  | none => s

/-- Inserts an element that has no content, behind the formatting elements that
are still open. -/
def insertEmpty (s : Construction) (tag : Tag) : Construction :=
  (s.reconstruct.insertTag tag).forbidFrameset

def openForeign (s : Construction) (space : Namespace) (tag : Tag) :
    Construction :=
  let (inserted, element) :=
    s.insertElement space tag.name (space.adjustAttributes tag.attributes)
  if tag.selfClosing then inserted else inserted.push element

def selectMode (mode : Mode) : Mode :=
  match mode with
  | .inTable | .inCaption | .inTableBody | .inRow | .inCell => .inSelectInTable
  | _ => .inSelect

def bodyStart (s : Construction) (tag : Tag) : Construction :=
  match BodyStart.ofName tag.name.text with
  | .html => s.startHtml tag
  | .headContent => s.startHeadContent tag
  | .body => s.startBody tag
  | .frameset => s.startFrameset tag
  | .block => s.closeOpenParagraph.openTag tag
  | .heading =>
    let s := s.closeOpenParagraph
    (if s.currentIs OpenElement.isHeading then s.pop else s).openTag tag
  | .preformatted =>
    { s.closeOpenParagraph.openTag tag with
      skipLineFeed := true, framesetOk := false }
  | .form =>
    if s.form?.isSome && !s.hasOpen "template" then s
    else
      let s := s.closeOpenParagraph.openTag tag
      if s.hasOpen "template" then s else { s with form? := s.current? }
  | .listItem =>
    ((s.forbidFrameset.closeItem ["li"]).closeOpenParagraph).openTag tag
  | .definition =>
    ((s.forbidFrameset.closeItem ["dd", "dt"]).closeOpenParagraph).openTag tag
  | .plaintext => { s.closeOpenParagraph.openTag tag with raw? := some .plain }
  | .button =>
    let s :=
      if s.inScope (·.isNamed "button") then
        s.closeImplied.popThrough (·.isNamed "button")
      else s
    (s.reconstruct.openTag tag).forbidFrameset
  | .link => (s.closeLink tag.name).reconstruct.openFormatting tag
  | .formatting => s.reconstruct.openFormatting tag
  | .unbroken =>
    let s := s.reconstruct
    let s :=
      if s.inScope (·.isNamed "nobr") then (s.adopt tag.name).reconstruct else s
    s.openFormatting tag
  | .bounded => (s.reconstruct.openTag tag).markFormatting.forbidFrameset
  | .table =>
    let s := if s.quirks then s else s.closeOpenParagraph
    { (s.openTag tag).forbidFrameset with mode := .inTable }
  | .empty => s.insertEmpty tag
  | .input =>
    if tag.isHidden then s.reconstruct.insertTag tag else s.insertEmpty tag
  | .parameter => s.insertTag tag
  | .rule => (s.closeOpenParagraph.insertTag tag).forbidFrameset
  | .image => s.insertEmpty { tag with name := .img }
  | .textarea =>
    { s.forbidFrameset.openRaw tag (.escapable tag.name) with
      skipLineFeed := true }
  | .example =>
    s.closeOpenParagraph.reconstruct.forbidFrameset.openRaw tag (.raw tag.name)
  | .frame => s.forbidFrameset.openRaw tag (.raw tag.name)
  | .raw => s.openRaw tag (.raw tag.name)
  | .select =>
    { (s.reconstruct.openTag tag).forbidFrameset with
      mode := selectMode s.mode }
  | .option =>
    (if s.currentIs (·.isNamed "option") then s.pop
     else s).reconstruct.openTag tag
  | .rubyBase =>
    (if s.inScope (·.isNamed "ruby") then s.closeImplied else s).openTag tag
  | .rubyText =>
    (if s.inScope (·.isNamed "ruby") then s.closeImpliedExcept "rtc"
     else s).openTag tag
  | .mathml => s.reconstruct.openForeign .mathml tag
  | .svg => s.reconstruct.openForeign .svg tag
  | .misplaced => s
  | .other => s.reconstruct.openTag tag

def closeForm (s : Construction) : Construction :=
  if s.hasOpen "template" then
    if s.inScope (·.isNamed "form") then
      s.closeImplied.popThrough (·.isNamed "form")
    else s
  else
    match s.form? with
    | none => s
    | some form =>
      let s := { s with form? := none }
      if s.inScope fun element => element.id == form.id then
        s.closeImplied.removeOpen form.id
      else s

def closeNamed (s : Construction) (name : String) : Construction :=
  if s.inScope (·.isNamed name) then
    s.closeImplied.popThrough (·.isNamed name)
  else s

def bodyEnd (s : Construction) (name : TagName) : Outcome :=
  match BodyEnd.ofName name.text with
  | .body =>
    if s.inScope (·.isNamed "body") then { s with mode := .afterBody }.done
    else s.done
  | .html => if s.inScope (·.isNamed "body") then s.again .afterBody else s.done
  | .block => (s.closeNamed name.text).done
  | .form => s.closeForm.done
  | .paragraph =>
    ((if s.inButtonScope "p" then s else s.openHtml .p []).closeParagraph).done
  | .listItem =>
    if s.inListScope "li" then
      ((s.closeImpliedExcept "li").popThrough (·.isNamed "li")).done
    else s.done
  | .definition =>
    if s.inScope (·.isNamed name.text) then
      ((s.closeImpliedExcept name.text).popThrough (·.isNamed name.text)).done
    else s.done
  | .heading =>
    if s.inScope OpenElement.isHeading then
      (s.closeImplied.popThrough OpenElement.isHeading).done
    else s.done
  | .formatting => (s.adopt name).done
  | .bounded =>
    if s.inScope (·.isNamed name.text) then
      (s.closeNamed name.text).clearFormatting.done
    else s.done
  | .lineBreak => (s.insertEmpty ⟨.br, [], false⟩).done
  | .template => s.closeTemplate.done
  | .other => (s.endOther name).done

def bodyCharacter (s : Construction) (c : Char) : Construction :=
  if c = '\x00' then s
  else
    let s := s.reconstruct.insertCharacter c
    if isSeparator c then s else s.forbidFrameset

end Construction

end HtmlBuilder.Markup
