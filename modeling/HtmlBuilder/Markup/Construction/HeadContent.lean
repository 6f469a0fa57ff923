import HtmlBuilder.Markup.Construction.State

/-!
The elements that belong into the head of a document and are allowed elsewhere:
titles, style sheets, scripts, templates and elements without content. The
content of a template is constructed in a mode of its own, behind a boundary for
formatting elements.
-/

namespace HtmlBuilder.Markup

namespace Construction

def openTemplate (s : Construction) (tag : Tag) : Construction :=
  { s.markFormatting.openTag tag with
    framesetOk := false
    mode := .inTemplate
    templateModes := .inTemplate :: s.templateModes }

def closeTemplate (s : Construction) : Construction :=
  if s.hasOpen "template" then
    let s := (s.popWhile OpenElement.mayBeUnclosedInTemplate).popThrough
      (·.isNamed "template")
    resetMode { s.clearFormatting with templateModes := s.templateModes.drop 1 }
  else s

/-- The start tags that are handled alike in the head and in the body. -/
def headContentNames : List String := [
  "base", "basefont", "bgsound", "link", "meta", "noframes", "script", "style",
  "template", "title"]

def startHeadContent (s : Construction) (tag : Tag) : Construction :=
  match tag.name.text with
  | "title" => s.openRaw tag (.escapable tag.name)
  | "noframes" | "style" | "noscript" => s.openRaw tag (.raw tag.name)
  | "script" => s.openRaw tag .script
  | "template" => s.openTemplate tag
  | _ => s.insertTag tag

def startHtml (s : Construction) (tag : Tag) : Construction :=
  match s.stack.getLast? with
  | some outermost =>
    if s.hasOpen "template" then s
    else { s with
      arena := s.arena.addMissingAttributes outermost.id tag.attributes }
  | none => s

def switchTemplate (s : Construction) (mode : Mode) : Outcome :=
  { s with templateModes := mode :: s.templateModes.drop 1 }.again mode

/-- The end of the text inside a template closes it. -/
def finishTemplate (s : Construction) : Outcome :=
  if s.hasOpen "template" then
    let s := s.popThrough (·.isNamed "template")
    let s :=
      resetMode { s.clearFormatting with
        templateModes := s.templateModes.drop 1 }
    s.again s.mode
  else s.done

end Construction

end HtmlBuilder.Markup
