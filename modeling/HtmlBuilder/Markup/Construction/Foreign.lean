import HtmlBuilder.Markup.Construction.Table

/-!
The content of elements of other vocabularies. Their elements nest as they are
written, except that some tags of ordinary markup end the foreign content. Some
foreign elements hold ordinary markup.
-/

namespace HtmlBuilder.Markup

namespace Construction

def isForeign (s : Construction) (token : Token) : Bool :=
  match s.current? with
  | none => false
  | some element =>
    if element.isHtml then false
    else match token with
      | .finish => false
      | .character _ => !element.isTextPoint && !element.isMarkupPoint
      | .startTag tag =>
        let isSvgInAnnotation :=
          element.space == .mathml && element.name.text == "annotation-xml" &&
            tag.name.text == "svg"
        let isOrdinary :=
          (element.isTextPoint &&
            !(["mglyph", "malignmark"].contains tag.name.text)) ||
            element.isMarkupPoint || isSvgInAnnotation
        !isOrdinary
      | _ => true

def endsForeign (tag : Tag) : Bool :=
  match tag.name.text with
  | "b" | "big" | "blockquote" | "body" | "br" | "center" | "code" | "dd"
  | "div" | "dl" | "dt" | "em" | "embed" | "h1" | "h2" | "h3" | "h4" | "h5"
  | "h6" | "head" | "hr" | "i" | "img" | "li" | "listing" | "menu" | "meta"
  | "nobr" | "ol" | "p" | "pre" | "ruby" | "s" | "small" | "span" | "strong"
  | "strike" | "sub" | "sup" | "table" | "tt" | "u" | "ul" | "var" => true
  | "font" => tag.attributes.any fun (key, _) =>
    ["color", "face", "size"].contains key
  | _ => false

/-- Closes the foreign elements around the current place, up to one that holds
ordinary markup. -/
def leaveForeign (s : Construction) : Construction :=
  s.popUntil fun element =>
    element.isHtml || element.isTextPoint || element.isMarkupPoint

def startForeign (s : Construction) (tag : Tag) : Construction :=
  match s.current? with
  | some element =>
    s.openForeign element.space
      { tag with name := element.space.adjustName tag.name }
  | none => s

/-- What an end tag in foreign content does: it closes an open foreign element
of its name, or it is handled like ordinary markup, or it does nothing. -/
inductive ForeignEnd where
  | close (outer : List OpenElement)
  | ordinary
  | nothing

/-- Looks for the element that an end tag closes, from the innermost one
outwards; `isFirst` tells whether the current element is looked at. -/
def foreignEnd (name : TagName) (isFirst : Bool) : List OpenElement → ForeignEnd
  | [] => .nothing
  | [_] => .nothing
  | element :: outer :: rest =>
    if !isFirst && element.isHtml then .ordinary
    else if element.name.text.toList.map Char.toLower == name.text.toList then
      .close (outer :: rest)
    else foreignEnd name false (outer :: rest)

end Construction

end HtmlBuilder.Markup
