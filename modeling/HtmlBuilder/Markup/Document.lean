import HtmlBuilder.Converter
import HtmlBuilder.Markup.Construction.Run
import HtmlBuilder.Text.Blank

/-!
From a markup text to nodes. A text with the start tag of a body is a whole
document, of which the head and the body count; any other text is the content of
a body. A text without markup gives nothing but text.
-/

namespace HtmlBuilder

open Markup

structure Document where
  head : Node
  body : Node

def parseFragment (text : String) : List Node :=
  (elementNode .html [] (Dom.parseFragment text)).children

/-- The node of the first element with a given name, or an empty one. -/
def nodeNamed (name : TagName) (trees : List Dom) : Node :=
  match trees.find? (Dom.isNamed name) with
  | some (.element _ attributes children) =>
    elementNode name attributes children
  | _ => Node.element name.text

def parseDocument (text : String) : Document :=
  let children :=
    match (Dom.parseDocument text).find? (Dom.isNamed .html) with
    | some root => root.childrenOf
    | none => []
  ⟨nodeNamed .head children, nodeNamed .body children⟩

/-- Whether a text begins with a start tag of a body: its name in letters of
either case, and a blank character or the closing bracket behind it. -/
def startsBodyTag (text : List Char) : Bool :=
  "<body".toList == (text.take 5).map Char.toLower &&
    match text.drop 5 with
    | c :: _ => Text.isBlank c || c == '>'
    | [] => false

def containsBodyTag : List Char → Bool
  | [] => false
  | c :: rest => startsBodyTag (c :: rest) || containsBodyTag rest

def hasBodyTag (text : String) : Bool :=
  containsBodyTag text.toList

def containsMarkup (text : String) : Bool :=
  hasBodyTag text || (parseFragment text).any fun node => !node.isText

def Converter.convert (converter : Converter) (text : String) : String :=
  if hasBodyTag text then
    let document := parseDocument text
    converter.convertNodes [document.head, document.body]
  else converter.convertNodes (parseFragment text)

end HtmlBuilder
