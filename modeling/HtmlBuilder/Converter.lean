import HtmlBuilder.Rule
import HtmlBuilder.Text.Lines
import HtmlBuilder.Traversal

/-!
Writing trees as builder calls. An element becomes a call with its attributes as
arguments and its children as a block, a text becomes a literal, a comment stays
a comment and raw data becomes a literal of its own lines. Lines are written
while the tree is walked: what precedes the children of a node on entry, what
follows them on exit.
-/

namespace HtmlBuilder

/-- The delimiter of a literal that spans several lines. -/
def blockQuote : String := "\"\"\""

structure Converter where
  options : Options := {}
  formatter : Formatter := {}
  rules : Rules := {}

namespace Converter

/-- Registers a rule of its own, which is consulted before the standard ones. -/
def addRule (converter : Converter) (name : String) (rule : Rule) : Converter :=
  { converter with rules := converter.rules.add name rule }

def arguments (converter : Converter) (node : Node) : String :=
  converter.rules.arguments converter.options node.attributes.entries

def linesOf (converter : Converter) (value : String) : List String :=
  (Text.trimLines converter.formatter.lineBreak.toList value.toList).map
    String.ofList

def escaped (line : String) : String :=
  String.ofList (Text.escape line.toList)

def line (converter : Converter) (depth : Nat) (content : String) : String :=
  converter.formatter.line (depth + converter.formatter.baseDepth) content

def block (converter : Converter) (depth : Nat)
    (contents : List String) : String :=
  contents.foldl (fun out content => out ++ converter.line depth content) ""

/-- A text: nothing if it is blank, a literal if it has one line, else a block
of lines. -/
def textLiteral (converter : Converter) (depth : Nat)
    (value : String) : String :=
  match converter.linesOf value with
  | [] => ""
  | [single] => converter.line depth ("+\"" ++ escaped single ++ "\"")
  | several =>
    converter.line depth blockQuote ++
    converter.block (depth + 1) (several.map escaped) ++
      converter.line depth blockQuote

/-- The head of the call for an element: its name, its arguments if there are
any, and the opening of a block if the element has children. -/
def callHead (converter : Converter) (node : Node) : String :=
  let arguments := converter.arguments node
  node.name ++ (if arguments = "" then "" else "(" ++ arguments ++ ")") ++
    (if node.hasChildren then " \x7b" else "")

def opening (converter : Converter) (node : Node) (depth : Nat) : String :=
  match node.kind with
  | .document | .doctype => ""
  | .text => converter.textLiteral depth node.value
  | .comment =>
    converter.line depth "/*" ++
    converter.block (depth + 1) (converter.linesOf node.value)
  | .rawData =>
    converter.line depth blockQuote ++
    converter.block (depth + 1) (converter.linesOf node.value)
  | .element => converter.line depth (converter.callHead node)

def closing (converter : Converter) (node : Node) (depth : Nat) : String :=
  match node.kind with
  | .document | .doctype | .text => ""
  | .comment => converter.line depth "*/"
  | .rawData => converter.line depth blockQuote
  | .element => if node.hasChildren then converter.line depth "\x7d" else ""

def writer (converter : Converter) : Visitor String where
  enter node depth out := out ++ converter.opening node depth
  exit node depth out := out ++ converter.closing node depth

def convertNodes (converter : Converter) (nodes : List Node) : String :=
  nodes.foldl (fun out node => traverse converter.writer node out) ""

def convertNode (converter : Converter) (node : Node) : String :=
  converter.convertNodes [node]

end Converter

end HtmlBuilder
