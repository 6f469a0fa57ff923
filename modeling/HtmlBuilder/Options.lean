/-!
The choices that shape the generated source: whether links become calls of their
own, and the layout of lines. A layout repeats its indent once per level of
nesting and ends every line with its line break, which also decides where the
texts of a tree are split and is therefore never empty.
-/

namespace HtmlBuilder

structure Options where
  /-- Whether the target of a link is written as a direct link instead of a
  plain literal. -/
  directLinks : Bool := false
deriving DecidableEq, Inhabited

structure Formatter where
  indent : String := "\t"
  lineBreak : String := "\n"
  /-- The level of nesting of the outermost nodes. -/
  baseDepth : Nat := 0
  lineBreak_ne_empty : lineBreak ≠ "" := by decide
deriving DecidableEq

instance : Inhabited Formatter := ⟨{}⟩

inductive FormatterError where
  | emptyLineBreak
deriving DecidableEq, Repr

def FormatterError.message : FormatterError → String
  | .emptyLineBreak => "Invalid formatter config: line break must not be empty"

namespace Formatter

def make (indent lineBreak : String) (baseDepth : Nat) :
    Except FormatterError Formatter :=
  if h : lineBreak = "" then .error .emptyLineBreak
  else .ok { indent, lineBreak, baseDepth, lineBreak_ne_empty := h }

theorem baseDepth_of_make {indent lineBreak : String} {baseDepth : Nat}
    {formatter : Formatter}
    (h : make indent lineBreak baseDepth = .ok formatter) :
    formatter.baseDepth = baseDepth := by
  unfold make at h
  split at h <;> cases h
  rfl

/-- A text repeated; nothing is repeated when the text is empty. -/
def repeated (text : String) (count : Nat) : String :=
  if text = "" then "" else Nat.repeat (· ++ text) count ""

def indentation (formatter : Formatter) (depth : Nat) : String :=
  repeated formatter.indent depth

/-- A line of the generated source at an absolute level of nesting. -/
def line (formatter : Formatter) (depth : Nat) (content : String) : String :=
  formatter.indentation depth ++ content ++ formatter.lineBreak

end Formatter

end HtmlBuilder
