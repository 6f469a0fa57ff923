import HtmlBuilder.Proofs.Layout

/-!
Nesting as a recursion. What a converter writes for a tree is what the tree's
root writes around the output of its children, and that output is the one the
same converter gives with its base one level deeper. The depth of a node
therefore shows in its output only as a deeper base.
-/

namespace HtmlBuilder.Converter

variable (converter : Converter)

def linesAt (level : Nat) (contents : List String) : String :=
  String.join (contents.map (converter.formatter.line level))

/-- What a node writes around the output of its children, all of it at the base
of the layout. -/
def enclose (node : Node) (inner : String) : String :=
  let base := converter.formatter.baseDepth
  let line := converter.formatter.line
  let lines := valueLines converter.formatter.lineBreak node.value
  match node.kind with
  | .document | .doctype => inner
  | .text =>
    (match lines with
      | [] => ""
      | [single] =>
        line base ("+\"" ++ String.ofList (Text.escape single.toList) ++ "\"")
      | several =>
        line base "\"\"\"" ++
          converter.linesAt (base + 1)
            (several.map fun line => String.ofList (Text.escape line.toList)) ++
          line base "\"\"\"") ++ inner
  | .comment =>
    line base "/*" ++ converter.linesAt (base + 1) lines ++ inner ++
      line base "*/"
  | .rawData =>
    line base "\"\"\"" ++ converter.linesAt (base + 1) lines ++ inner ++
      line base "\"\"\""
  | .element =>
    let arguments :=
      converter.rules.arguments converter.options node.attributes.entries
    line base
        (node.name ++ (if arguments = "" then "" else "(" ++ arguments ++ ")") ++
          (if node.children.isEmpty then "" else " \x7b")) ++
      inner ++ (if node.children.isEmpty then "" else line base "\x7d")

mutual

/-- A tree written by recursion: the children are written by the converter one
level deeper. -/
def render (converter : Converter) (node : Node) : String :=
  match node with
  | node@⟨_, _, _, _, children⟩ =>
    converter.enclose node (renderAll (converter.raised 1) children)

def renderAll (converter : Converter) (nodes : List Node) : String :=
  match nodes with
  | [] => ""
  | node :: rest => render converter node ++ renderAll converter rest

end

theorem renderAll_eq_join (nodes : List Node) :
    converter.renderAll nodes = String.join (nodes.map converter.render) := by
  induction nodes with
  | nil => simp [renderAll]
  | cons node rest ih => simp [renderAll, ih]

theorem layout_zero (content : String) :
    converter.layout 0 [⟨0, content⟩] =
      converter.formatter.line converter.formatter.baseDepth content := by
  simp [line]

theorem layout_one (contents : List String) :
    converter.layout 0 (contents.map (⟨1, ·⟩)) =
      converter.linesAt (converter.formatter.baseDepth + 1) contents := by
  simp [layout, linesAt, line, Function.comp_def, Nat.add_comm]

/-- The lines of the children, laid out below their parent, are the output of
the children under the converter one level deeper. -/
theorem layout_forestLines_deeper (nodes : List Node) :
    converter.layout 0 ((forestLines converter.options converter.rules
        converter.formatter.lineBreak nodes).map Line.deeper) =
      (converter.raised 1).convertNodes nodes := by
  rw [layout_deeper, convertNodes_eq, layout_raised]
  rfl

theorem layout_literalLines (lines : List String) :
    converter.layout 0 (literalLines lines) =
      match lines with
      | [] => ""
      | [single] => converter.formatter.line converter.formatter.baseDepth
          ("+\"" ++ String.ofList (Text.escape single.toList) ++ "\"")
      | several =>
        converter.formatter.line converter.formatter.baseDepth "\"\"\"" ++
          converter.linesAt (converter.formatter.baseDepth + 1)
            (several.map fun line => String.ofList (Text.escape line.toList)) ++
          converter.formatter.line converter.formatter.baseDepth "\"\"\"" := by
  match lines with
  | [] => rw [literalLines, layout_nil]
  | [single] => rw [literalLines, layout_zero, escaped]
  | first :: second :: rest =>
    have hlines : literalLines (first :: second :: rest) =
        [⟨0, blockQuote⟩] ++
        ((first :: second :: rest).map escaped).map (⟨1, ·⟩) ++
          [⟨0, blockQuote⟩] := by
      simp [literalLines, Function.comp_def]
    rw [hlines, layout_append, layout_append, layout_zero, layout_one]
    rfl

/-- The lines of a tree are laid out as the frame of its root around the output
of the children. -/
theorem layout_treeLines (node : Node) :
    converter.layout 0
        (treeLines converter.options converter.rules
          converter.formatter.lineBreak node) =
      converter.enclose node
        ((converter.raised 1).convertNodes node.children) := by
  rw [treeLines_eq, layout_append, layout_append, layout_forestLines_deeper]
  cases hkind : node.kind with
  | document => simp [openingLines, closingLines, enclose, hkind]
  | doctype => simp [openingLines, closingLines, enclose, hkind]
  | text =>
    simp only [openingLines, closingLines, enclose, hkind,
      layout_literalLines, layout_nil, String.append_empty]
  | comment =>
    simp only [openingLines, closingLines, enclose, hkind]
    rw [← List.singleton_append, layout_append, layout_zero,
      layout_zero, layout_one]
  | rawData =>
    simp only [openingLines, closingLines, enclose, hkind]
    rw [← List.singleton_append, layout_append, layout_zero,
      layout_one, blockQuote]
  | element =>
    simp only [openingLines, closingLines, enclose, hkind, layout_zero,
      headText, Node.hasChildren]
    by_cases hchildren : node.children.isEmpty = true <;> simp [hchildren, line]

theorem convertNodes_cons (node : Node) (rest : List Node) :
    converter.convertNodes (node :: rest) =
      converter.enclose node
        ((converter.raised 1).convertNodes node.children) ++
        converter.convertNodes rest := by
  rw [convertNodes_eq, forestLines, layout_append, layout_treeLines,
    ← convertNodes_eq]

mutual

theorem render_eq (converter : Converter) (node : Node) :
    converter.render node =
      converter.enclose node
        ((converter.raised 1).convertNodes node.children) := by
  match node with
  | ⟨_, _, _, _, children⟩ => rw [render, renderAll_eq]

theorem renderAll_eq (converter : Converter) (nodes : List Node) :
    converter.renderAll nodes = converter.convertNodes nodes := by
  match nodes with
  | [] => rfl
  | node :: rest => rw [renderAll, convertNodes_cons, render_eq, renderAll_eq]

end

/-- A forest is written as its trees one after another, each by recursion over
its nodes; and what the recursion puts inside the frame of a node is what the
converter with its base one level deeper writes for the children of the node. -/
theorem convertNodes_eq_join_render (nodes : List Node) :
    converter.convertNodes nodes = String.join (nodes.map converter.render) ∧
      ∀ node, converter.render node =
        converter.enclose node
          ((converter.raised 1).convertNodes node.children) :=
  ⟨by rw [← renderAll_eq, renderAll_eq_join], converter.render_eq⟩

end HtmlBuilder.Converter
