import HtmlBuilder.Converter
import HtmlBuilder.Proofs.Text.Lines
import HtmlBuilder.Proofs.Walk

/-!
Lines before they are laid out. What a converter writes for a tree is a list of
lines, each a content and a depth below the base of the layout. The list follows
from the tree, the options, the rules and the line break alone. The indent and
the base of a layout only decide what stands in front of each content, so
raising the base moves every line and changes none.
-/

namespace HtmlBuilder

structure Line where
  /-- The level of nesting, counted from the base of the layout. -/
  depth : Nat
  content : String
deriving DecidableEq

def Line.deeper (line : Line) : Line :=
  { line with depth := line.depth + 1 }

section

variable (options : Options) (rules : Rules) (lineBreak : String)

def valueLines (value : String) : List String :=
  (Text.trimLines lineBreak.toList value.toList).map String.ofList

def literalLines (lines : List String) : List Line :=
  match lines with
  | [] => []
  | [single] => [⟨0, "+\"" ++ Converter.escaped single ++ "\""⟩]
  | several =>
    ⟨0, blockQuote⟩ :: (several.map fun line => ⟨1, Converter.escaped line⟩) ++
    [⟨0, blockQuote⟩]

def headText (node : Node) : String :=
  let arguments := rules.arguments options node.attributes.entries
  node.name ++ (if arguments = "" then "" else "(" ++ arguments ++ ")") ++
    (if node.hasChildren then " \x7b" else "")

/-- The lines of a node that stand before those of its children. -/
def openingLines (node : Node) : List Line :=
  match node.kind with
  | .document | .doctype => []
  | .text => literalLines (valueLines lineBreak node.value)
  | .comment => ⟨0, "/*"⟩ :: (valueLines lineBreak node.value).map (⟨1, ·⟩)
  | .rawData =>
    ⟨0, blockQuote⟩ :: (valueLines lineBreak node.value).map (⟨1, ·⟩)
  | .element => [⟨0, headText options rules node⟩]

def closingLines (node : Node) : List Line :=
  match node.kind with
  | .document | .doctype | .text => []
  | .comment => [⟨0, "*/"⟩]
  | .rawData => [⟨0, blockQuote⟩]
  | .element => if node.hasChildren then [⟨0, "\x7d"⟩] else []

mutual

def treeLines (node : Node) : List Line :=
  match node with
  | node@⟨_, _, _, _, children⟩ =>
    openingLines options rules lineBreak node ++
    (forestLines children).map Line.deeper ++ closingLines node

def forestLines (nodes : List Node) : List Line :=
  match nodes with
  | [] => []
  | node :: rest => treeLines node ++ forestLines rest

end

theorem treeLines_eq (node : Node) :
    treeLines options rules lineBreak node =
      openingLines options rules lineBreak node ++
        (forestLines options rules lineBreak node.children).map Line.deeper ++
        closingLines node := by
  cases node
  rw [treeLines]

theorem forestLines_append (a b : List Node) :
    forestLines options rules lineBreak (a ++ b) =
      forestLines options rules lineBreak a ++
        forestLines options rules lineBreak b := by
  induction a with
  | nil => simp [forestLines]
  | cons node rest ih =>
    rw [List.cons_append, forestLines, ih, forestLines, List.append_assoc]

end

theorem lineFeed_notMem_valueLines (value : String) :
    ∀ line ∈ valueLines "\n" value, '\n' ∉ line.toList := by
  intro line hline
  obtain ⟨content, hcontent, rfl⟩ := List.mem_map.1 hline
  rw [String.toList_ofList]
  exact Text.lineFeed_notMem_of_mem_trimLines hcontent

theorem Formatter.repeated_eq (text : String) (count : Nat) :
    Formatter.repeated text count =
      String.join (List.replicate count text) := by
  have hrepeat : ∀ count,
      Nat.repeat (· ++ text) count "" =
        String.join (List.replicate count text) := by
    intro count
    induction count with
    | zero => simp [Nat.repeat]
    | succ count ih =>
      rw [List.replicate_succ', String.join_append, ← ih]
      simp [Nat.repeat]
  rw [Formatter.repeated]
  split
  · next hempty =>
    subst hempty
    rw [← String.toList_inj]
    simp
  · exact hrepeat count

namespace Converter

variable (converter : Converter)

def layout (depth : Nat) (lines : List Line) : String :=
  String.join (lines.map fun line =>
    converter.line (depth + line.depth) line.content)

def raised (levels : Nat) : Converter :=
  { converter with
    formatter := { converter.formatter with
      baseDepth := converter.formatter.baseDepth + levels } }

@[simp] theorem layout_nil (depth : Nat) : converter.layout depth [] = "" := by
  simp [layout]

@[simp] theorem layout_cons (depth : Nat) (line : Line) (lines : List Line) :
    converter.layout depth (line :: lines) =
      converter.line (depth + line.depth) line.content ++
        converter.layout depth lines := by
  simp [layout]

@[simp] theorem layout_append (depth : Nat) (a b : List Line) :
    converter.layout depth (a ++ b) = converter.layout depth a ++
      converter.layout depth b := by
  simp [layout]

theorem layout_deeper (depth : Nat) (lines : List Line) :
    converter.layout depth (lines.map Line.deeper) =
      converter.layout (depth + 1) lines := by
  simp only [layout, List.map_map, Function.comp_def, Line.deeper]
  simp only [Nat.add_comm, Nat.add_left_comm]

theorem line_raised (levels depth : Nat) (content : String) :
    (converter.raised levels).line depth content =
      converter.line (depth + levels) content := by
  simp only [Converter.line, raised, Formatter.line, Formatter.indentation]
  rw [Nat.add_comm converter.formatter.baseDepth, Nat.add_assoc]

theorem layout_raised (levels depth : Nat) (lines : List Line) :
    (converter.raised levels).layout depth lines =
      converter.layout (depth + levels) lines := by
  simp only [layout, line_raised]
  simp only [Nat.add_right_comm depth levels]

/-! The lines of a converter are what it writes. -/

theorem block_eq_layout (depth : Nat) (contents : List String) :
    converter.block (depth + 1) contents =
      converter.layout depth (contents.map (⟨1, ·⟩)) := by
  have hfold (out : String) :
      contents.foldl
        (fun out content => out ++ converter.line (depth + 1) content) out =
        out ++ converter.layout depth (contents.map (⟨1, ·⟩)) := by
    induction contents generalizing out with
    | nil => simp
    | cons content rest ih => simp [ih, String.append_assoc]
  rw [block, hfold, String.empty_append]

theorem textLiteral_eq_layout (depth : Nat) (value : String) :
    converter.textLiteral depth value =
      converter.layout depth
        (literalLines (valueLines converter.formatter.lineBreak value)) := by
  have hlines : converter.linesOf value =
      valueLines converter.formatter.lineBreak value := rfl
  rw [textLiteral, hlines]
  match valueLines converter.formatter.lineBreak value with
  | [] => simp [literalLines]
  | [single] => simp [literalLines]
  | first :: second :: rest =>
    simp [literalLines, block_eq_layout, Function.comp_def, String.append_assoc]

theorem opening_eq_layout (node : Node) (depth : Nat) :
    converter.opening node depth = converter.layout depth
      (openingLines converter.options converter.rules
        converter.formatter.lineBreak node) := by
  have hlines : converter.linesOf node.value =
      valueLines converter.formatter.lineBreak node.value := rfl
  have hhead : converter.callHead node =
      headText converter.options converter.rules node := rfl
  rw [opening, openingLines, hlines, hhead]
  cases node.kind <;> simp [textLiteral_eq_layout, block_eq_layout]

theorem closing_eq_layout (node : Node) (depth : Nat) :
    converter.closing node depth =
      converter.layout depth (closingLines node) := by
  rw [closing, closingLines]
  cases node.kind with
  | element => by_cases hchildren : node.hasChildren <;> simp [hchildren]
  | _ => simp

mutual

theorem walk_writer (node : Node) (depth : Nat) (out : String) :
    walk converter.writer node depth out = out ++ converter.layout depth
      (treeLines converter.options converter.rules
        converter.formatter.lineBreak node) := by
  match node with
  | ⟨_, _, _, _, children⟩ =>
    rw [walk, walkAll_writer, treeLines]
    simp only [writer, opening_eq_layout, closing_eq_layout, layout_append,
      layout_deeper, String.append_assoc]

theorem walkAll_writer (nodes : List Node) (depth : Nat) (out : String) :
    walkAll converter.writer nodes depth out = out ++ converter.layout depth
      (forestLines converter.options converter.rules
        converter.formatter.lineBreak nodes) := by
  match nodes with
  | [] => simp [walkAll, forestLines]
  | node :: rest =>
    rw [walkAll, walk_writer, walkAll_writer, forestLines, layout_append,
      String.append_assoc]

end

theorem traverse_writer (node : Node) (out : String) :
    traverse converter.writer node out = walk converter.writer node 0 out :=
  runSteps_eq_foldl _ _ _

theorem convertNodes_eq (nodes : List Node) :
    converter.convertNodes nodes = converter.layout 0
      (forestLines converter.options converter.rules
        converter.formatter.lineBreak nodes) := by
  have hfold (out : String) :
      nodes.foldl (fun out node => traverse converter.writer node out) out =
        walkAll converter.writer nodes 0 out := by
    induction nodes generalizing out with
    | nil => rfl
    | cons node rest ih => rw [List.foldl_cons, ih, traverse_writer, walkAll]
  rw [convertNodes, hfold, walkAll_writer, String.empty_append]

end Converter

/-- For given options, rules and line break, a forest has one list of lines.
Under every indent and every base it is written as these lines, each behind one
indent for every level of its depth and of the base, and raising the base puts
that many more indents in front of each line. -/
theorem exists_lines_forall_layout (options : Options) (rules : Rules)
    (lineBreak : String) (hbreak : lineBreak ≠ "") (nodes : List Node) :
    ∃ lines : List Line, ∀ (indent : String) (baseDepth : Nat),
      Converter.convertNodes
          ⟨options, ⟨indent, lineBreak, baseDepth, hbreak⟩, rules⟩ nodes =
        String.join (lines.map fun line =>
          String.join (List.replicate (baseDepth + line.depth) indent) ++
            line.content ++ lineBreak) ∧
      ∀ levels : Nat,
        Converter.convertNodes
            ⟨options, ⟨indent, lineBreak, baseDepth + levels, hbreak⟩, rules⟩
            nodes =
          String.join (lines.map fun line =>
            String.join (List.replicate levels indent) ++
            (String.join (List.replicate (baseDepth + line.depth) indent) ++
              line.content ++ lineBreak)) := by
  refine ⟨forestLines options rules lineBreak nodes, fun indent baseDepth => ?_⟩
  have hwritten (baseDepth : Nat) :
      Converter.convertNodes
          ⟨options, ⟨indent, lineBreak, baseDepth, hbreak⟩, rules⟩ nodes =
        String.join ((forestLines options rules lineBreak nodes).map fun line =>
          String.join (List.replicate (baseDepth + line.depth) indent) ++
            line.content ++ lineBreak) := by
    rw [Converter.convertNodes_eq]
    simp only [Converter.layout, Converter.line, Formatter.line,
      Formatter.indentation, Formatter.repeated_eq, Nat.zero_add,
      Nat.add_comm _ baseDepth]
  refine ⟨hwritten baseDepth, fun levels => ?_⟩
  rw [hwritten]
  have hindent (line : Line) :
      String.join (List.replicate (baseDepth + levels + line.depth) indent) =
        String.join (List.replicate levels indent) ++
          String.join (List.replicate (baseDepth + line.depth) indent) := by
    rw [← String.join_append, List.replicate_append_replicate]
    rw [show levels + (baseDepth + line.depth) =
        baseDepth + levels + line.depth by omega]
  simp only [hindent, String.append_assoc]

/-- A comment with a text inside, at any base and at one that is two levels
deeper. -/
theorem exists_lines_forall_layout_crlf :
    let nodes := [(Node.comment "a\r\n b").addChild (Node.text "c"),
      Node.element "br"]
    "\r\n" ≠ "" ∧ ∃ lines : List Line, ∀ (indent : String) (baseDepth : Nat),
      Converter.convertNodes
          ⟨{}, ⟨indent, "\r\n", baseDepth, by decide⟩, {}⟩ nodes =
        String.join (lines.map fun line =>
          String.join (List.replicate (baseDepth + line.depth) indent) ++
            line.content ++ "\r\n") ∧
      Converter.convertNodes
          ⟨{}, ⟨indent, "\r\n", baseDepth + 2, by decide⟩, {}⟩ nodes =
        String.join (lines.map fun line =>
          String.join (List.replicate 2 indent) ++
            (String.join (List.replicate (baseDepth + line.depth) indent) ++
              line.content ++ "\r\n")) := by
  intro nodes
  obtain ⟨lines, hlines⟩ :=
    exists_lines_forall_layout {} {} "\r\n" (by decide) nodes
  refine ⟨by decide, lines, fun indent baseDepth => ?_⟩
  exact ⟨(hlines indent baseDepth).1, (hlines indent baseDepth).2 2⟩

end HtmlBuilder
