import HtmlBuilder.Proofs.Layout
import HtmlBuilder.Proofs.Reading.Argument
import HtmlBuilder.Proofs.Text.Lines

/-!
Outlines of trees. The output does not show all of a tree: doctypes and blank
texts leave no trace, values are cut into trimmed lines, and class names become
identifiers. The outline of a tree is what is left. Under tabs and line feeds
the output is the outline written down, and an outline that comes from parsed
markup with plain names can be read back from it.
-/

namespace HtmlBuilder

/-- What the output shows of a tree. An element with children keeps its block
even if none of the children is shown. -/
inductive Outline where
  | text (lines : List String)
  | comment (lines : List String)
  | rawData (lines : List String)
  | call (name : String) (arguments : List ArgumentForm)
  | block (name : String) (arguments : List ArgumentForm)
      (children : List Outline)

mutual

/-- The outline of a tree, if it has one: doctypes and blank texts are
dropped. -/
def outline? (node : Node) : Option Outline :=
  match node with
  | ⟨kind, name, value?, attributes, children⟩ =>
    let value := value?.getD ""
    let forms := attributes.entries.map ArgumentForm.ofEntry
    match kind with
    | .document | .doctype => none
    | .text =>
      if value.toList.all Text.isBlank then none
      else some (.text (valueLines "\n" value))
    | .comment => some (.comment (valueLines "\n" value))
    | .rawData => some (.rawData (valueLines "\n" value))
    | .element =>
      match children with
      | [] => some (.call name forms)
      | child :: rest => some (.block name forms (normalForm (child :: rest)))

def normalForm (nodes : List Node) : List Outline :=
  match nodes with
  | [] => []
  | node :: rest => (outline? node).toList ++ normalForm rest

end

def holdsRawText (name : String) : Bool :=
  name == "script" || name == "style"

namespace Node

mutual

/-- The shape of trees that come from markup: only elements have children, there
are no documents, and raw data stands for text in exactly the elements that hold
raw text. -/
def isParsed (inRawText : Bool) (node : Node) : Bool :=
  match node with
  | ⟨kind, name, _, _, children⟩ =>
    match kind with
    | .document => false
    | .doctype | .comment => children.isEmpty
    | .text => !inRawText && children.isEmpty
    | .rawData => inRawText && children.isEmpty
    | .element => areParsed (holdsRawText name) children

def areParsed (inRawText : Bool) (nodes : List Node) : Bool :=
  match nodes with
  | [] => true
  | node :: rest => isParsed inRawText node && areParsed inRawText rest

end

mutual

def isPlain (node : Node) : Bool :=
  match node with
  | ⟨kind, name, _, attributes, children⟩ =>
    (kind != .element || isKeyName name &&
      attributes.entries.all isPlainEntry) &&
      arePlain children

def arePlain (nodes : List Node) : Bool :=
  match nodes with
  | [] => true
  | node :: rest => isPlain node && arePlain rest

end

end Node

/-! Writing outlines. -/

def tabs (depth : Nat) : List Char :=
  List.replicate depth '\t'

def writtenLine (depth : Nat) (content : List Char) : List Char :=
  tabs depth ++ content ++ ['\n']

def writtenLines (depth : Nat) (encode : List Char → List Char)
    (lines : List String) : List Char :=
  lines.flatMap fun line => writtenLine depth (encode line.toList)

namespace Outline

mutual

def written (directLinks : Bool) (depth : Nat) (outline : Outline) :
    List Char :=
  match outline with
  | .text [single] =>
    writtenLine depth ('+' :: '"' :: (Text.escape single.toList ++ ['"']))
  | .text lines =>
    writtenLine depth ['"', '"', '"'] ++
    writtenLines (depth + 1) Text.escape lines ++
      writtenLine depth ['"', '"', '"']
  | .comment lines =>
    writtenLine depth ['/', '*'] ++ writtenLines (depth + 1) id lines ++
      writtenLine depth ['*', '/']
  | .rawData lines =>
    writtenLine depth ['"', '"', '"'] ++ writtenLines (depth + 1) id lines ++
      writtenLine depth ['"', '"', '"']
  | .call name forms =>
    writtenLine depth
      (name.toList ++ ArgumentForm.writtenList directLinks forms)
  | .block name forms children =>
    writtenLine depth (name.toList ++
      ArgumentForm.writtenList directLinks forms ++ [' ', '{']) ++
      writtenAll directLinks (depth + 1) children ++ writtenLine depth ['}']

def writtenAll (directLinks : Bool) (depth : Nat) (outlines : List Outline) :
    List Char :=
  match outlines with
  | [] => []
  | outline :: rest =>
    written directLinks depth outline ++ writtenAll directLinks depth rest

end

theorem writtenAll_eq_flatMap (directLinks : Bool) (depth : Nat)
    (outlines : List Outline) :
    writtenAll directLinks depth outlines =
      outlines.flatMap (written directLinks depth) := by
  induction outlines with
  | nil => rfl
  | cons outline rest ih => rw [writtenAll, ih, List.flatMap_cons]

end Outline

/-! The output of a converter with the standard layout and rules is its outline
written down. -/

/-- The converter with the given options, the default layout and no rules of its
own. -/
def Converter.standard (options : Options) : Converter where
  options := options
  formatter := default

/-- The default layout has tabs, line feeds and the outermost level as its
base. -/
theorem Converter.line_standard (options : Options) (depth : Nat)
    (content : String) : (Converter.standard options).line depth content =
      String.join (List.replicate depth "\t") ++ content ++ "\n" := by
  rw [← Formatter.repeated_eq]
  rfl

theorem flatMap_replicate_tab (depth : Nat) :
    (List.replicate depth "\t").flatMap String.toList = tabs depth := by
  induction depth with
  | zero => rfl
  | succ depth ih =>
    rw [List.replicate_succ, List.flatMap_cons, ih]
    rfl

theorem toList_layout (options : Options) (depth : Nat) (lines : List Line) :
    ((Converter.standard options).layout depth lines).toList =
      lines.flatMap fun line =>
        writtenLine (depth + line.depth) line.content.toList := by
  have hline (depth : Nat) (content : String) :
      ((Converter.standard options).line depth content).toList =
        writtenLine depth content.toList := by
    simp [Converter.line_standard, flatMap_replicate_tab, writtenLine]
  induction lines with
  | nil => simp
  | cons line rest ih =>
    rw [Converter.layout_cons, String.toList_append, ih, hline,
      List.flatMap_cons]

theorem toList_headText (options : Options) (node : Node) :
    (headText options {} node).toList = node.name.toList ++
      ArgumentForm.writtenList options.directLinks
        (node.attributes.entries.map ArgumentForm.ofEntry) ++
      if node.hasChildren then [' ', '{'] else [] := by
  rw [headText, String.toList_append, String.toList_append,
    ArgumentForm.toList_parenthesised]
  cases node.hasChildren <;> rfl

theorem toList_layout_literalLines (options : Options) (depth : Nat)
    {lines : List String} (hlines : lines ≠ []) :
    ((Converter.standard options).layout depth (literalLines lines)).toList =
      Outline.written options.directLinks depth (.text lines) := by
  rw [toList_layout]
  match lines with
  | [] => exact absurd rfl hlines
  | [single] => simp [literalLines, Outline.written, Converter.escaped]
  | first :: second :: rest =>
    simp [literalLines, Outline.written, Converter.escaped,
      writtenLines, blockQuote, List.flatMap_map]

theorem toList_layout_verbatim (options : Options) (depth : Nat)
    (opening closing : String) (lines : List String) :
    ((Converter.standard options).layout depth
        (⟨0, opening⟩ :: lines.map (⟨1, ·⟩) ++ [⟨0, closing⟩])).toList =
      writtenLine depth opening.toList ++ writtenLines (depth + 1) id lines ++
        writtenLine depth closing.toList := by
  rw [toList_layout]
  simp [writtenLines, List.flatMap_map]

theorem valueLines_ne_nil {value : String}
    (hvalue : value.toList.all Text.isBlank = false) :
    valueLines "\n" value ≠ [] := by
  intro h
  rw [valueLines, List.map_eq_nil_iff, Text.trimLines_eq_nil_iff] at h
  rw [List.all_eq_true.2 h] at hvalue
  exact absurd hvalue (by decide)

theorem valueLines_eq_nil {value : String}
    (hvalue : value.toList.all Text.isBlank = true) :
    valueLines "\n" value = [] := by
  rw [valueLines, List.map_eq_nil_iff, Text.trimLines_eq_nil_iff]
  exact List.all_eq_true.1 hvalue

theorem toList_layout_leaf (options : Options) (node : Node)
    (hchildren : node.children = [])
    (hkind : node.kind ≠ .document) (depth : Nat) :
    ((Converter.standard options).layout depth
      (treeLines options {} "\n" node)).toList =
      Outline.writtenAll options.directLinks depth (outline? node).toList := by
  rw [treeLines_eq, hchildren, forestLines, List.map_nil, List.append_nil]
  match node with
  | ⟨.document, _, _, _, _⟩ => exact absurd rfl hkind
  | ⟨.doctype, _, _, _, _⟩ =>
    simp [openingLines, closingLines, outline?, Outline.writtenAll]
  | ⟨.text, name, value?, attributes, children⟩ =>
    simp only [openingLines, closingLines, outline?,
      List.append_nil, Node.value]
    split
    · next hblank =>
        simp [valueLines_eq_nil hblank, literalLines, Outline.writtenAll]
    · next hblank =>
      rw [toList_layout_literalLines options depth
        (valueLines_ne_nil (by simpa using hblank))]
      simp [Outline.writtenAll]
  | ⟨.comment, name, value?, attributes, children⟩ =>
    simp only [openingLines, closingLines, outline?]
    rw [toList_layout_verbatim]
    simp [Outline.writtenAll, Outline.written, Node.value]
  | ⟨.rawData, name, value?, attributes, children⟩ =>
    simp only [openingLines, closingLines, outline?]
    rw [toList_layout_verbatim]
    simp [Outline.writtenAll, Outline.written, Node.value, blockQuote]
  | ⟨.element, name, value?, attributes, children⟩ =>
    obtain rfl : children = [] := hchildren
    have hnone : Node.hasChildren ⟨.element, name, value?, attributes, []⟩ =
        false := rfl
    simp only [openingLines, closingLines, outline?, hnone,
      Bool.false_eq_true, if_false, List.append_nil]
    rw [toList_layout]
    simp [toList_headText, hnone, Outline.writtenAll, Outline.written]

theorem children_eq_nil_of_isParsed {inRawText : Bool} {node : Node}
    (hnode : node.isParsed inRawText = true) (hkind : node.kind ≠ .element) :
    node.children = [] ∧ node.kind ≠ .document := by
  match node with
  | ⟨kind, name, value?, attributes, children⟩ =>
    cases kind with
    | element => exact absurd rfl hkind
    | document => simp [Node.isParsed] at hnode
    | _ => simp_all [Node.isParsed]

mutual

theorem toList_layout_treeLines (options : Options) {inRawText : Bool}
    (node : Node) (hnode : node.isParsed inRawText = true) (depth : Nat) :
    ((Converter.standard options).layout depth
      (treeLines options {} "\n" node)).toList =
      Outline.writtenAll options.directLinks depth (outline? node).toList := by
  match node with
  | ⟨.element, name, value?, attributes, []⟩ =>
    exact toList_layout_leaf options _ rfl (by simp) depth
  | ⟨.element, name, value?, attributes, child :: rest⟩ =>
    rw [Node.isParsed] at hnode
    rw [treeLines, Converter.layout_append, Converter.layout_append,
      Converter.layout_deeper, String.toList_append, String.toList_append,
      toList_layout_forestLines options (child :: rest) hnode (depth + 1),
      toList_layout, toList_layout]
    simp [openingLines, closingLines, outline?, toList_headText,
      Node.hasChildren, Outline.writtenAll, Outline.written]
  | ⟨.document, _, _, _, _⟩ | ⟨.doctype, _, _, _, _⟩ | ⟨.text, _, _, _, _⟩
  | ⟨.comment, _, _, _, _⟩ | ⟨.rawData, _, _, _, _⟩ =>
    obtain ⟨hchildren, hkind⟩ := children_eq_nil_of_isParsed hnode (by simp)
    exact toList_layout_leaf options _ hchildren hkind depth

theorem toList_layout_forestLines (options : Options) {inRawText : Bool}
    (nodes : List Node)
    (hnodes : Node.areParsed inRawText nodes = true) (depth : Nat) :
    ((Converter.standard options).layout depth
      (forestLines options {} "\n" nodes)).toList =
      Outline.writtenAll options.directLinks depth (normalForm nodes) := by
  match nodes with
  | [] => simp [forestLines, normalForm, Outline.writtenAll]
  | node :: rest =>
    rw [Node.areParsed, Bool.and_eq_true] at hnodes
    rw [forestLines, Converter.layout_append, String.toList_append, normalForm,
      toList_layout_treeLines options node hnodes.1 depth,
      toList_layout_forestLines options rest hnodes.2 depth]
    simp [Outline.writtenAll_eq_flatMap]

end

/-- The output for a forest of parsed trees is its outlines written down. -/
theorem Converter.toList_convertNodes_standard (options : Options)
    (nodes : List Node) (hnodes : Node.areParsed false nodes = true) :
    ((Converter.standard options).convertNodes nodes).toList =
      Outline.writtenAll options.directLinks 0 (normalForm nodes) := by
  rw [Converter.convertNodes_eq]
  exact toList_layout_forestLines options nodes hnodes 0

end HtmlBuilder
