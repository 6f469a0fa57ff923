import HtmlBuilder.Proofs.Layout
import HtmlBuilder.Proofs.Reading.Argument

/-!
Written lines and the lines of the output. With a line feed as the line break,
cutting the output at line feeds gives back the lines that were written as long
as no content holds a line feed. Values of texts, comments and raw data are cut
into lines before they are written, so none of them can bring one in. Attribute
values are not: the standard rules copy every line feed of a value into the head
of the call, whatever the key is, and the head then takes more than one line of
the output.
-/

namespace HtmlBuilder

/-! Line feeds in arguments. -/

theorem lineFeed_mem_classIdentifier_iff (name : List Char) :
    '\n' ∈ Rule.classIdentifier name ↔ '\n' ∈ name := by
  rw [Rule.classIdentifier, List.mem_map]
  constructor
  · rintro ⟨c, hc, heq⟩
    split at heq
    · exact absurd heq (by decide)
    · exact heq ▸ hc
  · exact fun hmem => ⟨'\n', hmem, rfl⟩

theorem lineFeed_mem_classSum_iff (value : String) :
    '\n' ∈ (Rule.classSum value).toList ↔ '\n' ∈ value.toList := by
  have hplus : '\n' ∉ " + ".toList := by decide
  have hspace : '\n' ∉ [' '] := by decide
  calc '\n' ∈ (Rule.classSum value).toList
    _ ↔ ∃ part ∈ value.toList.splitOn ' ', '\n' ∈ part := by
      rw [ArgumentForm.toList_classSum, Text.mem_intercalate_iff hplus,
        Rule.classNames]
      simp only [List.mem_map, List.mem_filter, exists_exists_and_eq_and,
        lineFeed_mem_classIdentifier_iff]
      constructor
      · rintro ⟨part, ⟨hpart, -⟩, hmem⟩
        exact ⟨part, hpart, hmem⟩
      · rintro ⟨part, hpart, hmem⟩
        exact ⟨part, ⟨hpart, by simp [List.ne_nil_of_mem hmem]⟩, hmem⟩
    _ ↔ '\n' ∈ value.toList := by
      rw [← Text.mem_intercalate_iff hspace, List.intercalate_splitOn]

theorem lineFeed_mem_quotedArgument_iff {name : String}
    (hname : '\n' ∉ name.toList) (value : String) :
    '\n' ∈ (Rule.quotedArgument name value).toList ↔ '\n' ∈ value.toList := by
  rw [ArgumentForm.toList_quotedArgument]
  simp [hname, Text.mem_escape_iff]

theorem lineFeed_mem_link_iff (options : Options) (value : String) :
    '\n' ∈ (Rule.link.replacement value options).toList ↔
      '\n' ∈ value.toList := by
  rw [ArgumentForm.toList_link]
  split <;> simp [Text.mem_escape_iff]

/-- Every rule copies the line feeds of a value. -/
theorem lineFeed_mem_argument_iff (options : Options) {key : String}
    (hkey : '\n' ∉ key.toList) (value : String) :
    '\n' ∈ (Rules.argument {} options key value).toList ↔
      '\n' ∈ value.toList := by
  rw [ArgumentForm.argument_eq]
  split_ifs
  · rw [String.toList_append, List.mem_append, lineFeed_mem_classSum_iff]
    simp
  · rw [String.toList_append, List.mem_append]
    simp
  · exact lineFeed_mem_link_iff options value
  · exact lineFeed_mem_quotedArgument_iff (by decide) value
  · exact lineFeed_mem_quotedArgument_iff hkey value

theorem lineFeed_mem_arguments_iff (options : Options)
    {entries : List (String × String)}
    (hkeys : ∀ entry ∈ entries, '\n' ∉ entry.1.toList) :
    '\n' ∈ (Rules.arguments {} options entries).toList ↔
      ∃ entry ∈ entries, '\n' ∈ entry.2.toList := by
  have hcomma : '\n' ∉ ", ".toList := by decide
  rw [Rules.arguments, String.toList_intercalate,
    Text.mem_intercalate_iff hcomma]
  simp only [List.mem_map, exists_exists_and_eq_and]
  exact exists_congr fun entry =>
    and_congr_right fun hentry =>
      lineFeed_mem_argument_iff options (hkeys entry hentry) entry.2

/-! Line feeds in the lines of a node. -/

def NamesOnOneLine (node : Node) : Prop :=
  node.kind = .element →
    '\n' ∉ node.name.toList ∧ ∀ key ∈ node.attributes.keys, '\n' ∉ key.toList

def ValuesOnOneLine (node : Node) : Prop :=
  node.kind = .element → ∀ entry ∈ node.attributes.entries,
    '\n' ∉ entry.2.toList

instance (node : Node) : Decidable (NamesOnOneLine node) :=
  inferInstanceAs (Decidable (_ → _))

instance (node : Node) : Decidable (ValuesOnOneLine node) :=
  inferInstanceAs (Decidable (_ → _))

def Line.OnOneLine (line : Line) : Prop :=
  '\n' ∉ line.content.toList

instance (line : Line) : Decidable line.OnOneLine :=
  inferInstanceAs (Decidable (¬ _))

theorem lineFeed_mem_headText_iff (options : Options) {node : Node}
    (hkind : node.kind = .element) (hnames : NamesOnOneLine node) :
    '\n' ∈ (headText options {} node).toList ↔
      ∃ entry ∈ node.attributes.entries, '\n' ∈ entry.2.toList := by
  obtain ⟨hname, hkeys⟩ := hnames hkind
  have harguments := lineFeed_mem_arguments_iff options
    fun entry hentry => hkeys entry.1 (List.mem_map_of_mem hentry)
  rw [← harguments]
  simp only [headText, String.toList_append, List.mem_append, hname, false_or]
  by_cases hempty : Rules.arguments {} options node.attributes.entries = ""
  · by_cases hchildren : node.hasChildren <;> simp [hempty, hchildren]
  · by_cases hchildren : node.hasChildren <;> simp [hempty, hchildren]

theorem onOneLine_of_mem_literalLines {lines : List String}
    (hlines : ∀ line ∈ lines, '\n' ∉ line.toList) :
    ∀ line ∈ literalLines lines, line.OnOneLine := by
  have hescaped : ∀ line ∈ lines, '\n' ∉ (Converter.escaped line).toList := by
    intro line hline
    rw [Converter.escaped, String.toList_ofList,
      Text.mem_escape_iff (by decide)]
    exact hlines line hline
  match lines with
  | [] => simp [literalLines]
  | [single] => simpa [literalLines, Line.OnOneLine] using hescaped
  | first :: second :: rest =>
    have hquote : '\n' ∉ blockQuote.toList := by decide
    simpa [literalLines, Line.OnOneLine, hquote, or_imp, forall_and]
      using hescaped

/-- Of all that stands in front of the children of a node, only the attribute
values of an element can bring in a line feed. -/
theorem forall_openingLines_onOneLine_iff (options : Options) {node : Node}
    (hnames : NamesOnOneLine node) :
    (∀ line ∈ openingLines options {} "\n" node, line.OnOneLine) ↔
      ValuesOnOneLine node := by
  have hvalue := lineFeed_notMem_valueLines node.value
  rw [openingLines, ValuesOnOneLine]
  cases hkind : node.kind with
  | document | doctype => simp
  | text => simpa using onOneLine_of_mem_literalLines hvalue
  | comment => simpa [Line.OnOneLine] using hvalue
  | rawData =>
    have hquote : '\n' ∉ blockQuote.toList := by decide
    simpa [Line.OnOneLine, hquote] using hvalue
  | element =>
    simp [Line.OnOneLine, lineFeed_mem_headText_iff options hkind hnames]

theorem onOneLine_of_mem_closingLines (node : Node) :
    ∀ line ∈ closingLines node, line.OnOneLine := by
  have hquote : '\n' ∉ blockQuote.toList := by decide
  rw [closingLines]
  cases node.kind with
  | document | doctype | text => simp
  | comment => simp [Line.OnOneLine]
  | rawData => simpa [Line.OnOneLine] using hquote
  | element => by_cases hchildren : node.hasChildren <;>
      simp [hchildren, Line.OnOneLine]

/-! The lines that the steps of a walk write. -/

def walkSteps (nodes : List Node) : List Step :=
  nodes.flatMap fun root => (stepLog [] root).map Prod.snd

namespace Step

def node : Step → Node
  | .enter node _ | .exit node _ => node

def depth : Step → Nat
  | .enter _ depth | .exit _ depth => depth

end Step

theorem occurs_of_mem_walkSteps {nodes : List Node} {step : Step}
    (hstep : step ∈ walkSteps nodes) :
    Occurs step.node nodes := by
  obtain ⟨root, hroot, hstep⟩ := List.mem_flatMap.1 hstep
  obtain ⟨entry, hentry, rfl⟩ := List.mem_map.1 hstep
  obtain ⟨place, node, -, hnode, hstep | hstep⟩ := at?_of_mem_stepLog hentry
  · exact ⟨root, hroot, place, by rw [hstep, Step.node, hnode]⟩
  · exact ⟨root, hroot, place, by rw [hstep, Step.node, hnode]⟩

theorem enter_mem_walkSteps {nodes : List Node} {node : Node}
    (hnode : Occurs node nodes) :
    ∃ depth, .enter node depth ∈ walkSteps nodes := by
  obtain ⟨root, hroot, place, hplace⟩ := hnode
  obtain ⟨before, within, after, hlog, -⟩ := visitedOnce_of_at? hplace
  refine ⟨place.length,
    List.mem_flatMap.2 ⟨root, hroot, List.mem_map.2 ⟨(place, _), ?_, rfl⟩⟩⟩
  rw [hlog]
  simp

def Line.below (depth : Nat) (line : Line) : Line :=
  { line with depth := depth + line.depth }

namespace Converter

variable (converter : Converter)

def stepLines : Step → List Line
  | .enter node depth =>
    (openingLines converter.options converter.rules
      converter.formatter.lineBreak node).map (Line.below depth)
  | .exit node depth => (closingLines node).map (Line.below depth)

def writtenLine (line : Line) : List Char :=
  (converter.formatter.indentation
    (line.depth + converter.formatter.baseDepth)).toList ++ line.content.toList

theorem layout_below (depth : Nat) (lines : List Line) :
    converter.layout 0 (lines.map (Line.below depth)) =
      converter.layout depth lines := by
  simp only [layout, List.map_map, Function.comp_def, Line.below, Nat.zero_add]

theorem apply_writer (out : String) (step : Step) :
    converter.writer.apply out step =
      out ++ converter.layout 0 (converter.stepLines step) := by
  cases step with
  | enter node depth =>
    rw [stepLines, layout_below, ← opening_eq_layout]
    rfl
  | exit node depth =>
    rw [stepLines, layout_below, ← closing_eq_layout]
    rfl

theorem foldl_writer (steps : List (List Nat × Step)) (out : String) :
    steps.foldl (fun out entry => converter.writer.apply out entry.2) out =
      out ++ converter.layout 0
        ((steps.map Prod.snd).flatMap converter.stepLines) := by
  induction steps generalizing out with
  | nil => simp
  | cons entry rest ih =>
    rw [List.foldl_cons, ih, apply_writer, String.append_assoc, ← layout_append,
      List.map_cons, List.flatMap_cons]

/-- The output is what the steps of the walks write, in order. -/
theorem convertNodes_eq_layout_walkSteps (nodes : List Node) :
    converter.convertNodes nodes =
      converter.layout 0 ((walkSteps nodes).flatMap converter.stepLines) := by
  have hfold (out : String) :
      nodes.foldl (fun out node => traverse converter.writer node out) out =
        out ++ converter.layout 0
          ((walkSteps nodes).flatMap converter.stepLines) := by
    induction nodes generalizing out with
    | nil => simp [walkSteps]
    | cons root rest ih =>
      have hroot : traverse converter.writer root out =
          out ++ converter.layout 0 (((stepLog [] root).map Prod.snd).flatMap
            converter.stepLines) := by
        rw [← foldl_writer, foldl_stepLog, traverse_writer, List.length_nil]
      rw [List.foldl_cons, ih, hroot, String.append_assoc, ← layout_append,
        ← List.flatMap_append, walkSteps, walkSteps, List.flatMap_cons]
  rw [convertNodes, hfold, String.empty_append]

theorem toList_layout (hbreak : converter.formatter.lineBreak = "\n")
    (lines : List Line) : (converter.layout 0 lines).toList =
      (lines.map converter.writtenLine).flatMap (· ++ ['\n']) := by
  induction lines with
  | nil => simp
  | cons line rest ih =>
    rw [layout_cons, String.toList_append, ih, List.map_cons, List.flatMap_cons,
      Converter.line, Formatter.line, hbreak, Nat.zero_add, writtenLine,
      String.toList_append, String.toList_append]
    rfl

end Converter

namespace Formatter

variable (formatter : Formatter)

theorem indentation_prefix {depth deeper : Nat} (hdepth : depth ≤ deeper) :
    (formatter.indentation depth).toList <+:
      (formatter.indentation deeper).toList := by
  obtain ⟨levels, rfl⟩ := Nat.exists_eq_add_of_le hdepth
  simp only [indentation, repeated_eq]
  rw [← List.replicate_append_replicate, String.join_append,
    String.toList_append]
  exact List.prefix_append _ _

theorem lineFeed_notMem_indentation (hindent : '\n' ∉ formatter.indent.toList)
    (depth : Nat) :
    '\n' ∉ (formatter.indentation depth).toList := by
  rw [indentation, repeated_eq]
  simp [hindent]

end Formatter

namespace Converter

variable {converter : Converter}

theorem lineFeed_notMem_writtenLine_iff
    (hindent : '\n' ∉ converter.formatter.indent.toList)
    (line : Line) : '\n' ∉ converter.writtenLine line ↔ line.OnOneLine := by
  have hindentation := converter.formatter.lineFeed_notMem_indentation hindent
    (line.depth + converter.formatter.baseDepth)
  rw [writtenLine, Line.OnOneLine, List.mem_append]
  simp [hindentation]

/-- The lines of a step start with the indentation of the node that is entered
or left. -/
theorem indentation_prefix_writtenLine {step : Step} {line : Line}
    (hline : line ∈ converter.stepLines step) :
    (converter.formatter.indentation
      (step.depth + converter.formatter.baseDepth)).toList <+:
      converter.writtenLine line := by
  have hdepth : step.depth ≤ line.depth := by
    cases step with
    | enter node depth | exit node depth =>
      obtain ⟨shallow, -, rfl⟩ := List.mem_map.1 hline
      exact Nat.le_add_right _ _
  exact (converter.formatter.indentation_prefix
    (Nat.add_le_add_right hdepth _)).trans (List.prefix_append _ _)

/-- Of all the steps, only entering an element with a line feed in an attribute
value writes a line with a line feed in its content. -/
theorem stepLines_onOneLine_iff (hbreak : converter.formatter.lineBreak = "\n")
    (hrules : converter.rules = {}) {nodes : List Node}
    (hnames : ∀ node, Occurs node nodes → NamesOnOneLine node) {step : Step}
    (hstep : step ∈ walkSteps nodes) :
    (∀ line ∈ converter.stepLines step, line.OnOneLine) ↔
      ∀ node depth, step = .enter node depth → ValuesOnOneLine node := by
  have hnode := hnames _ (occurs_of_mem_walkSteps hstep)
  cases step with
  | enter node depth =>
    rw [stepLines, hbreak, hrules, List.forall_mem_map]
    refine (forall_openingLines_onOneLine_iff converter.options hnode).trans ?_
    simp [Step.node]
  | exit node depth =>
    rw [stepLines, List.forall_mem_map]
    exact iff_of_true (onOneLine_of_mem_closingLines node) (by simp)

end Converter

/-- The content of a written line holds a line feed only in the head of the call
for an element with one in an attribute value. So cutting the output at line
feeds gives back the written lines, each with its indentation, and nothing
behind the last of them, exactly when no attribute value of an element holds a
line feed, whatever the other values are. Each of these lines starts with the
indentation of the node whose step writes it. -/
theorem splitOn_convertNodes_eq_iff (converter : Converter)
    (hbreak : converter.formatter.lineBreak = "\n")
    (hindent : ∀ c ∈ converter.formatter.indent.toList, c = '\t' ∨ c = ' ')
    (hrules : converter.rules = {}) (nodes : List Node)
    (hnames : ∀ node, Occurs node nodes → NamesOnOneLine node) :
    (∀ step ∈ walkSteps nodes,
      (∀ line ∈ converter.stepLines step, line.OnOneLine) ↔
        ∀ node depth, step = .enter node depth → ValuesOnOneLine node) ∧
      ((converter.convertNodes nodes).toList.splitOn '\n' =
          (walkSteps nodes).flatMap (fun step =>
            (converter.stepLines step).map converter.writtenLine) ++ [[]] ↔
        ∀ node, Occurs node nodes → ValuesOnOneLine node) ∧
      ∀ step ∈ walkSteps nodes, ∀ line ∈ converter.stepLines step,
        (converter.formatter.indentation
          (step.depth + converter.formatter.baseDepth)).toList <+:
          converter.writtenLine line := by
  have hsteps := fun step (hstep : step ∈ walkSteps nodes) =>
    Converter.stepLines_onOneLine_iff hbreak hrules hnames hstep
  have hfeed : '\n' ∉ converter.formatter.indent.toList := by
    intro hmem
    rcases hindent _ hmem with h | h <;> exact absurd h (by decide)
  refine ⟨hsteps, ?_, fun step _ line =>
    Converter.indentation_prefix_writtenLine⟩
  rw [Converter.convertNodes_eq_layout_walkSteps,
    Converter.toList_layout _ hbreak, ← List.map_flatMap,
    Text.splitOn_flatMap_iff]
  simp only [List.forall_mem_map,
    Converter.lineFeed_notMem_writtenLine_iff hfeed, List.mem_flatMap,
    forall_exists_index, and_imp]
  constructor
  · intro hlines node hnode
    obtain ⟨depth, hstep⟩ := enter_mem_walkSteps hnode
    exact (hsteps _ hstep).1 (fun line hline => hlines line _ hstep hline)
      node depth rfl
  · intro hvalues line step hstep hline
    refine (hsteps step hstep).2 ?_ line hline
    rintro node depth rfl
    exact hvalues node (occurs_of_mem_walkSteps hstep)

theorem splitOn_convertNodes_eq_iff_nested :
    (∀ c ∈ "  ".toList, c = '\t' ∨ c = ' ') ∧
      (∀ node, Occurs node [{ Node.elementWith "p" [("class", "a b")] with
          children := [Node.text "x\ny"] }] →
        NamesOnOneLine node ∧ ValuesOnOneLine node) ∧
      (Converter.convertNodes
          { formatter := { indent := "  ", baseDepth := 1 } }
          [{ Node.elementWith "p" [("class", "a b")] with
            children := [Node.text "x\ny"] }]).toList.splitOn '\n' =
        (walkSteps [{ Node.elementWith "p" [("class", "a b")] with
            children := [Node.text "x\ny"] }]).flatMap (fun step =>
          (Converter.stepLines
            { formatter := { indent := "  ", baseDepth := 1 } } step).map
            (Converter.writtenLine
              { formatter := { indent := "  ", baseDepth := 1 } })) ++ [[]] := by
  have hindent : ∀ c ∈ "  ".toList, c = '\t' ∨ c = ' ' := by simp
  have hnodes : ∀ node,
      Occurs node [{ Node.elementWith "p" [("class", "a b")] with
        children := [Node.text "x\ny"] }] →
      NamesOnOneLine node ∧ ValuesOnOneLine node := by
    refine (forall_occurs_cons_iff _ _).2 ⟨by decide, ?_, forall_occurs_nil⟩
    exact (forall_occurs_cons_iff _ _).2
      ⟨by decide, forall_occurs_nil, forall_occurs_nil⟩
  refine ⟨hindent, hnodes, ?_⟩
  refine (splitOn_convertNodes_eq_iff
    { formatter := { indent := "  ", baseDepth := 1 } } rfl
    hindent rfl _ fun node hnode => (hnodes node hnode).1).2.1.2 ?_
  exact fun node hnode => (hnodes node hnode).2

theorem splitOn_convertNodes_ne_title :
    (∀ node, Occurs node [Node.elementWith "a" [("title", "x\ny")]] →
      NamesOnOneLine node) ∧
      ¬ (∀ step ∈ walkSteps [Node.elementWith "a" [("title", "x\ny")]],
        ∀ line ∈ Converter.stepLines { formatter := { baseDepth := 1 } } step,
          line.OnOneLine) ∧
      (Converter.convertNodes { formatter := { baseDepth := 1 } }
          [Node.elementWith "a" [("title", "x\ny")]]).toList.splitOn '\n' =
        ["\ta(title = \"x".toList, "y\")".toList, []] ∧
      (walkSteps [Node.elementWith "a" [("title", "x\ny")]]).flatMap (fun step =>
        (Converter.stepLines { formatter := { baseDepth := 1 } } step).map
          (Converter.writtenLine { formatter := { baseDepth := 1 } })) =
        ["\ta(title = \"x\ny\")".toList] ∧
      ¬ (Formatter.indentation { baseDepth := 1 } 1).toList <+:
        "y\")".toList := by
  refine ⟨?_, ?_, ?_, ?_, ?_⟩
  · exact (forall_occurs_cons_iff _ _).2
      ⟨by decide, forall_occurs_nil, forall_occurs_nil⟩
  · decide
  · rw [Converter.convertNodes_eq]
    decide
  · decide
  · decide

end HtmlBuilder
