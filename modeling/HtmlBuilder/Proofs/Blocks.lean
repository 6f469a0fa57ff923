import HtmlBuilder.Proofs.Layout
import HtmlBuilder.Proofs.Text.Delimiter

/-!
Where blocks end. A text of several lines is written between delimiters that
none of its lines can hold, since they are escaped. A comment and raw data are
copied, with their children behind them, so a line between their delimiters
holds the one that closes the block when the value does, or what a child writes,
or where the indentation and a line make it up between them.
-/

namespace HtmlBuilder

namespace Converter

variable (converter : Converter)

theorem exists_layout_of_mem (depth : Nat) {node : Node} {nodes : List Node}
    (h : node ∈ nodes) :
    ∃ before after,
      converter.layout depth (forestLines converter.options converter.rules
        converter.formatter.lineBreak nodes) =
      before ++ converter.layout depth
        (treeLines converter.options converter.rules
          converter.formatter.lineBreak node) ++ after := by
  obtain ⟨front, back, rfl⟩ := List.append_of_mem h
  rw [forestLines_append, forestLines, layout_append, layout_append,
    ← String.append_assoc]
  exact ⟨_, _, rfl⟩

/-- What is written for a node stands in what is written for a tree that it
occurs in. -/
theorem exists_layout_of_at? (depth : Nat) {root node : Node} {place : List Nat}
    (h : root.at? place = some node) :
    ∃ depth' before after,
      converter.layout depth (treeLines converter.options converter.rules
        converter.formatter.lineBreak root) =
      before ++ converter.layout depth'
        (treeLines converter.options converter.rules
          converter.formatter.lineBreak node) ++ after := by
  induction place generalizing root depth with
  | nil =>
    cases h
    exact ⟨depth, "", "", by rw [String.empty_append, String.append_empty]⟩
  | cons index place ih =>
    obtain ⟨child, hchild, hplace⟩ := Option.bind_eq_some_iff.1 h
    obtain ⟨before, after, hchildren⟩ :=
      converter.exists_layout_of_mem (depth + 1) (List.mem_of_getElem? hchild)
    obtain ⟨depth', before', after', hbelow⟩ := ih (depth + 1) hplace
    rw [treeLines_eq, layout_append, layout_append, layout_deeper,
      hchildren, hbelow]
    generalize converter.layout depth (openingLines _ _ _ root) = opening,
      converter.layout depth (closingLines root) = closing
    refine ⟨depth', opening ++ before ++ before',
      after' ++ after ++ closing, ?_⟩
    simp only [String.append_assoc]

theorem exists_convertNodes_eq_of_occurs {node : Node} {nodes : List Node}
    (h : Occurs node nodes) :
    ∃ depth before after, converter.convertNodes nodes =
      before ++ converter.layout depth
        (treeLines converter.options converter.rules
          converter.formatter.lineBreak node) ++ after := by
  obtain ⟨root, hroot, place, hplace⟩ := h
  obtain ⟨before, after, hforest⟩ := converter.exists_layout_of_mem 0 hroot
  obtain ⟨depth, before', after', hbelow⟩ :=
    converter.exists_layout_of_at? 0 hplace
  rw [convertNodes_eq, hforest, hbelow]
  refine ⟨depth, before ++ before', after' ++ after, ?_⟩
  simp only [String.append_assoc]

end Converter

/-! Delimiters in the lines of a block. -/

def commentEnd : String := "*/"

/-- Whether a line holds a text behind its indentation. -/
def Line.Holds (line : Line) (text : String) : Prop :=
  text.toList <:+: line.content.toList

/-- Whether a line holds a text, its indentation included, when it is written at
a level of nesting. -/
def Line.HoldsAt (line : Line) (formatter : Formatter) (level : Nat)
    (text : String) : Prop :=
  text.toList <:+:
    (formatter.indentation (level + line.depth)).toList ++ line.content.toList

theorem isDelimiter_commentEnd : Text.IsDelimiter commentEnd.toList :=
  ⟨by decide, by simp [commentEnd, Text.isBlank]⟩

theorem isDelimiter_blockQuote : Text.IsDelimiter blockQuote.toList :=
  ⟨by decide, by simp [blockQuote, Text.isBlank]⟩

def copiedLines (value : String) : List Line :=
  (valueLines "\n" value).map (⟨1, ·⟩)

def escapedLines (value : String) : List Line :=
  (valueLines "\n" value).map fun line => ⟨1, Converter.escaped line⟩

theorem exists_copiedLines_holds_iff {delimiter : String}
    (h : Text.IsDelimiter delimiter.toList) (value : String) :
    (∃ line ∈ copiedLines value, line.Holds delimiter) ↔
      delimiter.toList <:+: value.toList := by
  rw [← Text.infix_trimLines_iff h]
  simp [copiedLines, valueLines, Line.Holds]

theorem Formatter.mem_indent_of_mem_indentation {formatter : Formatter}
    {depth : Nat} {c : Char} (h : c ∈ (formatter.indentation depth).toList) :
    c ∈ formatter.indent.toList := by
  rw [indentation, repeated_eq] at h
  induction depth with
  | zero => simp [String.join] at h
  | succ depth ih =>
    rw [List.replicate_succ, String.join_cons, String.toList_append,
      List.mem_append] at h
    exact h.elim id ih

/-- An indentation without characters of a delimiter takes no part in it. -/
theorem Line.holdsAt_iff_holds {delimiter : String}
    (h : Text.IsDelimiter delimiter.toList) {formatter : Formatter}
    (hindent : ∀ c ∈ formatter.indent.toList, c ∉ delimiter.toList)
    (line : Line) (level : Nat) :
    line.HoldsAt formatter level delimiter ↔ line.Holds delimiter :=
  Text.infix_append_iff_right h.ne_nil
    (fun c hc => hindent c (Formatter.mem_indent_of_mem_indentation hc))
    line.content.toList

/-- A line of a block that is copied, with other lines in it, holds a delimiter
exactly when the value does or one of the other lines. -/
theorem exists_copiedLines_append_holdsAt_iff {delimiter : String}
    (h : Text.IsDelimiter delimiter.toList) {formatter : Formatter}
    (hindent : ∀ c ∈ formatter.indent.toList, c ∉ delimiter.toList)
    (value : String) (others : List Line) (level : Nat) :
    (∃ line ∈ copiedLines value ++ others,
        line.HoldsAt formatter level delimiter) ↔
      delimiter.toList <:+: value.toList ∨
        ∃ line ∈ others, line.Holds delimiter := by
  rw [← exists_copiedLines_holds_iff h]
  simp only [Line.holdsAt_iff_holds h hindent, List.mem_append, or_and_right,
    exists_or]

/-- A line that is escaped holds no delimiter of literals, and completes none
that its indentation begins. -/
theorem blockQuote_infix_escapedLines_iff {value : String} {line : Line}
    (hline : line ∈ escapedLines value) (indentation : List Char) :
    blockQuote.toList <:+: indentation ++ line.content.toList ↔
      blockQuote.toList <:+: indentation := by
  obtain ⟨text, -, rfl⟩ := List.mem_map.1 hline
  have hquotes : blockQuote.toList = ['"', '"', '"'] := by decide
  rw [hquotes, Converter.escaped, String.toList_ofList]
  exact Text.infix_append_escape_iff indentation text.toList

/-- The lines of a value hold no line feed, so each is one line of the
output. -/
theorem lineFeed_notMem_interior {value : String} {line : Line}
    (hline : line ∈ copiedLines value ∨ line ∈ escapedLines value) :
    '\n' ∉ line.content.toList := by
  rcases hline with hline | hline
  · obtain ⟨text, htext, rfl⟩ := List.mem_map.1 hline
    exact lineFeed_notMem_valueLines value text htext
  · obtain ⟨text, htext, rfl⟩ := List.mem_map.1 hline
    rw [Converter.escaped, String.toList_ofList]
    exact Text.notMem_escape (by decide)
      (lineFeed_notMem_valueLines value text htext)

theorem literalLines_of_several {lines : List String} (h : 1 < lines.length) :
    literalLines lines =
      ⟨0, blockQuote⟩ :: lines.map (fun line => ⟨1, Converter.escaped line⟩) ++
        [⟨0, blockQuote⟩] := by
  obtain _ | ⟨first, _ | ⟨second, rest⟩⟩ := lines
  · exact absurd h (by simp)
  · exact absurd h (by simp)
  · rfl

/-- Blocks end where they are closed. In the output with line feeds, each node
stands as a block of its lines. No interior line of a text of several lines
holds the delimiter of literals, whatever the value is, unless its indentation
alone does. The value of a comment or of raw data is copied, and what its
children write stands behind it in the block. So if the indent of the layout has
no character of the delimiter that closes the block, an interior line holds this
delimiter exactly when the value does or, behind its indentation, a line of a
child. -/
theorem blocks_hold_delimiters {converter : Converter}
    (hbreak : converter.formatter.lineBreak = "\n") {nodes : List Node}
    {node : Node} (hoccurs : Occurs node nodes) :
    let lines := treeLines converter.options converter.rules "\n" node
    let inner := (forestLines converter.options converter.rules "\n"
      node.children).map Line.deeper
    (∃ depth before after, converter.convertNodes nodes =
        before ++ converter.layout depth lines ++ after) ∧
      (∀ line, line ∈ copiedLines node.value ∨ line ∈ escapedLines node.value →
        '\n' ∉ line.content.toList) ∧
      (node.kind = .text → 1 < (valueLines "\n" node.value).length →
        lines = ⟨0, blockQuote⟩ :: escapedLines node.value ++
          ⟨0, blockQuote⟩ :: inner ∧
        ∀ line ∈ escapedLines node.value, ∀ indentation,
          (blockQuote.toList <:+: indentation ++ line.content.toList ↔
            blockQuote.toList <:+: indentation)) ∧
      (node.kind = .comment →
        lines = ⟨0, "/*"⟩ :: (copiedLines node.value ++ inner) ++
          [⟨0, commentEnd⟩] ∧
        ((∀ c ∈ converter.formatter.indent.toList, c ∉ commentEnd.toList) →
          ∀ level, (∃ line ∈ copiedLines node.value ++ inner,
              line.HoldsAt converter.formatter level commentEnd) ↔
            commentEnd.toList <:+: node.value.toList ∨
              ∃ line ∈ inner, line.Holds commentEnd)) ∧
      (node.kind = .rawData →
        lines = ⟨0, blockQuote⟩ :: (copiedLines node.value ++ inner) ++
          [⟨0, blockQuote⟩] ∧
        ((∀ c ∈ converter.formatter.indent.toList, c ∉ blockQuote.toList) →
          ∀ level, (∃ line ∈ copiedLines node.value ++ inner,
              line.HoldsAt converter.formatter level blockQuote) ↔
            blockQuote.toList <:+: node.value.toList ∨
              ∃ line ∈ inner, line.Holds blockQuote)) := by
  intro lines inner
  have hlines : lines =
      openingLines converter.options converter.rules "\n" node ++ inner ++
        closingLines node := treeLines_eq _ _ _ node
  rw [hlines, openingLines, closingLines]
  refine ⟨?_, fun _ => lineFeed_notMem_interior,
    fun hkind hseveral => ⟨?_, ?_⟩, fun hkind => ⟨?_, ?_⟩,
    fun hkind => ⟨?_, ?_⟩⟩
  · have hwritten := converter.exists_convertNodes_eq_of_occurs hoccurs
    rw [hbreak] at hwritten
    exact hlines ▸ hwritten
  · simp only [hkind, literalLines_of_several hseveral]
    simp [escapedLines]
  · exact fun line hline indentation =>
      blockQuote_infix_escapedLines_iff hline indentation
  · simp [hkind, copiedLines, commentEnd]
  · exact fun hindent => exists_copiedLines_append_holdsAt_iff
      isDelimiter_commentEnd hindent node.value inner
  · simp [hkind, copiedLines]
  · exact fun hindent => exists_copiedLines_append_holdsAt_iff
      isDelimiter_blockQuote hindent node.value inner

/-- A text and a comment of which the values hold both delimiters, and raw data
that holds none, with a comment inside that does. -/
theorem blocks_hold_delimiters_both :
    let text := Node.text "say \"\"\"\n*/ \"\"\""
    let comment := Node.comment "a */ \"\"\"\nb"
    let data := (Node.rawData "c").addChild comment
    let inner := (forestLines {} {} "\n" data.children).map Line.deeper
    (∀ line ∈ escapedLines text.value, ¬ line.Holds blockQuote) ∧
      (∃ line ∈ copiedLines comment.value ++ [],
        line.HoldsAt {} 0 commentEnd) ∧
      ∃ line ∈ copiedLines data.value ++ inner,
        line.HoldsAt {} 0 blockQuote := by
  intro text comment data inner
  let nodes := [(Node.element "div").addChild text, comment, data]
  have htext : Occurs text nodes := ⟨_, List.mem_cons_self, [0], rfl⟩
  have hcomment : Occurs comment nodes := ⟨comment, by simp [nodes], [], rfl⟩
  have hdata : Occurs data nodes := ⟨data, by simp [nodes], [], rfl⟩
  have hbreak : ({} : Converter).formatter.lineBreak = "\n" := rfl
  obtain ⟨-, -, hclosed, -, -⟩ := blocks_hold_delimiters hbreak htext
  obtain ⟨-, -, -, hcopied, -⟩ := blocks_hold_delimiters hbreak hcomment
  obtain ⟨-, -, -, -, hinner⟩ := blocks_hold_delimiters hbreak hdata
  have htab {delimiter : String} (h : '\t' ∉ delimiter.toList) :
      ∀ c ∈ ({} : Converter).formatter.indent.toList,
        c ∉ delimiter.toList := by
    intro c hc
    obtain rfl := List.mem_singleton.1 hc
    exact h
  refine ⟨fun line hline hholds => ?_, ?_, ?_⟩
  · have hempty := ((hclosed rfl (by decide +kernel)).2 line hline []).1 hholds
    exact absurd (List.eq_nil_of_infix_nil hempty) (by decide)
  · refine ((hcopied rfl).2 (htab (by decide)) 0).2 (.inl ?_)
    exact ⟨"a ".toList, " \"\"\"\nb".toList, by decide⟩
  · refine ((hinner rfl).2 (htab (by decide)) 0).2 (.inr ?_)
    refine ⟨⟨2, "a */ \"\"\""⟩, by decide +kernel, ?_⟩
    exact ⟨"a */ ".toList, [], by decide⟩

-- An indent may make up the delimiter with a value that does not hold it.
example : ({ formatter := { indent := "*" } } : Converter).convertNodes
    [.comment "/x\nb"] = "/*\n*/x\n*b\n*/\n" := by
  decide +kernel

/-- A comment and raw data that a line of their own closes. -/
theorem copiedLines_hold_delimiters :
    let comment := Node.comment "a */ b"
    let data := Node.rawData "a\n\"\"\" b"
    comment.kind = .comment ∧ data.kind = .rawData ∧
      ({} : Converter).convertNodes [comment, data] =
        "/*\n\ta */ b\n*/\n\"\"\"\n\ta\n\t\"\"\" b\n\"\"\"\n" ∧
      (∃ line ∈ copiedLines comment.value, line.Holds commentEnd) ∧
      ∃ line ∈ copiedLines data.value, line.Holds blockQuote := by
  intro comment data
  have hwritten : ({} : Converter).convertNodes [comment, data] =
      "/*\n\ta */ b\n*/\n\"\"\"\n\ta\n\t\"\"\" b\n\"\"\"\n" := by decide +kernel
  refine ⟨rfl, rfl, hwritten, ?_, ?_⟩
  · rw [exists_copiedLines_holds_iff isDelimiter_commentEnd]
    exact ⟨"a ".toList, " b".toList, by decide⟩
  · rw [exists_copiedLines_holds_iff isDelimiter_blockQuote]
    exact ⟨"a\n".toList, " b".toList, by decide⟩

end HtmlBuilder
