import HtmlBuilder.Proofs.Layout
import HtmlBuilder.Proofs.Text.Reflow
import Mathlib.Logic.Relation

/-!
Markup that is laid out differently is written the same. Two trees that differ
by white space only, between siblings or where it does not show in a value, have
the same lines. An edit keeps the lines of the node it is made in; around it, a
node depends on its children only through their lines and through whether there
are any.
-/

namespace HtmlBuilder

structure IsBlankText (node : Node) : Prop where
  kind_eq : node.kind = .text
  blank : ∀ c ∈ node.value.toList, Text.isBlank c = true
  childless : node.children = []

/-- One edit of a tree that adds white space or takes it away, at any depth. A
blank text may come or go among the children of a node that keeps some child;
the value of a text, a comment or raw data may be padded. -/
inductive Reformat : Node → Node → Prop
  | pad (node : Node) (value padded : String)
    (hkind : node.kind = .text ∨ node.kind = .comment ∨ node.kind = .rawData)
    (hvalue : node.value? = some value)
    (hpadded : Text.Padded value.toList padded.toList) :
    Reformat node { node with value? := some padded }
  | insert (node : Node) (before after : List Node) (blank : Node)
    (hchildren : node.children = before ++ after) (hne : before ++ after ≠ [])
    (hblank : IsBlankText blank) :
    Reformat node { node with children := before ++ blank :: after }
  | remove (node : Node) (before after : List Node) (blank : Node)
    (hchildren : node.children = before ++ blank :: after)
    (hne : before ++ after ≠ []) (hblank : IsBlankText blank) :
    Reformat node { node with children := before ++ after }
  | child (node : Node) (before after : List Node) (child child' : Node)
    (hchildren : node.children = before ++ child :: after)
    (hchild : Reformat child child') :
    Reformat node { node with children := before ++ child' :: after }

section

variable {options : Options} {rules : Rules} {lineBreak : String}

/-- A node depends on its children only through their lines and through whether
there are any. -/
theorem treeLines_withChildren {node : Node} {children : List Node}
    (hempty : children.isEmpty = node.children.isEmpty)
    (hlines : forestLines options rules lineBreak children =
      forestLines options rules lineBreak node.children) :
    treeLines options rules lineBreak { node with children } =
      treeLines options rules lineBreak node := by
  have hhas : ({ node with children } : Node).hasChildren =
      node.hasChildren := by
    rw [Node.hasChildren, Node.hasChildren, hempty]
  rw [treeLines_eq, treeLines_eq, hlines]
  simp only [openingLines, closingLines, headText, hhas, Node.value]

theorem forestLines_blank {blank : Node} (hblank : IsBlankText blank)
    (before after : List Node) :
    forestLines options rules lineBreak (before ++ blank :: after) =
      forestLines options rules lineBreak (before ++ after) := by
  have hlines : treeLines options rules lineBreak blank = [] := by
    rw [treeLines_eq, openingLines, closingLines, hblank.kind_eq,
      hblank.childless, valueLines,
      (Text.trimLines_eq_nil_iff _ _).2 hblank.blank]
    rfl
  rw [forestLines_append, forestLines, hlines, List.nil_append,
    forestLines_append]

theorem treeLines_pad {node : Node} {value padded : String}
    (hkind : node.kind = .text ∨ node.kind = .comment ∨ node.kind = .rawData)
    (hvalue : node.value? = some value)
    (hpadded : Text.Padded value.toList padded.toList) :
    treeLines options rules "\n" { node with value? := some padded } =
      treeLines options rules "\n" node := by
  have hlines : valueLines "\n" padded = valueLines "\n" value := by
    rw [valueLines, valueLines]
    exact congrArg (List.map String.ofList) hpadded.trimLines_eq
  have hopening : openingLines options rules "\n"
      { node with value? := some padded } =
      openingLines options rules "\n" node := by
    rcases hkind with hkind | hkind | hkind <;>
      simp only [openingLines, hkind, Node.value, hvalue,
        Option.getD_some, hlines]
  rw [treeLines_eq, treeLines_eq, hopening]
  rfl

theorem treeLines_eq_of_reformat {node node' : Node} (h : Reformat node node') :
    treeLines options rules "\n" node' = treeLines options rules "\n" node := by
  induction h with
  | pad node value padded hkind hvalue hpadded =>
    exact treeLines_pad hkind hvalue hpadded
  | insert node before after blank hchildren hne hblank =>
    refine treeLines_withChildren ?_ ?_
    · rw [hchildren, List.isEmpty_eq_false_iff.2 hne]
      simp
    · rw [hchildren, forestLines_blank hblank]
  | remove node before after blank hchildren hne hblank =>
    refine treeLines_withChildren ?_ ?_
    · rw [hchildren, List.isEmpty_eq_false_iff.2 hne]
      simp
    · rw [hchildren, forestLines_blank hblank]
  | child node before after child child' hchildren hchild ih =>
    refine treeLines_withChildren ?_ ?_
    · rw [hchildren]
      cases before <;> rfl
    · rw [hchildren, forestLines_append, forestLines_append, forestLines,
        forestLines, ih]

end

/-- Any number of edits leaves what a converter writes as it is, if its line
break is a line feed. -/
theorem convertNode_eq_of_reformats (converter : Converter)
    (hbreak : converter.formatter.lineBreak = "\n") {tree tree' : Node}
    (h : Relation.ReflTransGen Reformat tree tree') :
    converter.convertNode tree' = converter.convertNode tree := by
  have hlines : treeLines converter.options converter.rules "\n" tree' =
      treeLines converter.options converter.rules "\n" tree := by
    induction h with
    | refl => rfl
    | tail _ hedit ih => rw [treeLines_eq_of_reformat hedit, ih]
  rw [Converter.convertNode, Converter.convertNode, Converter.convertNodes_eq,
    Converter.convertNodes_eq, hbreak]
  simp only [forestLines, hlines]

theorem convertNode_eq_of_reformats_list :
    ({} : Converter).formatter.lineBreak = "\n" ∧
      Relation.ReflTransGen Reformat
        { Node.element "ul" with
          children :=
            [{ Node.element "li" with children := [Node.text "a\nb"] }] }
        { Node.element "ul" with
          children := [Node.text "\n  ",
            { Node.element "li" with children := [Node.text "a\r\nb"] }] } ∧
      Converter.convertNode {}
          { Node.element "ul" with
            children := [Node.text "\n  ",
              { Node.element "li" with children := [Node.text "a\r\nb"] }] } =
        Converter.convertNode {}
          { Node.element "ul" with
            children :=
              [{ Node.element "li" with children := [Node.text "a\nb"] }] } := by
  have hpad : Reformat (Node.text "a\nb") (Node.text "a\r\nb") :=
    .pad (Node.text "a\nb") "a\nb" "a\r\nb" (.inl rfl) rfl
      (.beforeBreak ['a'] ['\r'] ['b'] (by simp [Text.isBlank]) (by simp))
  have hitem :
      Reformat { Node.element "li" with children := [Node.text "a\nb"] }
        { Node.element "li" with children := [Node.text "a\r\nb"] } :=
    .child { Node.element "li" with children := [Node.text "a\nb"] }
      [] [] _ _ rfl hpad
  have hblank : IsBlankText (Node.text "\n  ") :=
    ⟨rfl, by simp [Node.value, Node.text, Node.named, Text.isBlank], rfl⟩
  have hedits : Relation.ReflTransGen Reformat
      { Node.element "ul" with
        children :=
          [{ Node.element "li" with children := [Node.text "a\nb"] }] }
      { Node.element "ul" with
        children := [Node.text "\n  ",
          { Node.element "li" with children := [Node.text "a\r\nb"] }] } :=
    .tail (.single
      (.insert _ [] _ (Node.text "\n  ") rfl (List.cons_ne_nil _ _) hblank))
      (.child _ [Node.text "\n  "] [] _ _ rfl hitem)
  exact ⟨rfl, hedits, convertNode_eq_of_reformats {} rfl hedits⟩

end HtmlBuilder
