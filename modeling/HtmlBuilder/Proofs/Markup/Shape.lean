import HtmlBuilder.Markup.Document
import HtmlBuilder.Proofs.Assembly
import HtmlBuilder.Proofs.Walk

/-!
The shape of trees that come from markup. The kind of an element follows from
its name in lower case, and a tag name begins with a letter, so no element can
take one of the reserved names. Whether text is raw data is decided by the same
lower-case name that the node gets, so raw data stands in scripts and style
sheets and text does not. Every node is made with the parts that suit its kind,
and this carries over to trees by recursion over the parsed markup.
-/

namespace HtmlBuilder

open Markup

/-! Names in lower case. -/

theorem Text.lowercaseFrom_eq (before done text : List Char) :
    Text.lowercaseFrom before done text =
      done.reverse ++ Text.lowercaseFrom before [] text := by
  induction text generalizing before done with
  | nil => simp [Text.lowercaseFrom]
  | cons c rest ih =>
    rw [Text.lowercaseFrom, ih, Text.lowercaseFrom, ih _ (_ ++ [])]
    simp

theorem val_lt_of_isAlpha {c : Char} (h : c.isAlpha = true) : c.val < 0x80 := by
  delta Char.isAlpha Char.isUpper Char.isLower at h
  simp only [Bool.or_eq_true, decide_eq_true_eq,
    UInt32.le_iff_toNat_le, ge_iff_le, UInt32.lt_iff_toNat_lt] at h ⊢
  simp at h ⊢
  omega

theorem startsWithLetter_lowercase {name : String}
    (h : startsWithLetter name.toList = true) :
    startsWithLetter (Text.lowercase name).toList = true := by
  rw [Text.lowercase, String.toList_ofList]
  match hname : name.toList with
  | [] => simp [hname, startsWithLetter] at h
  | c :: rest =>
    rw [hname, startsWithLetter] at h
    have hsmall := val_lt_of_isAlpha h
    -- Only two letters outside ASCII are lowered by rules of their own.
    have hdot : (c == 'İ') = false := by
      rw [beq_eq_false_iff_ne]
      rintro rfl
      exact absurd hsmall (by decide)
    have hsigma : (c == 'Σ') = false := by
      rw [beq_eq_false_iff_ne]
      rintro rfl
      exact absurd hsmall (by decide)
    rw [Text.lowercaseFrom, Text.lowercaseFrom_eq, hdot, hsigma, Text.lowerChar,
      if_pos hsmall]
    exact isAlpha_toLower h

/-- The reserved names begin with a number sign. -/
theorem NodeKind.ofName_eq_element {name : String}
    (h : startsWithLetter name.toList = true) :
    NodeKind.ofName name = .element := by
  unfold NodeKind.ofName
  split
  case h_6 => rfl
  all_goals exact absurd h (by decide)

theorem kind_elementWith (name : TagName)
    (attributes : List (String × String)) :
    (Node.elementWith name.text attributes).kind = .element :=
  NodeKind.ofName_eq_element (startsWithLetter_lowercase name.starts)

theorem kind_elementNode (name : TagName) (attributes : List (String × String))
    (children : List Dom) :
    (elementNode name attributes children).kind = .element := by
  rw [elementNode_eq]
  exact kind_elementWith name attributes

theorem name_elementNode (name : TagName) (attributes : List (String × String))
    (children : List Dom) :
    (elementNode name attributes children).name = Text.lowercase name.text := by
  rw [elementNode_eq]
  rfl

/-! Shapes. -/

/-- The parts of a node suit its kind, and its children suit its name. -/
structure Node.Shaped (node : Node) : Prop where
  kind_ne_document : node.kind ≠ .document
  /-- Only elements have attributes and children. -/
  bare : node.kind ≠ .element → node.attributes = ∅ ∧ node.children = []
  valued : node.kind = .text ∨ node.kind = .comment ∨ node.kind = .rawData →
  node.value? ≠ none
  element : node.kind = .element → node.value? = none ∧
  node.attributes.keys.Nodup
  /-- Raw data stands directly in scripts and style sheets. -/
  rawData : ∀ child ∈ node.children, child.kind = .rawData →
    node.kind = .element ∧ node.name ∈ ["script", "style"]
  /-- Text does not stand directly in scripts and style sheets. -/
  text : node.kind = .element → node.name ∈ ["script", "style"] →
    ∀ child ∈ node.children, child.kind ≠ .text

/-- A node that is made without children and attributes is well shaped if it is
no element and has a value where its kind needs one. -/
theorem shaped_named {name : String} {value? : Option String} {kind : NodeKind}
    (hkind : NodeKind.ofName name = kind) (hdocument : kind ≠ .document)
    (helement : kind ≠ .element) (hvalue : kind = .doctype ∨ value? ≠ none) :
    ∀ node, Occurs node [Node.named name value?] → node.Shaped := by
  have hnamed : (Node.named name value?).kind = kind := hkind
  rw [forall_occurs_cons_iff]
  refine ⟨⟨?_, fun _ => ⟨rfl, rfl⟩, ?_, ?_, ?_, ?_⟩, forall_occurs_nil,
    forall_occurs_nil⟩
  · rwa [hnamed]
  · intro hvalued
    refine hvalue.resolve_left fun hdoctype => ?_
    rw [hnamed, hdoctype] at hvalued
    simp at hvalued
  · exact fun h => absurd (hnamed.symm.trans h) helement
  · exact fun child hchild => absurd hchild List.not_mem_nil
  · exact fun h => absurd (hnamed.symm.trans h) helement

namespace Node

@[simp] theorem kind_text (value : String) : (text value).kind = .text := rfl

@[simp]
theorem kind_comment (value : String) : (comment value).kind = .comment := rfl

@[simp]
theorem kind_rawData (value : String) : (rawData value).kind = .rawData := rfl

@[simp] theorem kind_doctype : doctype.kind = .doctype := rfl

end Node

/-- Among the nodes made in one place there is no text if text is raw data
there, and no raw data otherwise. -/
theorem kind_ne_of_mem_nodes {raw : Bool} {trees : List Dom} {node : Node}
    (hnode : node ∈ Dom.nodes raw trees) :
    node.kind ≠ if raw then .text else .rawData := by
  induction trees with
  | nil => simp [Dom.nodes] at hnode
  | cons tree rest ih =>
    rw [Dom.nodes, List.mem_append, Option.mem_toList] at hnode
    refine hnode.elim (fun hnode => ?_) ih
    cases tree with
    | element name attributes children =>
      obtain rfl := Option.some.inj hnode
      change (Node.elementWith name.text attributes).kind ≠ _
      rw [kind_elementWith]
      cases raw <;> simp
    | text value =>
      obtain rfl := Option.some.inj hnode
      cases raw <;> simp
    | comment value =>
      obtain rfl := Option.some.inj hnode
      cases raw <;> simp
    | doctype =>
      obtain rfl := Option.some.inj hnode
      cases raw <;> simp
    | contents children => simp [Dom.node?] at hnode

theorem shaped_elementNode (name : TagName)
    (attributes : List (String × String))
    (children : List Dom) : (elementNode name attributes children).Shaped := by
  have hkind := kind_elementNode name attributes children
  have hname := name_elementNode name attributes children
  have hraw : isRawTextElement name.text =
      decide ((elementNode name attributes children).name ∈
        ["script", "style"]) := by
    rw [hname, isRawTextElement_eq]
  have hchildren : (elementNode name attributes children).children =
      Dom.nodes (isRawTextElement name.text) children := by
    rw [elementNode_eq]
  refine ⟨by simp [hkind], fun hne => absurd hkind hne, by simp [hkind],
    fun _ => ⟨?_, ?_⟩, ?_, ?_⟩
  · rw [elementNode_eq]
    rfl
  · exact (elementNode name attributes children).attributes.keys_nodup
  · intro child hchild hdata
    refine ⟨hkind, ?_⟩
    have hne := kind_ne_of_mem_nodes (hchildren ▸ hchild)
    rw [hdata] at hne
    by_contra hplain
    rw [hraw, decide_eq_false hplain] at hne
    exact hne rfl
  · intro _ hplain child hchild
    have hne := kind_ne_of_mem_nodes (hchildren ▸ hchild)
    rw [hraw, decide_eq_true hplain] at hne
    exact hne

mutual

/-- The node of a tree and every node below it are well shaped. -/
theorem shaped_node? (raw : Bool) (tree : Dom) :
    ∀ node, Occurs node (Dom.node? raw tree).toList → node.Shaped := by
  match tree with
  | .element name attributes children =>
    rw [node?_element, Option.toList_some, forall_occurs_cons_iff]
    refine ⟨shaped_elementNode name attributes children, ?_, forall_occurs_nil⟩
    rw [elementNode_eq]
    exact shaped_nodes (isRawTextElement name.text) children
  | .text value =>
    rw [Dom.node?, Option.toList_some]
    cases raw with
    | true => exact shaped_named rfl (by decide) (by decide) (by simp)
    | false => exact shaped_named rfl (by decide) (by decide) (by simp)
  | .comment value => exact shaped_named rfl (by decide) (by decide) (by simp)
  | .doctype => exact shaped_named rfl (by decide) (by decide) (.inl rfl)
  | .contents _ => exact forall_occurs_nil

theorem shaped_nodes (raw : Bool) (trees : List Dom) :
    ∀ node, Occurs node (Dom.nodes raw trees) → node.Shaped := by
  match trees with
  | [] => exact forall_occurs_nil
  | tree :: rest =>
    rw [Dom.nodes, forall_occurs_append_iff]
    exact ⟨shaped_node? raw tree, shaped_nodes raw rest⟩

end

theorem parseFragment_eq (text : String) :
    parseFragment text = Dom.nodes false (Dom.parseFragment text) := by
  rw [parseFragment, elementNode_eq]
  rfl

/-- A part of a document is an element of its name; one that is missing is
empty. -/
theorem exists_nodeNamed_eq (name : TagName) (trees : List Dom) :
    ∃ attributes children,
      nodeNamed name trees = elementNode name attributes children := by
  rw [nodeNamed]
  split
  · next other attributes children hfind =>
    have hother : Dom.isNamed name (.element other attributes children) =
        true :=
      List.find?_some hfind
    refine ⟨attributes, children, ?_⟩
    rw [eq_of_beq hother]
  · refine ⟨[], [], ?_⟩
    rw [elementNode_eq]
    rfl

theorem shaped_nodeNamed (name : TagName)
    (hlower : Text.lowercase name.text = name.text) (trees : List Dom) :
    (nodeNamed name trees).kind = .element ∧
    (nodeNamed name trees).name = name.text ∧
      ∀ node, Occurs node [nodeNamed name trees] → node.Shaped := by
  obtain ⟨attributes, children, hnode⟩ := exists_nodeNamed_eq name trees
  rw [hnode]
  refine ⟨kind_elementNode .., (name_elementNode ..).trans hlower, ?_⟩
  have htree := shaped_node? false (.element name attributes children)
  rwa [node?_element, Option.toList_some] at htree

/-- In the trees of a text read as a fragment and in the two trees of a text
read as a document, every node is well shaped. No raw data stands at the top of
a fragment, and a document always has a head and a body. -/
theorem shaped_of_occurs_parsed (text : String) :
    (∀ node, Occurs node (parseFragment text) → node.Shaped) ∧
      (∀ node ∈ parseFragment text, node.kind ≠ .rawData) ∧
      (∀ node,
        Occurs node [(parseDocument text).head, (parseDocument text).body] →
        node.Shaped) ∧
      ((parseDocument text).head.kind = .element ∧
        (parseDocument text).head.name = "head") ∧
      ((parseDocument text).body.kind = .element ∧
        (parseDocument text).body.name = "body") := by
  have hhead := shaped_nodeNamed .head (by decide)
  have hbody := shaped_nodeNamed .body (by decide)
  refine ⟨?_, ?_, ?_, ?_, ?_⟩
  · rw [parseFragment_eq]
    exact shaped_nodes false _
  · rw [parseFragment_eq]
    exact fun node hnode => kind_ne_of_mem_nodes hnode
  · rw [← List.singleton_append, forall_occurs_append_iff]
    exact ⟨(hhead _).2.2, (hbody _).2.2⟩
  · exact ⟨(hhead _).1, (hhead _).2.1⟩
  · exact ⟨(hbody _).1, (hbody _).2.1⟩

end HtmlBuilder
