import HtmlBuilder.Proofs.AttributeStore
import HtmlBuilder.Proofs.Markup.Shape
import Mathlib.Data.List.Dedup

/-!
What becomes of the content of markup. Read in document order, a tree is a list
of pieces: elements with the number of their attributes, texts and comments. The
nodes of parsed markup have its pieces in the same order, with two exceptions:
the content of a template has no nodes, and attributes of one element that have
the same key are one attribute of its node. Both only take away, so all content
is kept exactly where neither of them happens.
-/

namespace HtmlBuilder

inductive Piece where
  | element (name : String) (attributes : Nat)
  | text (value : String)
  | comment (value : String)
deriving DecidableEq

namespace Node

/-- The piece that a node is, if it is one; raw data is text. -/
def ownPiece? (node : Node) : Option Piece :=
  match node.kind with
  | .element => some (.element node.name node.attributes.entries.length)
  | .text | .rawData => some (.text node.value)
  | .comment => some (.comment node.value)
  | .document | .doctype => none

mutual

def pieces (node : Node) : List Piece :=
  match node with
  | node@⟨_, _, _, _, children⟩ => node.ownPiece?.toList ++ piecesAll children

def piecesAll (nodes : List Node) : List Piece :=
  match nodes with
  | [] => []
  | node :: rest => pieces node ++ piecesAll rest

end

end Node

namespace Markup

def keyCount (attributes : List (String × String)) : Nat :=
  (attributes.map Prod.fst).dedup.length

namespace Dom

mutual

/-- The pieces of a tree of parsed markup in document order, with or without the
content of its templates. The attributes of an element are counted as `count`
says. -/
def pieces (withTemplates : Bool) (count : List (String × String) → Nat)
    (tree : Dom) : List Piece :=
  match tree with
  | .element name attributes children =>
    .element (Text.lowercase name.text) (count attributes) ::
      piecesAll withTemplates count children
  | .text value => [.text value]
  | .comment value => [.comment value]
  | .doctype => []
  | .contents children =>
    if withTemplates then piecesAll withTemplates count children else []

def piecesAll (withTemplates : Bool) (count : List (String × String) → Nat)
    (trees : List Dom) : List Piece :=
  match trees with
  | [] => []
  | tree :: rest =>
    pieces withTemplates count tree ++ piecesAll withTemplates count rest

end

/-- All pieces that the parser places somewhere, with all attributes that it
gives them. -/
def placed (tree : Dom) : List Piece :=
  pieces true List.length tree

def placedAll (trees : List Dom) : List Piece :=
  piecesAll true List.length trees

/-- The pieces outside templates, with one attribute for every key. -/
def kept (tree : Dom) : List Piece :=
  pieces false keyCount tree

def keptAll (trees : List Dom) : List Piece :=
  piecesAll false keyCount trees

mutual

/-- Nothing of a tree is lost: its templates have no content, and no key of an
element is repeated. -/
def IsWhole (tree : Dom) : Prop :=
  match tree with
  | .element _ attributes children =>
    (attributes.map Prod.fst).Nodup ∧ AreWhole children
  | .text _ | .comment _ | .doctype => True
  | .contents children => placedAll children = []

def AreWhole (trees : List Dom) : Prop :=
  match trees with
  | [] => True
  | tree :: rest => IsWhole tree ∧ AreWhole rest

end

end Dom

end Markup

open Markup

/-! Attributes of nodes. -/

namespace Attributes

theorem length_entries_ofList (pairs : List (String × String)) :
    (ofList pairs).entries.length = keyCount pairs := by
  have hmem (key : String) :
      key ∈ (ofList pairs).keys ↔ key ∈ (pairs.map Prod.fst).dedup := by
    rw [ofList, keys_setAll, List.mem_eraseDups, List.mem_dedup]
    rfl
  have hperm : (ofList pairs).keys.Perm (pairs.map Prod.fst).dedup :=
    (List.perm_ext_iff_of_nodup (ofList pairs).keys_nodup
      (List.nodup_dedup _)).2 hmem
  rw [keyCount, ← hperm.length_eq, keys, List.length_map]

end Attributes

theorem keyCount_eq_length_iff (attributes : List (String × String)) :
    keyCount attributes = attributes.length ↔
      (attributes.map Prod.fst).Nodup := by
  rw [← List.length_map Prod.fst, keyCount, ← List.dedup_eq_self]
  exact ⟨(List.dedup_sublist _).eq_of_length, congrArg List.length⟩

/-! Pieces of nodes. -/

theorem Node.pieces_eq (node : Node) :
    node.pieces = node.ownPiece?.toList ++ Node.piecesAll node.children := by
  cases node
  rw [pieces]

theorem Node.piecesAll_append (a b : List Node) :
    Node.piecesAll (a ++ b) = Node.piecesAll a ++ Node.piecesAll b := by
  induction a with
  | nil => rfl
  | cons node rest ih =>
    rw [List.cons_append, piecesAll, piecesAll, ih, List.append_assoc]

mutual

theorem piecesAll_node? (raw : Bool) (tree : Dom) :
    Node.piecesAll (Dom.node? raw tree).toList = tree.kept := by
  match tree with
  | .element name attributes children =>
    have hchildren := piecesAll_nodes (isRawTextElement name.text) children
    have hown : (elementNode name attributes children).ownPiece? =
        some (.element (Text.lowercase name.text) (keyCount attributes)) := by
      rw [Node.ownPiece?, kind_elementNode, name_elementNode, elementNode_eq,
        ← Attributes.length_entries_ofList]
      rfl
    rw [node?_element, Option.toList_some, Node.piecesAll, Node.piecesAll,
      List.append_nil, Node.pieces_eq, hown, elementNode_eq, hchildren]
    rfl
  | .text value => cases raw <;> rfl
  | .comment value => rfl
  | .doctype => rfl
  | .contents children => rfl

/-- The nodes of trees have the pieces of the trees that are kept. -/
theorem piecesAll_nodes (raw : Bool) (trees : List Dom) :
    Node.piecesAll (Dom.nodes raw trees) = Dom.keptAll trees := by
  match trees with
  | [] => rfl
  | tree :: rest =>
    rw [Dom.nodes, Node.piecesAll_append, piecesAll_node?, piecesAll_nodes]
    rfl

end

/-! Kept pieces are some of the placed ones. -/

mutual

theorem length_kept_le (tree : Dom) :
    tree.kept.length ≤ tree.placed.length := by
  match tree with
  | .element name attributes children =>
    exact Nat.succ_le_succ (length_keptAll_le children)
  | .text value => exact Nat.le_refl _
  | .comment value => exact Nat.le_refl _
  | .doctype => exact Nat.le_refl _
  | .contents children => exact Nat.zero_le _

theorem length_keptAll_le (trees : List Dom) :
    (Dom.keptAll trees).length ≤ (Dom.placedAll trees).length := by
  match trees with
  | [] => exact Nat.le_refl _
  | tree :: rest =>
    have htree := length_kept_le tree
    have hrest := length_keptAll_le rest
    change (tree.kept ++ Dom.keptAll rest).length ≤
      (tree.placed ++ Dom.placedAll rest).length
    rw [List.length_append, List.length_append]
    omega

end

mutual

theorem placed_eq_kept_iff (tree : Dom) :
    tree.placed = tree.kept ↔ tree.IsWhole := by
  match tree with
  | .element name attributes children =>
    have hchildren := placedAll_eq_keptAll_iff children
    change Piece.element _ attributes.length :: Dom.placedAll children =
      Piece.element _ (keyCount attributes) :: Dom.keptAll children ↔ _
    rw [Dom.IsWhole, ← hchildren, ← keyCount_eq_length_iff, List.cons.injEq,
      Piece.element.injEq, eq_comm (a := keyCount attributes)]
    simp
  | .text value => exact iff_of_true rfl trivial
  | .comment value => exact iff_of_true rfl trivial
  | .doctype => exact iff_of_true rfl trivial
  | .contents children => exact Iff.rfl

theorem placedAll_eq_keptAll_iff (trees : List Dom) :
    Dom.placedAll trees = Dom.keptAll trees ↔ Dom.AreWhole trees := by
  match trees with
  | [] => exact iff_of_true rfl trivial
  | tree :: rest =>
    rw [Dom.AreWhole, ← placed_eq_kept_iff, ← placedAll_eq_keptAll_iff]
    change tree.placed ++ Dom.placedAll rest = tree.kept ++ Dom.keptAll rest ↔ _
    constructor
    · intro heq
      -- Neither part has more kept pieces than placed ones, so both have as
      -- many.
      have hlength := congrArg List.length heq
      have htree := length_kept_le tree
      have hrest := length_keptAll_le rest
      rw [List.length_append, List.length_append] at hlength
      exact List.append_inj heq (by omega)
    · rintro ⟨htree, hrest⟩
      rw [htree, hrest]

end

/-- The nodes of a fragment have the pieces that the parser places outside
templates, in document order and with one attribute for every key. All pieces
that the parser places are among them, with all of their attributes, exactly
when no template has content and no element outside templates has two attributes
with one key. -/
theorem piecesAll_parseFragment (text : String) :
    Node.piecesAll (parseFragment text) = Dom.keptAll (Dom.parseFragment text) ∧
      ((Dom.placedAll (Dom.parseFragment text)).Sublist
        (Node.piecesAll (parseFragment text)) ↔
        Dom.AreWhole (Dom.parseFragment text)) := by
  have hnodes : Node.piecesAll (parseFragment text) =
      Dom.keptAll (Dom.parseFragment text) := by
    rw [parseFragment_eq, piecesAll_nodes]
  refine ⟨hnodes, ?_⟩
  rw [hnodes, ← placedAll_eq_keptAll_iff]
  constructor
  · exact fun hsublist => hsublist.eq_of_length_le (length_keptAll_le _)
  · exact fun heq => heq ▸ List.Sublist.refl _

/-- The content of a template is lost, and so is one of two attributes whose
keys differ only in their namespace. -/
theorem not_sublist_piecesAll_template :
    ¬ (Dom.placedAll
        (Dom.parseFragment "<template><p>x</p></template>")).Sublist
        (Node.piecesAll (parseFragment "<template><p>x</p></template>")) ∧
      ¬ (Dom.placedAll
        (Dom.parseFragment "<svg><a href=\"x\" xlink:href=\"y\">")).Sublist
        (Node.piecesAll
          (parseFragment "<svg><a href=\"x\" xlink:href=\"y\">")) := by
  decide +kernel

end HtmlBuilder
