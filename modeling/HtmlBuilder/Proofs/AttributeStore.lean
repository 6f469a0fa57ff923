import HtmlBuilder.Node
import HtmlBuilder.Proofs.Entries
import Mathlib.Data.List.Perm.Subperm

/-!
The attributes of a node as a store. The order of their keys shows in what is
written for a node, but not in whether two nodes are equal. So there are two
views of the store: the list of entries, in which a key keeps the place at which
it was first set, and the map from keys to values, which the same entries in
another order share. Nodes are compared by their maps. The comparison looks up
the entries of one store in the other, so it is an equivalence only because no
key occurs twice; from the attributes and the children of nodes this carries
over to the nodes, whatever their depth.
-/

namespace HtmlBuilder

namespace Attributes

theorem eq_of_entries_eq {a b : Attributes} (h : a.entries = b.entries) :
    a = b := by
  cases a
  cases b
  cases h
  rfl

/-! Attributes that are set one after another. -/

theorem entries_setAll_eq_putEntries (attributes : Attributes)
    (pairs : List (String × String)) : (attributes.setAll pairs).entries =
      putEntries [] (attributes.entries ++ pairs) := by
  rw [← putEntries_eq_putEntries_append attributes.keys_nodup]
  induction pairs generalizing attributes with
  | nil => rfl
  | cons pair pairs ih => exact ih (attributes.set pair.1 pair.2)

theorem entries_setAll (attributes : Attributes)
    (pairs : List (String × String)) :
    (attributes.setAll pairs).entries =
      lastOfEach (attributes.entries ++ pairs) := by
  rw [entries_setAll_eq_putEntries, putEntries_eq_lastOfEach]

theorem keys_setAll (attributes : Attributes) (pairs : List (String × String)) :
    (attributes.setAll pairs).keys =
      (attributes.keys ++ pairs.map Prod.fst).eraseDups := by
  rw [keys, entries_setAll_eq_putEntries, keys_putEntries, List.map_append,
    keys]

/-- The keys that are there stand first, then the new ones in the order in which
they are first set. -/
theorem keys_setAll_eq_append (attributes : Attributes)
    (pairs : List (String × String)) :
    (attributes.setAll pairs).keys =
      attributes.keys ++
        ((pairs.map Prod.fst).removeAll attributes.keys).eraseDups := by
  have hself : attributes.keys.eraseDups = attributes.keys := by
    have hkeys := attributes.keys_setAll []
    rwa [List.map_nil, List.append_nil, eq_comm] at hkeys
  rw [keys_setAll, List.eraseDups_append, hself]

/-- A key has the value that it is given last, or the one it had before. -/
theorem get?_setAll (attributes : Attributes) (pairs : List (String × String))
    (key : String) :
    (attributes.setAll pairs).get? key =
      (lastGiven? pairs key).or (attributes.get? key) := by
  have hself : lastGiven? attributes.entries key = attributes.get? key := by
    rw [← lookup_putEntries, putEntries_eq_self attributes.keys_nodup, get?]
  rw [get?, entries_setAll_eq_putEntries, lookup_putEntries, lastGiven?,
    List.reverse_append, List.lookup_append, ← lastGiven?, ← lastGiven?, hself]

theorem contains_iff (attributes : Attributes) (key : String) :
    attributes.contains key = true ↔ key ∈ attributes.keys :=
  isSome_lookup_iff attributes.entries key

/-! Attributes as a map. -/

/-- Two stores are compared entry by entry in one direction only; since no key
occurs twice, this finds out whether their entries are the same in some
order. -/
theorem sameMap_iff_perm (a b : Attributes) :
    a.sameMap b = true ↔ a.entries.Perm b.entries := by
  have hsame : a.sameMap b = (a.entries.length == b.entries.length &&
      a.entries.all fun entry => b.get? entry.1 == some entry.2) := rfl
  have hsubset :
      (∀ entry ∈ a.entries, (b.get? entry.1 == some entry.2) = true) ↔
      a.entries ⊆ b.entries := by
    refine forall₂_congr fun entry _ => ?_
    rw [beq_iff_eq]
    exact lookup_eq_some_iff_mem b.keys_nodup entry.1 entry.2
  rw [hsame, Bool.and_eq_true, List.all_eq_true, hsubset, beq_iff_eq]
  constructor
  · rintro ⟨hlength, hsubset⟩
    exact (a.keys_nodup.of_map.subperm hsubset).perm_of_length_le
      (Nat.le_of_eq hlength.symm)
  · intro hperm
    exact ⟨hperm.length_eq, hperm.subset⟩

theorem sameMap_iff_get? (a b : Attributes) :
    a.sameMap b = true ↔ ∀ key, a.get? key = b.get? key := by
  rw [sameMap_iff_perm, perm_iff_lookup_eq a.keys_nodup b.keys_nodup]
  rfl

end Attributes

namespace Node

/-! Equality of nodes. -/

theorem same_iff (a b : Node) :
    a.same b = true ↔ a.kind = b.kind ∧ a.name = b.name ∧ a.value? = b.value? ∧
      a.attributes.entries.Perm b.attributes.entries ∧
      sameAll a.children b.children = true := by
  cases a
  cases b
  simp only [same, Bool.and_eq_true, beq_iff_eq,
    Attributes.sameMap_iff_perm, and_assoc]

mutual

theorem same_refl (node : Node) : node.same node = true := by
  match node with
  | ⟨kind, name, value?, attributes, children⟩ =>
    rw [same_iff]
    exact ⟨rfl, rfl, rfl, .refl _, sameAll_refl children⟩

theorem sameAll_refl (nodes : List Node) : sameAll nodes nodes = true := by
  match nodes with
  | [] => rfl
  | node :: rest =>
    rw [sameAll, same_refl node, sameAll_refl rest, Bool.and_true]

end

mutual

/-- Nodes that are equal to one node are equal to each other. -/
theorem same_of_same_of_same {a b c : Node} (hb : a.same b = true)
    (hc : a.same c = true) :
    b.same c = true := by
  match a with
  | ⟨kind, name, value?, attributes, children⟩ =>
    rw [same_iff] at hb hc ⊢
    obtain ⟨hkind, hname, hvalue, hattributes, hchildren⟩ := hb
    obtain ⟨hkind', hname', hvalue', hattributes', hchildren'⟩ := hc
    exact ⟨hkind.symm.trans hkind', hname.symm.trans hname',
      hvalue.symm.trans hvalue', hattributes.symm.trans hattributes',
      sameAll_of_sameAll_of_sameAll hchildren hchildren'⟩

theorem sameAll_of_sameAll_of_sameAll {as bs cs : List Node}
    (hb : sameAll as bs = true)
    (hc : sameAll as cs = true) : sameAll bs cs = true := by
  match as, bs, cs with
  | [], [], [] => rfl
  | a :: as, b :: bs, c :: cs =>
    rw [sameAll, Bool.and_eq_true] at hb hc ⊢
    exact ⟨same_of_same_of_same hb.1 hc.1,
      sameAll_of_sameAll_of_sameAll hb.2 hc.2⟩

end

theorem equivalence_same : Equivalence fun a b : Node => a.same b = true where
  refl := same_refl
  symm {a _} h := same_of_same_of_same h (same_refl a)
  trans {a _ _} h h' :=
    same_of_same_of_same (same_of_same_of_same h (same_refl a)) h'

/-! Attributes that are set on a node. -/

def setAttrs (node : Node) (given : List (String × String)) : Node :=
  given.foldl (fun node (key, value) => node.setAttr key value) node

theorem setAttrs_eq (node : Node) (given : List (String × String)) :
    node.setAttrs given =
      { node with attributes := node.attributes.setAll given } := by
  induction given generalizing node with
  | nil =>
    cases node
    rfl
  | cons entry given ih => exact ih (node.setAttr entry.1 entry.2)

/-- Nodes that differ in their attributes only are equal exactly when these are
the same map. -/
theorem same_withAttributes_iff (node : Node) (attributes others : Attributes) :
    same { node with attributes := attributes }
      { node with attributes := others } = true ↔
      ∀ key, attributes.get? key = others.get? key := by
  rw [same_iff, ← Attributes.sameMap_iff_perm, Attributes.sameMap_iff_get?]
  simp [sameAll_refl]

/-- The attributes of a node are a store that keeps its order. After any
sequence of settings no key occurs twice; the keys that were there stand first,
in their old order, and behind them the new ones in the order in which they were
first set, each with the value that it was given last. Look-ups give this value
and tell which keys are there, and nothing else of the node has changed. Two
nodes that are got from one in this way are equal exactly when all look-ups
agree, whatever the order of their keys; and equality of nodes is an
equivalence. -/
theorem attributes_setAttrs (node : Node)
    (given given' : List (String × String)) :
    (node.setAttrs given).attributes.keys.Nodup ∧
      (node.setAttrs given).attributes.keys =
        node.attributes.keys ++
          ((given.map Prod.fst).removeAll node.attributes.keys).eraseDups ∧
      (node.setAttrs given).attributes.entries =
        lastOfEach (node.attributes.entries ++ given) ∧
      (∀ key, (node.setAttrs given).attr? key =
        (lastGiven? given key).or (node.attr? key)) ∧
      (∀ key, (node.setAttrs given).hasAttr key = true ↔
        key ∈ (node.setAttrs given).attributes.keys) ∧
      (node.setAttrs given) =
        { node with attributes := (node.setAttrs given).attributes } ∧
      ((node.setAttrs given).same (node.setAttrs given') = true ↔
        ∀ key, (node.setAttrs given).attr? key =
          (node.setAttrs given').attr? key) ∧
      Equivalence fun a b : Node => a.same b = true := by
  rw [setAttrs_eq, setAttrs_eq]
  exact ⟨Attributes.keys_nodup _, Attributes.keys_setAll_eq_append _ _,
    Attributes.entries_setAll _ _, Attributes.get?_setAll _ _,
    Attributes.contains_iff _, rfl, same_withAttributes_iff _ _ _,
    equivalence_same⟩

end Node

end HtmlBuilder
