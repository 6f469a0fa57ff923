import HtmlBuilder.Markup.Arena

/-!
Trees in an arena. A cell shows a tree if it holds the root of the tree and its
children show the subtrees; every child has a greater number than its parent, so
a walk from a cell downwards comes to an end within the number of cells. New
cells get the next numbers and only their parent learns of them. So an arena
that grows below one cell keeps what all other cells show, and what has grown in
two stretches stands side by side.
-/

namespace HtmlBuilder.Markup

namespace Arena

mutual

def Shows (arena : Arena) (tree : Dom) (id : Nat) : Prop :=
  ∃ cell, arena.cells[id]? = some cell ∧
    match tree with
    | .element name attributes children =>
      (∃ space, cell.content = .element space name attributes) ∧
        ShowsAll arena children (id + 1) cell.children.toList
    | .text value => cell.content = .text value
    | .comment value => cell.content = .comment value
    | .doctype => cell.content = .doctype
    | .contents children =>
      cell.content = .contents ∧
      ShowsAll arena children (id + 1) cell.children.toList

/-- Cells show trees, one each; the first number is a lower bound for all of
them. -/
def ShowsAll (arena : Arena) (trees : List Dom) (first : Nat)
    (ids : List Nat) : Prop :=
  match trees, ids with
  | [], [] => True
  | tree :: trees, id :: ids =>
    first ≤ id ∧ Shows arena tree id ∧ ShowsAll arena trees first ids
  | _, _ => False

end

theorem lt_next_of_getElem? {arena : Arena} {id : Nat} {cell : Cell}
    (h : arena.cells[id]? = some cell) : id < arena.next :=
  (Array.getElem?_eq_some_iff.1 h).1

mutual

theorem tree_of_shows {arena : Arena} (tree : Dom) {depth id : Nat}
    (h : arena.Shows tree id)
    (hdepth : arena.next ≤ depth + id) : arena.tree depth id = tree := by
  rw [Shows] at h
  obtain ⟨cell, hcell, htree⟩ := h
  have hid := lt_next_of_getElem? hcell
  match depth with
  | 0 => omega
  | depth + 1 =>
    match tree with
    | .element name attributes children =>
      obtain ⟨⟨space, hcontent⟩, hchildren⟩ := htree
      rw [Arena.tree, hcell]
      simp only [hcontent]
      rw [trees_of_showsAll children hchildren (by omega)]
    | .text value =>
      simp only [Arena.tree, hcell, show cell.content = _ from htree]
    | .comment value =>
      simp only [Arena.tree, hcell, show cell.content = _ from htree]
    | .doctype =>
      simp only [Arena.tree, hcell, show cell.content = _ from htree]
    | .contents children =>
      obtain ⟨hcontent, hchildren⟩ := htree
      rw [Arena.tree, hcell]
      simp only [hcontent]
      rw [trees_of_showsAll children hchildren (by omega)]

theorem trees_of_showsAll {arena : Arena} (trees : List Dom) {depth first : Nat}
    {ids : List Nat}
    (h : arena.ShowsAll trees first ids) (hdepth : arena.next ≤ depth + first) :
    ids.map (arena.tree depth) = trees := by
  match trees, ids with
  | [], [] => rfl
  | tree :: trees, id :: ids =>
    obtain ⟨hid, htree, hrest⟩ := h
    rw [List.map_cons, tree_of_shows tree htree (by omega),
      trees_of_showsAll trees hrest hdepth]

end

mutual

/-- What a cell shows stays the same if no cell from it on is changed. -/
theorem Shows.mono {before after : Arena} {tree : Dom} {first id : Nat}
    (hkept : ∀ i, first ≤ i → i < before.next →
      after.cells[i]? = before.cells[i]?)
    (h : before.Shows tree id) (hid : first ≤ id) : after.Shows tree id := by
  rw [Shows] at h ⊢
  obtain ⟨cell, hcell, htree⟩ := h
  refine ⟨cell, (hkept id hid (lt_next_of_getElem? hcell)).trans hcell, ?_⟩
  match tree with
  | .element name attributes children =>
    exact ⟨htree.1, htree.2.mono hkept (by omega)⟩
  | .text value => exact htree
  | .comment value => exact htree
  | .doctype => exact htree
  | .contents children => exact ⟨htree.1, htree.2.mono hkept (by omega)⟩

theorem ShowsAll.mono {before after : Arena} {trees : List Dom}
    {first start : Nat} {ids : List Nat}
    (hkept : ∀ i, first ≤ i → i < before.next →
      after.cells[i]? = before.cells[i]?)
    (h : before.ShowsAll trees start ids) (hstart : first ≤ start) :
    after.ShowsAll trees start ids := by
  match trees, ids with
  | [], [] => trivial
  | tree :: trees, id :: ids =>
    obtain ⟨hid, htree, hrest⟩ := h
    exact ⟨hid, htree.mono hkept (by omega), hrest.mono hkept hstart⟩

end

theorem ShowsAll.of_le {arena : Arena} {trees : List Dom} {first start : Nat}
    {ids : List Nat}
    (h : arena.ShowsAll trees start ids) (hstart : first ≤ start) :
    arena.ShowsAll trees first ids := by
  induction trees generalizing ids with
  | nil =>
    match ids with
    | [] => trivial
  | cons tree trees ih =>
    match ids with
    | id :: ids => exact ⟨Nat.le_trans hstart h.1, h.2.1, ih h.2.2⟩

theorem ShowsAll.append {arena : Arena} {a b : List Dom} {first : Nat}
    {ids others : List Nat}
    (ha : arena.ShowsAll a first ids) (hb : arena.ShowsAll b first others) :
    arena.ShowsAll (a ++ b) first (ids ++ others) := by
  induction a generalizing ids with
  | nil =>
    match ids with
    | [] => exact hb
  | cons tree a ih =>
    match ids with
    | id :: ids => exact ⟨ha.1, ha.2.1, ih ha.2.2⟩

/-! New cells. -/

theorem getElem?_create (arena : Arena) (content : Content) (id : Nat) :
    (arena.create content).cells[id]? =
      if id = arena.next then some { content } else arena.cells[id]? :=
  Array.getElem?_push

theorem next_create (arena : Arena) (content : Content) :
    (arena.create content).next = arena.next + 1 :=
  Array.size_push _

theorem next_append (arena : Arena) (parent child : Nat) :
    (arena.append parent child).next = arena.next := by
  simp [append, modify, next]

theorem getElem?_append_parent (arena : Arena) {parent child : Nat}
    (hne : parent ≠ child) : (arena.append parent child).cells[parent]? =
      arena.cells[parent]?.map fun cell =>
        { cell with children := cell.children.push child } := by
  simp [append, modify, Array.getElem?_modify, hne.symm]

theorem getElem?_append_child (arena : Arena) {parent child : Nat}
    (hne : parent ≠ child) : (arena.append parent child).cells[child]? =
      arena.cells[child]?.map fun cell =>
        { cell with parent? := some parent } := by
  simp [append, modify, Array.getElem?_modify, hne]

theorem getElem?_append_other (arena : Arena) {parent child id : Nat}
    (hparent : id ≠ parent) (hchild : id ≠ child) :
    (arena.append parent child).cells[id]? = arena.cells[id]? := by
  simp [append, modify, Array.getElem?_modify, hparent.symm, hchild.symm]

def insert (arena : Arena) (parent : Nat) (content : Content) : Arena :=
  (arena.create content).append parent arena.next

theorem next_insert (arena : Arena) (parent : Nat) (content : Content) :
    (arena.insert parent content).next = arena.next + 1 := by
  rw [insert, next_append, next_create]

theorem getElem?_insert_parent (arena : Arena) {parent : Nat}
    (content : Content) (hparent : parent < arena.next) :
    (arena.insert parent content).cells[parent]? =
      arena.cells[parent]?.map fun cell =>
        { cell with children := cell.children.push arena.next } := by
  rw [insert, getElem?_append_parent _ (Nat.ne_of_lt hparent), getElem?_create,
    if_neg (Nat.ne_of_lt hparent)]

theorem getElem?_insert_next (arena : Arena) {parent : Nat} (content : Content)
    (hparent : parent < arena.next) :
    (arena.insert parent content).cells[arena.next]? =
      some ⟨content, some parent, #[]⟩ := by
  rw [insert, getElem?_append_child _ (Nat.ne_of_lt hparent),
    getElem?_create, if_pos rfl]
  rfl

theorem getElem?_insert_other (arena : Arena) {parent id : Nat}
    (content : Content) (hid : id ≠ parent) (hold : id < arena.next) :
    (arena.insert parent content).cells[id]? = arena.cells[id]? := by
  rw [insert, getElem?_append_other _ hid (Nat.ne_of_lt hold), getElem?_create,
    if_neg (Nat.ne_of_lt hold)]

/-! Growth. -/

/-- An arena grows below one cell: the cell gets children behind the ones it
has, which show the given trees in new cells, and no other cell changes. -/
structure Grows (parent : Nat) (trees : List Dom)
    (before after : Arena) : Prop where
  next_le : before.next ≤ after.next
  kept : ∀ id < before.next, id ≠ parent → after.cells[id]? = before.cells[id]?
  shown : ∃ cell ids, before.cells[parent]? = some cell ∧
    after.cells[parent]? =
      some { cell with children := cell.children ++ ids.toArray } ∧
    after.ShowsAll trees before.next ids

namespace Grows

variable {parent : Nat} {trees : List Dom} {before middle after : Arena}

theorem parent_lt (h : Grows parent trees before after) :
    parent < before.next := by
  obtain ⟨cell, ids, hcell, -⟩ := h.shown
  exact lt_next_of_getElem? hcell

theorem refl (hparent : parent < before.next) :
    Grows parent [] before before := by
  refine ⟨Nat.le_refl _, fun _ _ _ => rfl, before.cells[parent], [], ?_,
    ?_, trivial⟩
  · exact Array.getElem?_eq_getElem hparent
  · rw [Array.append_empty]
    exact Array.getElem?_eq_getElem hparent

theorem trans {others : List Dom} (h : Grows parent trees before middle)
    (hnext : Grows parent others middle after) :
    Grows parent (trees ++ others) before after := by
  have hparent := h.parent_lt
  have hle := h.next_le
  obtain ⟨cell, ids, hcell, hmiddle, hshown⟩ := h.shown
  obtain ⟨cell', ids', hcell', hafter, hshown'⟩ := hnext.shown
  obtain rfl : _ = cell' := Option.some.inj (hmiddle.symm.trans hcell')
  -- The parent is an old cell, so the second growth changes nothing that the
  -- first one has shown.
  have hkept : ∀ id, before.next ≤ id → id < middle.next →
      after.cells[id]? = middle.cells[id]? :=
    fun id hid hlt => hnext.kept id hlt (by omega)
  refine ⟨Nat.le_trans hle hnext.next_le, ?_, cell, ids ++ ids', hcell, ?_, ?_⟩
  · intro id hid hne
    rw [hnext.kept id (by omega) hne, h.kept id hid hne]
  · rw [hafter]
    simp
  · exact (hshown.mono hkept (Nat.le_refl _)).append (hshown'.of_le hle)

/-- The growth of a new element below a cell is the growth of its own
children. -/
theorem element {space : Namespace} {name : TagName}
    {attributes : List (String × String)} (hparent : parent < before.next)
    (h : Grows before.next trees
      (before.insert parent (.element space name attributes)) after) :
    Grows parent [.element name attributes trees] before after := by
  obtain ⟨cell, ids, hcell, hafter, hshown⟩ := h.shown
  have hnext := next_insert before parent (.element space name attributes)
  have hle := h.next_le
  rw [getElem?_insert_next _ _ hparent] at hcell
  obtain rfl := Option.some.inj hcell
  rw [hnext] at hle hshown
  refine ⟨by omega, ?_, before.cells[parent], [before.next],
    Array.getElem?_eq_getElem hparent, ?_, Nat.le_refl _, ?_, trivial⟩
  · intro id hid hne
    rw [h.kept id (by omega) (by omega), getElem?_insert_other _ _ hne hid]
  · rw [h.kept parent (by omega) (by omega), getElem?_insert_parent _ _ hparent,
      Array.getElem?_eq_getElem hparent]
    rfl
  · rw [Shows]
    refine ⟨_, hafter, ⟨space, rfl⟩, ?_⟩
    simpa using hshown

theorem insert_text (hparent : parent < before.next) (value : String) :
    Grows parent [.text value] before (before.insert parent (.text value)) := by
  refine ⟨?_, fun id hid hne => getElem?_insert_other _ _ hne hid,
    before.cells[parent], [before.next], Array.getElem?_eq_getElem hparent, ?_,
    Nat.le_refl _, ?_, trivial⟩
  · rw [next_insert]
    exact Nat.le_succ _
  · rw [getElem?_insert_parent _ _ hparent, Array.getElem?_eq_getElem hparent]
    rfl
  · rw [Shows]
    exact ⟨_, getElem?_insert_next _ _ hparent, rfl⟩

end Grows

/-! Texts that grow. -/

def EndsInText (arena : Arena) (parent : Nat) : Prop :=
  ∃ last, (arena.children parent).back? = some last ∧ arena.isText last = true

theorem getElem?_extendText_of_ne (arena : Arena) {id other : Nat} (c : Char)
    (hne : other ≠ id) :
    (arena.extendText id c).cells[other]? = arena.cells[other]? := by
  simp [extendText, modify, Array.getElem?_modify, hne.symm]

theorem getElem?_extendText {arena : Arena} {id : Nat} {value : String}
    {cell : Cell} (c : Char) (hcell : arena.cells[id]? = some cell)
    (hcontent : cell.content = .text value) :
    (arena.extendText id c).cells[id]? =
      some { cell with content := .text (value.push c) } := by
  obtain ⟨content, parent?, children⟩ := cell
  obtain rfl : content = .text value := hcontent
  simp [extendText, modify, Array.getElem?_modify, hcell]

theorem next_extendText (arena : Arena) (id : Nat) (c : Char) :
    (arena.extendText id c).next = arena.next := by
  simp [extendText, modify, next]

theorem not_endsInText_insert (arena : Arena) {parent : Nat} (content : Content)
    (hparent : parent < arena.next) :
    ¬ (arena.insert parent content).EndsInText arena.next := by
  rintro ⟨last, hlast, -⟩
  rw [children, getElem?_insert_next _ _ hparent] at hlast
  cases hlast

/-- Where no text stands last, a character begins a new one. -/
theorem appendCharacter_eq_insert {arena : Arena} {parent : Nat} (c : Char)
    (h : ¬ arena.EndsInText parent) :
    arena.appendCharacter parent c =
      arena.insert parent (.text (String.singleton c)) := by
  unfold appendCharacter
  split
  · next last hlast =>
    rw [if_neg fun htext => h ⟨last, hlast, htext⟩]
    rfl
  · rfl

/-- Where a text has just grown, a character joins it. -/
theorem Grows.appendCharacter {parent : Nat} {value : String}
    {before after : Arena}
    (h : Grows parent [.text value] before after) (c : Char) :
    Grows parent [.text (value.push c)] before
      (after.appendCharacter parent c) := by
  have hparent := h.parent_lt
  have hle := h.next_le
  obtain ⟨cell, ids, hcell, hafter, hshown⟩ := h.shown
  match ids with
  | [id] =>
    obtain ⟨hid, htext, -⟩ := hshown
    rw [Shows] at htext
    obtain ⟨text, htext, hcontent⟩ := htext
    have hlast : (after.children parent).back? = some id := by
      rw [children, hafter]
      simp
    have hisText : after.isText id = true := by
      obtain ⟨content, parent?, children⟩ := text
      obtain rfl : content = .text value := hcontent
      rw [isText, htext]
    have hcharacter : after.appendCharacter parent c =
        after.extendText id c := by
      rw [Arena.appendCharacter, hlast]
      exact if_pos hisText
    rw [hcharacter]
    refine ⟨by rwa [next_extendText], ?_, cell, [id], hcell, ?_, hid,
      ?_, trivial⟩
    · intro other hother hne
      rw [getElem?_extendText_of_ne _ _ (by omega), h.kept other hother hne]
    · rw [getElem?_extendText_of_ne _ _ (by omega), hafter]
    · rw [Shows]
      exact ⟨_, getElem?_extendText c htext hcontent, rfl⟩

/-- Characters one after another become one text, unless there is a text that
they join. -/
theorem grows_foldl_appendCharacter {parent : Nat} {arena : Arena}
    (hparent : parent < arena.next)
    (h : ¬ arena.EndsInText parent) {text : List Char} (htext : text ≠ []) :
    Grows parent [.text (String.ofList text)] arena
      (text.foldl (fun arena c => arena.appendCharacter parent c) arena) := by
  have hrest (value : String) (rest : List Char) (grown : Arena)
      (hgrown : Grows parent [.text value] arena grown) :
      Grows parent [.text (value ++ String.ofList rest)] arena
        (rest.foldl (fun arena c => arena.appendCharacter parent c) grown) := by
    induction rest generalizing value grown with
    | nil => simpa using hgrown
    | cons c rest ih =>
      have hpush : value ++ String.ofList (c :: rest) =
          value.push c ++ String.ofList rest := by
        rw [← String.toList_inj]
        simp
      rw [hpush]
      exact ih _ _ (hgrown.appendCharacter c)
  match text with
  | c :: rest =>
    have hsingle : String.ofList (c :: rest) =
        String.singleton c ++ String.ofList rest := by
      rw [← String.toList_inj]
      simp
    rw [hsingle, List.foldl_cons, appendCharacter_eq_insert c h]
    exact hrest _ _ _ (Grows.insert_text hparent _)

/-- The children of a cell do not end with a text once an element has grown
there. -/
theorem Grows.not_endsInText {parent : Nat} {name : TagName}
    {attributes : List (String × String)}
    {children : List Dom} {before after : Arena}
    (h : Grows parent [.element name attributes children] before after) :
    ¬ after.EndsInText parent := by
  obtain ⟨cell, ids, -, hafter, hshown⟩ := h.shown
  match ids with
  | [id] =>
    obtain ⟨-, helement, -⟩ := hshown
    rw [Shows] at helement
    obtain ⟨⟨content, parent?, ids⟩, hcell, ⟨space, hcontent⟩, -⟩ := helement
    rintro ⟨last, hlast, htext⟩
    have hid : (after.children parent).back? = some id := by
      rw [Arena.children, hafter]
      simp
    obtain rfl := Option.some.inj (hid.symm.trans hlast)
    obtain rfl : content = _ := hcontent
    rw [isText, hcell] at htext
    cases htext

end Arena

end HtmlBuilder.Markup
