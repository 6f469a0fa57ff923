import HtmlBuilder.Proofs.Settings.Documents
import HtmlBuilder.Proofs.Settings.Layers
import HtmlBuilder.Proofs.Settings.Overrides
import Mathlib.Data.List.Nodup

/-!
Merged tables that differ in nothing but a field: in nothing but the entry of
the field in its section, where a section that is no table counts as an empty
one. Merging the same into them keeps them in agreement, and so does putting
them on an empty table as one layer. An override of the field makes them the
same up to the order of their entries.
-/

namespace HtmlBuilder.Settings

open Value

/-! Sections without one of their entries. -/

namespace Value

/-- The table that a value counts as where something is merged into it, without
one of its entries. -/
def without (value : Value) (name : String) : Value :=
  .table value.asTable.origin? (value.asTable.entries.filter (·.1 != name))

theorem filter_updateEntry_self (entries : List (String × Value))
    (name : String) (change : Option Value → Value) :
    (updateEntry entries name change).filter (·.1 != name) =
      entries.filter (·.1 != name) := by
  induction entries with
  | nil => simp [updateEntry]
  | cons entry rest ih => by_cases hname : entry.1 = name <;>
      simp [updateEntry, hname, ih]

theorem filter_updateEntry_of_ne (entries : List (String × Value))
    {name key : String} (h : key ≠ name) (change : Option Value → Value) :
    (updateEntry entries key change).filter (·.1 != name) =
      updateEntry (entries.filter (·.1 != name)) key change := by
  induction entries with
  | nil => simp [updateEntry, h]
  | cons entry rest ih =>
    by_cases hkey : entry.1 = key
    · simp [updateEntry, hkey, h]
    · by_cases hname : entry.1 = name
      · simp [updateEntry, hname, Ne.symm h, ih]
      · simp [updateEntry, hkey, hname, ih]

theorem without_update (value : Value) (name key : String)
    (change : Option Value → Value) : (value.update key change).without name =
      if Text.lowercase key = name then value.without name
      else (value.without name).update key change := by
  rw [update_eq]
  split
  · next h =>
    rw [h]
    exact congrArg _ (filter_updateEntry_self _ _ _)
  · next h =>
    rw [update_eq]
    exact congrArg _ (filter_updateEntry_of_ne _ h _)

theorem without_putAll (value : Value) (name : String)
    (entries : List (String × Value)) : (value.putAll entries).without name =
      (value.without name).putAll
        (entries.filter (Text.lowercase ·.1 != name)) := by
  induction entries generalizing value with
  | nil => simp only [List.filter_nil, putAll]
  | cons entry rest ih =>
    obtain ⟨key, content⟩ := entry
    rw [putAll, ih, put_eq, without_update]
    by_cases hkey : Text.lowercase key = name
    · simp [hkey]
    · simp [hkey, putAll, put_eq]

theorem asTable_updateItem (value : Value) (n : Int) (change : Value → Value) :
    (value.updateItem n change).asTable = emptyTable := by
  cases value <;> rfl

/-- What stands in place of an entry when a value is put at the end of some
steps below it. -/
def placed (value : Value) (steps : List KeyStep)
    (old? : Option Value) : Value :=
  match steps with
  | [] => value.merged old?
  | steps => (old?.getD nothing).putBelow steps value

theorem assign_eq (root : Value) (key : Key) (value : Value) :
    root.assign key value = root.update key.first (value.placed key.steps) := by
  obtain ⟨first, steps⟩ := key
  cases steps with
  | nil => exact root.putBelow_names first [] value
  | cons step steps => rfl

theorem putBelow_name (root : Value) (name : String) (steps : List KeyStep)
    (value : Value) :
    root.putBelow (.name name :: steps) value =
      root.update name (value.placed steps) :=
  root.assign_eq ⟨name, steps⟩ value

/-- Values that are merged into a table tell nothing of an entry that the table
had. -/
theorem without_placed {name : String} {old? old?' : Option Value}
    (h : Option.Rel (fun old old' => old.without name = old'.without name)
      old? old?')
    (value : Value) (steps : List KeyStep) :
    (value.placed steps old?).without name =
      (value.placed steps old?').without name := by
  have hgetD (default : Value) : (old?.getD default).without name =
      (old?'.getD default).without name := by
    cases h with
    | none => rfl
    | some h => exact h
  cases steps with
  | nil =>
    cases value with
    | scalar | array => rfl
    | table origin? entries =>
      show (putAll _ _).without name = (putAll _ _).without name
      rw [without_putAll, without_putAll, hgetD]
  | cons step rest =>
    cases step with
    | name key =>
      show (putBelow _ _ _).without name = (putBelow _ _ _).without name
      rw [putBelow_name, putBelow_name, without_update, without_update, hgetD]
    | position n =>
      show (updateItem _ _ _).without name = (updateItem _ _ _).without name
      rw [without, without, asTable_updateItem, asTable_updateItem]

/-- What is put at a name or below it changes no other entry. -/
theorem without_placed_name {name key : String}
    (hkey : Text.lowercase key = name) (value : Value)
    (steps : List KeyStep) (old : Value) :
    (value.placed (.name key :: steps) (some old)).without name =
      old.without name := by
  show (putBelow _ _ _).without name = _
  rw [putBelow_name, without_update, if_pos hkey]
  rfl

end Value

/-! Merged tables that differ in nothing but a field. -/

/-- Two values of a key that differ in nothing but a field. -/
def AgreeAt (field : Field) (key : String) (value other : Value) : Prop :=
  if key = field.home.key then
    value.without field.name = other.without field.name
  else value = other

theorem AgreeAt.refl (field : Field) (key : String) (value : Value) :
    AgreeAt field key value value := by
  unfold AgreeAt
  split <;> rfl

def AgreeEntry (field : Field) (entry other : String × Value) : Prop :=
  entry.1 = other.1 ∧ AgreeAt field entry.1 entry.2 other.2

structure AgreeBut (field : Field) (root other : Value) : Prop where
  origin?_eq : root.asTable.origin? = other.asTable.origin?
  entries :
    List.Forall₂ (AgreeEntry field) root.asTable.entries other.asTable.entries

theorem forall₂_agreeEntry_refl (field : Field)
    (entries : List (String × Value)) :
    List.Forall₂ (AgreeEntry field) entries entries :=
  List.forall₂_same.2 fun entry _ => ⟨rfl, .refl field entry.1 entry.2⟩

theorem AgreeBut.refl (field : Field) (root : Value) :
    AgreeBut field root root :=
  ⟨rfl, forall₂_agreeEntry_refl field _⟩

theorem AgreeEntry.symm {field : Field} {entry other : String × Value}
    (h : AgreeEntry field entry other) : AgreeEntry field other entry := by
  refine ⟨h.1.symm, ?_⟩
  have hvalue := h.2
  unfold AgreeAt at hvalue ⊢
  rw [← h.1]
  split at hvalue
  · next hkey => rw [if_pos hkey, hvalue]
  · next hkey => rw [if_neg hkey, hvalue]

theorem AgreeEntry.trans {field : Field} {first second third : String × Value}
    (h : AgreeEntry field first second) (h' : AgreeEntry field second third) :
    AgreeEntry field first third := by
  obtain ⟨hkey, hvalue⟩ := h
  obtain ⟨hkey', hvalue'⟩ := h'
  refine ⟨hkey.trans hkey', ?_⟩
  rw [← hkey] at hvalue'
  unfold AgreeAt at hvalue hvalue' ⊢
  split at hvalue
  · next hhome =>
    rw [if_pos hhome] at hvalue' ⊢
    exact hvalue.trans hvalue'
  · next hhome =>
    rw [if_neg hhome] at hvalue' ⊢
    exact hvalue.trans hvalue'

theorem AgreeBut.symm {field : Field} {root other : Value}
    (h : AgreeBut field root other) : AgreeBut field other root :=
  ⟨h.origin?_eq.symm, (h.entries.imp fun _ _ => AgreeEntry.symm).flip⟩

theorem forall₂_agreeEntry_trans {field : Field}
    {first second third : List (String × Value)}
    (h : List.Forall₂ (AgreeEntry field) first second)
    (h' : List.Forall₂ (AgreeEntry field) second third) :
    List.Forall₂ (AgreeEntry field) first third := by
  induction h generalizing third with
  | nil => exact h'
  | cons hentry _ ih =>
    cases h' with
    | cons hentry' hrest' => exact .cons (hentry.trans hentry') (ih hrest')

theorem AgreeBut.trans {field : Field} {first second third : Value}
    (h : AgreeBut field first second)
    (h' : AgreeBut field second third) : AgreeBut field first third :=
  ⟨h.origin?_eq.trans h'.origin?_eq,
    forall₂_agreeEntry_trans h.entries h'.entries⟩

theorem forall₂_updateEntry {field : Field}
    {entries others : List (String × Value)}
    (h : List.Forall₂ (AgreeEntry field) entries others) (key : String)
    {change change' : Option Value → Value}
    (hchange : ∀ old? old?', Option.Rel (AgreeAt field key) old? old?' →
      AgreeAt field key (change old?) (change' old?')) :
    List.Forall₂ (AgreeEntry field) (updateEntry entries key change)
      (updateEntry others key change') := by
  induction h with
  | nil => exact .cons ⟨rfl, hchange _ _ .none⟩ .nil
  | @cons entry other _ _ hentry hrest ih =>
    rw [updateEntry, updateEntry, ← hentry.1]
    split
    · next hkey =>
      refine .cons ⟨rfl, hchange _ _ (.some ?_)⟩ hrest
      rw [← hkey]
      exact hentry.2
    · exact .cons hentry ih

theorem AgreeBut.update {field : Field} {root other : Value}
    (h : AgreeBut field root other)
    (key : String) {change change' : Option Value → Value}
    (hchange : ∀ old? old?',
      Option.Rel (AgreeAt field (Text.lowercase key)) old? old?' →
      AgreeAt field (Text.lowercase key) (change old?) (change' old?')) :
    AgreeBut field (root.update key change) (other.update key change') := by
  rw [update_eq, update_eq]
  exact ⟨h.origin?_eq, forall₂_updateEntry h.entries _ hchange⟩

theorem AgreeAt.rel_without {field : Field} {key : String}
    (hkey : key = field.home.key) {old? old?' : Option Value}
    (h : Option.Rel (AgreeAt field key) old? old?') :
    Option.Rel
      (fun old old' => old.without field.name = old'.without field.name)
      old? old?' := by
  cases h with
  | none => exact .none
  | some h =>
    rw [AgreeAt, if_pos hkey] at h
    exact .some h

/-- The same value under the same key keeps tables in agreement. -/
theorem AgreeBut.assign {field : Field} {root other : Value}
    (h : AgreeBut field root other) (key : Key) (value : Value) :
    AgreeBut field (root.assign key value) (other.assign key value) := by
  rw [assign_eq, assign_eq]
  refine h.update key.first fun old? old?' hold => ?_
  by_cases hkey : Text.lowercase key.first = field.home.key
  · rw [AgreeAt, if_pos hkey]
    exact without_placed (AgreeAt.rel_without hkey hold) value key.steps
  · rw [AgreeAt, if_neg hkey]
    cases hold with
    | none => rfl
    | some hold =>
      rw [AgreeAt, if_neg hkey] at hold
      rw [hold]

theorem layer_cons_assign (root : Value) (text : String) (value : Value)
    (rest : List (String × Value)) :
    root.layer ((text, value) :: rest) =
      (root.assign (entryKey text) value).layer rest := by
  have hput : root.put text value = root.assign ⟨text, []⟩ value := by
    rw [put_eq, assign_eq]
    rfl
  simp only [Value.layer, List.foldl_cons, entryKey]
  cases Key.parse? text with
  | none => exact congrArg (Value.layer · rest) hput
  | some key => rfl

theorem AgreeBut.layer {field : Field} {root other : Value}
    (h : AgreeBut field root other) (entries : List (String × Value)) :
    AgreeBut field (root.layer entries) (other.layer entries) := by
  induction entries generalizing root other with
  | nil => exact h
  | cons entry rest ih =>
    obtain ⟨text, value⟩ := entry
    rw [layer_cons_assign, layer_cons_assign]
    exact ih (h.assign _ value)

/-! Tables with both sections. -/

structure HasSections (root : Value) : Prop where
  begins : Section.all.map Section.key <+: root.asTable.entries.map Prod.fst
  nodup : (root.asTable.entries.map Prod.fst).Nodup

theorem HasSections.update {root : Value} (h : HasSections root) (key : String)
    (change : Option Value → Value) : HasSections (root.update key change) := by
  rw [update_eq]
  refine ⟨h.begins.trans ?_, nodup_updateEntry h.nodup _ _⟩
  show _ <+: (updateEntry _ _ _).map Prod.fst
  rw [keys_updateEntry]
  split
  · exact List.prefix_refl _
  · exact List.prefix_append _ _

theorem HasSections.assign {root : Value} (h : HasSections root) (key : Key)
    (value : Value) :
    HasSections (root.assign key value) := by
  rw [assign_eq]
  exact h.update _ _

theorem HasSections.layer {root : Value} (h : HasSections root)
    (entries : List (String × Value)) :
    HasSections (root.layer entries) := by
  induction entries generalizing root with
  | nil => exact h
  | cons entry rest ih =>
    obtain ⟨text, value⟩ := entry
    rw [layer_cons_assign]
    exact ih (h.assign _ value)

theorem hasSections_defaults :
    HasSections (emptyTable.layer defaults.entries) := by
  rw [layer_defaults]
  exact ⟨List.prefix_refl _, by decide⟩

theorem forall₂_updateEntry_self {field : Field}
    {entries : List (String × Value)} {key : String}
    (hkey : key ∈ entries.map Prod.fst) {change : Option Value → Value}
    (hchange : ∀ old, AgreeAt field key (change (some old)) old) :
    List.Forall₂ (AgreeEntry field) (updateEntry entries key change)
      entries := by
  induction entries with
  | nil => cases hkey
  | cons entry rest ih =>
    obtain ⟨name, old⟩ := entry
    rw [updateEntry]
    split
    · next hname =>
      subst hname
      exact .cons ⟨rfl, hchange old⟩ (forall₂_agreeEntry_refl field rest)
    · next hname =>
      refine .cons ⟨rfl, .refl field name old⟩ (ih ?_)
      exact (List.mem_cons.1 hkey).resolve_left fun h => hname h.symm

theorem HasSections.mem_keys {root : Value} (h : HasSections root)
    (part : Section) :
    part.key ∈ root.asTable.entries.map Prod.fst :=
  h.begins.subset (by cases part <;> decide)

/-! All entries as one layer. -/

theorem AgreeAt.merged {field : Field} {key : String} {value other : Value}
    (h : AgreeAt field key value other) :
    AgreeAt field key (value.merged none) (other.merged none) := by
  have hmerged (value : Value) : (value.merged none).without field.name =
      (emptyTable.putAll (value.without field.name).entries).without
        field.name := by
    cases value with
    | scalar | array =>
      show emptyTable = (putAll _ []).without _
      rw [putAll]
      rfl
    | table origin? entries =>
      show (putAll _ _).without _ = (putAll _ (entries.filter _)).without _
      rw [without_putAll, without_putAll, List.filter_filter]
      refine congrArg _ (List.filter_congr fun entry _ => ?_)
      by_cases hname : entry.1 = field.name
      · simp [hname, field.lowercase_name]
      · simp [hname]
  unfold AgreeAt at h ⊢
  split at h
  · next hkey => rw [if_pos hkey, hmerged, h, ← hmerged]
  · next hkey => rw [if_neg hkey, h]

theorem update_emptyTable (change change' : Option Value → Value) :
    (emptyTable.update Section.formatter.key change).update
      Section.conversion.key change' =
      .table none [(Section.formatter.key, change none),
        (Section.conversion.key, change' none)] := by
  rw [update_eq, update_eq, Section.lowercase_key, Section.lowercase_key]
  simp [emptyTable, Section.key, asTable, Value.entries, Value.origin?,
    updateEntry]

theorem HasSections.exists_entries {root : Value} (h : HasSections root) :
    ∃ formatter conversion rest, root.asTable.entries =
        (Section.formatter.key, formatter) ::
          (Section.conversion.key, conversion) :: rest ∧
      ∀ part : Section, part.key ∉ rest.map Prod.fst := by
  obtain ⟨hbegins, hnodup⟩ := h
  generalize root.asTable.entries = entries at hbegins hnodup ⊢
  have hlength : 2 ≤ entries.length := by
    simpa [Section.all] using hbegins.length_le
  obtain _ | ⟨⟨first, formatter⟩, _ | ⟨⟨second, conversion⟩, rest⟩⟩ := entries
  · exact absurd hlength (by simp)
  · exact absurd hlength (by simp)
  · obtain ⟨hfirst, hbegins⟩ := List.cons_prefix_cons.1 hbegins
    obtain ⟨hsecond, -⟩ := List.cons_prefix_cons.1 hbegins
    obtain rfl : Section.formatter.key = first := hfirst
    obtain rfl : Section.conversion.key = second := hsecond
    obtain ⟨hformatter, hrest⟩ := List.nodup_cons.1 hnodup
    refine ⟨formatter, conversion, rest, rfl, fun part hpart => ?_⟩
    cases part with
    | formatter => exact hformatter (List.mem_cons_of_mem _ hpart)
    | conversion => exact (List.nodup_cons.1 hrest).1 hpart

/-- Entries that are in agreement are equal where none is the section of the
field. -/
theorem eq_of_forall₂_agreeEntry {field : Field}
    {entries others : List (String × Value)}
    (h : List.Forall₂ (AgreeEntry field) entries others)
    (hkeys : field.home.key ∉ entries.map Prod.fst) : entries = others := by
  induction h with
  | nil => rfl
  | @cons entry other _ _ hentry _ ih =>
    rw [List.map_cons, List.mem_cons, not_or] at hkeys
    obtain ⟨hkey, hvalue⟩ := hentry
    rw [AgreeAt, if_neg (Ne.symm hkeys.1)] at hvalue
    rw [ih hkeys.2, Prod.ext hkey hvalue]

theorem asTable_entries (value : Value) :
    value.asTable.entries = value.entries := by
  cases value <;> rfl

/-- All sources as one layer on an empty table. The sections come first, so
there is nothing yet that they could be merged into. -/
theorem AgreeBut.layer_entries {field : Field} {root other : Value}
    (h : AgreeBut field root other)
    (hroot : HasSections root) (hother : HasSections other) :
    AgreeBut field (emptyTable.layer root.entries)
      (emptyTable.layer other.entries) := by
  obtain ⟨formatter, conversion, rest, hentries, hfresh⟩ := hroot.exists_entries
  obtain ⟨formatter', conversion', rest', hentries', -⟩ := hother.exists_entries
  have hagree := h.entries
  rw [hentries, hentries', List.forall₂_cons, List.forall₂_cons] at hagree
  obtain ⟨⟨-, hformatter⟩, ⟨-, hconversion⟩, hrest⟩ := hagree
  obtain rfl := eq_of_forall₂_agreeEntry hrest (hfresh field.home)
  rw [← asTable_entries root, ← asTable_entries other, hentries, hentries',
    layer_cons, layer_cons, layer_cons, layer_cons, update_emptyTable,
    update_emptyTable]
  apply AgreeBut.layer
  exact ⟨rfl,
    .cons ⟨rfl, hformatter.merged⟩ (.cons ⟨rfl, hconversion.merged⟩ .nil)⟩

/-! The override. -/

theorem forall₂_lookup {field : Field} {entries others : List (String × Value)}
    (h : List.Forall₂ (AgreeEntry field) entries others) (key : String) :
    Option.Rel (AgreeAt field key) (entries.lookup key)
      (others.lookup key) := by
  induction h with
  | nil => exact .none
  | @cons entry other rest rest' hentry _ ih =>
    obtain ⟨name, value⟩ := entry
    obtain ⟨name', value'⟩ := other
    obtain ⟨rfl, hvalue⟩ := hentry
    rw [lookup_cons_eq, lookup_cons_eq]
    split
    · next hkey =>
      rw [hkey]
      exact .some hvalue
    · exact ih

theorem lookup_filter_ne (entries : List (String × Value)) {name key : String}
    (h : key ≠ name) :
    (entries.filter (·.1 != name)).lookup key = entries.lookup key := by
  induction entries with
  | nil => rfl
  | cons entry rest ih =>
    obtain ⟨other, value⟩ := entry
    by_cases hother : other = name
    · rw [List.filter_cons_of_neg (by simpa using hother), ih, lookup_cons_eq,
        if_neg (by rw [hother]; exact h)]
    · rw [List.filter_cons_of_pos (by simpa using hother), lookup_cons_eq,
        lookup_cons_eq, ih]

/-- Sections that differ in nothing but an entry are the same when that entry is
set. -/
theorem same_update_of_without_eq {value other : Value} {name : String}
    (h : value.without name = other.without name)
    (hname : Text.lowercase name = name) (content : Value) :
    Same (value.update name fun _ => content)
      (other.update name fun _ => content) := by
  obtain ⟨horigin, hentries⟩ := Value.table.inj h
  rw [update_eq, update_eq, hname, horigin]
  refine .of_lookup _ fun key => ?_
  rw [lookup_updateEntry, lookup_updateEntry]
  split
  · exact .refl _
  · next hkey =>
    rw [← lookup_filter_ne _ hkey, hentries, lookup_filter_ne _ hkey]
    exact .refl _

/-- An override of a field makes tables the same that differ in nothing but that
field. -/
theorem AgreeBut.same_assign {field : Field} {root other : Value}
    (h : AgreeBut field root other)
    (origin? : Option String) (content : Scalar) :
    Same (root.assign (dottedKey field.key) (.scalar origin? content))
      (other.assign (dottedKey field.key) (.scalar origin? content)) := by
  rw [assign_dottedKey _ field.dottedNames_key,
    assign_dottedKey _ field.dottedNames_key, update_eq, update_eq,
    h.origin?_eq, Section.lowercase_key]
  refine .of_lookup _ fun key => ?_
  rw [lookup_updateEntry, lookup_updateEntry]
  have hagree := forall₂_lookup h.entries key
  split
  · next hkey =>
    subst hkey
    have hbelow (old? old?' : Option Value)
        (hold : Option.Rel (AgreeAt field field.home.key) old? old?') :
        (old?.getD nothing).without field.name =
          (old?'.getD nothing).without field.name := by
      cases AgreeAt.rel_without rfl hold with
      | none => rfl
      | some h => exact h
    exact .some
      (same_update_of_without_eq (hbelow _ _ hagree) field.lowercase_name _)
  · next hkey =>
    generalize root.asTable.entries.lookup key = found,
      other.asTable.entries.lookup key = found' at hagree ⊢
    cases hagree with
    | none => exact .none
    | some hvalue =>
      rw [AgreeAt, if_neg hkey] at hvalue
      rw [hvalue]
      exact .refl _

end HtmlBuilder.Settings
