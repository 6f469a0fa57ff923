import HtmlBuilder.Proofs.Settings.Overridden

/-!
An override hides what files give its field. Documents which differ in nothing
but a field make tables that differ in nothing but that field in every layer, so
the override makes all the same of them.
-/

namespace HtmlBuilder.Settings

open Value

/-! Fields that are taken out of documents. -/

theorem ofTomlEntries_eq_map (origin? : Option String)
    (entries : Toml.Entries) :
    ofTomlEntries origin? entries = entries.map fun entry =>
      (entry.1, ofToml origin? entry.2) := by
  induction entries with
  | nil => rw [ofTomlEntries, List.map_nil]
  | cons entry rest ih => rw [ofTomlEntries, List.map_cons, ih]

/-- A section without a field comes to the same as the section, but for the
field. -/
theorem without_placed_outOfSection (field : Field) (origin? : Option String)
    (value : Toml.Value) {old? old?' : Option Value}
    (h : Option.Rel
      (fun old old' => old.without field.name = old'.without field.name)
      old? old?') :
    ((ofToml origin? value).placed [] old?).without field.name =
      ((ofToml origin? (field.outOfSection value)).placed [] old?').without
        field.name := by
  rw [without_placed h]
  cases value with
  | table entries =>
    show (putAll _ _).without _ = (putAll _ _).without _
    rw [without_putAll, without_putAll, ofTomlEntries_eq_map,
      ofTomlEntries_eq_map, List.filter_map, List.filter_map]
    have hfilter : (entries.filter (Text.lowercase ·.1 != field.name)).filter
        ((Text.lowercase ·.1 != field.name) ∘ fun entry =>
          (entry.1, ofToml origin? entry.2)) =
          entries.filter (Text.lowercase ·.1 != field.name) := by
      rw [List.filter_filter]
      simp
    rw [hfilter]
    rfl
  | _ => rfl

theorem AgreeBut.assign_of_outOfEntry?_none {field : Field}
    {entry : String × Toml.Value}
    (h : field.outOfEntry? entry = none) {root : Value}
    (hroot : HasSections root) (value : Value) :
    AgreeBut field (root.assign (entryKey entry.1) value) root := by
  unfold Field.outOfEntry? at h
  dsimp only at h
  split at h
  · next hfirst =>
    split at h
    · cases h
    · next name rest hsteps =>
      split at h
      · next hname =>
        rw [assign_eq, update_eq, hfirst, hsteps]
        refine ⟨rfl,
          forall₂_updateEntry_self (hroot.mem_keys field.home) fun old => ?_⟩
        rw [AgreeAt, if_pos rfl]
        exact without_placed_name hname value rest old
      · cases h
    · cases h
  · cases h

theorem AgreeBut.assign_of_outOfEntry?_some {field : Field}
    {entry kept : String × Toml.Value}
    (h : field.outOfEntry? entry = some kept) (root : Value)
    (origin? : Option String) :
    AgreeBut field (root.assign (entryKey entry.1) (ofToml origin? entry.2))
      (root.assign (entryKey kept.1) (ofToml origin? kept.2)) := by
  unfold Field.outOfEntry? at h
  dsimp only at h
  split at h
  · next hfirst =>
    split at h
    · next hsteps =>
      cases h
      rw [assign_eq, assign_eq, hsteps]
      refine (AgreeBut.refl field root).update _ fun old? old?' hold => ?_
      rw [AgreeAt, if_pos hfirst]
      exact without_placed_outOfSection field origin? entry.2
        (AgreeAt.rel_without hfirst hold)
    · split at h <;> cases h
      exact .refl field _
    · cases h
      exact .refl field _
  · cases h
    exact .refl field _

/-- A document as a layer comes to the same as the document without a field, but
for that field. -/
theorem AgreeBut.layer_outOf (field : Field) {root : Value}
    (hroot : HasSections root)
    (origin? : Option String) (document : Toml.Entries) :
    AgreeBut field (root.layer (ofTomlEntries origin? document))
      (root.layer (ofTomlEntries origin? (field.outOf document))) := by
  induction document generalizing root with
  | nil => exact .refl field _
  | cons entry rest ih =>
    rw [ofTomlEntries, layer_cons_assign]
    have hrest := ih (hroot.assign (entryKey entry.1) (ofToml origin? entry.2))
    cases hkept : field.outOfEntry? entry with
    | none =>
      rw [Field.outOf, List.filterMap_cons_none hkept]
      exact hrest.trans ((assign_of_outOfEntry?_none hkept hroot _).layer _)
    | some kept =>
      rw [Field.outOf, List.filterMap_cons_some hkept, ofTomlEntries,
        layer_cons_assign]
      exact hrest.trans
        ((assign_of_outOfEntry?_some hkept root origin?).layer _)

/-! Merging all sources. -/

/-- Sources that read alike make tables that agree of tables that agree. -/
theorem mergeSources_agree {field : Field} {files files' : FileTree}
    (hread : ∀ source,
      ReadAlike field (readSource files source) (readSource files' source))
    (sources : List Source) {root other : Value} (h : AgreeBut field root other)
    (hroot : HasSections root) (hother : HasSections other) :
    (∃ error, mergeSources files root sources = .error error ∧
        mergeSources files' other sources = .error error) ∨
      ∃ merged merged', mergeSources files root sources = .ok merged ∧
        mergeSources files' other sources = .ok merged' ∧
        AgreeBut field merged merged' ∧
        HasSections merged ∧ HasSections merged' := by
  induction sources generalizing root other with
  | nil => exact .inr ⟨root, other, rfl, rfl, h, hroot, hother⟩
  | cons source rest ih =>
    have hsource := hread source
    rw [mergeSources, mergeSources]
    generalize readSource files source = read,
      readSource files' source = read' at hsource ⊢
    cases hsource with
    | error error => exact .inl ⟨error, rfl, rfl⟩
    | @ok origin? document document' hsame =>
      have hlayer : AgreeBut field (root.layer (ofTomlEntries origin? document))
          (other.layer (ofTomlEntries origin? document')) := by
        refine (AgreeBut.layer_outOf field hroot origin? document).trans ?_
        rw [hsame]
        exact (h.layer _).trans
          (AgreeBut.layer_outOf field hother origin? document').symm
      exact ih hlayer (hroot.layer _) (hother.layer _)

/-! Loading. -/

namespace Loader

/-- Whether the last override of a field gives it a content. -/
def Sets (loader : Loader) (field : Field) (content : field.Content) : Prop :=
  ∃ before after : List (Key × Value),
    loader.overrides =
      before ++ (dottedKey field.key, .scalar none (field.scalar content)) ::
      after ∧
      ∀ override ∈ after, PutsOther field override

theorem agreeBut_foldl_assign {field : Field} (overrides : List (Key × Value))
    {root other : Value} (h : AgreeBut field root other) :
    AgreeBut field
      (overrides.foldl (fun root (key, value) => root.assign key value) root)
      (overrides.foldl (fun root (key, value) => root.assign key value)
        other) := by
  induction overrides generalizing root other with
  | nil => exact h
  | cons override rest ih => exact ih (h.assign override.1 override.2)

theorem same_foldl_assign {field : Field} {overrides : List (Key × Value)}
    (hputs : ∀ override ∈ overrides, PutsOther field override)
    {root other : Value} (h : Same root other) :
    Same (overrides.foldl (fun root (key, value) => root.assign key value) root)
      (overrides.foldl (fun root (key, value) => root.assign key value)
        other) := by
  induction overrides generalizing root other with
  | nil => exact h
  | cons override rest ih =>
    obtain ⟨⟨field', -, content, rfl⟩, hrest⟩ := List.forall_mem_cons.1 hputs
    exact ih hrest (h.assign field'.key _)

/-- Loading does not depend on what files give a field that is overridden. -/
theorem build_eq_of_alike {loader : Loader} {field : Field}
    {content : field.Content}
    (hsets : loader.Sets field content) {files files' : FileTree}
    (h : FileTree.Alike field.EqualBut files files') :
    loader.build files = loader.build files' := by
  obtain ⟨before, after, hoverrides, hafter⟩ := hsets
  have hmerge := mergeSources_agree (readSource_alike h) loader.sources
    (.refl field (emptyTable.layer defaults.entries)) hasSections_defaults
    hasSections_defaults
  rw [build, build, merge, merge]
  rcases hmerge with ⟨error, herror, herror'⟩
    | ⟨merged, merged', hmerged, hmerged', hagree, hsections⟩
  · rw [herror, herror']
  · rw [hmerged, hmerged', hoverrides]
    have hlayer := hagree.layer_entries hsections.1 hsections.2
    have hbefore := agreeBut_foldl_assign before hlayer
    have hsame :=
      same_foldl_assign hafter (hbefore.same_assign none (field.scalar content))
    show ofValue (List.foldl _ _ _) = ofValue (List.foldl _ _ _)
    rw [List.foldl_append, List.foldl_append]
    exact ofValue_same hsame

/-- Settings have the content that the last override of a field gives it. -/
theorem of_eq_of_build {loader : Loader} {field : Field}
    {content : field.Content}
    (hsets : loader.Sets field content) {files : FileTree} {settings : Settings}
    (h : loader.build files = .ok settings) : field.of settings = content := by
  obtain ⟨before, after, hoverrides, hafter⟩ := hsets
  rw [build, merge, hoverrides] at h
  cases hmerge : mergeSources files (emptyTable.layer defaults.entries)
    loader.sources with
  | error error =>
    rw [hmerge] at h
    cases h
  | ok merged =>
    rw [hmerge] at h
    have hvalue : ofValue (List.foldl _ _ _) = .ok settings := h
    rw [List.foldl_append, List.foldl_cons] at hvalue
    have hat := Field.at?_assign field field
      (before.foldl (fun root (key, value) => root.assign key value)
        (emptyTable.layer merged.entries)) none (field.scalar content)
    rw [if_pos rfl, ← Field.at?_foldl_assign hafter] at hat
    exact of_eq_of_ofValue hvalue hat

end Loader

end HtmlBuilder.Settings
