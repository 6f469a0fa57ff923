import HtmlBuilder.Proofs.Settings.Agreement

/-!
What an override comes to. The merged table has the value that the last override
of a field puts there, and settings that the table stands for have the content
that this value is taken as.
-/

namespace HtmlBuilder.Settings

open Value

/-! What an override leaves in the merged table. -/

def Field.at? (field : Field) (root : Value) : Option Value :=
  (root.get? field.home.key).bind (·.get? field.name)

theorem get?_update (root : Value) (key other : String)
    (change : Option Value → Value) : (root.update key change).get? other =
      if other = Text.lowercase key then some (change (root.get? other))
        else root.get? other := by
  rw [update_eq, get?, get?, ← asTable_entries root]
  show (updateEntry _ _ _).lookup other = _
  rw [lookup_updateEntry]
  split
  · next hother => rw [hother]
  · rfl

/-- An override of a field gives the field its value and no other field a new
one. -/
theorem Field.at?_assign (field other : Field) (root : Value)
    (origin? : Option String) (content : Scalar) :
    field.at? (root.assign (dottedKey other.key) (.scalar origin? content)) =
      if field = other then some (.scalar origin? content)
        else field.at? root := by
  rw [assign_dottedKey _ other.dottedNames_key, at?, at?, get?_update,
    Section.lowercase_key]
  by_cases hhome : field.home.key = other.home.key
  · rw [if_pos hhome, Option.bind_some]
    show (Value.update _ other.name _).get? field.name = _
    rw [get?_update, other.lowercase_name]
    by_cases hfield : field = other
    · rw [hfield, if_pos rfl, if_pos rfl]
      rfl
    · rw [if_neg hfield, if_neg fun hname =>
        hfield (Field.name_injective hname)]
      cases root.get? field.home.key <;> rfl
  · rw [if_neg hhome, if_neg]
    rintro rfl
    exact hhome rfl

def PutsOther (field : Field) (override : Key × Value) : Prop :=
  ∃ other : Field, other ≠ field ∧ ∃ content,
    override = (dottedKey other.key, .scalar none (other.scalar content))

theorem Field.at?_foldl_assign {field : Field} {overrides : List (Key × Value)}
    (h : ∀ override ∈ overrides, PutsOther field override) (root : Value) :
    field.at?
      (overrides.foldl (fun root (key, value) => root.assign key value) root) =
      field.at? root := by
  induction overrides generalizing root with
  | nil => rfl
  | cons override rest ih =>
    obtain ⟨⟨other, hother, content, rfl⟩, hrest⟩ := List.forall_mem_cons.1 h
    rw [List.foldl_cons, ih hrest, field.at?_assign, if_neg (Ne.symm hother)]

theorem map_of_typed?_eq_ok {α : Type} {convert : Value → Except Mismatch α}
    {key : String} {value? : Option Value} {result : α}
    (h : typed? convert key value? = .ok (some result)) :
    value?.map convert = some (.ok result) := by
  cases value? with
  | none => cases h
  | some value =>
    rw [typed?, typed] at h
    rw [Option.map_some]
    cases hvalue : convert value with
    | error mismatch =>
      rw [hvalue] at h
      cases h
    | ok content =>
      rw [hvalue] at h
      cases h
      rfl

theorem map_of_formatterSection_eq_ok {indent lineBreak : String}
    {baseDepth : UInt64}
    {origin? : Option String} {entries : List (String × Value)}
    (h : formatterSection (.table origin? entries) =
      .ok (indent, lineBreak, baseDepth)) :
    (entries.lookup "indent").map Value.toText = some (.ok indent) ∧
      (entries.lookup "line_break").map Value.toText = some (.ok lineBreak) ∧
      (entries.lookup "base_indent_depth").map Value.toNatural =
        some (.ok baseDepth) := by
  simp only [formatterSection, fieldsOf, Section.fields, List.map, get?,
    Value.entries, bind, Except.bind] at h
  split at h
  · cases h
  · next hindent =>
    split at h
    · cases h
    · next hlineBreak =>
      split at h
      · cases h
      · next hbase =>
        split at h <;> cases h
        exact ⟨map_of_typed?_eq_ok hindent, map_of_typed?_eq_ok hlineBreak,
          map_of_typed?_eq_ok hbase⟩

theorem map_of_conversionSection_eq_ok {directLinks onlyMarkup : Bool}
    {origin? : Option String} {entries : List (String × Value)}
    (h : conversionSection (.table origin? entries) =
      .ok (directLinks, onlyMarkup)) :
    (entries.lookup "href_to_direct_link").map Value.toTruth =
      some (.ok directLinks) ∧
      (entries.lookup "only_when_html").map Value.toTruth =
        some (.ok onlyMarkup) := by
  simp only [conversionSection, fieldsOf, Section.fields, List.map, get?,
    Value.entries, bind, Except.bind] at h
  split at h
  · cases h
  · next hlinks =>
    split at h
    · cases h
    · next honly =>
      split at h <;> cases h
      exact ⟨map_of_typed?_eq_ok hlinks, map_of_typed?_eq_ok honly⟩

theorem exists_of_ofValue_eq_ok {root : Value} {settings : Settings}
    (h : ofValue root = .ok settings) :
    ∃ formatter conversion, root.get? Section.formatter.key = some formatter ∧
      root.get? Section.conversion.key = some conversion ∧
      formatterSection formatter = .ok (settings.formatter.indent,
        settings.formatter.lineBreak, Field.of settings .baseDepth) ∧
      conversionSection conversion =
        .ok (settings.options.directLinks, settings.onlyMarkup) := by
  simp only [ofValue, required, bind, Except.bind] at h
  cases hformatter : root.get? "formatter" with
  | none =>
    simp only [hformatter] at h
    split at h
    · next conversion _ =>
      generalize conversionSection conversion = options at h
      cases options <;> cases h
    · cases h
  | some formatter =>
    cases hlayout : formatterSection formatter with
    | error error =>
      simp only [hformatter, hlayout, Except.map] at h
      cases h
    | ok layout =>
      simp only [hformatter, hlayout, Except.map] at h
      cases hconversion : root.get? "conversion" with
      | none =>
        simp only [hconversion] at h
        cases h
      | some conversion =>
        cases hoptions : conversionSection conversion with
        | error error =>
          simp only [hconversion, hoptions] at h
          cases h
        | ok options =>
          simp only [hconversion, hoptions] at h
          refine ⟨formatter, conversion, hformatter, hconversion, ?_⟩
          by_cases hbreak : layout.2.1 = ""
          · rw [make_eq_error hbreak] at h
            cases h
          · rw [make_eq_ok hbreak] at h
            cases h
            exact ⟨hlayout, hoptions⟩

def Field.take : (field : Field) → Value → Except Mismatch field.Content
  | .indent, value | .lineBreak, value => value.toText
  | .baseDepth, value => value.toNatural
  | .directLinks, value | .onlyMarkup, value => value.toTruth

theorem Field.take_scalar (field : Field) (origin? : Option String)
    (content : field.Content) :
    field.take (.scalar origin? (field.scalar content)) = .ok content := by
  cases field with
  | baseDepth => exact toNatural_natural origin? content
  | indent | lineBreak | directLinks | onlyMarkup => rfl

/-- The content of a field in settings is what its value in the merged table is
taken as. -/
theorem map_take_of_ofValue_eq_ok {root : Value} {settings : Settings}
    (h : ofValue root = .ok settings) {field : Field} {origin? : Option String}
    {entries : List (String × Value)}
    (hpart : root.get? field.home.key = some (.table origin? entries)) :
    (entries.lookup field.name).map field.take =
      some (.ok (field.of settings)) := by
  obtain ⟨formatter, conversion, hformatter, hconversion, hlayout, hoptions⟩ :=
    exists_of_ofValue_eq_ok h
  cases field with
  | indent | lineBreak | baseDepth =>
    obtain rfl := Option.some.inj (hformatter.symm.trans hpart)
    obtain ⟨hindent, hlineBreak, hbase⟩ := map_of_formatterSection_eq_ok hlayout
    first | exact hindent | exact hlineBreak | exact hbase
  | directLinks | onlyMarkup =>
    obtain rfl := Option.some.inj (hconversion.symm.trans hpart)
    obtain ⟨hlinks, honly⟩ := map_of_conversionSection_eq_ok hoptions
    first | exact hlinks | exact honly

/-- Settings that a merged table stands for have the content of a field that the
table has. -/
theorem of_eq_of_ofValue {root : Value} {settings : Settings}
    (h : ofValue root = .ok settings)
    {field : Field} {origin? : Option String} {content : field.Content}
    (hat : field.at? root = some (.scalar origin? (field.scalar content))) :
    field.of settings = content := by
  obtain ⟨part, hpart, hvalue⟩ := Option.bind_eq_some_iff.1 hat
  cases part with
  | scalar | array => cases hvalue
  | table partOrigin? entries =>
    have hlookup : entries.lookup field.name =
        some (.scalar origin? (field.scalar content)) :=
      hvalue
    have htake := map_take_of_ofValue_eq_ok h hpart
    rw [hlookup, Option.map_some, field.take_scalar, Option.some_inj] at htake
    exact (Except.ok.inj htake).symm

end HtmlBuilder.Settings
