import HtmlBuilder.Converter
import HtmlBuilder.Proofs.Settings.Fields
import Mathlib.Logic.Function.Basic

/-!
Settings in layers, field by field. The merged table of well-typed layers always
has the shape of the built-in one, with a cell for each field; a layer fills the
cells of the fields that it gives and leaves the others. So every field has the
content of its last override, else of the last file that gives it, else the
built-in one.
-/

namespace HtmlBuilder.Settings

/-- A content for each field, with the file that it comes from. -/
abbrev Cells : Type :=
  (field : Field) → Option String × field.Content

namespace Cells

def entry (cells : Cells) (field : Field) : String × Value :=
  (field.name, .scalar (cells field).1 (field.scalar (cells field).2))

def entries (cells : Cells) : Section → List (String × Value)
  | .formatter =>
    [cells.entry .indent, cells.entry .lineBreak, cells.entry .baseDepth]
  | .conversion => [cells.entry .directLinks, cells.entry .onlyMarkup]

def table (cells : Cells) : Value :=
  .table none [("formatter", .table none (cells.entries .formatter)),
    ("conversion", .table none (cells.entries .conversion))]

theorem entries_congr {cells cells' : Cells} {part : Section}
    (h : ∀ field : Field, field.home = part → cells' field = cells field) :
    cells'.entries part = cells.entries part := by
  have hentry (field : Field) (hfield : field.home = part) :
      cells'.entry field = cells.entry field := by
    rw [entry, entry, h field hfield]
  cases part with
  | formatter => rw [entries, entries, hentry _ rfl, hentry _ rfl, hentry _ rfl]
  | conversion => rw [entries, entries, hentry _ rfl, hentry _ rfl]

/-- A field that is put into its section fills its cell. -/
theorem put_entries (cells : Cells) (field : Field) (origin? : Option String)
    (content : field.Content) :
    (Value.table none (cells.entries field.home)).put field.name
        (.scalar origin? (field.scalar content)) =
      .table none (entries (Function.update cells field (origin?, content))
          field.home) := by
  rw [Value.put_eq, Value.update_eq, field.lowercase_name]
  cases field <;>
    simp [Field.home, Field.name, entries, entry, Value.asTable, Value.entries,
      Value.origin?, updateEntry, Value.merged]

theorem update_table {cells cells' : Cells} {part : Section}
    {change : Option Value → Value}
    (hpart : change (some (.table none (cells.entries part))) =
      .table none (cells'.entries part))
    (hothers : ∀ field : Field, field.home ≠ part →
      cells' field = cells field) :
    cells.table.update part.key change = cells'.table := by
  rw [Value.update_eq, part.lowercase_key]
  cases part with
  | formatter =>
    have hother : cells'.entries .conversion = cells.entries .conversion :=
      entries_congr fun field hfield => hothers field (by rw [hfield]; decide)
    simp [table, Section.key, Value.asTable, Value.entries, Value.origin?,
      updateEntry, hpart, hother]
  | conversion =>
    have hother : cells'.entries .formatter = cells.entries .formatter :=
      entries_congr fun field hfield => hothers field (by rw [hfield]; decide)
    simp [table, Section.key, Value.asTable, Value.entries, Value.origin?,
      updateEntry, hpart, hother]

theorem assign_table (cells : Cells) (field : Field) (content : field.Content) :
    cells.table.assign (dottedKey field.key)
      (.scalar none (field.scalar content)) =
      table (Function.update cells field (none, content)) := by
  rw [field.dottedKey_key]
  refine (Value.putBelow_names _ _ [field.name] _).trans
    (update_table ?_ fun other hother => ?_)
  · rw [← put_entries, Value.put_eq]
    rfl
  · exact Function.update_of_ne (fun h => hother (by rw [h])) _ _

theorem putAll_emptyTable (cells : Cells) (part : Section) :
    Value.emptyTable.putAll (cells.entries part) =
      .table none (cells.entries part) := by
  cases part <;>
    simp only [Value.emptyTable, entries, entry, Value.putAll, Value.put_eq,
      Value.update_eq, Field.lowercase_name, Value.asTable, Value.entries,
      Value.origin?] <;>
    simp [updateEntry, Value.merged, Field.name]

end Cells

/-! A layer on top of the table of all fields. -/

theorem exists_field_of_isFieldOf {part : Section} {entry : String × Toml.Value}
    (h : IsFieldOf part entry) :
    ∃ field : Field, field.home = part ∧ ∃ content,
      entry = (field.name, field.toml content) := by
  obtain ⟨field, -, hhome, hname, hcontent⟩ := h
  obtain ⟨content, hcontent⟩ := Option.isSome_iff_exists.1 hcontent
  exact ⟨field, hhome, content,
    Prod.ext hname.symm (Field.eq_toml_of_ofToml? hcontent)⟩

theorem exists_section_of_isSection {entry : String × Toml.Value}
    (h : IsSection entry) :
    ∃ (part : Section) (entries : Toml.Entries),
      entry = (part.key, .table entries) ∧
      ∀ entry ∈ entries, IsFieldOf part entry := by
  obtain ⟨part, -, hkey, entries, hentries, hfields⟩ := h
  refine ⟨part, entries, Prod.ext hkey.symm ?_, hfields⟩
  unfold entries? at hentries
  split at hentries <;> cases hentries
  assumption

theorem layer_cons (root : Value) (part : Section) (value : Value)
    (rest : List (String × Value)) :
    root.layer ((part.key, value) :: rest) =
      (root.update part.key value.merged).layer rest := by
  have hkey : Key.parse? part.key = some ⟨part.key, []⟩ := by
    cases part <;> decide
  simp only [Value.layer, List.foldl_cons, hkey]
  rw [show root.assign ⟨part.key, []⟩ value =
    root.update part.key value.merged from
    root.putBelow_names part.key [] value]

theorem Cells.layer_entries (cells : Cells) :
    Value.emptyTable.layer cells.table.entries = cells.table := by
  have hmerged (part : Section) :
      Value.merged (.table none (cells.entries part)) none =
        .table none (cells.entries part) :=
    cells.putAll_emptyTable part
  show Value.emptyTable.layer [(Section.formatter.key, _),
    (Section.conversion.key, _)] = _
  rw [layer_cons, layer_cons, Value.layer, List.foldl_nil, Value.update_eq,
    Value.update_eq, Section.lowercase_key, Section.lowercase_key]
  simp [Value.emptyTable, table, Section.key, Value.asTable, Value.entries,
    Value.origin?, updateEntry, hmerged]

def builtIn : Cells :=
  fun field => (none, field.of defaults)

theorem layer_defaults :
    Value.emptyTable.layer defaults.entries = builtIn.table :=
  builtIn.layer_entries

theorem Field.givenBy?_cons (field other : Field) (content : other.Content)
    (rest : Toml.Entries) :
    field.givenBy? ((other.name, other.toml content) :: rest) =
      (field.givenBy? rest).or
        (if other.name = field.name then field.ofToml? (other.toml content)
         else none) := by
  rw [givenBy?, List.reverse_cons, List.findSome?_append, givenBy?,
    List.findSome?_singleton]

/-- Fields that are put into their section fill their cells. -/
theorem Cells.exists_putAll_entries (cells : Cells) {part : Section}
    {entries : Toml.Entries}
    (h : ∀ entry ∈ entries, IsFieldOf part entry) (origin? : Option String) :
    ∃ cells' : Cells,
      (Value.table none (cells.entries part)).putAll
        (Value.ofTomlEntries origin? entries) =
        .table none (cells'.entries part) ∧
      (∀ field : Field, field.home ≠ part → cells' field = cells field) ∧
      ∀ field : Field, field.home = part →
        (cells' field).2 = (field.givenBy? entries).getD (cells field).2 := by
  induction entries generalizing cells with
  | nil =>
    refine ⟨cells, ?_, fun _ _ => rfl, fun _ _ => rfl⟩
    rw [Value.ofTomlEntries, Value.putAll]
  | cons entry rest ih =>
    obtain ⟨hentry, hrest⟩ := List.forall_mem_cons.1 h
    obtain ⟨other, rfl, content, rfl⟩ := exists_field_of_isFieldOf hentry
    obtain ⟨cells', hput, hothers, hfields⟩ :=
      ih (Function.update cells other (origin?, content)) hrest
    refine ⟨cells', ?_, fun field hfield => ?_, fun field hfield => ?_⟩
    · rw [Value.ofTomlEntries, other.ofToml_toml, Value.putAll,
        put_entries, hput]
    · rw [hothers field hfield, Function.update_of_ne fun h =>
        hfield (by rw [h])]
    · rw [hfields field hfield, field.givenBy?_cons, Option.getD_or]
      by_cases hother : other = field
      · subst hother
        rw [Function.update_self, if_pos rfl, Field.ofToml?_toml,
          Option.getD_some]
      · rw [Function.update_of_ne (Ne.symm hother),
          if_neg fun h => hother (Field.name_injective h), Option.getD_none]

theorem Field.givenIn?_cons (field : Field) (part : Section)
    (entries rest : Toml.Entries) :
    field.givenIn? ((part.key, .table entries) :: rest) =
      (field.givenIn? rest).or
        (if part.key = field.home.key then field.givenBy? entries
         else none) := by
  rw [givenIn?, List.reverse_cons, List.findSome?_append, givenIn?,
    List.findSome?_singleton]
  rfl

/-- A document of settings as a layer fills the cells of the fields that it
gives. -/
theorem Cells.exists_layer_table (cells : Cells) {document : Toml.Entries}
    (h : ∀ entry ∈ document, IsSection entry) (origin? : Option String) :
    ∃ cells' : Cells,
      cells.table.layer (Value.ofTomlEntries origin? document) = cells'.table ∧
      ∀ field,
        (cells' field).2 = (field.givenIn? document).getD (cells field).2 := by
  induction document generalizing cells with
  | nil =>
    exact ⟨cells, by rw [Value.ofTomlEntries, Value.layer, List.foldl_nil],
      fun _ => rfl⟩
  | cons entry rest ih =>
    obtain ⟨hentry, hrest⟩ := List.forall_mem_cons.1 h
    obtain ⟨part, entries, rfl, hentries⟩ := exists_section_of_isSection hentry
    obtain ⟨middle, hput, hothers, hfields⟩ :=
      cells.exists_putAll_entries hentries origin?
    obtain ⟨cells', hlayer, hcells'⟩ := ih middle hrest
    refine ⟨cells', ?_, fun field => ?_⟩
    · rw [Value.ofTomlEntries, Value.ofToml, layer_cons,
        update_table hput hothers, hlayer]
    · rw [hcells' field, field.givenIn?_cons, Option.getD_or]
      by_cases hpart : field.home = part
      · rw [hfields field hpart, if_pos (by rw [hpart])]
      · rw [hothers field hpart, if_neg fun h =>
          hpart (Section.key_injective h).symm, Option.getD_none]

/-! Files and overrides. -/

theorem readSource_of_document {files : FileTree} {source : Source}
    {document : Toml.Entries}
    (h : document? files source.path = some document) :
    ∃ origin?,
      readSource files source = .ok (Value.ofTomlEntries origin? document) := by
  unfold document? at h
  split at h
  · next names content hfind =>
    cases hdecode : FileTree.decode content with
    | error error =>
      rw [hdecode] at h
      cases h
    | ok text =>
      rw [hdecode] at h
      have hparse : Toml.parse? text = some document := h
      refine ⟨some (relativeName files.working names), ?_⟩
      simp only [readSource, hfind, hdecode, hparse]
  · cases h

/-- Files of settings one on top of another fill the cells of the fields that
they give. -/
theorem Cells.exists_mergeSources (cells : Cells) {files : FileTree}
    {sources : List Source}
    (h : ∀ source ∈ sources, HoldsSettings files source) :
    ∃ cells' : Cells,
      mergeSources files cells.table sources = .ok cells'.table ∧
      ∀ field, (cells' field).2 = (sources.reverse.findSome? fun source =>
        (document? files source.path).bind field.givenIn?).getD
          (cells field).2 := by
  induction sources generalizing cells with
  | nil => exact ⟨cells, rfl, fun _ => rfl⟩
  | cons source rest ih =>
    obtain ⟨hsource, hrest⟩ := List.forall_mem_cons.1 h
    have hlayer : ∃ (middle : Cells) (read : List (String × Value)),
        readSource files source = .ok read ∧
        cells.table.layer read = middle.table ∧
          ∀ field, (middle field).2 =
            ((document? files source.path).bind field.givenIn?).getD
              (cells field).2 := by
      rcases hsource with ⟨hoptional, hmissing⟩
        | ⟨document, hdocument, hsections⟩
      · rw [Option.isNone_iff_eq_none] at hmissing
        refine ⟨cells, [], ?_, rfl, fun field => ?_⟩
        · simp [readSource, hmissing, hoptional]
        · rw [document?, hmissing]
          rfl
      · obtain ⟨origin?, hread⟩ := readSource_of_document hdocument
        obtain ⟨middle, hmiddle, hfields⟩ :=
          cells.exists_layer_table hsections origin?
        refine ⟨middle, _, hread, hmiddle, fun field => ?_⟩
        rw [hdocument, hfields field]
        rfl
    obtain ⟨middle, read, hread, hmiddle, hfields⟩ := hlayer
    obtain ⟨cells', hmerge, hcells'⟩ := ih middle hrest
    refine ⟨cells', ?_, fun field => ?_⟩
    · rw [mergeSources, hread]
      show mergeSources files (cells.table.layer read) rest = _
      rw [hmiddle, hmerge]
    · rw [hcells' field, hfields field, List.reverse_cons,
        List.findSome?_append, List.findSome?_singleton, Option.getD_or]

def PutsField (override : Key × Value) : Prop :=
  ∃ (field : Field) (content : field.Content),
    override = (dottedKey field.key, .scalar none (field.scalar content))

theorem Field.dottedKey_injective {field other : Field}
    (h : dottedKey field.key = dottedKey other.key) : field = other := by
  have hnames := dottedNames_eq_of_dottedKey_eq h
  rw [dottedNames_key, dottedNames_key, List.cons_eq_cons,
    List.cons_eq_cons] at hnames
  exact name_injective hnames.2.1

/-- Overrides on top of the table of all fields fill the cells of the fields
that they give. -/
theorem Cells.exists_foldl_assign (cells : Cells)
    {overrides : List (Key × Value)}
    (hputs : ∀ override ∈ overrides, PutsField override)
    (hnodup : (overrides.map Prod.fst).Nodup) :
    ∃ cells' : Cells,
      overrides.foldl (fun root (key, value) => root.assign key value)
        cells.table = cells'.table ∧
      ∀ field, (cells' field).2 =
        ((overrides.lookup (dottedKey field.key)).bind field.ofValue?).getD
          (cells field).2 := by
  induction overrides generalizing cells with
  | nil => exact ⟨cells, rfl, fun _ => rfl⟩
  | cons override rest ih =>
    obtain ⟨⟨other, content, rfl⟩, hrest⟩ := List.forall_mem_cons.1 hputs
    obtain ⟨hfresh, hnodup⟩ := List.nodup_cons.1 hnodup
    obtain ⟨cells', hassign, hcells'⟩ :=
      ih (Function.update cells other (none, content)) hrest hnodup
    refine ⟨cells', ?_, fun field => ?_⟩
    · simp only [List.foldl_cons, cells.assign_table, hassign]
    · rw [hcells' field, lookup_cons_eq]
      by_cases hother : field = other
      · subst hother
        -- No override behind this one has its key, so the cell stays as it is
        -- filled here.
        have hlookup : rest.lookup (dottedKey field.key) = none := by
          rw [List.lookup_eq_none_iff]
          intro entry hentry
          exact bne_iff_ne.2 fun h =>
            hfresh (List.mem_map.2 ⟨entry, hentry, h.symm⟩)
        rw [hlookup, if_pos rfl, Function.update_self, Option.bind_some,
          Field.ofValue?_scalar]
        rfl
      · rw [if_neg fun h => hother (Field.dottedKey_injective h),
          Function.update_of_ne hother]

/-- Overrides of fields are kept by their fields, each with the content of the
last of them. -/
theorem Loader.putOverrides_fields {added : List (String × Value)}
    (hadded : ∀ override ∈ added, OverridesField override)
    {overrides : List (Key × Value)}
    (hputs : ∀ override ∈ overrides, PutsField override)
    (hnodup : (overrides.map Prod.fst).Nodup) :
    (∀ override ∈ putOverrides overrides added, PutsField override) ∧
      ((putOverrides overrides added).map Prod.fst).Nodup ∧
      ∀ field : Field,
        ((putOverrides overrides added).lookup (dottedKey field.key)).bind
          field.ofValue? =
          (added.reverse.findSome? field.overriddenBy?).or
            ((overrides.lookup (dottedKey field.key)).bind field.ofValue?) := by
  induction added generalizing overrides with
  | nil => exact ⟨hputs, hnodup, fun _ => rfl⟩
  | cons override rest ih =>
    obtain ⟨⟨other, content, rfl⟩, hrest⟩ := List.forall_mem_cons.1 hadded
    have hputs' : ∀ override ∈ putEntry overrides (dottedKey other.key)
        (.scalar none (other.scalar content)), PutsField override := by
      intro override hoverride
      rcases eq_or_mem_of_mem_putEntry hoverride with rfl | hoverride
      · exact ⟨other, content, rfl⟩
      · exact hputs override hoverride
    obtain ⟨hputs', hnodup', hlookup⟩ := ih hrest hputs'
      (nodup_putEntry hnodup _ _)
    refine ⟨hputs', hnodup', fun field => (hlookup field).trans ?_⟩
    rw [lookup_putEntry, List.reverse_cons, List.findSome?_append,
      List.findSome?_singleton, Option.or_assoc]
    by_cases hother : field = other
    · subst hother
      rw [if_pos rfl, Field.overriddenBy?, if_pos rfl, Option.bind_some,
        Field.ofValue?_scalar]
      rfl
    · rw [if_neg fun h => hother (Field.dottedKey_injective h),
        Field.overriddenBy?,
        if_neg fun h => hother (Field.key_injective h).symm, Option.none_or]

/-! The settings that the table of all fields stands for. -/

theorem toNatural_natural (origin? : Option String) (n : UInt64) :
    Value.toNatural (.scalar origin? (.integer (Int.ofNat n.toNat))) =
      .ok n := by
  rw [Value.toNatural, word?_toNat]

theorem formatterSection_contents (indent lineBreak : String)
    (baseDepth : UInt64) (origin? origin?' origin?'' : Option String) :
    formatterSection (.table none
        [("indent", .scalar origin? (.string indent)),
          ("line_break", .scalar origin?' (.string lineBreak)),
          ("base_indent_depth", .scalar origin?''
            (.integer (Int.ofNat baseDepth.toNat)))]) =
      .ok (indent, lineBreak, baseDepth) := by
  have hnatural := toNatural_natural origin?'' baseDepth
  rw [Int.ofNat_eq_natCast] at hnatural
  simp [formatterSection, fieldsOf, Section.fields, Value.get?, Value.entries,
    lookup_cons_eq, typed?, typed, Value.toText, hnatural, bind, Except.bind,
    Except.map]

theorem formatterSection_cells (cells : Cells) :
    formatterSection (.table none (cells.entries .formatter)) =
      .ok ((cells .indent).2, (cells .lineBreak).2, (cells .baseDepth).2) :=
  formatterSection_contents _ _ _ _ _ _

theorem conversionSection_cells (cells : Cells) :
    conversionSection (.table none (cells.entries .conversion)) =
      .ok ((cells .directLinks).2, (cells .onlyMarkup).2) := by
  simp [conversionSection, fieldsOf, Section.fields, Cells.entries,
    Cells.entry, Field.name, Field.scalar, Value.get?, Value.entries,
    lookup_cons_eq, typed?, typed, Value.toTruth, bind, Except.bind, Except.map]

theorem make_eq_error {lineBreak : String} (h : lineBreak = "")
    (indent : String) (baseDepth : UInt64) (directLinks onlyMarkup : Bool) :
    make indent lineBreak baseDepth directLinks onlyMarkup =
      .error (.formatter .emptyLineBreak) := by
  have hformatter : Formatter.make indent lineBreak baseDepth.toNat =
      .error .emptyLineBreak := dif_pos h
  unfold make
  split
  · next formatter hmake =>
    rw [hformatter] at hmake
    cases hmake
  · rfl

theorem make_eq_ok {lineBreak : String} (h : lineBreak ≠ "")
    (indent : String) (baseDepth : UInt64) (directLinks onlyMarkup : Bool) :
    make indent lineBreak baseDepth directLinks onlyMarkup =
      .ok ⟨⟨indent, lineBreak, baseDepth.toNat, h⟩, ⟨directLinks⟩, onlyMarkup,
        baseDepth.toNat_lt⟩ := by
  have hformatter : Formatter.make indent lineBreak baseDepth.toNat =
      .ok ⟨indent, lineBreak, baseDepth.toNat, h⟩ := dif_neg h
  unfold make
  split
  · next formatter hmake =>
    cases hformatter.symm.trans hmake
    rfl
  · next error hmake =>
    rw [hformatter] at hmake
    cases hmake

theorem ofValue_table (cells : Cells) :
    ofValue cells.table =
      make (cells .indent).2 (cells .lineBreak).2 (cells .baseDepth).2
        (cells .directLinks).2 (cells .onlyMarkup).2 := by
  have hformatter :
      cells.table.get? "formatter" =
        some (.table none (cells.entries .formatter)) := by
    simp [Cells.table, Value.get?, Value.entries]
  have hconversion :
      cells.table.get? "conversion" =
        some (.table none (cells.entries .conversion)) := by
    simp [Cells.table, Value.get?, Value.entries, lookup_cons_eq]
  simp only [ofValue, hformatter, hconversion, formatterSection_cells,
    conversionSection_cells]
  rfl

def makeConverter (options : Options) (indent lineBreak : String)
    (baseDepth : Nat) : Except FormatterError Converter :=
  (Formatter.make indent lineBreak baseDepth).map fun formatter =>
    { options, formatter }

/-- Well-typed layers give a table of all fields, with the effective content of
each of them. -/
theorem exists_build_eq_ofValue {files : FileTree} {steps : List Step}
    (hsources : ∀ source ∈ steps.filterMap Step.source?,
      HoldsSettings files source)
    (hoverrides : ∀ override ∈ steps.filterMap Step.override?,
      OverridesField override) :
    ∃ (loader : Loader) (cells : Cells), Loader.ofSteps? steps = some loader ∧
      loader.build files = ofValue cells.table ∧
      ∀ field, (cells field).2 = effective files steps field := by
  have hdotted : ∀ override ∈ steps.filterMap Step.override?,
      IsDotted override.1 := by
    intro override hoverride
    obtain ⟨field, content, rfl⟩ := hoverrides override hoverride
    exact field.isDotted_key
  obtain ⟨merged, hmerge, hmerged⟩ := builtIn.exists_mergeSources hsources
  obtain ⟨hputs, hnodup, hlookup⟩ :=
    Loader.putOverrides_fields hoverrides (List.forall_mem_nil _) List.nodup_nil
  obtain ⟨cells, hassign, hcells⟩ := merged.exists_foldl_assign hputs hnodup
  refine ⟨_, cells, Loader.ofSteps?_eq hdotted, ?_, fun field => ?_⟩
  · rw [Loader.build, Loader.merge, layer_defaults, hmerge]
    show ofValue
      (List.foldl _ (Value.emptyTable.layer merged.table.entries) _) = _
    rw [merged.layer_entries, hassign]
  · rw [hcells field, hlookup field, List.lookup_nil, Option.bind_none,
      Option.or_none, hmerged field, effective, Option.getD_or]
    rfl

/-- Layers resolve field by field. For all steps whose files are there, or may
be missing, and hold nothing but sections with fields of the right types, and
whose overrides give fields contents of the right types, every field has the
content of its last override, else of the last file that gives it, else the
built-in one. Loading fails exactly when the line break that results is empty;
otherwise it gives these contents, of which a layout and a converter can be
made. -/
theorem build_eq_effective (files : FileTree) (steps : List Step)
    (hsources : ∀ source ∈ steps.filterMap Step.source?,
      HoldsSettings files source)
    (hoverrides : ∀ override ∈ steps.filterMap Step.override?,
      OverridesField override) :
    ∃ loader, Loader.ofSteps? steps = some loader ∧
      ((effective files steps .lineBreak = "" ∧
          loader.build files = .error (.formatter .emptyLineBreak)) ∨
        (effective files steps .lineBreak ≠ "" ∧
          ∃ settings, loader.build files = .ok settings ∧
            (∀ field, field.of settings = effective files steps field) ∧
            Formatter.make settings.formatter.indent
              settings.formatter.lineBreak
              settings.formatter.baseDepth = .ok settings.formatter ∧
            makeConverter settings.options settings.formatter.indent
              settings.formatter.lineBreak settings.formatter.baseDepth =
                .ok { options := settings.options,
                      formatter := settings.formatter })) := by
  obtain ⟨loader, cells, hsteps, hbuild, hcells⟩ :=
    exists_build_eq_ofValue hsources hoverrides
  refine ⟨loader, hsteps, ?_⟩
  rw [ofValue_table] at hbuild
  rw [← hcells .lineBreak]
  by_cases hbreak : (cells .lineBreak).2 = ""
  · exact .inl ⟨hbreak, hbuild.trans (make_eq_error hbreak _ _ _ _)⟩
  · have hmake : Formatter.make (cells .indent).2 (cells .lineBreak).2
        (UInt64.toNat (cells .baseDepth).2) =
        .ok ⟨(cells .indent).2, (cells .lineBreak).2,
          UInt64.toNat (cells .baseDepth).2, hbreak⟩ :=
      dif_neg hbreak
    refine .inr ⟨hbreak, _, hbuild.trans (make_eq_ok hbreak _ _ _ _),
      fun field => ?_, hmake, ?_⟩
    · rw [← hcells field]
      cases field <;> rfl
    · simp only [makeConverter, hmake]
      rfl

/-- An override that is given before a file, a file with another indent and base
than the built-in ones, and a file that is missing. -/
theorem build_eq_effective_mixed :
    let files : FileTree :=
      { files := [(["a.toml"],
          "[formatter]\nindent = \"  \"\nbase_indent_depth = 1".toUTF8)] }
    let steps : List Step :=
      [.override "formatter.base_indent_depth" (.scalar none (.integer 2)),
        .file "a.toml", .optionalFile "b.toml"]
    (∀ source ∈ steps.filterMap Step.source?, HoldsSettings files source) ∧
      (∀ override ∈ steps.filterMap Step.override?, OverridesField override) ∧
      ∃ loader settings, Loader.ofSteps? steps = some loader ∧
      loader.build files = .ok settings ∧
        ∀ field : Field,
          field.of settings =
            field.of { formatter := { indent := "  ", baseDepth := 2 } } := by
  intro files steps
  have hsources : ∀ source ∈ steps.filterMap Step.source?,
      HoldsSettings files source := by
    decide +kernel
  have hoverrides : ∀ override ∈ steps.filterMap Step.override?,
      OverridesField override := by
    intro override hoverride
    obtain rfl := List.mem_singleton.1 hoverride
    exact ⟨.baseDepth, (2 : UInt64), rfl⟩
  have heffective : ∀ field ∈ Field.all, effective files steps field =
      field.of { formatter := { indent := "  ", baseDepth := 2 } } := by
    decide +kernel
  have hall (field : Field) : field ∈ Field.all := by cases field <;> decide
  refine ⟨hsources, hoverrides, ?_⟩
  obtain ⟨loader, hsteps, hresult⟩ :=
    build_eq_effective files steps hsources hoverrides
  rcases hresult with ⟨hempty, -⟩ | ⟨-, settings, hbuild, hfields, -⟩
  · rw [heffective .lineBreak (hall _)] at hempty
    exact absurd hempty (Formatter.lineBreak_ne_empty _)
  · exact ⟨loader, settings, hsteps, hbuild, fun field =>
      (hfields field).trans (heffective field (hall field))⟩

end HtmlBuilder.Settings
