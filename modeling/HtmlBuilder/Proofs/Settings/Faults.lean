import HtmlBuilder.Proofs.Settings.Steps

/-!
Files of settings that cannot be read. Loading reads the files in the order in
which they were added and stops at the first one with a fault, before it looks
at any override or at the type of any value; so a fault is not mended by what is
added before or behind it. A file that may be missing is passed over when it is
missing or no text, and then it is as if it had never been added.
-/

namespace HtmlBuilder.Settings

variable {files : FileTree}

/-! What can be wrong with a file. -/

namespace Source

inductive Fault (files : FileTree) : Source → Error → Prop
  /-- It has to be there and is not, neither under its name nor with the
  extension added to it. -/
  | missing {path : String} (hfind : findSource files path = none) :
    Fault files ⟨path, true⟩ (.notFound path)
  /-- It has to be there and is, but its bytes are no text. -/
  | notUnicode {path : String} {names : List String} {content : ByteArray}
      {cause : ReadError}
    (hfind : findSource files path = some (names, content))
    (hdecode : FileTree.decode content = .error cause) :
      Fault files ⟨path, true⟩ .notUnicode
  /-- Whether or not it has to be there, it is a text but no document; the file
  is named from the working directory. -/
  | malformed {source : Source} {names : List String} {content : ByteArray}
      {text : String}
    (hfind : findSource files source.path = some (names, content))
    (hdecode : FileTree.decode content = .ok text)
    (hparse : Toml.parse? text = none) :
    Fault files source (.malformed (relativeName files.working names))

inductive PassedOver (files : FileTree) (path : String) : Prop
  /-- It is missing, under its name and with the extension added to it. -/
  | missing (hfind : findSource files path = none)
  /-- Its bytes are no text. -/
  | notUnicode {names : List String} {content : ByteArray} {cause : ReadError}
    (hfind : findSource files path = some (names, content))
    (hdecode : FileTree.decode content = .error cause)

end Source

/-- A source cannot be read exactly when it has a fault, which is the error that
reading it gives. -/
theorem readSource_eq_error_iff {source : Source} {error : Error} :
    readSource files source = .error error ↔ source.Fault files error := by
  obtain ⟨path, isRequired⟩ := source
  constructor
  · intro h
    unfold readSource at h
    split at h
    · next hfind =>
      cases isRequired with
      | true =>
        cases h
        exact .missing hfind
      | false => cases h
    · next names content hfind =>
      split at h
      · next cause hdecode =>
        cases isRequired with
        | true =>
          cases h
          exact .notUnicode hfind hdecode
        | false => cases h
      · next text hdecode =>
        split at h
        · next hparse =>
          cases h
          exact .malformed hfind hdecode hparse
        · cases h
  · intro h
    unfold readSource
    cases h with
    | missing hfind => rw [hfind]; rfl
    | notUnicode hfind hdecode => simp only [hfind, hdecode, if_true]
    | malformed hfind hdecode hparse => simp only [hfind, hdecode, hparse]

theorem readSource_passedOver {path : String}
    (h : Source.PassedOver files path) :
    readSource files ⟨path, false⟩ = .ok [] := by
  unfold readSource
  cases h with
  | missing hfind => rw [hfind]; rfl
  | notUnicode hfind hdecode =>
    simp only [hfind, hdecode, Bool.false_eq_true, if_false]

/-! Reading sources one after another. -/

theorem mergeSources_append (merged : Value) (sources others : List Source) :
    mergeSources files merged (sources ++ others) =
      (mergeSources files merged sources).bind
        (mergeSources files · others) := by
  induction sources generalizing merged with
  | nil => rfl
  | cons source sources ih =>
    rw [List.cons_append, mergeSources, mergeSources]
    cases readSource files source with
    | error error => rfl
    | ok entries => exact ih (merged.layer entries)

theorem exists_mergeSources_eq_ok {sources : List Source}
    (h : ∀ source ∈ sources, ∀ error, ¬ source.Fault files error)
    (merged : Value) :
    ∃ result, mergeSources files merged sources = .ok result := by
  induction sources generalizing merged with
  | nil => exact ⟨merged, rfl⟩
  | cons source sources ih =>
    obtain ⟨hsource, hsources⟩ := List.forall_mem_cons.1 h
    rw [mergeSources]
    cases hread : readSource files source with
    | error error =>
      exact absurd (readSource_eq_error_iff.1 hread) (hsource error)
    | ok entries => exact ih hsources (merged.layer entries)

/-- Reading stops at the first source with a fault, whatever comes behind it. -/
theorem mergeSources_eq_error {before : List Source} {source : Source}
    {error : Error}
    (hbefore : ∀ earlier ∈ before, ∀ other, ¬ earlier.Fault files other)
    (h : source.Fault files error) (merged : Value) (after : List Source) :
    mergeSources files merged (before ++ source :: after) = .error error := by
  obtain ⟨result, hresult⟩ := exists_mergeSources_eq_ok hbefore merged
  rw [mergeSources_append, hresult]
  show mergeSources files result (source :: after) = .error error
  rw [mergeSources, readSource_eq_error_iff.2 h]
  rfl

theorem mergeSources_passedOver {path : String}
    (h : Source.PassedOver files path) (merged : Value)
    (before after : List Source) :
    mergeSources files merged (before ++ ⟨path, false⟩ :: after) =
      mergeSources files merged (before ++ after) := by
  rw [mergeSources_append, mergeSources_append]
  cases mergeSources files merged before with
  | error error => rfl
  | ok result =>
    show mergeSources files result (⟨path, false⟩ :: after) =
        mergeSources files result after
    rw [mergeSources, readSource_passedOver h]
    rfl

/-! Steps with any overrides. -/

namespace Loader

/-- Overrides put, one after another, under the keys that their texts write; one
with a key that cannot be read is refused. -/
def putOverrides? (overrides : List (Key × Value))
    (added : List (String × Value)) : Option (List (Key × Value)) :=
  added.foldlM
    (fun overrides (key, value) => (Key.parse? key).map fun key =>
      putEntry overrides key value)
    overrides

/-- Steps add their files in their order, and their overrides apart from
these. -/
theorem foldlM_take?_eq (steps : List Step) (loader : Loader) :
    steps.foldlM take? loader =
      (putOverrides? loader.overrides (steps.filterMap Step.override?)).map
        (⟨loader.sources ++ steps.filterMap Step.source?, ·⟩) := by
  induction steps generalizing loader with
  | nil => simp [putOverrides?]
  | cons step steps ih =>
    cases step with
    | file path | optionalFile path =>
      refine (ih _).trans ?_
      simp [withFile, withOptionalFile, Step.source?, Step.override?,
        List.filterMap_cons]
    | override key value =>
      show ((Key.parse? key).map fun key => loader.override key value).bind
        (steps.foldlM take?) = _
      cases hkey : Key.parse? key with
      | none => simp [putOverrides?, Step.override?, List.filterMap_cons, hkey]
      | some parsed =>
        refine (ih _).trans ?_
        simp [putOverrides?, override, Step.source?, Step.override?,
          List.filterMap_cons, hkey]

theorem ofSteps?_eq_map (steps : List Step) :
    ofSteps? steps =
      (putOverrides? [] (steps.filterMap Step.override?)).map
        (⟨steps.filterMap Step.source?, ·⟩) :=
  foldlM_take?_eq steps {}

/-- A sequence of overrides is refused only for a key that cannot be read. -/
theorem putOverrides?_eq_none_iff {overrides : List (Key × Value)}
    {added : List (String × Value)} :
    putOverrides? overrides added = none ↔
      ∃ override ∈ added, Key.parse? override.1 = none := by
  induction added generalizing overrides with
  | nil => simp [putOverrides?]
  | cons override added ih =>
    obtain ⟨text, value⟩ := override
    show ((Key.parse? text).map fun key => putEntry overrides key value).bind
      (putOverrides? · added) = none ↔ _
    cases hkey : Key.parse? text with
    | none => simp [hkey]
    | some key =>
      refine ih.trans ?_
      simp [hkey]

end Loader

/-! What a sequence of steps comes to. -/

/-- What a sequence of steps comes to over the files of a tree: settings or an
error, unless an override is refused before anything is built. -/
def outcome (files : FileTree) (steps : List Step) :
    Option (Except Error Settings) :=
  (Loader.ofSteps? steps).map fun loader => loader.build files

/-- Whether a sequence of steps has an override with a key that cannot be
read. -/
def IsRefused (steps : List Step) : Prop :=
  ∃ override ∈ steps.filterMap Step.override?, Key.parse? override.1 = none

instance (steps : List Step) : Decidable (IsRefused steps) :=
  inferInstanceAs (Decidable (∃ override ∈ _, _))

theorem outcome_eq_none_iff {steps : List Step} :
    outcome files steps = none ↔ IsRefused steps := by
  rw [outcome, Loader.ofSteps?_eq_map, Option.map_map, Option.map_eq_none_iff]
  exact Loader.putOverrides?_eq_none_iff

/-- The outcome depends on what the files come to and on the overrides, not on
their positions. -/
theorem outcome_congr {steps steps' : List Step}
    (hoverrides : steps.filterMap Step.override? =
      steps'.filterMap Step.override?)
    (hsources : ∀ merged,
      mergeSources files merged (steps.filterMap Step.source?) =
      mergeSources files merged (steps'.filterMap Step.source?)) :
    outcome files steps = outcome files steps' := by
  rw [outcome, outcome, Loader.ofSteps?_eq_map, Loader.ofSteps?_eq_map,
    hoverrides, Option.map_map, Option.map_map]
  congr 1
  funext overrides
  show Loader.build _ files = Loader.build _ files
  rw [Loader.build, Loader.build, Loader.merge, Loader.merge, hsources]

/-- If the files of a sequence of steps cannot all be read, the outcome is the
error of reading them, whatever the overrides are. -/
theorem outcome_eq_error {steps : List Step} {error : Error}
    (hrefused : ¬ IsRefused steps)
    (h : ∀ merged, mergeSources files merged (steps.filterMap Step.source?) =
      .error error) :
    outcome files steps = some (.error error) := by
  cases hoverrides : Loader.putOverrides? []
    (steps.filterMap Step.override?) with
  | none =>
    exact absurd (Loader.putOverrides?_eq_none_iff.1 hoverrides) hrefused
  | some overrides =>
    rw [outcome, Loader.ofSteps?_eq_map, hoverrides]
    show some (Loader.build _ files) = _
    rw [Loader.build, Loader.merge, h]
    rfl

/-- Faults of files are permanent and reported in the order of the files. If a
step of a sequence adds a file with a fault and no step before it does, building
fails with the fault of that file, whatever other files and overrides stand
before and behind it; a sequence comes to nothing at all only when an override
has a key that cannot be read. A file that may be missing and is missing or no
text can be left out of any sequence of steps without changing the outcome. -/
theorem outcome_of_fault (files : FileTree) :
    (∀ steps : List Step, outcome files steps = none ↔ IsRefused steps) ∧
    (∀ (before after : List Step) (step : Step) (source : Source)
      (error : Error),
      ¬ IsRefused (before ++ step :: after) → step.source? = some source →
      source.Fault files error →
      (∀ earlier ∈ before.filterMap Step.source?, ∀ other,
        ¬ earlier.Fault files other) →
      outcome files (before ++ step :: after) = some (.error error)) ∧
    ∀ (before after : List Step) (path : String), Source.PassedOver files path →
      outcome files (before ++ .optionalFile path :: after) =
        outcome files (before ++ after) := by
  refine ⟨fun steps => outcome_eq_none_iff, ?_, ?_⟩
  · intro before after step source error hrefused hsource hfault hfirst
    apply outcome_eq_error hrefused
    intro merged
    rw [List.filterMap_append, List.filterMap_cons_some hsource]
    exact mergeSources_eq_error hfirst hfault merged _
  · intro before after path hpassed
    apply outcome_congr
    · rw [List.filterMap_append, List.filterMap_append,
        List.filterMap_cons_none rfl]
    · intro merged
      rw [List.filterMap_append, List.filterMap_append,
        List.filterMap_cons_some (f := Step.source?) rfl]
      exact mergeSources_passedOver hpassed merged _ _

/-- A document that may be missing and is none, behind settings of wrong types
and in front of a file that has to be there and is not; and bytes that are no
text, left out. -/
theorem outcome_of_fault_malformed :
    let files : FileTree := { files := [(["bad.toml"], "[formatter".toUTF8),
      (["number.toml"], "formatter = 3".toUTF8), (["bytes"], ⟨#[0xff]⟩)] }
    let before : List Step :=
      [.override "formatter.line_break" (.scalar none (.string "")),
        .file "number.toml", .optionalFile "bytes"]
    let after : List Step :=
      [.file "gone.toml", .override "conversion" (.array none [])]
    outcome files (before ++ .optionalFile "bad" :: after) =
      some (.error (.malformed "bad.toml")) ∧
      outcome files ([.file "number.toml"] ++ .optionalFile "bytes" :: after) =
        outcome files ([.file "number.toml"] ++ after) := by
  intro files before after
  have hbytes : Source.PassedOver files "bytes" :=
    @Source.PassedOver.notUnicode files "bytes" ["bytes"] ⟨#[0xff]⟩ .notUnicode
      (by decide +kernel)
      (by decide +kernel)
  have hbad : Source.Fault files ⟨"bad", false⟩ (.malformed "bad.toml") :=
    @Source.Fault.malformed files ⟨"bad",
      false⟩ ["bad.toml"] "[formatter".toUTF8 "[formatter"
      (by decide +kernel) (by decide +kernel) (by decide +kernel)
  constructor
  · apply (outcome_of_fault files).2.1 before after (.optionalFile "bad")
      ⟨"bad", false⟩ (.malformed "bad.toml")
    · decide +kernel
    · rfl
    · exact hbad
    · intro earlier hearlier other hfault
      have hread : ∀ source ∈ before.filterMap Step.source?,
          (readSource files source).isOk = true := by
        decide +kernel
      have hearlier := hread earlier hearlier
      rw [readSource_eq_error_iff.2 hfault] at hearlier
      exact absurd hearlier Bool.false_ne_true
  · exact (outcome_of_fault files).2.2 [.file "number.toml"] after
      "bytes" hbytes

end HtmlBuilder.Settings
