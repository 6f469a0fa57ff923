import HtmlBuilder.Proofs.Settings.Merging
import HtmlBuilder.Proofs.Settings.Steps

/-!
The order of overrides. Overrides of places apart from one another commute,
whatever the files hold below them and whatever they put there: each changes an
entry of its own on its way, and the tables around it come out the same up to
the order of their entries.
-/

namespace HtmlBuilder.Settings

open Value

/-- Whether two overrides have keys of which neither begins with the names of
the other. -/
def KeysApart (override other : String × Value) : Prop :=
  Apart (dottedNames override.1) (dottedNames other.1)

namespace Value

theorem assign_dottedKey (root : Value) {key name : String}
    {names : List String}
    (hnames : dottedNames key = name :: names) (value : Value) :
    root.assign (dottedKey key) value =
      root.update name (value.mergedBelow names) := by
  rw [dottedKey, hnames]
  exact root.putBelow_names name names value

theorem Same.assign {before after : Value} (h : Same before after)
    (key : String) (value : Value) :
    Same (before.assign (dottedKey key) value)
      (after.assign (dottedKey key) value) := by
  obtain ⟨name, names, hnames, -⟩ := exists_dottedNames_eq key
  rw [assign_dottedKey _ hnames, assign_dottedKey _ hnames]
  exact h.update name fun _ _ hold => hold.mergedBelow value names

theorem same_assign_comm (root : Value) {override other : String × Value}
    (h : KeysApart override other) :
    Same ((root.assign (dottedKey override.1) override.2).assign
      (dottedKey other.1) other.2)
      ((root.assign (dottedKey other.1) other.2).assign
        (dottedKey override.1) override.2) := by
  obtain ⟨name, names, hnames, -⟩ := exists_dottedNames_eq override.1
  obtain ⟨name', names', hnames', -⟩ := exists_dottedNames_eq other.1
  rw [KeysApart, hnames, hnames'] at h
  simp only [assign_dottedKey _ hnames, assign_dottedKey _ hnames']
  exact root.same_mergedBelow_comm h override.2 other.2

def assignAll (root : Value) (overrides : List (String × Value)) : Value :=
  overrides.foldl
    (fun root override => root.assign (dottedKey override.1) override.2) root

theorem assignAll_cons (root : Value) (override : String × Value)
    (overrides : List (String × Value)) :
    root.assignAll (override :: overrides) =
      (root.assign (dottedKey override.1) override.2).assignAll overrides :=
  rfl

theorem Same.assignAll {before after : Value} (h : Same before after)
    (overrides : List (String × Value)) :
    Same (before.assignAll overrides) (after.assignAll overrides) := by
  induction overrides generalizing before after with
  | nil => exact h
  | cons override overrides ih => exact ih (h.assign override.1 override.2)

/-- Overrides of places apart from one another give the same in every order. -/
theorem same_assignAll_of_perm {overrides others : List (String × Value)}
    (hperm : overrides.Perm others) (hapart : overrides.Pairwise KeysApart)
    (root : Value) :
    Same (root.assignAll overrides) (root.assignAll others) := by
  induction hperm generalizing root with
  | nil => exact .refl root
  | cons override _ ih =>
    rw [assignAll_cons, assignAll_cons]
    exact ih (List.pairwise_cons.1 hapart).2 _
  | swap override other overrides =>
    obtain ⟨hother, -⟩ := List.pairwise_cons.1 hapart
    simp only [assignAll_cons]
    exact (root.same_assign_comm (hother override List.mem_cons_self)).assignAll
      overrides
  | trans hfirst _ ih ih' =>
    -- Being apart does not depend on the order, so it holds half-way too.
    have hmiddle := (hfirst.pairwise_iff fun {_ _} h => Apart.symm h).1 hapart
    exact (ih hapart root).trans (ih' hmiddle root)

end Value

namespace Loader

/-- Overrides with keys of their own are kept one behind another. -/
theorem putOverrides_of_apart {added : List (String × Value)}
    (hapart : added.Pairwise KeysApart) {overrides : List (Key × Value)}
    (hoverrides : ∀ override ∈ overrides, ∀ other ∈ added,
      override.1 ≠ dottedKey other.1) :
    putOverrides overrides added =
      overrides ++ added.map fun override =>
        (dottedKey override.1, override.2) := by
  induction added generalizing overrides with
  | nil => rw [List.map_nil, List.append_nil]; rfl
  | cons override added ih =>
    obtain ⟨hfirst, hrest⟩ := List.pairwise_cons.1 hapart
    have hfresh : dottedKey override.1 ∉ overrides.map Prod.fst := by
      intro hmem
      obtain ⟨old, hold, hkey⟩ := List.mem_map.1 hmem
      exact hoverrides old hold override List.mem_cons_self hkey
    show putOverrides (putEntry overrides (dottedKey override.1) override.2)
      added = _
    rw [putEntry_of_notMem hfresh, ih hrest, List.append_assoc]
    · rfl
    · intro old hold other hother
      rcases List.mem_append.1 hold with hold | hold
      · exact hoverrides old hold other (List.mem_cons_of_mem _ hother)
      · obtain rfl := List.mem_singleton.1 hold
        exact fun hkey =>
          (hfirst other hother).ne (dottedNames_eq_of_dottedKey_eq hkey)

/-- What steps come to: all files as one layer, overrides on top of it, and the
settings that the merged table stands for. -/
theorem build_of_apart {sources : List Source}
    {overrides : List (String × Value)}
    (hapart : overrides.Pairwise KeysApart) (files : FileTree) :
    (⟨sources, putOverrides [] overrides⟩ : Loader).build files =
      (mergeSources files (emptyTable.layer defaults.entries) sources).bind
        fun merged =>
        ofValue ((emptyTable.layer merged.entries).assignAll overrides) := by
  rw [build, merge, putOverrides_of_apart hapart fun _ hold =>
    absurd hold List.not_mem_nil, List.nil_append]
  cases mergeSources files (emptyTable.layer defaults.entries) sources with
  | error error => rfl
  | ok merged =>
    show ofValue (List.foldl _ _ _) = _
    rw [List.foldl_map]
    rfl

end Loader

/-- Overrides commute with one another and with files. Two sequences of steps
with the same files in the same order, whatever these contain, and with the same
overrides in any positions and any order either both fail or give the same
settings, if the keys of the overrides are names with dots between them of
which, without regard to letter case, none is another one or begins another
one. -/
theorem build_eq_of_overrides_perm (files : FileTree) {steps steps' : List Step}
    (hsources : steps.filterMap Step.source? = steps'.filterMap Step.source?)
    (hoverrides : (steps.filterMap Step.override?).Perm
      (steps'.filterMap Step.override?))
    (hdotted : ∀ override ∈ steps.filterMap Step.override?, IsDotted override.1)
    (hapart : (steps.filterMap Step.override?).Pairwise KeysApart) :
    ∃ loader loader', Loader.ofSteps? steps = some loader ∧
    Loader.ofSteps? steps' = some loader' ∧
      ((∃ error error', loader.build files = .error error ∧
        loader'.build files = .error error') ∨
        ∃ settings, loader.build files = .ok settings ∧
        loader'.build files = .ok settings) := by
  have hdotted' : ∀ override ∈ steps'.filterMap Step.override?,
      IsDotted override.1 :=
    fun override hmem => hdotted override (hoverrides.mem_iff.2 hmem)
  have hapart' := (hoverrides.pairwise_iff fun {_ _} h => Apart.symm h).1 hapart
  refine ⟨_, _, Loader.ofSteps?_eq hdotted, Loader.ofSteps?_eq hdotted', ?_⟩
  rw [Loader.build_of_apart hapart, Loader.build_of_apart hapart', ← hsources]
  cases mergeSources files (emptyTable.layer defaults.entries)
    (steps.filterMap Step.source?) with
  | error error => exact .inl ⟨error, error, rfl, rfl⟩
  | ok merged =>
    have hsame :=
      same_assignAll_of_perm hoverrides hapart (emptyTable.layer merged.entries)
    show (∃ _ _, ofValue _ = _ ∧ ofValue _ = _) ∨
        ∃ _, ofValue _ = _ ∧ ofValue _ = _
    rw [ofValue_same hsame]
    cases ofValue ((emptyTable.layer merged.entries).assignAll
      (steps'.filterMap Step.override?)) with
    | error error => exact .inl ⟨error, error, rfl, rfl⟩
    | ok settings => exact .inr ⟨settings, rfl, rfl⟩

/-- A file that makes a section a number, and two overrides that make it a table
again. -/
theorem build_eq_of_overrides_perm_number :
    let files : FileTree := { files := [(["a.toml"], "formatter = 3".toUTF8)] }
    let indent : Step :=
      .override "formatter.indent" (.scalar none (.string "  "))
    let lineBreak : Step :=
      .override "Formatter.Line_Break" (.scalar none (.string "\r\n"))
    ∃ loader loader',
      Loader.ofSteps? [indent, .file "a.toml", lineBreak] = some loader ∧
      Loader.ofSteps? [lineBreak, indent, .file "a.toml"] = some loader' ∧
      ((∃ error error', loader.build files = .error error ∧
        loader'.build files = .error error') ∨
        ∃ settings, loader.build files = .ok settings ∧
        loader'.build files = .ok settings) := by
  refine build_eq_of_overrides_perm _ rfl (List.Perm.swap _ _ _) ?_ ?_
  · simp only [List.filterMap, Step.override?]
    decide
  · refine List.pairwise_pair.2 ⟨?_, ?_⟩ <;> decide

end HtmlBuilder.Settings
