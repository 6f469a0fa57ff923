import HtmlBuilder.Settings.Loader
import HtmlBuilder.Proofs.Settings.Merging
import Mathlib.Data.List.TakeWhile

/-!
Settings put together step by step. What a sequence of steps comes to is told by
its files in their order and by its overrides; the key of an override is written
as a text, which names behind dots always make readable.
-/

namespace HtmlBuilder.Settings

/-! Keys of names behind dots. -/

def dottedNames (text : String) : List String :=
  (text.toList.splitOn '.').map String.ofList

def IsDotted (text : String) : Prop :=
  ∀ name ∈ text.toList.splitOn '.',
    name ≠ [] ∧ name.all Key.isNameCharacter = true

instance (text : String) : Decidable (IsDotted text) :=
  inferInstanceAs (Decidable (∀ name ∈ text.toList.splitOn '.', _))

def dottedKey (text : String) : Key :=
  match dottedNames text with
  | [] => ⟨"", []⟩
  | name :: names => ⟨name, names.map .name⟩

theorem exists_dottedNames_eq (text : String) :
    ∃ name names, dottedNames text = name :: names ∧
    dottedKey text = ⟨name, names.map .name⟩ := by
  obtain ⟨name, names, hsplit⟩ :=
    List.exists_cons_of_ne_nil (List.splitOn_ne_nil '.' text.toList)
  have hnames : dottedNames text = String.ofList name ::
      names.map String.ofList := by
    rw [dottedNames, hsplit, List.map_cons]
  exact ⟨_, _, hnames, by rw [dottedKey, hnames]⟩

theorem dottedNames_eq_of_dottedKey_eq {text other : String}
    (h : dottedKey text = dottedKey other) :
    dottedNames text = dottedNames other := by
  obtain ⟨name, names, hnames, hkey⟩ := exists_dottedNames_eq text
  obtain ⟨name', names', hnames', hkey'⟩ := exists_dottedNames_eq other
  rw [hkey, hkey', Key.mk.injEq] at h
  obtain ⟨rfl, hsteps⟩ := h
  have hnames_eq : names = names' :=
    (List.map_inj_right fun _ _ => KeyStep.name.inj).1 hsteps
  rw [hnames, hnames', hnames_eq]

namespace Key

theorem readName_append {name rest : List Char} (hname : name ≠ [])
    (hcharacters : name.all isNameCharacter = true)
    (hrest : ∀ c ∈ rest.head?, isNameCharacter c = false) :
    readName (name ++ rest) = some (String.ofList name, rest) := by
  rw [List.all_eq_true] at hcharacters
  have hall : name.takeWhile isNameCharacter = name :=
    List.takeWhile_eq_self_iff.2 hcharacters
  have htake : (name ++ rest).takeWhile isNameCharacter = name := by
    rw [List.takeWhile_append, hall, if_pos rfl]
    cases rest with
    | nil => rw [List.takeWhile_nil, List.append_nil]
    | cons c rest =>
      rw [List.takeWhile_cons, hrest c rfl, if_neg Bool.false_ne_true,
        List.append_nil]
  have hdrop : (name ++ rest).dropWhile isNameCharacter = rest := by
    rw [List.dropWhile_append, List.dropWhile_eq_nil_iff.2 hcharacters,
      if_pos List.isEmpty_nil]
    cases rest with
    | nil => rfl
    | cons c rest =>
      rw [List.dropWhile_cons, hrest c rfl, if_neg Bool.false_ne_true]
  rw [readName, htake, hdrop]
  cases name with
  | nil => exact absurd rfl hname
  | cons => rfl

def behindDots (names : List (List Char)) : List Char :=
  names.flatMap ('.' :: ·)

theorem intercalate_dot (name : List Char) (names : List (List Char)) :
    ['.'].intercalate (name :: names) = name ++ behindDots names := by
  induction names generalizing name with
  | nil =>
    rw [List.intercalate_singleton, behindDots, List.flatMap_nil,
      List.append_nil]
  | cons next rest ih =>
    rw [List.intercalate_cons_cons, ih, List.append_assoc]
    rfl

theorem head?_behindDots (names : List (List Char)) :
    ∀ c ∈ (behindDots names).head?, isNameCharacter c = false := by
  rintro c hc
  cases names with
  | nil => cases hc
  | cons name names =>
    cases hc
    decide

theorem readSteps_behindDots {names : List (List Char)}
    (h : ∀ name ∈ names, name ≠ [] ∧ name.all isNameCharacter = true)
    (done : List KeyStep) {fuel : Nat} (hfuel : names.length ≤ fuel) :
    readSteps done fuel (behindDots names) =
      some (done.reverse ++ names.map (.name ∘ String.ofList)) := by
  induction names generalizing done fuel with
  | nil =>
    show readSteps done fuel [] = _
    rw [readSteps, List.map_nil, List.append_nil]
  | cons name names ih =>
    obtain ⟨fuel, rfl⟩ : ∃ before, fuel = before + 1 :=
      ⟨fuel - 1, by rw [List.length_cons] at hfuel; omega⟩
    obtain ⟨hname, hnames⟩ := List.forall_mem_cons.1 h
    show readSteps done (fuel + 1) ('.' :: (name ++ behindDots names)) = _
    rw [readSteps, readName_append hname.1 hname.2 (head?_behindDots names)]
    show readSteps (.name (String.ofList name) :: done) fuel
      (behindDots names) = _
    rw [ih hnames _ (Nat.le_of_succ_le_succ hfuel)]
    simp

theorem length_le_length_behindDots (names : List (List Char)) :
    names.length ≤ (behindDots names).length := by
  induction names with
  | nil => exact Nat.le_refl 0
  | cons name names ih => simp [behindDots] at ih ⊢; omega

/-- Names with dots between them are read as the key that they make. -/
theorem parse?_of_isDotted {text : String} (h : IsDotted text) :
    parse? text = some (dottedKey text) := by
  obtain ⟨name, names, hsplit⟩ :=
    List.exists_cons_of_ne_nil (List.splitOn_ne_nil '.' text.toList)
  have htext : text.toList = name ++ behindDots names := by
    rw [← intercalate_dot, ← hsplit, List.intercalate_splitOn]
  rw [IsDotted, hsplit, List.forall_mem_cons] at h
  have hkey : dottedKey text =
      ⟨String.ofList name, names.map (.name ∘ String.ofList)⟩ := by
    simp [dottedKey, dottedNames, hsplit]
  rw [parse?, htext, readName_append h.1.1 h.1.2 (head?_behindDots names)]
  show (readSteps [] _ (behindDots names)).bind _ = _
  rw [readSteps_behindDots h.2 [] (length_le_length_behindDots names), hkey]
  rfl

end Key

/-! Steps. -/

inductive Step where
  /-- A file that has to be there. -/
  | file (path : String)
  /-- A file that may be missing. -/
  | optionalFile (path : String)
  /-- A single value, under a key that is written as a text. -/
  | override (key : String) (value : Value)

namespace Step

def source? : Step → Option Source
  | .file path => some ⟨path, true⟩
  | .optionalFile path => some ⟨path, false⟩
  | .override _ _ => none

def override? : Step → Option (String × Value)
  | .override key value => some (key, value)
  | .file _ | .optionalFile _ => none

end Step

namespace Loader

/-- What a step makes of the settings put together so far; an override with a
key that cannot be read is refused. -/
def take? (loader : Loader) : Step → Option Loader
  | .file path => some (loader.withFile path)
  | .optionalFile path => some (loader.withOptionalFile path)
  | .override key value => (Key.parse? key).map fun key =>
    loader.override key value

def ofSteps? (steps : List Step) : Option Loader :=
  steps.foldlM take? {}

def putOverrides (overrides : List (Key × Value))
    (added : List (String × Value)) : List (Key × Value) :=
  added.foldl (fun overrides (key, value) =>
    putEntry overrides (dottedKey key) value) overrides

theorem foldlM_take? {steps : List Step}
    (h : ∀ override ∈ steps.filterMap Step.override?, IsDotted override.1)
    (loader : Loader) :
    steps.foldlM take? loader =
      some ⟨loader.sources ++ steps.filterMap Step.source?,
        putOverrides loader.overrides (steps.filterMap Step.override?)⟩ := by
  induction steps generalizing loader with
  | nil => simp [putOverrides]
  | cons step steps ih =>
    cases step with
    | file path | optionalFile path =>
      refine (ih h _).trans ?_
      simp [withFile, withOptionalFile, Step.source?, Step.override?,
        List.filterMap_cons]
    | override key value =>
      rw [show (Step.override key value :: steps).filterMap Step.override? =
        (key, value) :: steps.filterMap Step.override? from rfl,
        List.forall_mem_cons] at h
      show ((Key.parse? key).map fun key => loader.override key value).bind
        (steps.foldlM take?) = _
      rw [Key.parse?_of_isDotted h.1]
      exact ih h.2 _

theorem ofSteps?_eq {steps : List Step}
    (h : ∀ override ∈ steps.filterMap Step.override?, IsDotted override.1) :
    ofSteps? steps =
      some ⟨steps.filterMap Step.source?,
        putOverrides [] (steps.filterMap Step.override?)⟩ :=
  foldlM_take? h {}

end Loader

end HtmlBuilder.Settings
