import HtmlBuilder.Proofs.Entries
import HtmlBuilder.Settings.Key
import HtmlBuilder.Settings.Typed
import Mathlib.Data.Option.Basic

/-!
Merging values into tables. What is put under names changes one entry of one
table and leaves all others as they are, so values that are put in places apart
from one another may be put in any order: the tables that come out differ in
nothing but the order of their entries, which the settings that they stand for
do not depend on.
-/

namespace HtmlBuilder.Settings

namespace Value

/-! Changing an entry of a table. -/

theorem asTable_eq (value : Value) :
    value.asTable = .table value.asTable.origin? value.asTable.entries := by
  cases value <;> rfl

theorem update_eq (root : Value) (key : String)
    (change : Option Value → Value) :
    root.update key change =
      .table root.asTable.origin?
        (updateEntry root.asTable.entries (Text.lowercase key) change) := by
  cases root <;> rfl

theorem update_congr (root : Value) {key other : String}
    (hkey : Text.lowercase key = Text.lowercase other)
    (change : Option Value → Value) :
    root.update key change = root.update other change := by
  rw [update_eq, update_eq, hkey]

theorem update_update (root : Value) {key other : String}
    (hkey : Text.lowercase key = Text.lowercase other)
    (first second : Option Value → Value) :
    (root.update key first).update other second =
      root.update key fun old? => second (some (first old?)) := by
  rw [← update_congr _ hkey, update_eq, update_eq root, update_eq root]
  exact congrArg _ (updateEntry_updateEntry _ _ first second)

/-! Values that differ in nothing but the order of entries. -/

/-- Two values that are the same up to the order of the entries of tables. -/
inductive Same : Value → Value → Prop
  | refl (value : Value) : Same value value
  | table (origin? : Option String) {before after : List (String × Value)}
      (hkeys : ∀ key, (before.lookup key).isSome = (after.lookup key).isSome)
      (hvalues : ∀ key value other, before.lookup key = some value →
        after.lookup key = some other → Same value other) :
      Same (.table origin? before) (.table origin? after)

abbrev SameEntry : Option Value → Option Value → Prop :=
  Option.Rel Same

theorem SameEntry.refl (value? : Option Value) : SameEntry value? value? := by
  cases value? with
  | none => exact .none
  | some value => exact .some (.refl value)

theorem SameEntry.getD {before? after? : Option Value}
    (h : SameEntry before? after?)
    (value : Value) : Same (before?.getD value) (after?.getD value) := by
  cases h with
  | none => exact .refl value
  | some h => exact h

theorem SameEntry.isSome_eq {before? after? : Option Value}
    (h : SameEntry before? after?) :
    before?.isSome = after?.isSome := by
  cases h <;> rfl

theorem SameEntry.value {before after : Value}
    (h : SameEntry (some before) (some after)) :
    Same before after := by
  cases h with
  | some hsame => exact hsame

theorem Same.of_lookup {before after : List (String × Value)}
    (origin? : Option String)
    (h : ∀ key, SameEntry (before.lookup key) (after.lookup key)) :
    Same (.table origin? before) (.table origin? after) := by
  refine .table origin? (fun key => (h key).isSome_eq)
    fun key value other hvalue hother => ?_
  have hkey := h key
  rw [hvalue, hother] at hkey
  exact hkey.value

theorem Same.lookup {before after : Value} (h : Same before after)
    (key : String) :
    SameEntry (before.entries.lookup key) (after.entries.lookup key) := by
  cases h with
  | refl => exact .refl _
  | @table origin? before after hkeys hvalues =>
    have hkey := hkeys key
    show SameEntry (before.lookup key) (after.lookup key)
    cases hbefore : before.lookup key with
    | none =>
      rw [hbefore, Option.isSome_none, eq_comm, Option.isSome_eq_false_iff,
        Option.isNone_iff_eq_none] at hkey
      rw [hkey]
      exact .none
    | some value =>
      rw [hbefore, Option.isSome_some, eq_comm,
        Option.isSome_iff_exists] at hkey
      obtain ⟨other, hother⟩ := hkey
      rw [hother]
      exact .some (hvalues key value other hbefore hother)

theorem Same.origin?_eq {before after : Value} (h : Same before after) :
    before.origin? = after.origin? := by
  cases h <;> rfl

theorem Same.asTable {before after : Value} (h : Same before after) :
    Same before.asTable after.asTable := by
  cases h with
  | refl => exact .refl _
  | table origin? hkeys hvalues => exact .table origin? hkeys hvalues

theorem Same.trans {first second third : Value} (h : Same first second)
    (h' : Same second third) :
    Same first third := by
  induction h generalizing third with
  | refl => exact h'
  | @table origin? before after hkeys hvalues ih =>
    cases h' with
    | refl => exact .table origin? hkeys hvalues
    | @table _ _ last hkeys' hvalues' =>
      refine .table origin? (fun key => (hkeys key).trans (hkeys' key)) ?_
      intro key value other hvalue hother
      have hmiddle : (after.lookup key).isSome = true := by
        rw [← hkeys key, hvalue]; rfl
      obtain ⟨middle, hmiddle⟩ := Option.isSome_iff_exists.1 hmiddle
      exact ih key value middle hvalue hmiddle
        (hvalues' key middle other hmiddle hother)

/-- Changes that give the same for the same entries keep tables the same. -/
theorem Same.update {before after : Value} (h : Same before after)
    (key : String) {change change' : Option Value → Value}
    (hchange : ∀ old? old?', SameEntry old? old?' →
      Same (change old?) (change' old?')) :
    Same (before.update key change) (after.update key change') := by
  rw [update_eq, update_eq, h.asTable.origin?_eq]
  refine .of_lookup _ fun other => ?_
  rw [lookup_updateEntry, lookup_updateEntry]
  split
  · exact .some (hchange _ _ (h.asTable.lookup _))
  · exact h.asTable.lookup other

/-- Changes of different entries of a table may be made in any order. -/
theorem same_update_comm (root : Value) {key other : String}
    (hkey : Text.lowercase key ≠ Text.lowercase other)
    (change change' : Option Value → Value) :
    Same ((root.update key change).update other change')
      ((root.update other change').update key change) := by
  rw [update_eq root, update_eq root, update_eq, update_eq]
  refine .of_lookup _ fun name => ?_
  show SameEntry ((updateEntry (updateEntry _ _ _) _ _).lookup name)
    ((updateEntry (updateEntry _ _ _) _ _).lookup name)
  simp only [lookup_updateEntry, if_neg hkey, if_neg hkey.symm]
  split
  · next hname =>
    rw [if_neg fun h => hkey (h.symm.trans hname)]
    exact .refl _
  · exact .refl _

/-! Putting values under names. -/

/-- What stands in place of an entry when a value is merged into it. -/
def merged (value : Value) (old? : Option Value) : Value :=
  match value with
  | .table _ entries => putAll (old?.getD emptyTable) entries
  | other => other

theorem put_eq (root : Value) (key : String) (value : Value) :
    root.put key value = root.update key value.merged := by
  cases value <;> rw [put] <;> rfl

/-- What stands in place of an entry when a value is put under names below
it. -/
def mergedBelow (value : Value) (names : List String)
    (old? : Option Value) : Value :=
  match names with
  | [] => value.merged old?
  | name :: rest => (old?.getD nothing).update name (value.mergedBelow rest)

theorem putBelow_names (root : Value) (name : String) (names : List String)
    (value : Value) :
    root.putBelow ((name :: names).map .name) value =
      root.update name (value.mergedBelow names) := by
  induction names generalizing root name with
  | nil =>
    show root.asTable.put name value = _
    rw [put_eq, update_eq, update_eq, asTable_eq root]
    rfl
  | cons next rest ih =>
    show root.update name (fun old? =>
      (old?.getD nothing).putBelow ((next :: rest).map .name) value) = _
    simp only [ih]
    rfl

mutual

theorem Same.put {before after : Value} (h : Same before after) (key : String)
    (value : Value) :
    Same (before.put key value) (after.put key value) := by
  rw [put_eq, put_eq]
  refine h.update key fun old? old?' hold => ?_
  match value with
  | .scalar _ _ | .array _ _ => exact .refl _
  | .table _ entries => exact (hold.getD emptyTable).putAll entries

theorem Same.putAll {before after : Value} (h : Same before after)
    (entries : List (String × Value)) :
    Same (before.putAll entries) (after.putAll entries) := by
  match entries with
  | [] =>
    rw [Value.putAll, Value.putAll]
    exact h
  | (key, value) :: rest =>
    rw [Value.putAll, Value.putAll]
    exact (h.put key value).putAll rest

end

theorem SameEntry.mergedBelow {old? old?' : Option Value}
    (h : SameEntry old? old?') (value : Value) (names : List String) :
    Same (value.mergedBelow names old?) (value.mergedBelow names old?') := by
  induction names generalizing old? old?' with
  | nil =>
    cases value with
    | scalar | array => exact .refl _
    | table => exact (h.getD emptyTable).putAll _
  | cons name rest ih =>
    exact (h.getD nothing).update name fun _ _ hold => ih hold

/-! Values under names that lead to different places. -/

def lowered (names : List String) : List String :=
  names.map Text.lowercase

/-- Whether two lists of names lead to places of which neither lies in the
other. -/
def Apart (names others : List String) : Prop :=
  ¬ lowered names <+: lowered others ∧ ¬ lowered others <+: lowered names

theorem Apart.symm {names others : List String} (h : Apart names others) :
    Apart others names :=
  ⟨h.2, h.1⟩

theorem Apart.ne {names others : List String} (h : Apart names others) :
    names ≠ others := by
  rintro rfl
  exact h.1 (List.prefix_refl _)

/-- Names that begin alike are apart behind their first ones. -/
theorem Apart.tail {name other : String} {names others : List String}
    (h : Apart (name :: names) (other :: others))
    (hname : Text.lowercase name = Text.lowercase other) :
    Apart names others := by
  have hcons (front back : List String)
      (hbegins : lowered front <+: lowered back) :
      Text.lowercase name :: lowered front <+:
        Text.lowercase other :: lowered back :=
    List.cons_prefix_cons.2 ⟨hname, hbegins⟩
  refine ⟨fun hbegins => h.1 (hcons _ _ hbegins), fun hbegins => h.2 ?_⟩
  exact List.cons_prefix_cons.2 ⟨hname.symm, hbegins⟩

/-- Values that are put under names apart from one another may be put in any
order. -/
theorem same_mergedBelow_comm (root : Value) {name other : String}
    {names others : List String}
    (h : Apart (name :: names) (other :: others)) (value value' : Value) :
    Same ((root.update name (value.mergedBelow names)).update other
      (value'.mergedBelow others))
      ((root.update other (value'.mergedBelow others)).update name
        (value.mergedBelow names)) := by
  induction names generalizing root name other others with
  | nil =>
    by_cases hname : Text.lowercase name = Text.lowercase other
    · exact absurd (List.nil_prefix) (h.tail hname).1
    · exact same_update_comm root hname _ _
  | cons next rest ih =>
    by_cases hname : Text.lowercase name = Text.lowercase other
    · -- Both go through one entry, so the order matters below it only.
      rw [update_update root hname, update_update root hname.symm]
      match others with
      | [] => exact absurd (List.nil_prefix) (h.tail hname).2
      | next' :: rest' =>
        have hbelow (old? old?' : Option Value) (hold : SameEntry old? old?') :
            Same (value'.mergedBelow (next' :: rest')
              (some (value.mergedBelow (next :: rest) old?)))
              (value.mergedBelow (next :: rest)
                (some (value'.mergedBelow (next' :: rest') old?'))) :=
          (ih (old?.getD nothing) (h.tail hname)).trans <|
            SameEntry.mergedBelow
              (.some (hold.mergedBelow value' (next' :: rest'))) value
              (next :: rest)
        rw [update_congr root hname.symm]
        exact (Same.refl root).update name hbelow
    · exact same_update_comm root hname _ _

/-! Settings do not depend on the order of entries. -/

theorem Same.toText_eq {before after : Value} (h : Same before after) :
    before.toText = after.toText := by
  cases h <;> rfl

theorem Same.toTruth_eq {before after : Value} (h : Same before after) :
    before.toTruth = after.toTruth := by
  cases h <;> rfl

theorem Same.toNatural_eq {before after : Value} (h : Same before after) :
    before.toNatural = after.toNatural := by
  cases h <;> rfl

end Value

open Value

theorem typed?_same {α : Type} {convert : Value → Except Mismatch α}
    (hconvert : ∀ {before after},
      Same before after → convert before = convert after) (key : String)
    {before? after? : Option Value} (h : SameEntry before? after?) :
    typed? convert key before? = typed? convert key after? := by
  cases h with
  | none => rfl
  | some h => simp only [typed?, typed, hconvert h, h.origin?_eq]

theorem formatterSection_same {before after : Value} (h : Same before after) :
    formatterSection before = formatterSection after := by
  have htext (key field : String) :=
    typed?_same Same.toText_eq key (h.lookup field)
  have hnatural (key field : String) :=
    typed?_same Same.toNatural_eq key (h.lookup field)
  cases h with
  | refl => rfl
  | table =>
    simp only [formatterSection, fieldsOf, Section.fields, List.map, get?, bind,
      Except.bind, htext, hnatural]
    rfl

theorem conversionSection_same {before after : Value} (h : Same before after) :
    conversionSection before = conversionSection after := by
  have htruth (key field : String) :=
    typed?_same Same.toTruth_eq key (h.lookup field)
  cases h with
  | refl => rfl
  | table =>
    simp only [conversionSection, fieldsOf, Section.fields, List.map, get?,
      bind, Except.bind, htruth]
    rfl

theorem ofValue_same {before after : Value} (h : Same before after) :
    ofValue before = ofValue after := by
  have hformatter := h.lookup "formatter"
  have hconversion := h.lookup "conversion"
  unfold ofValue get?
  generalize before.entries.lookup "formatter" = formatter?,
    after.entries.lookup "formatter" = formatter?',
    before.entries.lookup "conversion" = conversion?,
    after.entries.lookup "conversion" = conversion?' at hformatter hconversion ⊢
  cases hformatter with
  | none =>
    cases hconversion with
    | none => rfl
    | some hconversion => simp only [conversionSection_same hconversion]
  | some hformatter =>
    cases hconversion with
    | none => simp only [formatterSection_same hformatter]
    | some hconversion =>
      simp only [formatterSection_same hformatter,
        conversionSection_same hconversion]

end HtmlBuilder.Settings
