import HtmlBuilder.Proofs.Entries
import HtmlBuilder.Rule

/-!
The order of rules. Rules that have been added under names are consulted in the
order in which their names were first used, each name with the rule that was
added under it last, and the standard rules come behind all of them. What
becomes of a key is decided by the rules that apply to it, so adding a rule
changes nothing for a key that neither this rule nor the one it replaces applies
to.
-/

namespace HtmlBuilder.Rules

def addAll (rules : Rules) (added : List (String × Rule)) : Rules :=
  added.foldl (fun rules (name, rule) => rules.add name rule) rules

theorem custom_addAll_eq_putEntries (rules : Rules)
    (added : List (String × Rule)) : (rules.addAll added).custom =
      putEntries rules.custom added := by
  induction added generalizing rules with
  | nil => rfl
  | cons entry added ih => exact ih (rules.add entry.1 entry.2)

/-- The rules of a table stand in the order in which their names were first
used, each name with the rule that was added last. -/
theorem custom_addAll (added : List (String × Rule)) :
    (addAll {} added).custom = lastOfEach added := by
  rw [custom_addAll_eq_putEntries]
  exact putEntries_eq_lastOfEach added

theorem lookup_custom_addAll (added : List (String × Rule)) (name : String) :
    (addAll {} added).custom.lookup name = lastGiven? added name := by
  rw [custom_addAll_eq_putEntries]
  exact lookup_putEntries added name

def firstFor? (rules : List Rule) (key : String) (options : Options) :
    Option Rule :=
  rules.find? fun rule => rule.filter.accepts key options

theorem forKey?_eq_or (rules : Rules) (key : String) (options : Options) :
    rules.forKey? key options =
      (firstFor? (rules.custom.map Prod.snd) key options).or
        (firstFor? Rule.standard key options) :=
  List.find?_append

/-- A rule that does not apply to a key, put in place of one that does not,
changes nothing for it. -/
theorem firstFor?_putEntry {key : String} {options : Options} {name : String}
    {rule : Rule} (hrule : rule.filter.accepts key options = false)
    {entries : List (String × Rule)} (hold : ∀ old ∈ entries.lookup name,
      old.filter.accepts key options = false) :
    firstFor? ((putEntry entries name rule).map Prod.snd) key options =
      firstFor? (entries.map Prod.snd) key options := by
  unfold firstFor?
  induction entries with
  | nil => exact List.find?_cons_of_neg (by simp [hrule])
  | cons entry entries ih =>
    rw [lookup_cons_eq entry.1 entry.2] at hold
    rw [putEntry, updateEntry]
    by_cases hentry : entry.1 = name
    · rw [if_pos hentry.symm] at hold
      have hreplaced : entry.2.filter.accepts key options = false :=
        hold entry.2 rfl
      rw [if_pos hentry, List.map_cons, List.map_cons,
        List.find?_cons_of_neg (by simp [hrule]),
        List.find?_cons_of_neg (by simp [hreplaced])]
    · rw [if_neg (Ne.symm hentry)] at hold
      rw [if_neg hentry, ← putEntry, List.map_cons, List.map_cons,
        List.find?_cons, List.find?_cons, ih hold]

theorem argument_congr {rules rules' : Rules} {key : String} {options : Options}
    (h : rules.forKey? key options = rules'.forKey? key options)
    (value : String) :
    rules.argument options key value = rules'.argument options key value := by
  rw [argument, argument, h]

/-- The first rule that applies counts, and priorities are stable. After any
rules have been added to a fresh table, a key is given to the first rule that
applies to it: of the added ones in the order in which their names were first
used, each name with the rule that was added last, and of the standard ones if
none of these does. So one rule more changes nothing for a key that neither it
nor the rule it replaces applies to, and a key that no added rule applies to is
written as by a fresh table. -/
theorem forKey?_addAll (added : List (String × Rule)) (key : String)
    (options : Options) : (addAll {} added).forKey? key options =
        (firstFor? ((lastOfEach added).map Prod.snd) key options).or
          (firstFor? Rule.standard key options) ∧
      (∀ (name : String) (rule : Rule),
        rule.filter.accepts key options = false →
        (∀ old ∈ lastGiven? added name,
          old.filter.accepts key options = false) →
        ∀ value, ((addAll {} added).add name rule).argument options key value =
          (addAll {} added).argument options key value) ∧
      ((∀ entry ∈ lastOfEach added,
        entry.2.filter.accepts key options = false) →
        ∀ value, (addAll {} added).argument options key value =
          ({} : Rules).argument options key value) := by
  refine ⟨?_, ?_, ?_⟩
  · rw [forKey?_eq_or, custom_addAll]
  · intro name rule hrule hold
    apply argument_congr
    rw [← lookup_custom_addAll] at hold
    rw [forKey?_eq_or, forKey?_eq_or]
    show (firstFor? ((putEntry _ name rule).map Prod.snd) key options).or _ = _
    rw [firstFor?_putEntry hrule hold]
  · intro hadded
    apply argument_congr
    have hnone : firstFor? ((lastOfEach added).map Prod.snd) key options =
        none := by
      apply List.find?_eq_none.2
      intro rule hrule
      obtain ⟨entry, hentry, rfl⟩ := List.mem_map.1 hrule
      simp [hadded entry hentry]
    rw [forKey?_eq_or, forKey?_eq_or, custom_addAll, hnone]
    rfl

/-- A name that is used again keeps its place and gives its old key back. -/
theorem forKey?_addAll_again :
    let prefixed : Rule :=
  ⟨.predicate fun key _ => "data-".toList.isPrefixOf key.toList,
      fun value _ => Rule.quotedArgument "data" value⟩
    let added : List (String × Rule) :=
      [("title", .renamed "title" "tip"), ("data", prefixed),
        ("title", .renamed "data-tip" "tip")]
    (∀ value, ((addAll {} added).add "title" (.renamed "id" "tip")).argument
      {} "data-id" value =
        (addAll {} added).argument {} "data-id" value) ∧
      ∀ value, (addAll {} added).argument {} "title" value =
        ({} : Rules).argument {} "title" value := by
  intro prefixed added
  constructor
  · apply (forKey?_addAll added "data-id" {}).2.1
    · rfl
    · rintro _ ⟨⟩
      rfl
  · apply (forKey?_addAll added "title" {}).2.2
    have hlast : lastOfEach added =
        [("title", .renamed "data-tip" "tip"), ("data", prefixed)] := rfl
    rw [hlast]
    intro entry hentry
    rcases List.mem_cons.1 hentry with rfl | hentry
    · rfl
    · obtain rfl := List.mem_singleton.1 hentry
      rfl

end HtmlBuilder.Rules
