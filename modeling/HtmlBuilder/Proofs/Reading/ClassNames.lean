import HtmlBuilder.Proofs.Reading.Argument
import Mathlib.Logic.ExistsUnique

/-!
Class names read back from their sum. The class names in an attribute value are
its words: whatever stands between spaces and is not empty, a plus sign or white
space of another kind included. The sum of their identifiers is read from word
to word, up to the space in front of each plus sign, so a name that is itself a
plus sign is not taken for one that adds two others. The argument for a class
attribute therefore shows its identifiers, and nothing else of the value.
-/

namespace HtmlBuilder.Rule

open ArgumentForm

/-- The words of a text: parts of it that are not empty and hold no space, with
any number of spaces in front of the first and behind the last one, and at least
one between two of them. -/
inductive Words : List Char → List (List Char) → Prop
  | spaces {gap : List Char} (hgap : ∀ c ∈ gap, c = ' ') : Words gap []
  | word {gap word rest : List Char} {words : List (List Char)}
      (hgap : ∀ c ∈ gap, c = ' ')
    (hne : word ≠ []) (hword : ∀ c ∈ word, c ≠ ' ')
    (hend : ∀ c ∈ rest.head?, c = ' ')
    (hrest : Words rest words) : Words (gap ++ (word ++ rest)) (word :: words)

/-! The class names in a value are its words. -/

theorem classNames_append_space (a b : List Char) :
    classNames (a ++ ' ' :: b) = classNames a ++ classNames b := by
  rw [classNames, List.splitOn_append_cons_self, List.filter_append,
    classNames, classNames]

theorem classNames_append_left {gap : List Char} (hgap : ∀ c ∈ gap, c = ' ')
    (text : List Char) :
    classNames (gap ++ text) = classNames text := by
  induction gap with
  | nil => rfl
  | cons c gap ih =>
    rw [List.forall_mem_cons] at hgap
    obtain ⟨rfl, hgap⟩ := hgap
    rw [List.cons_append, ← ih hgap]
    exact classNames_append_space [] (gap ++ text)

theorem classNames_word {word : List Char} (hne : word ≠ [])
    (hword : ∀ c ∈ word, c ≠ ' ') :
    classNames word = [word] := by
  rw [classNames, Text.splitOn_of_notMem fun hmem => hword ' ' hmem rfl]
  simp [hne]

/-- A word and what follows it are read apart, provided that a space or nothing
follows. -/
theorem classNames_word_append {word rest : List Char} (hne : word ≠ [])
    (hword : ∀ c ∈ word, c ≠ ' ') (hend : ∀ c ∈ rest.head?, c = ' ') :
    classNames (word ++ rest) = word :: classNames rest := by
  cases rest with
  | nil =>
    rw [List.append_nil, classNames_word hne hword]
    rfl
  | cons c rest =>
    obtain rfl : c = ' ' := hend c rfl
    rw [classNames_append_space, classNames_word hne hword,
      List.singleton_append]
    exact congrArg (word :: ·) (classNames_append_space [] rest).symm

theorem Words.classNames_eq {text : List Char} {words : List (List Char)}
    (h : Words text words) :
    classNames text = words := by
  induction h with
  | @spaces gap hgap =>
    have hnames := classNames_append_left hgap []
    rwa [List.append_nil] at hnames
  | word hgap hne hword hend hrest ih =>
    rw [classNames_append_left hgap, classNames_word_append hne hword hend, ih]

theorem exists_words (text : List Char) : ∃ words, Words text words := by
  induction text with
  | nil => exact ⟨[], .spaces (by simp)⟩
  | cons c text ih =>
    obtain ⟨words, h⟩ := ih
    by_cases hc : c = ' '
    · cases h with
      | spaces hgap => exact ⟨[], .spaces (List.forall_mem_cons.2 ⟨hc, hgap⟩)⟩
      | word hgap hne hword hend hrest =>
        exact ⟨_,
          .word (List.forall_mem_cons.2 ⟨hc, hgap⟩) hne hword hend hrest⟩
    · have hsingle : ∀ d ∈ [c], d ≠ ' ' := by simpa using hc
      -- The character is a word of its own unless another one begins right
      -- behind it.
      by_cases hend : ∀ d ∈ text.head?, d = ' '
      · exact ⟨_,
          @Words.word [] [c] text words (by simp) (by simp) hsingle hend h⟩
      · cases h with
        | @spaces gap hgap =>
          exact absurd (fun d hd => hgap d (List.mem_of_head? hd)) hend
        | @word gap word rest words hgap hne hword hrestEnd hrest =>
          cases gap with
          | nil =>
            exact ⟨_, @Words.word [] (c :: word) rest words (by simp) (by simp)
              (List.forall_mem_cons.2 ⟨hc, hword⟩) hrestEnd hrest⟩
          | cons space gap =>
            refine absurd ?_ hend
            rintro _ ⟨⟩
            exact hgap space List.mem_cons_self

theorem words_classNames (text : List Char) : Words text (classNames text) := by
  obtain ⟨words, h⟩ := exists_words text
  rwa [h.classNames_eq]

/-! Sums of identifiers. -/

theorem Words.forall_mem {text : List Char} {words : List (List Char)}
    (h : Words text words) :
    ∀ word ∈ words, IsWordOf (fun c => c != ' ') word := by
  induction h with
  | spaces hgap => simp
  | word hgap hne hword hend hrest ih =>
    exact List.forall_mem_cons.2
      ⟨⟨hne, fun c hc => bne_iff_ne.2 (hword c hc)⟩, ih⟩

theorem isWordOf_classIdentifier {word : List Char}
    (h : IsWordOf (fun c => c != ' ') word) :
    IsWordOf (fun c => c != ' ') (classIdentifier word) := by
  obtain ⟨hne, hword⟩ := h
  refine ⟨by simpa [classIdentifier] using hne, ?_⟩
  intro c hc
  obtain ⟨d, hd, rfl⟩ := List.mem_map.1 hc
  split
  · decide
  · exact hword d hd

theorem forall_mem_identifiers (text : List Char) :
    ∀ identifier ∈ (classNames text).map classIdentifier,
      IsWordOf (fun c => c != ' ') identifier := by
  intro identifier hidentifier
  obtain ⟨word, hword, rfl⟩ := List.mem_map.1 hidentifier
  exact isWordOf_classIdentifier ((words_classNames text).forall_mem word hword)

/-- The sum of some words tells them, whatever characters but spaces they
hold. -/
theorem words_eq_of_sum_eq {words others : List (List Char)}
    (hwords : ∀ word ∈ words, IsWordOf (fun c => c != ' ') word)
    (hothers : ∀ word ∈ others, IsWordOf (fun c => c != ' ') word)
    (h : " + ".toList.intercalate words = " + ".toList.intercalate others) :
    words = others := by
  have honce : ReadOnce (fun words => " + ".toList.intercalate words)
      (fun other => ∀ word ∈ other, IsWordOf (fun c => c != ' ') word)
      (· = []) words :=
    readOnce_sum (by decide) (by rintro _ rfl c ⟨⟩)
      (by rintro _ rest rfl ⟨⟩) hwords
  exact (honce others [] [] hothers rfl rfl (by simpa using h)).1

/-- The argument for a class attribute shows the identifiers of its class names,
and nothing else. Two values have the same argument exactly when their words are
the same once hyphens are underscores. Every value has just one list of words,
so spaces in front of them, between them and behind them do not matter, and no
word is lost, cut in two or put together with another. -/
theorem classes_replacement_eq_iff (v w : String) (options options' : Options) :
    (classes.replacement v options = classes.replacement w options' ↔
        ∃ names names', Words v.toList names ∧ Words w.toList names' ∧
          names.map classIdentifier = names'.map classIdentifier) ∧
      ∀ text, ∃! names, Words text names := by
  constructor
  · have hsum : classes.replacement v options = classes.replacement w options' ↔
        " + ".toList.intercalate ((classNames v.toList).map classIdentifier) =
          " + ".toList.intercalate
            ((classNames w.toList).map classIdentifier) := by
      show "c = " ++ classSum v = "c = " ++ classSum w ↔ _
      rw [← String.toList_inj, String.toList_append, String.toList_append,
        List.append_cancel_left_eq, toList_classSum, toList_classSum]
    rw [hsum]
    constructor
    · intro hsame
      exact ⟨classNames v.toList, classNames w.toList, words_classNames _,
        words_classNames _, words_eq_of_sum_eq (forall_mem_identifiers _)
          (forall_mem_identifiers _) hsame⟩
    · rintro ⟨names, names', hnames, hnames', hsame⟩
      rw [hnames.classNames_eq, hnames'.classNames_eq, hsame]
  · intro text
    exact ⟨classNames text, words_classNames text,
      fun names hnames => hnames.classNames_eq.symm⟩

/-- A name that is a plus sign, between others that hold a comma and a tab. -/
example : classes.replacement " a-b  + c,\td " {} = "c = a_b + + + c,\td" := by
  decide

end HtmlBuilder.Rule
