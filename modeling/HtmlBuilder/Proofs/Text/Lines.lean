import HtmlBuilder.Text.Lines
import Mathlib.Data.List.TakeWhile

/-!
Facts about the lines of a text. Trimming only removes characters, and leaves
nothing exactly when there is nothing but white space; the pieces between line
feeds hold no line feed. Pieces that hold no separator are found again between
separators.
-/

namespace HtmlBuilder.Text

theorem mem_of_mem_trim {c : Char} {text : List Char} (hc : c ∈ trim text) :
    c ∈ text := by
  rw [trim, List.mem_reverse] at hc
  have hmiddle := (List.dropWhile_sublist isBlank).mem hc
  rw [List.mem_reverse] at hmiddle
  exact (List.dropWhile_sublist isBlank).mem hmiddle

theorem trim_eq_nil_iff (text : List Char) :
    trim text = [] ↔ ∀ c ∈ text, isBlank c = true := by
  rw [trim, List.reverse_eq_nil_iff, List.dropWhile_eq_nil_iff]
  constructor
  · intro hblank
    rw [← List.dropWhile_eq_nil_iff]
    cases hrest : text.dropWhile isBlank with
    | nil => rfl
    | cons first rest =>
      -- The first character behind the leading white space is not blank.
      have hfirst := List.head?_dropWhile_not isBlank text
      rw [hrest, List.head?_cons] at hfirst
      have hblankFirst := hblank first (by simp [hrest])
      simp [hblankFirst] at hfirst
  · intro hblank c hc
    rw [List.mem_reverse] at hc
    exact hblank c ((List.dropWhile_sublist isBlank).mem hc)

theorem splitFrom_ne_nil (separator piece text : List Char) :
    splitFrom separator piece text ≠ [] := by
  fun_induction splitFrom separator piece text with
  | case1 => simp
  | case2 => simp
  | case3 piece c rest hmatch ih => exact ih

theorem trimLines_eq_nil_iff (lineBreak text : List Char) :
    trimLines lineBreak text = [] ↔ ∀ c ∈ text, isBlank c = true := by
  rw [← trim_eq_nil_iff, trimLines]
  cases trim text with
  | nil => simp
  | cons first rest => simp [split, splitFrom_ne_nil]

theorem lineFeed_notMem_of_mem_splitFrom {piece text line : List Char}
    (hpiece : '\n' ∉ piece)
    (hline : line ∈ splitFrom ['\n'] piece text) : '\n' ∉ line := by
  fun_induction splitFrom ['\n'] piece text with
  | case1 piece =>
    obtain rfl : line = piece.reverse := by simpa using hline
    simpa using hpiece
  | case2 piece c rest hmatch ih =>
    rcases List.mem_cons.1 hline with rfl | hline
    · simpa using hpiece
    · exact ih (by simp) hline
  | case3 piece c rest hmatch ih =>
    have hc : c ≠ '\n' := by
      rintro rfl
      simp at hmatch
    exact ih (by simp [hpiece, hc.symm]) hline

theorem lineFeed_notMem_of_mem_trimLines {text line : List Char}
    (hline : line ∈ trimLines ['\n'] text) : '\n' ∉ line := by
  rw [trimLines] at hline
  split at hline
  · simp at hline
  · obtain ⟨piece, hpiece, rfl⟩ := List.mem_map.1 hline
    exact fun hc =>
      lineFeed_notMem_of_mem_splitFrom (by simp) hpiece (mem_of_mem_trim hc)

/-- What holds of every character but the separator holds of every character of
every part. -/
theorem forall_mem_of_mem_splitOn {separator : Char} {p : Char → Prop}
    {text : List Char} (htext : ∀ c ∈ text, c ≠ separator → p c) :
    ∀ part ∈ text.splitOn separator, ∀ c ∈ part, p c := by
  induction text with
  | nil => simp
  | cons first text ih =>
    have hparts := ih fun c hc => htext c (List.mem_cons_of_mem _ hc)
    rw [List.splitOn_cons_eq_if_modifyHead]
    split
    · intro part hpart
      rcases List.mem_cons.1 hpart with rfl | hpart
      · simp
      · exact hparts part hpart
    · next hfirst =>
      obtain ⟨head, tail, hsplit⟩ :=
        List.exists_cons_of_ne_nil (List.splitOn_ne_nil separator text)
      rw [hsplit] at hparts ⊢
      rw [List.modifyHead_cons]
      intro part hpart c hc
      rcases List.mem_cons.1 hpart with rfl | hpart
      · rcases List.mem_cons.1 hc with rfl | hc
        · exact htext c (by simp) (by simpa using hfirst)
        · exact hparts head (by simp) c hc
      · exact hparts part (by simp [hpart]) c hc

theorem splitOn_of_notMem {separator : Char} {text : List Char}
    (htext : separator ∉ text) :
    text.splitOn separator = [text] := by
  have hsplit := List.splitOn_intercalate separator (by simpa using htext)
    (List.cons_ne_nil text [])
  rwa [List.intercalate_singleton] at hsplit

/-- Pieces with a separator behind each of them are joined by the separators
with an empty piece at the end. -/
theorem intercalate_concat_nil (separator : Char) (parts : List (List Char)) :
    [separator].intercalate (parts ++ [[]]) =
      parts.flatMap (· ++ [separator]) := by
  induction parts with
  | nil => rfl
  | cons part parts ih =>
    obtain ⟨next, others, hparts⟩ :=
      List.exists_cons_of_ne_nil (List.concat_ne_nil [] parts)
    rw [List.flatMap_cons, ← ih, List.cons_append, hparts,
      List.intercalate_cons_cons]

/-- Cutting such pieces at the separator gives them back, and the empty piece
behind the last separator, exactly when none of them holds it. -/
theorem splitOn_flatMap_iff (separator : Char) (parts : List (List Char)) :
    (parts.flatMap (· ++ [separator])).splitOn separator = parts ++ [[]] ↔
      ∀ part ∈ parts, separator ∉ part := by
  constructor
  · intro hsplit part hpart hmem
    have hpieces : ∀ piece ∈ parts ++ [[]], ∀ c ∈ piece, c ≠ separator := by
      rw [← hsplit]
      exact forall_mem_of_mem_splitOn fun c _ hc => hc
    exact hpieces part (List.mem_append_left _ hpart) separator hmem rfl
  · intro hparts
    rw [← intercalate_concat_nil,
      List.splitOn_intercalate _ _ (List.concat_ne_nil _ _)]
    intro part hpart
    rcases List.mem_append.1 hpart with hpart | hpart
    · exact hparts part hpart
    · simp [List.mem_singleton.1 hpart]

/-- A character that no separator holds comes from one of the joined parts. -/
theorem mem_intercalate_iff {c : Char} {separator : List Char}
    (hc : c ∉ separator) (parts : List (List Char)) :
    c ∈ separator.intercalate parts ↔ ∃ part ∈ parts, c ∈ part := by
  induction parts with
  | nil => simp
  | cons part parts ih =>
    cases parts with
    | nil => simp
    | cons second parts =>
      rw [List.intercalate_cons_cons, List.mem_append, List.mem_append, ih]
      simp [hc]

end HtmlBuilder.Text
