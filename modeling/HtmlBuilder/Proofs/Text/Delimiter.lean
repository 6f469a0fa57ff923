import HtmlBuilder.Proofs.Text.Literal
import HtmlBuilder.Proofs.Text.Reflow

/-!
Delimiters in texts. A text holds a delimiter without blank characters exactly
when one of its trimmed lines does, since no such delimiter reaches across a
line feed or into the white space that is trimmed. An escaped text never has two
quotes in a row and never begins with one, so it holds no delimiter made of
quotes, and does not complete one that begins before it.
-/

namespace HtmlBuilder.Text

/-! Parts that share no character with a delimiter. -/

section

variable {α : Type} {delimiter : List α}

theorem not_infix_of_disjoint (hne : delimiter ≠ []) {text : List α}
    (h : ∀ a ∈ text, a ∉ delimiter) : ¬ delimiter <:+: text := by
  intro hinside
  obtain ⟨a, ha⟩ := List.exists_mem_of_ne_nil delimiter hne
  exact h a (hinside.subset ha) ha

theorem infix_append_iff_right (hne : delimiter ≠ []) {front : List α}
    (h : ∀ a ∈ front, a ∉ delimiter) (text : List α) :
    delimiter <:+: front ++ text ↔ delimiter <:+: text := by
  refine ⟨fun hinside => ?_, fun hinside =>
    hinside.trans (List.suffix_append _ _).isInfix⟩
  rcases List.infix_append_iff.1 hinside
    with hfront | htext | ⟨first, last, hparts, hfirst, hlast⟩
  · exact absurd hfront (not_infix_of_disjoint hne h)
  · exact htext
  · cases first with
    | nil =>
      rw [hparts]
      exact hlast.isInfix
    | cons a first =>
      refine absurd ?_ (h a (hfirst.subset List.mem_cons_self))
      rw [hparts]
      exact List.mem_cons_self

theorem infix_append_iff_left (hne : delimiter ≠ []) {back : List α}
    (h : ∀ a ∈ back, a ∉ delimiter) (text : List α) :
    delimiter <:+: text ++ back ↔ delimiter <:+: text := by
  have hback : ∀ a ∈ back.reverse, a ∉ delimiter.reverse := by
    simpa using h
  have hreverse :=
    infix_append_iff_right (mt List.reverse_eq_nil_iff.1 hne) hback text.reverse
  rwa [← List.reverse_append, List.reverse_infix,
    List.reverse_infix] at hreverse

/-- A delimiter does not reach across a character that it does not have. -/
theorem infix_append_cons_iff (hne : delimiter ≠ []) {separator : α}
    (h : separator ∉ delimiter) (a b : List α) :
    delimiter <:+: a ++ separator :: b ↔ delimiter <:+: a ∨
    delimiter <:+: b := by
  have hsingle : ∀ c ∈ [separator], c ∉ delimiter := by simpa using h
  have hbehind : delimiter <:+: separator :: b ↔ delimiter <:+: b :=
    infix_append_iff_right hne hsingle b
  rw [List.infix_append_iff, hbehind, ← or_assoc]
  refine or_iff_left_of_imp ?_
  rintro ⟨first, last, rfl, hfirst, hlast⟩
  cases last with
  | nil =>
    rw [List.append_nil]
    exact .inl hfirst.isInfix
  | cons c last =>
    obtain ⟨rfl, -⟩ := List.cons_prefix_cons.1 hlast
    exact absurd (List.mem_append_right _ List.mem_cons_self) h

/-- A delimiter without the separator stands inside one of the joined parts. -/
theorem infix_intercalate_iff (hne : delimiter ≠ []) {separator : α}
    (h : separator ∉ delimiter) (parts : List (List α)) :
    delimiter <:+: [separator].intercalate parts ↔
      ∃ part ∈ parts, delimiter <:+: part := by
  induction parts with
  | nil => simp [hne]
  | cons part parts ih =>
    cases parts with
    | nil => simp
    | cons second parts =>
      rw [List.intercalate_cons_cons, List.append_assoc, List.singleton_append,
        infix_append_cons_iff hne h, ih]
      simp

end

/-! The trimmed lines of a text. -/

structure IsDelimiter (delimiter : List Char) : Prop where
  ne_nil : delimiter ≠ []
  notBlank : ∀ c ∈ delimiter, isBlank c = false

theorem IsDelimiter.notMem_of_isBlank {delimiter : List Char}
    (h : IsDelimiter delimiter) {c : Char}
    (hc : isBlank c = true) : c ∉ delimiter := by
  intro hmem
  rw [h.notBlank c hmem] at hc
  exact absurd hc (by decide)

theorem infix_trim_iff {delimiter : List Char} (h : IsDelimiter delimiter)
    (text : List Char) :
    delimiter <:+: trim text ↔ delimiter <:+: text := by
  obtain ⟨front, back, hfront, hback, htext⟩ :=
    exists_append_strip (p := isBlank) text
  have hdisjoint {blank : List Char} (hblank : ∀ c ∈ blank, isBlank c = true) :
      ∀ c ∈ blank, c ∉ delimiter :=
    fun c hc => h.notMem_of_isBlank (hblank c hc)
  rw [trim_eq_strip]
  conv_rhs => rw [htext]
  rw [infix_append_iff_left h.ne_nil (hdisjoint hback),
    infix_append_iff_right h.ne_nil (hdisjoint hfront)]

/-- A delimiter stands in a text exactly when it stands in one of its lines. -/
theorem infix_trimLines_iff {delimiter : List Char} (h : IsDelimiter delimiter)
    (text : List Char) :
    (∃ line ∈ trimLines ['\n'] text, delimiter <:+: line) ↔
      delimiter <:+: text := by
  have hbreak : '\n' ∉ delimiter := h.notMem_of_isBlank rfl
  have hpieces : (∃ piece ∈ pieces text, delimiter <:+: piece) ↔
      delimiter <:+: text := by
    have htext : ['\n'].intercalate (text.splitOn '\n') = text :=
      List.intercalate_splitOn '\n'
    rw [pieces]
    conv_rhs => rw [← htext, infix_intercalate_iff h.ne_nil hbreak]
    simp [infix_trim_iff h]
  rw [← hpieces, trimLines_lineFeed]
  -- What is taken away at the ends are empty lines.
  obtain ⟨front, back, hfront, hback, hlines⟩ :=
    exists_append_strip (p := List.isEmpty) (pieces text)
  have hempty {blank : List (List Char)}
      (hblank : ∀ line ∈ blank, line.isEmpty = true) :
      ¬ ∃ line ∈ blank, delimiter <:+: line := by
    rintro ⟨line, hline, hinside⟩
    rw [List.isEmpty_iff.1 (hblank line hline)] at hinside
    exact h.ne_nil (List.eq_nil_of_infix_nil hinside)
  conv_rhs => rw [hlines]
  simp only [List.mem_append, or_and_right, exists_or, hempty hfront,
    hempty hback, false_or, or_false]

/-! Escaped texts. -/

theorem head?_escape_ne (text : List Char) :
    (escape text).head? ≠ some '"' := by
  cases text with
  | nil => simp
  | cons c text =>
    rw [escape_cons]
    by_cases hc : isSpecial c = true
    · simp [hc]
    · have hquote : c ≠ '"' := by
        rintro rfl
        exact hc rfl
      simp [hc, hquote]

/-- An escaped text has no two quotes in a row. -/
theorem not_quotes_infix_escape (text : List Char) :
    ¬ ['"', '"'] <:+: escape text := by
  induction text with
  | nil => simp
  | cons c text ih =>
    have hcons : ¬ ['"', '"'] <:+: c :: escape text := by
      rw [List.infix_cons_iff, not_or]
      refine ⟨fun hquotes => ?_, ih⟩
      obtain ⟨rest, hrest⟩ := (List.cons_prefix_cons.1 hquotes).2
      exact head?_escape_ne text (by rw [← hrest]; rfl)
    rw [escape_cons]
    split
    · rw [List.cons_append, List.singleton_append, List.infix_cons_iff, not_or]
      refine ⟨fun hquotes => ?_, hcons⟩
      exact absurd (List.cons_prefix_cons.1 hquotes).1 (by decide)
    · exact hcons

/-- An escaped text holds no delimiter that is made of quotes, and completes
none that begins before it. -/
theorem infix_append_escape_iff (front text : List Char) :
    ['"', '"', '"'] <:+: front ++ escape text ↔ ['"', '"', '"'] <:+: front := by
  refine ⟨fun hinside => ?_, fun hinside =>
    hinside.trans (List.prefix_append _ _).isInfix⟩
  rcases List.infix_append_iff.1 hinside
    with hfront | htext | ⟨first, last, hparts, hfirst, hlast⟩
  · exact hfront
  · refine absurd (List.IsInfix.trans ?_ htext) (not_quotes_infix_escape text)
    exact ⟨['"'], [], rfl⟩
  · cases last with
    | nil =>
      rw [hparts, List.append_nil]
      exact hfirst.isInfix
    | cons c last =>
      have hquote : c = '"' := by
        have hmem : c ∈ ['"', '"', '"'] := by
          rw [hparts]
          exact List.mem_append_right _ List.mem_cons_self
        simpa using hmem
      subst hquote
      obtain ⟨rest, hrest⟩ := hlast
      exact absurd (by rw [← hrest]; rfl) (head?_escape_ne text)

end HtmlBuilder.Text
