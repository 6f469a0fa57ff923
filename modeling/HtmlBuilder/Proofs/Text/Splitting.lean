import HtmlBuilder.Proofs.Text.Reflow

/-!
Cutting a text at any separator. The pieces of a text stand between the leftmost
occurrences of the separator that do not overlap: joined by the separator they
give the text back, and none of them holds the separator. For a line break made
of white space this means that cutting a text into its trimmed lines loses
nothing but white space.
-/

namespace HtmlBuilder.Text

/-! Occurrences of a separator. -/

/-- The places at which a separator occurs in a text, from a given place on:
each time the leftmost place, and then on behind that occurrence. -/
inductive LeftmostPlaces (separator text : List Char) : Nat → List Nat → Prop
  | done {start : Nat} (hnone : ∀ place ≥ start,
      ¬ separator <+: text.drop place) :
    LeftmostPlaces separator text start []
  | next {start place : Nat} {places : List Nat} (hstart : start ≤ place)
    (hplace : separator <+: text.drop place)
    (hleast : ∀ earlier ≥ start, earlier < place →
      ¬ separator <+: text.drop earlier)
    (hrest : LeftmostPlaces separator text (place + separator.length) places) :
    LeftmostPlaces separator text start (place :: places)

theorem LeftmostPlaces.unique {separator text : List Char} {start : Nat}
    {places others : List Nat} (h : LeftmostPlaces separator text start places)
    (hothers : LeftmostPlaces separator text start others) :
    places = others := by
  induction h generalizing others with
  | done hnone =>
    cases hothers with
    | done => rfl
    | next hstart hother => exact absurd hother (hnone _ hstart)
  | @next start place places hstart hplace hleast hrest ih =>
    cases hothers with
    | done hnone => exact absurd hplace (hnone place hstart)
    | @next _ other others hstart' hother hleast' hrest' =>
      have hle : place ≤ other := Nat.not_lt.1 fun hlt =>
        hleast other hstart' hlt hother
      have hge : other ≤ place := Nat.not_lt.1 fun hlt =>
        hleast' place hstart hlt hplace
      obtain rfl := Nat.le_antisymm hle hge
      rw [ih hrest']

/-- A text cut at a separator: behind each piece but the last one stands an
occurrence of the separator, and no other one begins inside of the piece. -/
inductive Cut (separator : List Char) : List Char → List (List Char) → Prop
  | last {text : List Char} (hnone : ¬ separator <:+: text) :
      Cut separator text [text]
  | next {piece rest : List Char} {pieces : List (List Char)}
    (hleast : ∀ place < piece.length,
      ¬ separator <+: (piece ++ (separator ++ rest)).drop place)
    (hrest : Cut separator rest pieces) :
    Cut separator (piece ++ (separator ++ rest)) (piece :: pieces)

theorem exists_prefix_drop_of_infix {separator text : List Char}
    (hne : separator ≠ []) (h : separator <:+: text) : ∃ place < text.length,
      separator <+: text.drop place := by
  obtain ⟨front, back, rfl⟩ := h
  refine ⟨front.length, ?_, ?_⟩
  · have hpos : 0 < separator.length := List.length_pos_iff.2 hne
    simp only [List.length_append]
    omega
  · rw [List.append_assoc, List.drop_left]
    exact List.prefix_append _ _

/-- The pieces of a text are what cutting it at the separator gives. -/
theorem cut_splitFrom {separator : List Char} (hne : separator ≠ [])
    (piece text : List Char) (hleast : ∀ place < piece.length,
      ¬ separator <+: (piece.reverse ++ text).drop place) :
    Cut separator (piece.reverse ++ text) (splitFrom separator piece text) := by
  fun_induction splitFrom separator piece text with
  | case1 piece =>
    rw [List.append_nil] at hleast ⊢
    apply Cut.last
    intro hinside
    obtain ⟨place, hplace, hprefix⟩ := exists_prefix_drop_of_infix hne hinside
    rw [List.length_reverse] at hplace
    exact hleast place hplace hprefix
  | case2 piece c rest hmatch ih =>
    obtain ⟨behind, hbehind⟩ := List.isPrefixOf_iff_prefix.1 hmatch
    have hdrop : rest.drop (separator.length - 1) = behind := by
      have hpos : 0 < separator.length := List.length_pos_iff.2 hne
      have hcons : (c :: rest).drop separator.length = behind := by
        rw [← hbehind, List.drop_left]
      rwa [← Nat.sub_add_cancel hpos, List.drop_succ_cons] at hcons
    rw [← hbehind] at hleast ⊢
    apply Cut.next
    · simpa using hleast
    · rw [hdrop] at ih ⊢
      exact ih fun place hplace => absurd hplace (Nat.not_lt_zero place)
  | case3 piece c rest hmatch ih =>
    have hmove : (c :: piece).reverse ++ rest = piece.reverse ++ c :: rest := by
      simp
    rw [hmove] at ih
    apply ih
    intro place hplace hprefix
    rcases Nat.lt_succ_iff_lt_or_eq.1 hplace with hplace | rfl
    · exact hleast place hplace hprefix
    · rw [← List.length_reverse, List.drop_left] at hprefix
      exact hmatch (List.isPrefixOf_iff_prefix.2 hprefix)

theorem cut_split {separator : List Char} (hne : separator ≠ [])
    (text : List Char) : Cut separator text (split separator text) :=
  cut_splitFrom hne [] text fun place hplace =>
    absurd hplace (Nat.not_lt_zero place)

namespace Cut

variable {separator text : List Char} {pieces : List (List Char)}

theorem ne_nil (h : Cut separator text pieces) : pieces ≠ [] := by
  cases h <;> exact List.cons_ne_nil _ _

theorem intercalate_eq (h : Cut separator text pieces) :
    separator.intercalate pieces = text := by
  induction h with
  | last hnone => exact List.intercalate_singleton
  | next hleast hrest ih =>
    obtain ⟨second, others, rfl⟩ := List.exists_cons_of_ne_nil hrest.ne_nil
    rw [List.intercalate_cons_cons, ih, List.append_assoc]

theorem not_infix_of_mem (hne : separator ≠ [])
    (h : Cut separator text pieces) :
    ∀ piece ∈ pieces, ¬ separator <:+: piece := by
  induction h with
  | last hnone => simpa using hnone
  | @next piece rest pieces hleast hrest ih =>
    intro other hother hinside
    rcases List.mem_cons.1 hother with rfl | hother
    · obtain ⟨place, hplace, hprefix⟩ := exists_prefix_drop_of_infix hne hinside
      apply hleast place hplace
      rw [List.drop_append_of_le_length (Nat.le_of_lt hplace)]
      exact hprefix.trans (List.prefix_append _ _)
    · exact ih other hother hinside

/-- A text is cut at the leftmost places of the separator, so there is one piece
more than places. -/
theorem exists_leftmostPlaces (h : Cut separator text pieces)
    (front : List Char) :
    ∃ places, LeftmostPlaces separator (front ++ text) front.length places ∧
      pieces.length = places.length + 1 := by
  induction h generalizing front with
  | @last text hnone =>
    refine ⟨[], .done ?_, rfl⟩
    intro place hplace hprefix
    apply hnone
    rw [List.drop_append, List.drop_eq_nil_of_le hplace,
      List.nil_append] at hprefix
    exact hprefix.isInfix.trans (List.drop_suffix _ _).isInfix
  | @next piece rest pieces hleast hrest ih =>
    obtain ⟨places, hplaces, hlength⟩ := ih (front ++ piece ++ separator)
    have htext : front ++ piece ++ separator ++ rest =
        front ++ (piece ++ (separator ++ rest)) := by
      simp
    rw [htext, List.length_append, List.length_append] at hplaces
    refine ⟨(front.length + piece.length) :: places,
      .next (Nat.le_add_right _ _) ?_ ?_ hplaces, ?_⟩
    · rw [← List.append_assoc, ← List.length_append, List.drop_left]
      exact List.prefix_append _ _
    · intro earlier hstart hplace hprefix
      apply hleast (earlier - front.length) (by omega)
      rwa [List.drop_append, List.drop_eq_nil_of_le hstart,
        List.nil_append] at hprefix
    · rw [List.length_cons, List.length_cons, hlength]

/-- The first character of a text stands in its first piece, unless it belongs
to the separator. -/
theorem mem_head? (hne : separator ≠ []) (h : Cut separator text pieces)
    {c : Char} (hc : text.head? = some c) (hseparator : c ∉ separator) :
    ∀ piece ∈ pieces.head?, c ∈ piece := by
  cases h with
  | last hnone =>
    rintro _ ⟨⟩
    exact List.mem_of_head? hc
  | @next piece rest pieces hleast hrest =>
    rintro _ ⟨⟩
    cases piece with
    | nil =>
      obtain ⟨first, others, rfl⟩ := List.exists_cons_of_ne_nil hne
      cases hc
      exact absurd List.mem_cons_self hseparator
    | cons first piece =>
      cases hc
      exact List.mem_cons_self

/-- The last character of a text stands in its last piece, unless it belongs to
the separator. -/
theorem mem_getLast? (hne : separator ≠ [])
    (h : Cut separator text pieces) {c : Char}
    (hc : text.getLast? = some c) (hseparator : c ∉ separator) :
    ∀ piece ∈ pieces.getLast?, c ∈ piece := by
  induction h with
  | last hnone =>
    rintro _ ⟨⟩
    exact List.mem_of_getLast? hc
  | @next piece rest pieces hleast hrest ih =>
    have hbehind : rest.getLast? = some c := by
      rw [List.getLast?_append_of_ne_nil _ (List.append_ne_nil_of_left_ne_nil
          hne rest),
        List.getLast?_append] at hc
      cases hrest : rest.getLast? with
      | some last => rwa [hrest] at hc
      | none =>
        rw [hrest, Option.none_or] at hc
        exact absurd (List.mem_of_getLast? hc) hseparator
    obtain ⟨second, others, rfl⟩ := List.exists_cons_of_ne_nil hrest.ne_nil
    rw [List.getLast?_cons_cons]
    exact ih hbehind

end Cut

/-! Trimmed lines. -/

theorem trim_isInfix (text : List Char) : trim text <:+: text := by
  obtain ⟨front, back, -, -, htext⟩ := exists_append_strip (p := isBlank) text
  exact ⟨front, back, htext.symm⟩

def inked (text : List Char) : List Char :=
  text.filter fun c => !isBlank c

theorem inked_append (a b : List Char) : inked (a ++ b) = inked a ++ inked b :=
  List.filter_append a b

theorem inked_eq_nil {text : List Char} (h : ∀ c ∈ text, isBlank c = true) :
    inked text = [] := by
  apply List.filter_eq_nil_iff.2
  intro c hc
  simp [h c hc]

theorem inked_trim (text : List Char) : inked (trim text) = inked text := by
  obtain ⟨front, back, hfront, hback, htext⟩ :=
    exists_append_strip (p := isBlank) text
  conv_rhs => rw [htext]
  rw [inked_append, inked_append, inked_eq_nil hfront, inked_eq_nil hback,
    List.nil_append, List.append_nil, trim_eq_strip]

/-- Joining pieces by a blank separator and trimming them changes blank
characters only. -/
theorem inked_flatten_map_trim {separator : List Char}
    (hblank : ∀ c ∈ separator, isBlank c = true) (pieces : List (List Char)) :
    inked (pieces.map trim).flatten = inked (separator.intercalate pieces) := by
  induction pieces with
  | nil => rfl
  | cons piece pieces ih =>
    rw [List.map_cons, List.flatten_cons, inked_append, inked_trim, ih]
    cases pieces with
    | nil =>
      rw [List.intercalate_singleton]
      exact List.append_nil _
    | cons second pieces =>
      rw [List.intercalate_cons_cons, inked_append, inked_append,
        inked_eq_nil hblank, List.append_nil]

theorem trim_ne_nil_of_mem {text : List Char} {c : Char} (hc : c ∈ text)
    (hblank : isBlank c = false) : trim text ≠ [] :=
  List.isEmpty_eq_false_iff.1 (isEmpty_trim_eq_false hc hblank)

/-- A piece with a character that is not blank is not trimmed to nothing. -/
theorem map_trim_ne_some_nil {piece? : Option (List Char)} {c : Char}
    (hmem : ∀ piece ∈ piece?, c ∈ piece) (hc : isBlank c = false) :
    piece?.map trim ≠ some [] := by
  intro hempty
  obtain ⟨piece, hpiece, htrimmed⟩ := Option.map_eq_some_iff.1 hempty
  exact trim_ne_nil_of_mem (hmem piece hpiece) hc htrimmed

section

variable {lineBreak text : List Char}

theorem trimLines_of_trim_eq_nil (htext : trim text = []) :
    trimLines lineBreak text = [] := by
  rw [trimLines, htext]

/-- A text that is not blank is trimmed, cut at the line break and trimmed piece
by piece. -/
theorem trimLines_of_trim_ne_nil (htext : trim text ≠ []) :
    trimLines lineBreak text = (split lineBreak (trim text)).map trim := by
  unfold trimLines
  split
  · contradiction
  · rfl

/-- No line begins or ends with white space or holds the line break. -/
theorem forall_mem_trimLines (hne : lineBreak ≠ []) :
    ∀ line ∈ trimLines lineBreak text, (∀ c ∈ line.head?, isBlank c = false) ∧
    (∀ c ∈ line.getLast?, isBlank c = false) ∧
      ¬ lineBreak <:+: line := by
  intro line hline
  by_cases htext : trim text = []
  · rw [trimLines_of_trim_eq_nil htext] at hline
    exact absurd hline List.not_mem_nil
  · rw [trimLines_of_trim_ne_nil htext] at hline
    obtain ⟨piece, hpiece, rfl⟩ := List.mem_map.1 hline
    refine ⟨head?_strip, getLast?_strip, ?_⟩
    intro hinside
    exact (cut_split hne (trim text)).not_infix_of_mem hne piece hpiece
      (hinside.trans (trim_isInfix piece))

theorem notMem_of_isBlank_eq_false (hblank : ∀ c ∈ lineBreak, isBlank c = true)
    {c : Char} (hc : isBlank c = false) : c ∉ lineBreak := by
  intro hmem
  rw [hblank c hmem] at hc
  exact absurd hc (by decide)

variable (hne : lineBreak ≠ []) (hblank : ∀ c ∈ lineBreak, isBlank c = true)

include hne hblank

theorem head?_trimLines_ne : (trimLines lineBreak text).head? ≠ some [] := by
  by_cases htext : trim text = []
  · rw [trimLines_of_trim_eq_nil htext]
    intro hempty
    cases hempty
  · obtain ⟨c, rest, htrim⟩ := List.exists_cons_of_ne_nil htext
    have hhead : (trim text).head? = some c := by rw [htrim, List.head?_cons]
    have hc : isBlank c = false := head?_strip c hhead
    have hfirst := (cut_split hne (trim text)).mem_head? hne hhead
      (notMem_of_isBlank_eq_false hblank hc)
    rw [trimLines_of_trim_ne_nil htext, List.head?_map]
    exact map_trim_ne_some_nil hfirst hc

theorem getLast?_trimLines_ne :
    (trimLines lineBreak text).getLast? ≠ some [] := by
  by_cases htext : trim text = []
  · rw [trimLines_of_trim_eq_nil htext]
    intro hempty
    cases hempty
  · have hsome : (trim text).getLast? = some ((trim text).getLast htext) :=
      List.getLast?_eq_some_getLast htext
    have hc : isBlank ((trim text).getLast htext) = false :=
      getLast?_strip _ hsome
    have hlast := (cut_split hne (trim text)).mem_getLast? hne hsome
      (notMem_of_isBlank_eq_false hblank hc)
    rw [trimLines_of_trim_ne_nil htext, List.getLast?_map]
    exact map_trim_ne_some_nil hlast hc

end

/-- Cutting a text into lines loses nothing but white space. For a line break
made of white space, a text has no lines exactly when it is blank. Otherwise its
first and its last line are not empty, no line begins or ends with white space
or holds the line break, there is one line more than places of the line break in
the trimmed text, and the lines have all characters of the text, in order, but
the blank ones. -/
theorem inked_trimLines {lineBreak : List Char} (hne : lineBreak ≠ [])
    (hblank : ∀ c ∈ lineBreak, isBlank c = true) (text : List Char) :
    (trimLines lineBreak text = [] ↔ ∀ c ∈ text, isBlank c = true) ∧
      (trimLines lineBreak text).head? ≠ some [] ∧
      (trimLines lineBreak text).getLast? ≠ some [] ∧
      (∀ line ∈ trimLines lineBreak text,
        (∀ c ∈ line.head?, isBlank c = false) ∧
        (∀ c ∈ line.getLast?, isBlank c = false) ∧ ¬ lineBreak <:+: line) ∧
      (trimLines lineBreak text ≠ [] → ∃ places,
        LeftmostPlaces lineBreak (trim text) 0 places ∧
          (trimLines lineBreak text).length = places.length + 1) ∧
      inked (trimLines lineBreak text).flatten = inked text := by
  refine ⟨trimLines_eq_nil_iff lineBreak text, head?_trimLines_ne hne hblank,
    getLast?_trimLines_ne hne hblank, forall_mem_trimLines hne, ?_, ?_⟩
  · intro hlines
    have htext : trim text ≠ [] := fun htext =>
      hlines (trimLines_of_trim_eq_nil htext)
    obtain ⟨places, hplaces, hlength⟩ :=
      (cut_split hne (trim text)).exists_leftmostPlaces []
    refine ⟨places, hplaces, ?_⟩
    rw [trimLines_of_trim_ne_nil htext, List.length_map, hlength]
  · by_cases htext : trim text = []
    · rw [trimLines_of_trim_eq_nil htext,
        inked_eq_nil ((trim_eq_nil_iff text).1 htext)]
      rfl
    · rw [trimLines_of_trim_ne_nil htext, inked_flatten_map_trim hblank,
        (cut_split hne (trim text)).intercalate_eq, inked_trim]

/-- Two line feeds as a line break, which overlaps itself in three of them. -/
theorem inked_trimLines_lineFeeds :
    let lineBreak : List Char := ['\n', '\n']
    let text : List Char := [' ', 'a', '\n', '\n', '\n', ' ', 'b', '\n', '\n']
    (∃ places, LeftmostPlaces lineBreak (trim text) 0 places ∧
        (trimLines lineBreak text).length = places.length + 1) ∧
      inked (trimLines lineBreak text).flatten = inked text := by
  intro lineBreak text
  have hblank : ∀ c ∈ lineBreak, isBlank c = true := by
    intro c hc
    obtain rfl : c = '\n' := by simpa [lineBreak] using hc
    rfl
  obtain ⟨hnil, -, -, -, hcount, hinked⟩ :=
    inked_trimLines (List.cons_ne_nil '\n' ['\n']) hblank text
  refine ⟨hcount ?_, hinked⟩
  intro hlines
  have ha : isBlank 'a' = true := hnil.1 hlines 'a' (by simp [text])
  exact absurd ha (by decide)

end HtmlBuilder.Text
