import HtmlBuilder.Proofs.Text.Splitting
import HtmlBuilder.Text.Literal

/-!
Pieces of a text joined again. Whether cutting finds the pieces that were joined
is decided at their ends: no occurrence of the separator may begin inside of a
piece, not even one that goes on behind it. The lines of a text are like that
for a line break made of white space, since a line ends in a character that is
not blank; so cutting them out of the joined lines gives the same lines again.
Joined by another text, the pieces are the text with every occurrence of the
separator replaced. Escaping is three replacements of this kind, one for each
special character.
-/

namespace HtmlBuilder.Text

/-! Pieces that are found again. -/

theorem Cut.unique {separator text : List Char}
    {pieces others : List (List Char)}
    (h : Cut separator text pieces) (hothers : Cut separator text others) :
    pieces = others := by
  induction h generalizing others with
  | @last text hnone =>
    cases hothers with
    | last => rfl
    | @next piece rest others hleast hrest =>
      exact absurd ⟨piece, rest, List.append_assoc _ _ _⟩ hnone
  | @next piece rest pieces hleast hrest ih =>
    generalize htext : piece ++ (separator ++ rest) = text at hothers
    cases hothers with
    | last hnone =>
      exact absurd ⟨piece, rest, by rw [List.append_assoc, htext]⟩ hnone
    | @next piece' rest' others hleast' hrest' =>
      -- Each occurrence stands where the other one is the leftmost, so they
      -- begin at one place.
      have hplace {front back : List Char} :
          separator <+: (front ++ (separator ++ back)).drop front.length := by
        rw [List.drop_left]
        exact List.prefix_append _ _
      have hge : ¬ piece'.length < piece.length := fun hlt =>
        hleast piece'.length hlt (htext ▸ hplace)
      have hle : ¬ piece.length < piece'.length := fun hlt =>
        hleast' piece.length hlt (htext ▸ hplace)
      obtain ⟨rfl, hsame⟩ := List.append_inj htext (by omega)
      obtain rfl := List.append_cancel_left hsame
      rw [ih hrest']

/-- Pieces inside of which no occurrence of the separator begins are what the
joined pieces are cut into. -/
theorem cut_intercalate {separator : List Char} {pieces : List (List Char)}
    (hne : pieces ≠ []) (hinside : ∀ piece ∈ pieces, ¬ separator <:+: piece)
    (hleast : ∀ piece ∈ pieces, ∀ rest, ∀ place < piece.length,
      ¬ separator <+: (piece ++ rest).drop place) :
    Cut separator (separator.intercalate pieces) pieces := by
  induction pieces with
  | nil => exact absurd rfl hne
  | cons piece pieces ih =>
    rw [List.forall_mem_cons] at hinside hleast
    cases pieces with
    | nil =>
      rw [List.intercalate_singleton]
      exact .last hinside.1
    | cons second pieces =>
      rw [List.intercalate_cons_cons, List.append_assoc]
      exact .next (hleast.1 _)
        (ih (List.cons_ne_nil second pieces) hinside.2 hleast.2)

/-- No occurrence of a blank separator begins inside of a piece and goes on
behind it, since it would go over the last character of the piece. -/
theorem not_prefix_drop_append {separator piece : List Char}
    (hblank : ∀ c ∈ separator, isBlank c = true)
    (hlast : ∀ c ∈ piece.getLast?, isBlank c = false)
    (hinside : ¬ separator <:+: piece) (rest : List Char) {place : Nat}
    (hplace : place < piece.length) :
    ¬ separator <+: (piece ++ rest).drop place := by
  intro hprefix
  rw [List.drop_append_of_le_length (Nat.le_of_lt hplace)] at hprefix
  rcases List.prefix_or_prefix_of_prefix hprefix
    (List.prefix_append (piece.drop place) rest) with
    hseparator | hpiece
  · exact hinside
      (hseparator.isInfix.trans (List.drop_suffix place piece).isInfix)
  · have hne : piece.drop place ≠ [] :=
      List.ne_nil_of_length_pos (by rw [List.length_drop]; omega)
    have hmem : (piece.drop place).getLast hne ∈ separator :=
      hpiece.subset (List.getLast_mem hne)
    have hsome : piece.getLast? = some ((piece.drop place).getLast hne) := by
      rw [List.getLast_drop hne]
      exact List.getLast?_eq_some_getLast _
    exact notMem_of_isBlank_eq_false hblank (hlast _ hsome) hmem

theorem split_intercalate {separator : List Char} (hne : separator ≠ [])
    (hblank : ∀ c ∈ separator, isBlank c = true) {pieces : List (List Char)}
    (hpieces : pieces ≠ []) (hsettled : ∀ piece ∈ pieces,
      (∀ c ∈ piece.getLast?, isBlank c = false) ∧ ¬ separator <:+: piece) :
    split separator (separator.intercalate pieces) = pieces := by
  have hcut : Cut separator (separator.intercalate pieces) pieces :=
    cut_intercalate hpieces (fun piece hpiece => (hsettled piece hpiece).2)
      fun piece hpiece rest place =>
        not_prefix_drop_append hblank (hsettled piece hpiece).1
          (hsettled piece hpiece).2 rest
  exact (cut_split hne _).unique hcut

/-! Lines that are joined again. -/

theorem head?_intercalate (separator : List Char) {pieces : List (List Char)}
    (hfirst : pieces.head? ≠ some []) :
    (separator.intercalate pieces).head? = pieces.head?.bind List.head? := by
  match pieces with
  | [] => rfl
  | [piece] =>
    rw [List.intercalate_singleton, List.head?_cons, Option.bind_some]
  | [] :: second :: pieces => exact absurd rfl hfirst
  | (c :: piece) :: second :: pieces => rw [List.intercalate_cons_cons]; rfl

theorem getLast?_intercalate (separator : List Char) {pieces : List (List Char)}
    (hlast : pieces.getLast? ≠ some []) :
    (separator.intercalate pieces).getLast? =
      pieces.getLast?.bind List.getLast? := by
  induction pieces with
  | nil => rfl
  | cons piece pieces ih =>
    cases pieces with
    | nil =>
      rw [List.intercalate_singleton, List.getLast?_singleton,
        Option.bind_some]
    | cons second pieces =>
      rw [List.getLast?_cons_cons] at hlast ⊢
      rw [List.intercalate_cons_cons, List.getLast?_append, ih hlast]
      have hsome : (second :: pieces).getLast? =
          some ((second :: pieces).getLast (by simp)) :=
        List.getLast?_eq_some_getLast _
      rw [hsome, Option.some_inj.ne] at hlast
      rw [hsome, Option.bind_some, List.getLast?_eq_some_getLast hlast,
        Option.some_or]

theorem intercalate_ne_nil {pieces : List (List Char)} (hne : pieces ≠ [])
    (hfirst : pieces.head? ≠ some []) (separator : List Char) :
    separator.intercalate pieces ≠ [] := by
  intro hempty
  have hhead := head?_intercalate separator hfirst
  obtain ⟨piece, pieces, rfl⟩ := List.exists_cons_of_ne_nil hne
  rw [hempty, List.head?_cons, Option.bind_some] at hhead
  rw [List.head?_eq_none_iff.1 hhead.symm] at hfirst
  exact hfirst rfl

/-- The ends of joined lines are those of the first and the last line, so
nothing is trimmed there if both are trimmed and not empty. -/
theorem trim_intercalate (separator : List Char) {lines : List (List Char)}
    (hfirst : lines.head? ≠ some []) (hlast : lines.getLast? ≠ some [])
    (hends : ∀ line ∈ lines,
      (∀ c ∈ line.head?, isBlank c = false) ∧
      ∀ c ∈ line.getLast?, isBlank c = false) :
    trim (separator.intercalate lines) = separator.intercalate lines := by
  refine strip_eq_self ?_ ?_
  · intro c hc
    rw [head?_intercalate separator hfirst, Option.mem_def,
      Option.bind_eq_some_iff] at hc
    obtain ⟨line, hline, hc⟩ := hc
    exact (hends line (List.mem_of_head? hline)).1 c hc
  · intro c hc
    rw [getLast?_intercalate separator hlast, Option.mem_def,
      Option.bind_eq_some_iff] at hc
    obtain ⟨line, hline, hc⟩ := hc
    exact (hends line (List.mem_of_getLast? hline)).2 c hc

section

variable {lineBreak : List Char} (hne : lineBreak ≠ [])
  (hblank : ∀ c ∈ lineBreak, isBlank c = true)

include hne hblank

/-- Lines that are settled are the lines of the joined text: the first and the
last one are not empty, and none of them begins or ends with white space or
holds the line break. -/
theorem trimLines_intercalate {lines : List (List Char)}
    (hfirst : lines.head? ≠ some []) (hlast : lines.getLast? ≠ some [])
    (hsettled : ∀ line ∈ lines, (∀ c ∈ line.head?, isBlank c = false) ∧
      (∀ c ∈ line.getLast?, isBlank c = false) ∧ ¬ lineBreak <:+: line) :
    trimLines lineBreak (lineBreak.intercalate lines) = lines := by
  by_cases hlines : lines = []
  · subst hlines
    rfl
  have htrim : trim (lineBreak.intercalate lines) =
      lineBreak.intercalate lines :=
    trim_intercalate lineBreak hfirst hlast fun line hline =>
      ⟨(hsettled line hline).1, (hsettled line hline).2.1⟩
  have hsplit : split lineBreak (lineBreak.intercalate lines) = lines :=
    split_intercalate hne hblank hlines fun line hline =>
      (hsettled line hline).2
  have hkept : ∀ line ∈ lines, trim line = line := fun line hline =>
    strip_eq_self (hsettled line hline).1 (hsettled line hline).2.1
  have hjoined : trim (lineBreak.intercalate lines) ≠ [] := by
    rw [htrim]
    exact intercalate_ne_nil hlines hfirst lineBreak
  rw [trimLines_of_trim_ne_nil hjoined, htrim, hsplit,
    List.map_congr_left hkept, List.map_id']

/-- Cutting a text into lines is a normal form. For a line break made of white
space, the lines of a text, joined by the line break again, are cut into the
same lines, whatever blank lines there are among them and however the line break
may overlap itself. -/
theorem trimLines_intercalate_trimLines (text : List Char) :
    trimLines lineBreak (lineBreak.intercalate (trimLines lineBreak text)) =
      trimLines lineBreak text :=
  trimLines_intercalate hne hblank (head?_trimLines_ne hne hblank)
    (getLast?_trimLines_ne hne hblank) (forall_mem_trimLines hne)

end

/-- A line break of two line feeds with a space between them: two of them may
share a line feed, and there is a blank line in the text. -/
theorem trimLines_intercalate_trimLines_overlap :
    let lineBreak : List Char := ['\n', ' ', '\n']
    let text : List Char :=
      ['a', '\n', ' ', '\n', '\n', ' ', '\n', ' ', '\n', '\t', 'b',
        '\n', ' ', '\n']
    trimLines lineBreak text = [['a'], [], ['b']] ∧
      trimLines lineBreak (lineBreak.intercalate [['a'], [], ['b']]) =
        [['a'], [], ['b']] := by
  intro lineBreak text
  have hblank : ∀ c ∈ lineBreak, isBlank c = true := by
    simp [lineBreak, isBlank]
  have hlines : trimLines lineBreak text = [['a'], [], ['b']] := by
    decide +kernel
  have hagain :=
    trimLines_intercalate_trimLines (List.cons_ne_nil '\n' [' ', '\n'])
      hblank text
  rw [hlines] at hagain
  exact ⟨hlines, hagain⟩

/-! Occurrences that are replaced. -/

/-- A text in which every occurrence of a pattern is replaced: the leftmost one
first, and then on behind it. -/
def replaceAll (pattern replacement text : List Char) : List Char :=
  replacement.intercalate (split pattern text)

theorem replaceAll_singleton (c : Char) (replacement text : List Char) :
    replaceAll [c] replacement text = text.flatMap fun d =>
      if d = c then replacement else [d] := by
  rw [replaceAll, split_singleton]
  induction text with
  | nil => rfl
  | cons d text ih =>
    obtain ⟨first, others, hsplit⟩ :=
      List.exists_cons_of_ne_nil (List.splitOn_ne_nil c text)
    rw [List.flatMap_cons, ← ih, List.splitOn_cons_eq_if_modifyHead, hsplit]
    by_cases hd : d = c
    · rw [if_pos (beq_iff_eq.2 hd), if_pos hd, List.intercalate_cons_cons,
        List.nil_append]
    · rw [if_neg (by simpa using hd), if_neg hd, List.modifyHead_cons]
      cases others with
      | nil =>
        rw [List.intercalate_singleton, List.intercalate_singleton,
          List.singleton_append]
      | cons second others =>
        rw [List.intercalate_cons_cons, List.intercalate_cons_cons]; rfl

/-- Escaping is three replacements over the whole text, one after another: of
every backslash by two of them, then of every quote and then of every dollar
sign by one with a backslash in front of it. -/
theorem escape_eq_replaceAll (text : List Char) :
    escape text =
      replaceAll ['$'] ['\\', '$']
        (replaceAll ['"'] ['\\', '"']
          (replaceAll ['\\'] ['\\', '\\'] text)) := by
  -- The later passes also read what the earlier ones have put there, but that
  -- is backslashes only, which none of them looks for.
  have hpasses (c : Char) :
      (((if c = '\\' then ['\\', '\\'] else [c]).flatMap
        fun d => if d = '"' then ['\\', '"'] else [d]).flatMap
        fun d => if d = '$' then ['\\', '$'] else [d]) =
      if isSpecial c then ['\\', c] else [c] := by
    by_cases hslash : c = '\\'
    · subst hslash
      rfl
    by_cases hquote : c = '"'
    · subst hquote
      rfl
    by_cases hdollar : c = '$'
    · subst hdollar
      rfl
    simp [isSpecial, hslash, hquote, hdollar]
  rw [replaceAll_singleton, replaceAll_singleton, replaceAll_singleton,
    List.flatMap_assoc, List.flatMap_assoc, escape]
  exact List.flatMap_congr fun c _ => by rw [← hpasses c, List.flatMap_assoc]

/-- The backslash has to come first: in another order, those put before the
quotes are doubled. -/
example : replaceAll ['\\'] ['\\', '\\'] (replaceAll ['"'] ['\\', '"'] ['"']) =
    ['\\', '\\', '"'] := by decide +kernel

end HtmlBuilder.Text
