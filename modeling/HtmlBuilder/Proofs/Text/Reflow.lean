import HtmlBuilder.Proofs.Text.Lines
import Mathlib.Data.List.Basic

/-!
White space that does not show in the lines of a text. With a line feed as the
line break, the lines of a text are its pieces between line feeds, each of them
trimmed, without the blank ones at both ends of the list: trimming the text
before it is cut takes away nothing else. So white space at the ends of a text
does not show, and neither does white space around a line feed.
-/

namespace HtmlBuilder.Text

section Strip

variable {α : Type} (p : α → Bool)

def strip (items : List α) : List α :=
  ((items.dropWhile p).reverse.dropWhile p).reverse

theorem trim_eq_strip (text : List Char) : trim text = strip isBlank text := rfl

variable {p}

theorem strip_append_left {front : List α} (hfront : ∀ a ∈ front, p a = true)
    (items : List α) :
    strip p (front ++ items) = strip p items := by
  rw [strip, List.dropWhile_append_of_pos hfront, strip]

theorem strip_cons {a : α} (ha : p a = true) (items : List α) :
    strip p (a :: items) = strip p items :=
  @strip_append_left _ _ [a] (by simpa using ha) items

theorem strip_append_right {back : List α} (hback : ∀ a ∈ back, p a = true)
    (items : List α) :
    strip p (items ++ back) = strip p items := by
  rw [strip, strip, List.dropWhile_append]
  split
  · next hempty =>
    have hnil : back.dropWhile p = [] := List.dropWhile_eq_nil_iff.2 hback
    rw [hnil, List.isEmpty_iff.1 hempty]
  · have hreverse : ∀ a ∈ back.reverse, p a = true := fun a ha =>
      hback a (List.mem_reverse.1 ha)
    rw [List.reverse_append, List.dropWhile_append_of_pos hreverse]

theorem strip_eq_self {items : List α} (hhead : ∀ a ∈ items.head?, p a = false)
    (hlast : ∀ a ∈ items.getLast?, p a = false) : strip p items = items := by
  have hkeep {items : List α} (hhead : ∀ a ∈ items.head?, p a = false) :
      items.dropWhile p = items := by
    cases items with
    | nil => rfl
    | cons a rest => simp [hhead a rfl]
  rw [strip, hkeep hhead, hkeep (by simpa using hlast), List.reverse_reverse]

/-- What is taken away at the front and at the back passes the test. -/
theorem exists_append_strip (items : List α) :
    ∃ front back, (∀ a ∈ front, p a = true) ∧ (∀ a ∈ back, p a = true) ∧
      items = front ++ strip p items ++ back := by
  refine ⟨items.takeWhile p,
    ((items.dropWhile p).reverse.takeWhile p).reverse, ?_, ?_, ?_⟩
  · exact fun a ha => List.mem_takeWhile_imp ha
  · exact fun a ha => List.mem_takeWhile_imp (List.mem_reverse.1 ha)
  · rw [List.append_assoc, strip, ← List.reverse_append,
      List.takeWhile_append_dropWhile, List.reverse_reverse,
      List.takeWhile_append_dropWhile]

theorem strip_prefix_dropWhile (items : List α) :
    strip p items <+: items.dropWhile p := by
  have hsuffix := List.dropWhile_suffix (l := (items.dropWhile p).reverse) p
  simpa [strip] using List.reverse_prefix.2 hsuffix

theorem head?_strip {items : List α} :
    ∀ a ∈ (strip p items).head?, p a = false := by
  intro a ha
  obtain ⟨rest, hrest⟩ := List.head?_eq_some_iff.1 (Option.mem_def.1 ha)
  obtain ⟨back, hback⟩ := strip_prefix_dropWhile (p := p) items
  have hhead := List.head?_dropWhile_not p items
  rw [← hback, hrest, List.cons_append, List.head?_cons] at hhead
  simpa using hhead

theorem getLast?_strip {items : List α} :
    ∀ a ∈ (strip p items).getLast?, p a = false := by
  intro a ha
  have hhead := List.head?_dropWhile_not p (items.dropWhile p).reverse
  rw [strip, List.getLast?_reverse, Option.mem_def] at ha
  rw [ha] at hhead
  simpa using hhead

end Strip

/-! Pieces between line feeds. -/

theorem splitFrom_singleton (separator : Char) (piece text : List Char) :
    splitFrom [separator] piece text =
      (text.splitOn separator).modifyHead (piece.reverse ++ ·) := by
  fun_induction splitFrom [separator] piece text with
  | case1 piece => simp
  | case2 piece c rest hbreak ih =>
    obtain rfl : separator = c := by simpa using hbreak
    rw [ih, List.splitOn_cons_eq_if_modifyHead, if_pos (beq_self_eq_true _),
      List.modifyHead_cons, List.append_nil]
    exact congrArg (piece.reverse :: ·) (congrFun List.modifyHead_id _)
  | case3 piece c rest hbreak ih =>
    have hc : ¬ (c == separator) = true := by
      rw [beq_iff_eq]
      rintro rfl
      simp at hbreak
    rw [ih, List.splitOn_cons_eq_if_modifyHead, if_neg hc,
      List.modifyHead_modifyHead]
    simp [Function.comp_def]

theorem split_singleton (separator : Char) (text : List Char) :
    split [separator] text = text.splitOn separator := by
  rw [split, splitFrom_singleton]
  exact congrFun List.modifyHead_id _

/-- Characters other than line feeds behind a text lengthen its last piece. -/
theorem splitOn_append_of_notMem {extra : List Char} (hextra : '\n' ∉ extra)
    (text : List Char) :
    ∃ front last, text.splitOn '\n' = front ++ [last] ∧
      (text ++ extra).splitOn '\n' = front ++ [last ++ extra] := by
  induction text with
  | nil => exact ⟨[], [], rfl, splitOn_of_notMem hextra⟩
  | cons c text ih =>
    obtain ⟨front, last, htext, hlonger⟩ := ih
    rw [List.cons_append, List.splitOn_cons_eq_if_modifyHead, htext,
      List.splitOn_cons_eq_if_modifyHead, hlonger]
    split
    · exact ⟨[] :: front, last, rfl, rfl⟩
    · cases front with
      | nil => exact ⟨[], c :: last, rfl, rfl⟩
      | cons first front => exact ⟨(c :: first) :: front, last, rfl, rfl⟩

def pieces (text : List Char) : List (List Char) :=
  (text.splitOn '\n').map trim

theorem pieces_append_lineFeed (a b : List Char) :
    pieces (a ++ '\n' :: b) = pieces a ++ pieces b := by
  rw [pieces, List.splitOn_append_cons_self, List.map_append, pieces, pieces]

theorem pieces_cons_lineFeed (text : List Char) :
    pieces ('\n' :: text) = [] :: pieces text :=
  pieces_append_lineFeed [] text

/-- White space without line feeds does not show in front of a text. -/
theorem pieces_cons {c : Char} (hblank : isBlank c = true) (hbreak : c ≠ '\n')
    (text : List Char) : pieces (c :: text) = pieces text := by
  obtain ⟨first, rest, hsplit⟩ :=
    List.exists_cons_of_ne_nil (List.splitOn_ne_nil '\n' text)
  rw [pieces, pieces, List.splitOn_cons_eq_if_modifyHead,
    if_neg (by simpa using hbreak), hsplit,
    List.modifyHead_cons, List.map_cons, List.map_cons, trim_eq_strip,
    strip_cons hblank]
  rfl

theorem pieces_append_left {front : List Char}
    (hblank : ∀ c ∈ front, isBlank c = true)
    (hbreak : '\n' ∉ front) (text : List Char) :
    pieces (front ++ text) = pieces text := by
  induction front with
  | nil => rfl
  | cons c front ih =>
    obtain ⟨hc, hfront⟩ := List.ne_and_not_mem_of_not_mem_cons hbreak
    rw [List.cons_append,
      pieces_cons (hblank c List.mem_cons_self) (Ne.symm hc)]
    exact ih (fun d hd => hblank d (List.mem_cons_of_mem _ hd)) hfront

/-- White space without line feeds does not show behind a text. -/
theorem pieces_append_right {back : List Char}
    (hblank : ∀ c ∈ back, isBlank c = true)
    (hbreak : '\n' ∉ back) (text : List Char) :
    pieces (text ++ back) = pieces text := by
  obtain ⟨front, last, htext, hlonger⟩ := splitOn_append_of_notMem hbreak text
  rw [pieces, pieces, htext, hlonger, List.map_append, List.map_append,
    List.map_singleton, List.map_singleton, trim_eq_strip (last ++ back),
    strip_append_right hblank, ← trim_eq_strip]

theorem strip_pieces_append_left {front : List Char}
    (hfront : ∀ c ∈ front, isBlank c = true) (text : List Char) :
    strip List.isEmpty (pieces (front ++ text)) =
      strip List.isEmpty (pieces text) := by
  induction front with
  | nil => rfl
  | cons c front ih =>
    have hrest := ih fun d hd => hfront d (List.mem_cons_of_mem _ hd)
    by_cases hc : c = '\n'
    · subst hc
      rw [List.cons_append, pieces_cons_lineFeed, strip_cons rfl, hrest]
    · rw [List.cons_append, pieces_cons (hfront c List.mem_cons_self) hc, hrest]

theorem strip_pieces_append_right {back : List Char}
    (hback : ∀ c ∈ back, isBlank c = true) (text : List Char) :
    strip List.isEmpty (pieces (text ++ back)) =
      strip List.isEmpty (pieces text) := by
  induction back generalizing text with
  | nil => rw [List.append_nil]
  | cons c back ih =>
    have hrest := ih fun d hd => hback d (List.mem_cons_of_mem _ hd)
    rw [List.append_cons, hrest]
    by_cases hc : c = '\n'
    · subst hc
      rw [pieces_append_lineFeed]
      exact strip_append_right (by simp [pieces]) _
    · rw [pieces_append_right (by simpa using hback c List.mem_cons_self)
        (by simpa [eq_comm] using hc)]

theorem isEmpty_trim_eq_false {c : Char} {text : List Char} (hc : c ∈ text)
    (hblank : isBlank c = false) : (trim text).isEmpty = false := by
  rw [List.isEmpty_eq_false_iff]
  intro hempty
  rw [(trim_eq_nil_iff text).1 hempty c hc] at hblank
  exact absurd hblank (by decide)

theorem ne_lineFeed_of_isBlank_eq_false {c : Char} (hc : isBlank c = false) :
    c ≠ '\n' := by
  rintro rfl
  exact absurd hc (by decide)

/-- The pieces at the ends of a text are not blank if its first and last
characters are not. -/
theorem strip_pieces_eq_self {text : List Char} (hne : text ≠ [])
    (hhead : ∀ c ∈ text.head?, isBlank c = false)
    (hlast : ∀ c ∈ text.getLast?, isBlank c = false) :
    strip List.isEmpty (pieces text) = pieces text := by
  refine strip_eq_self ?_ ?_
  · obtain ⟨c, rest, rfl⟩ := List.exists_cons_of_ne_nil hne
    have hc := hhead c rfl
    obtain ⟨first, others, hsplit⟩ :=
      List.exists_cons_of_ne_nil (List.splitOn_ne_nil '\n' rest)
    rw [pieces, List.splitOn_cons_eq_if_modifyHead,
      if_neg (by simpa using ne_lineFeed_of_isBlank_eq_false hc), hsplit]
    rintro _ ⟨⟩
    exact isEmpty_trim_eq_false List.mem_cons_self hc
  · obtain ⟨front, c, rfl⟩ := (List.eq_nil_or_concat' text).resolve_left hne
    have hc := hlast c (by simp)
    have hbreak : '\n' ∉ [c] := by
      simpa using (ne_lineFeed_of_isBlank_eq_false hc).symm
    obtain ⟨init, last, -, hsplit⟩ := splitOn_append_of_notMem hbreak front
    rw [pieces, hsplit, List.map_append, List.map_singleton,
      List.getLast?_concat]
    rintro _ ⟨⟩
    exact isEmpty_trim_eq_false (by simp) hc

/-- The lines of a text are its trimmed pieces without the blank ones at both
ends. -/
theorem trimLines_lineFeed (text : List Char) :
    trimLines ['\n'] text = strip List.isEmpty (pieces text) := by
  have hends : strip List.isEmpty (pieces text) =
      strip List.isEmpty (pieces (trim text)) := by
    obtain ⟨front, back, hfront, hback, htext⟩ :=
      exists_append_strip (p := isBlank) text
    calc strip List.isEmpty (pieces text)
      _ = strip List.isEmpty
          (pieces (front ++ strip isBlank text ++ back)) := by rw [← htext]
      _ = strip List.isEmpty (pieces (trim text)) := by
        rw [strip_pieces_append_right hback, strip_pieces_append_left hfront,
          trim_eq_strip]
  rw [hends, trimLines]
  have hhead : ∀ c ∈ (trim text).head?, isBlank c = false := head?_strip
  have hlast : ∀ c ∈ (trim text).getLast?, isBlank c = false := getLast?_strip
  cases htrim : trim text with
  | nil => rfl
  | cons c rest =>
    rw [htrim] at hhead hlast
    rw [strip_pieces_eq_self (List.cons_ne_nil c rest) hhead hlast, pieces,
      ← split_singleton]

/-- White space put where it does not show: at an end of a text, or right before
or behind one of its line feeds. Line feeds themselves may only be put at the
ends. -/
inductive Padded : List Char → List Char → Prop
  | front (blank text : List Char) (hblank : ∀ c ∈ blank, isBlank c = true) :
    Padded text (blank ++ text)
  | back (text blank : List Char) (hblank : ∀ c ∈ blank, isBlank c = true) :
    Padded text (text ++ blank)
  | beforeBreak (a blank b : List Char) (hblank : ∀ c ∈ blank, isBlank c = true)
    (hbreak : '\n' ∉ blank) : Padded (a ++ '\n' :: b) (a ++ blank ++ '\n' :: b)
  | afterBreak (a blank b : List Char) (hblank : ∀ c ∈ blank, isBlank c = true)
    (hbreak : '\n' ∉ blank) :
      Padded (a ++ '\n' :: b) (a ++ '\n' :: (blank ++ b))

/-- Padding changes no line. -/
theorem Padded.trimLines_eq {text padded : List Char} (h : Padded text padded) :
    trimLines ['\n'] padded = trimLines ['\n'] text := by
  rw [trimLines_lineFeed, trimLines_lineFeed]
  cases h with
  | front blank text hblank => exact strip_pieces_append_left hblank text
  | back text blank hblank => exact strip_pieces_append_right hblank text
  | beforeBreak a blank b hblank hbreak =>
    rw [pieces_append_lineFeed, pieces_append_right hblank hbreak,
      pieces_append_lineFeed]
  | afterBreak a blank b hblank hbreak =>
    rw [pieces_append_lineFeed, pieces_append_left hblank hbreak,
      pieces_append_lineFeed]

end HtmlBuilder.Text
