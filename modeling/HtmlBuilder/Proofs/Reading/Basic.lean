import HtmlBuilder.Proofs.Text.Literal
import Mathlib.Data.List.Basic

/-!
Reading back what was written. A value is read once if no text can be taken for
what is written for it in two ways: a text that begins with it begins with
nothing else of its sort, and what follows is the same text too. What may follow
is restricted by a condition, since a word goes on as long as letters do. Words,
the insides of literals, and lists with and without separators are read once if
their parts are.
-/

namespace HtmlBuilder

/-- No admissible value other than `a` is written as the same beginning of a
text, provided that something that ends it follows. -/
def ReadOnce {α : Type} (written : α → List Char) (admissible : α → Prop)
    (stop : List Char → Prop) (a : α) : Prop :=
  ∀ b rest rest', admissible b → stop rest → stop rest' →
    written a ++ rest = written b ++ rest' → a = b ∧ rest = rest'

/-- What a reader reads back is read once. -/
theorem readOnce_of_read {α : Type} {written : α → List Char}
    {admissible : α → Prop}
    {stop : List Char → Prop} (read : List Char → Option (α × List Char))
    (hread : ∀ a rest, admissible a → stop rest →
      read (written a ++ rest) = some (a, rest))
    {a : α} (ha : admissible a) : ReadOnce written admissible stop a := by
  intro b rest rest' hb hrest hrest' h
  have hsame := hread a rest ha hrest
  rw [h, hread b rest' hb hrest'] at hsame
  simpa [eq_comm] using hsame

def EndsClass (p : Char → Bool) (rest : List Char) : Prop :=
  ∀ c ∈ rest.head?, p c = false

theorem endsClass_cons {p : Char → Bool} {c : Char} (hc : p c = false)
    (rest : List Char) :
    EndsClass p (c :: rest) := by
  intro d hd
  obtain rfl : c = d := by simpa using hd
  exact hc

theorem readOnce_word (p : Char → Bool) {word : List Char}
    (hword : ∀ c ∈ word, p c = true) :
    ReadOnce id (fun other => ∀ c ∈ other, p c = true) (EndsClass p) word := by
  refine readOnce_of_read
    (fun text => some (text.takeWhile p, text.dropWhile p)) ?_ hword
  intro word rest hword hrest
  have hnone : rest.takeWhile p = [] ∧ rest.dropWhile p = rest := by
    cases rest with
    | nil => simp
    | cons c rest => simp [hrest c rfl]
  simp only [id, List.takeWhile_append_of_pos hword,
    List.dropWhile_append_of_pos hword, hnone, List.append_nil]

/-- The inside of a literal ends at the first quote that is not escaped. -/
theorem readOnce_escape (text : List Char) :
    ReadOnce (fun text => Text.escape text ++ ['"']) (fun _ => True)
      (fun _ => True) text := by
  refine readOnce_of_read Text.readLiteral ?_ trivial
  intro text rest _ _
  rw [List.append_assoc, List.singleton_append, Text.readLiteral_escape]

/-- Values that end by themselves are read once one after another, up to a text
in which none of them can begin. -/
theorem readOnce_flatMap {α : Type} {written : α → List Char}
    {admissible : α → Prop} {stop : List Char → Prop}
    (hstop : ∀ a rest rest', admissible a → stop rest →
      rest ≠ written a ++ rest')
    {as : List α} (has : ∀ a ∈ as, admissible a)
    (honce : ∀ a ∈ as, ReadOnce written admissible (fun _ => True) a) :
    ReadOnce (List.flatMap written) (fun bs => ∀ b ∈ bs,
      admissible b) stop as := by
  intro bs rest rest' hbs hrest hrest' h
  induction as generalizing bs with
  | nil =>
    cases bs with
    | nil => exact ⟨rfl, h⟩
    | cons b bs =>
      rw [List.flatMap_nil, List.nil_append, List.flatMap_cons,
        List.append_assoc] at h
      exact absurd h (hstop b rest _ (hbs b (by simp)) hrest)
  | cons a as ih =>
    cases bs with
    | nil =>
      rw [List.flatMap_nil, List.nil_append, List.flatMap_cons,
        List.append_assoc] at h
      exact absurd h.symm (hstop a rest' _ (has a (by simp)) hrest')
    | cons b bs =>
      rw [List.flatMap_cons, List.flatMap_cons, List.append_assoc,
        List.append_assoc] at h
      obtain ⟨rfl, hnext⟩ :=
        honce a (by simp) b _ _ (hbs b (by simp)) trivial trivial h
      obtain ⟨rfl, hsame⟩ := ih (fun a ha => has a (by simp [ha]))
        (fun a ha => honce a (by simp [ha])) bs
        (fun b hb => hbs b (by simp [hb])) hnext
      exact ⟨rfl, hsame⟩

/-- Values with a separator between them are read once if the separator ends
each of them and what follows the last one cannot be taken for a separator. -/
theorem readOnce_intercalate {α : Type} {written : α → List Char}
    {admissible : α → Prop}
    {stop stopAll : List Char → Prop} {separator : List Char}
    (hseparator : ∀ rest, stop (separator ++ rest))
    (hend : ∀ rest, stopAll rest → stop rest)
    (hclash : ∀ rest rest', stopAll rest → rest ≠ separator ++ rest')
    (honce : ∀ a, admissible a → ReadOnce written admissible stop a)
    {as : List α} (hne : as ≠ []) (has : ∀ a ∈ as, admissible a) :
    ReadOnce (fun as => separator.intercalate (as.map written))
      (fun bs => bs ≠ [] ∧ ∀ b ∈ bs, admissible b) stopAll as := by
  intro bs rest rest' hbs hrest hrest' h
  obtain ⟨hbne, hbs⟩ := hbs
  induction as generalizing bs with
  | nil => exact absurd rfl hne
  | cons a as ih =>
    obtain ⟨b, bs, rfl⟩ := List.exists_cons_of_ne_nil hbne
    have ha := honce a (has a (by simp))
    have hb := hbs b (by simp)
    match as, bs with
    | [], [] =>
      simp only [List.map_cons, List.map_nil, List.intercalate_singleton] at h
      obtain ⟨rfl, hsame⟩ := ha b _ _ hb (hend _ hrest) (hend _ hrest') h
      exact ⟨rfl, hsame⟩
    | [], b' :: bs =>
      simp only [List.map_cons, List.map_nil, List.intercalate_singleton,
        List.intercalate_cons_cons, List.append_assoc] at h
      exact absurd (ha b _ _ hb (hend _ hrest) (hseparator _) h).2
        (hclash _ _ hrest)
    | a' :: as, [] =>
      simp only [List.map_cons, List.map_nil, List.intercalate_singleton,
        List.intercalate_cons_cons, List.append_assoc] at h
      exact absurd (ha b _ _ hb (hseparator _) (hend _ hrest') h).2.symm
        (hclash _ _ hrest')
    | a' :: as, b' :: bs =>
      simp only [List.map_cons, List.intercalate_cons_cons,
        List.append_assoc] at h
      obtain ⟨rfl, hnext⟩ := ha b _ _ hb (hseparator _) (hseparator _) h
      obtain ⟨htail, hsame⟩ :=
        ih (by simp) (fun a ha => has a (by simp [ha])) (b' :: bs)
          (List.append_cancel_left hnext) (by simp)
          (fun b hb => hbs b (by simp [hb]))
      exact ⟨by rw [htail], hsame⟩

end HtmlBuilder
