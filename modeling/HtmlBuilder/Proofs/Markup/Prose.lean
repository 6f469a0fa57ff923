import HtmlBuilder.Proofs.Markup.PlainBody
import HtmlBuilder.Proofs.Markup.Remainder

/-!
Text without markup. Where no opening bracket is read, every token is a
character or a fault, also in a reference, and what is left over is an end of
the text, so no bracket turns up later. The tokens of the whole text put their
characters one behind another at the current place, and there they become one
text. Bringing line breaks into one form before that adds no bracket.
-/

namespace HtmlBuilder.Markup

namespace Token

theorem isProse_character (c : Char) : (character c).IsProse :=
  .inr ⟨c, rfl⟩

theorem readReferenceTokens_prose (rest : List Char) :
    ∀ token ∈ (readReferenceTokens rest).1, token.IsProse := by
  unfold readReferenceTokens
  split
  · simp [isProse_character]
  · next r hread =>
    have htext : ∀ token ∈ r.text.map character, token.IsProse := by
      intro token htoken
      obtain ⟨c, -, rfl⟩ := List.mem_map.1 htoken
      exact isProse_character c
    dsimp only
    split
    · exact htext
    · intro token htoken
      exact (List.mem_cons.1 htoken).elim .inl (htext token)

/-- Only an opening bracket begins markup. -/
theorem read_prose (rest : List Char) {c : Char} (hc : c ≠ '<') :
    ∀ token ∈ (read (.markup false) c rest).1, token.IsProse := by
  rw [read, if_neg hc]
  split
  · exact readReferenceTokens_prose rest
  · simp [isProse_character]

end Token

def proseTokens (text : List Char) : List Token :=
  match text with
  | [] => []
  | c :: rest =>
    have := Token.read_length (.markup false) c rest
    (Token.read (.markup false) c rest).1 ++
    proseTokens (Token.read (.markup false) c rest).2
termination_by text.length
decreasing_by
  simp only [List.length_cons]
  omega

/-- The text that is seen of a text without markup: references are replaced, and
null characters are dropped. -/
def proseText (text : List Char) : List Char :=
  (proseTokens text).filterMap Token.visible?

@[simp] theorem proseText_nil : proseText [] = [] := by
  rw [proseText, proseTokens, List.filterMap_nil]

theorem proseText_cons (c : Char) (rest : List Char) :
    proseText (c :: rest) =
      (Token.read (.markup false) c rest).1.filterMap Token.visible? ++
        proseText (Token.read (.markup false) c rest).2 := by
  rw [proseText, proseTokens, List.filterMap_append, ← proseText]

theorem proseText_eq_of_ne {text : List Char}
    (h : ∀ c ∈ text, c ≠ '<' ∧ c ≠ '&' ∧ c ≠ '\x00') :
    proseText text = text := by
  induction text with
  | nil => rw [proseText_nil]
  | cons c rest ih =>
    obtain ⟨hbracket, hampersand, hnull⟩ := h c List.mem_cons_self
    have hrest : proseText rest = rest := ih fun other hother =>
      h other (List.mem_cons_of_mem _ hother)
    rw [proseText_cons, Token.read, if_neg hbracket, if_neg hampersand, hrest]
    simp [Token.visible?, hnull]

/-- A text without an opening bracket joins the text at the current place. -/
theorem Construction.InPlainBody.run_prose {s : Construction} {parent : Nat}
    (h : s.InPlainBody parent) {text : List Char} (htext : '<' ∉ text) :
    ∃ framesetOk, s.run text =
      { s with
        arena := (proseText text).foldl
          (fun arena c => arena.appendCharacter parent c) s.arena
        framesetOk } := by
  fun_induction proseTokens text generalizing s with
  | case1 =>
    refine ⟨s.framesetOk, ?_⟩
    rw [Construction.run, h.handle_finish, proseText_nil]
    rfl
  | case2 c rest _ ih =>
    have hc : c ≠ '<' := fun he => htext (he ▸ List.mem_cons_self)
    have hrest : '<' ∉ (Token.read (.markup false) c rest).2 :=
      fun hmem => htext (List.mem_cons_of_mem _
        ((Token.read_suffix _ c rest).subset hmem))
    obtain ⟨framesetOk, hfold⟩ := h.foldl_handle (Token.read_prose rest hc)
    obtain ⟨last, hrun⟩ := ih (h.withArena _ framesetOk) hrest
    refine ⟨last, ?_⟩
    rw [Construction.run, h.contentMode_eq, hfold, hrun, proseText_cons,
      List.foldl_append]

/-! Line breaks. -/

/-- What holds of all characters of a text and of the line feed holds of the
characters that are read. -/
theorem forall_mem_normalize {p : Char → Prop} (hbreak : p '\n')
    {text : List Char}
    (htext : ∀ c ∈ text, p c) : ∀ c ∈ normalize text, p c := by
  have hfrom (done text : List Char) (hdone : ∀ c ∈ done, p c)
      (htext : ∀ c ∈ text, p c) :
      ∀ c ∈ normalizeFrom done text, p c := by
    fun_induction normalizeFrom done text <;> simp_all
  unfold normalize
  split
  · exact hfrom _ _ (by simp) fun c hc => htext c (List.mem_cons_of_mem _ hc)
  · exact hfrom _ _ (by simp) htext

theorem normalize_eq_self {text : List Char} (hreturn : '\r' ∉ text)
    (hmark : text.head? ≠ some '\ufeff') : normalize text = text := by
  have hfrom (done text : List Char) (hreturn : '\r' ∉ text) :
      normalizeFrom done text = done.reverse ++ text := by
    fun_induction normalizeFrom done text <;> simp_all
  unfold normalize
  split
  · exact absurd rfl hmark
  · exact hfrom [] _ hreturn

/-- A text without an opening bracket has no markup: it is nothing or one
text. -/
theorem Dom.parseFragment_prose {text : String} (htext : '<' ∉ text.toList) :
    Dom.parseFragment text =
      match proseText (normalize text.toList) with
      | [] => []
      | seen => [.text (String.ofList seen)] := by
  have hread : '<' ∉ normalize text.toList := by
    have hne := forall_mem_normalize (p := (· ≠ '<')) (by decide)
      fun c hc he => htext (he ▸ hc)
    exact fun hmem => hne _ hmem rfl
  obtain ⟨framesetOk, hrun⟩ := inPlainBody_startFragment.run_prose hread
  apply Dom.parseFragment_eq_of_grows
  rw [hrun]
  dsimp only
  split
  · next hseen =>
    rw [hseen]
    exact Arena.Grows.refl (by decide)
  · next hseen =>
    refine Arena.grows_foldl_appendCharacter (by decide) ?_ hseen
    rintro ⟨last, hlast, -⟩
    cases hlast

end HtmlBuilder.Markup
