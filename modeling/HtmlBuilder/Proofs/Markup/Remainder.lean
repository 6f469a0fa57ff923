import HtmlBuilder.Markup.Token

/-!
What reading leaves over. A reading step takes characters from the front of a
text and neither changes nor moves the others, so what it leaves is an end of
the text that it was given. This is shown of every reader, from references and
the parts of a tag up to the tokens of each content mode, and of the form that
line breaks are brought into before.
-/

namespace HtmlBuilder.Markup

theorem suffix_cons_of_suffix {rest text : List Char} (h : rest <:+ text)
    (c : Char) :
    rest <:+ c :: text :=
  h.trans (List.suffix_cons c text)

theorem suffix_of_cons_suffix {c : Char} {rest text : List Char}
    (h : c :: rest <:+ text) :
    rest <:+ text :=
  (List.suffix_cons c rest).trans h

/-! References. -/

theorem readNumbered_suffix {digits rest : List Char} {value : Nat}
    {r : Reference}
    (h : readNumbered digits rest value = some r) : r.rest <:+ rest := by
  unfold readNumbered at h
  split at h
  · cases h
  · split at h
    · cases h
      exact List.suffix_cons _ _
    · cases h
      exact List.suffix_rfl

theorem readNamed_suffix {inAttribute : Bool} {input : List Char}
    {r : Reference}
    (h : readNamed inAttribute input = some r) : r.rest <:+ input := by
  unfold readNamed at h
  split at h
  · cases h
  · simp only at h
    split at h
    · cases h
      exact List.drop_suffix _ _
    · split at h
      · cases h
      · cases h
        exact List.drop_suffix _ _

theorem readReference_suffix {inAttribute : Bool} {input : List Char}
    {r : Reference}
    (h : readReference inAttribute input = some r) : r.rest <:+ input := by
  unfold readReference at h
  split at h
  case h_1 digits =>
    exact (readNumbered_suffix h).trans ((List.dropWhile_suffix _).trans
      ((List.suffix_cons _ _).trans (List.suffix_cons _ _)))
  case h_2 digits =>
    exact (readNumbered_suffix h).trans ((List.dropWhile_suffix _).trans
      ((List.suffix_cons _ _).trans (List.suffix_cons _ _)))
  case h_3 digits _ _ =>
    exact (readNumbered_suffix h).trans
      ((List.dropWhile_suffix _).trans (List.suffix_cons _ _))
  case h_4 =>
    split at h
    · exact readNamed_suffix h
    · cases h
  case h_5 => cases h

/-! Tags. -/

theorem readQuoted_suffix {quote : Char} {input rest : List Char}
    {value : String}
    (h : readQuoted quote input = some (value, rest)) : rest <:+ input := by
  unfold readQuoted at h
  have hsuffix := input.dropWhile_suffix (· != quote)
  split at h
  · cases h
  · next hrest =>
    cases h
    rw [hrest] at hsuffix
    exact suffix_of_cons_suffix hsuffix

theorem readValue_suffix {input rest : List Char} {value : String}
    (h : readValue input = some (value, rest)) : rest <:+ input := by
  unfold readValue at h
  have hblank := input.dropWhile_suffix isSpace
  split at h
  · next after hafter =>
    rw [hafter] at hblank
    have hvalue :=
      (after.dropWhile_suffix isSpace).trans (suffix_of_cons_suffix hblank)
    generalize after.dropWhile isSpace = written at h hvalue
    split at h
    · cases h
    · exact (readQuoted_suffix h).trans (suffix_of_cons_suffix hvalue)
    · exact (readQuoted_suffix h).trans (suffix_of_cons_suffix hvalue)
    · cases h
      exact (List.dropWhile_suffix _).trans hvalue
  · cases h
    exact hblank

theorem readAttributes_suffix {done attributes : List (String × String)}
    {input rest : List Char} {selfClosing : Bool}
    (h : readAttributes done input = some (attributes, selfClosing, rest)) :
    rest <:+ input := by
  fun_induction readAttributes done input with
  | case1 => cases h
  | case2 =>
    cases h
    exact List.suffix_cons _ _
  | case3 =>
    cases h
    exact suffix_cons_of_suffix (List.suffix_cons _ _) _
  | case4 done c rest _ _ _ ih => exact suffix_cons_of_suffix (ih h) c
  | case5 => cases h
  | case6 done c rest _ _ _ key value after hvalue _ _ ih =>
    have hafter := (readValue_suffix hvalue).trans
      (rest.dropWhile_suffix fun c => !endsKey c)
    exact suffix_cons_of_suffix ((ih h).trans hafter) c

theorem readTag_suffix {c : Char} {hc : c.isAlpha = true}
    {input rest : List Char} {tag : Tag}
    (h : readTag c hc input = some (tag, rest)) : rest <:+ input := by
  simp only [readTag] at h
  split at h
  · cases h
  · next hattributes =>
    cases h
    exact (readAttributes_suffix hattributes).trans (List.dropWhile_suffix _)

/-! Comments and declarations. -/

theorem readCommentFrom_suffix (state : CommentState) (done input : List Char) :
    (readCommentFrom state done input).2 <:+ input := by
  induction input generalizing state done with
  | nil => exact List.suffix_rfl
  | cons c rest ih =>
    have step (state : CommentState) (done : List Char) :
        (readCommentFrom state done rest).2 <:+ c :: rest :=
      suffix_cons_of_suffix (ih state done) c
    cases state <;> simp only [readCommentFrom] <;> (repeat' split) <;>
      first
        | exact step _ _
        | exact List.suffix_cons _ _

theorem readBogusComment_suffix (input : List Char) :
    (readBogusComment input).2 <:+ input :=
  (List.drop_suffix _ _).trans (List.dropWhile_suffix _)

theorem skipDeclaration_suffix (input : List Char) :
    skipDeclaration input <:+ input :=
  (List.drop_suffix _ _).trans (List.dropWhile_suffix _)

theorem readAfterSystem_suffix (doctype : Doctype) (input : List Char) :
    (readAfterSystem doctype input).2 <:+ input := by
  have h := input.dropWhile_suffix isSpace
  unfold readAfterSystem
  generalize input.dropWhile isSpace = spaced at h
  split
  · exact List.nil_suffix
  · exact suffix_of_cons_suffix h
  · exact (skipDeclaration_suffix _).trans h

theorem readSystem_suffix (doctype : Doctype) (quote : Char)
    (input : List Char) : (readSystem doctype quote input).2 <:+ input := by
  have h : (readIdentifier quote input).2 <:+ input := List.dropWhile_suffix _
  unfold readSystem
  generalize readIdentifier quote input = read at h
  obtain ⟨identifier, rest⟩ := read
  cases rest with
  | nil => exact List.nil_suffix
  | cons c rest =>
    simp only
    split
    · exact (readAfterSystem_suffix _ _).trans (suffix_of_cons_suffix h)
    · exact suffix_of_cons_suffix h

theorem readBeforeSystem_suffix (doctype : Doctype) (needed : Bool)
    (input : List Char) :
    (readBeforeSystem doctype needed input).2 <:+ input := by
  have h := input.dropWhile_suffix isSpace
  unfold readBeforeSystem
  generalize input.dropWhile isSpace = spaced at h
  split
  · exact List.nil_suffix
  · exact suffix_of_cons_suffix h
  · exact (readSystem_suffix _ _ _).trans (suffix_of_cons_suffix h)
  · exact (readSystem_suffix _ _ _).trans (suffix_of_cons_suffix h)
  · exact (skipDeclaration_suffix _).trans h

theorem readPublic_suffix (doctype : Doctype) (quote : Char)
    (input : List Char) : (readPublic doctype quote input).2 <:+ input := by
  have h : (readIdentifier quote input).2 <:+ input := List.dropWhile_suffix _
  unfold readPublic
  generalize readIdentifier quote input = read at h
  obtain ⟨identifier, rest⟩ := read
  cases rest with
  | nil => exact List.nil_suffix
  | cons c rest =>
    simp only
    split
    · exact (readBeforeSystem_suffix _ _ _).trans (suffix_of_cons_suffix h)
    · exact suffix_of_cons_suffix h

theorem readBeforePublic_suffix (doctype : Doctype) (input : List Char) :
    (readBeforePublic doctype input).2 <:+ input := by
  have h := input.dropWhile_suffix isSpace
  unfold readBeforePublic
  generalize input.dropWhile isSpace = spaced at h
  split
  · exact List.nil_suffix
  · exact suffix_of_cons_suffix h
  · exact (readPublic_suffix _ _ _).trans (suffix_of_cons_suffix h)
  · exact (readPublic_suffix _ _ _).trans (suffix_of_cons_suffix h)
  · exact (skipDeclaration_suffix _).trans h

theorem readAfterName_suffix (doctype : Doctype) (input : List Char) :
    (readAfterName doctype input).2 <:+ input := by
  have h := input.dropWhile_suffix isSpace
  unfold readAfterName
  generalize input.dropWhile isSpace = spaced at h
  split
  · exact List.nil_suffix
  · exact suffix_of_cons_suffix h
  · split
    · exact (readBeforePublic_suffix _ _).trans ((List.drop_suffix _ _).trans h)
    · split
      · exact (readBeforeSystem_suffix _ _ _).trans
          ((List.drop_suffix _ _).trans h)
      · exact (skipDeclaration_suffix _).trans h

theorem readDoctype_suffix (input : List Char) :
    (readDoctype input).2 <:+ input := by
  have h := input.dropWhile_suffix isSpace
  unfold readDoctype
  generalize input.dropWhile isSpace = spaced at h
  split
  · exact List.nil_suffix
  · exact suffix_of_cons_suffix h
  · exact (readAfterName_suffix _ _).trans ((List.dropWhile_suffix _).trans h)

/-! Tokens. -/

theorem readScriptFrom_suffix (state : ScriptState) (done input : List Char) :
    (readScriptFrom state done input).2 <:+ input := by
  induction input generalizing state done with
  | nil => exact List.suffix_rfl
  | cons c rest ih =>
    simp only [readScriptFrom]
    split
    · exact List.suffix_rfl
    · exact suffix_cons_of_suffix (ih _ _) c

namespace Token

theorem readReferenceTokens_suffix (rest : List Char) :
    (readReferenceTokens rest).2 <:+ rest := by
  unfold readReferenceTokens
  split
  · exact List.suffix_rfl
  · next h => exact readReference_suffix h

theorem readStartTag_suffix (c : Char) (h : c.isAlpha = true)
    (rest : List Char) : (readStartTag c h rest).2 <:+ rest := by
  unfold readStartTag
  split
  · exact List.nil_suffix
  · next htag => exact readTag_suffix htag

theorem readEndTag_suffix (c : Char) (h : c.isAlpha = true) (rest : List Char) :
    (readEndTag c h rest).2 <:+ rest := by
  unfold readEndTag
  split
  · exact List.nil_suffix
  · next htag => exact readTag_suffix htag

theorem readSectionFrom_suffix (done input : List Char) :
    (readSectionFrom done input).2 <:+ input := by
  fun_induction readSectionFrom done input with
  | case1 => exact List.suffix_rfl
  | case2 =>
    exact suffix_cons_of_suffix
      (suffix_cons_of_suffix (List.suffix_cons _ _) _) _
  | case3 _ c _ _ ih => exact suffix_cons_of_suffix ih c

theorem readDeclaration_suffix (foreign : Bool) (input : List Char) :
    (readDeclaration foreign input).2 <:+ input := by
  unfold readDeclaration
  split
  · exact (readCommentFrom_suffix _ _ _).trans (List.drop_suffix _ _)
  · split
    · exact (readDoctype_suffix _).trans (List.drop_suffix _ _)
    · split
      · exact (readSectionFrom_suffix _ _).trans (List.drop_suffix _ _)
      · exact readBogusComment_suffix _

theorem readClosing_suffix (input : List Char) :
    (readClosing input).2 <:+ input := by
  unfold readClosing
  split
  · exact List.suffix_rfl
  · exact List.suffix_cons _ _
  · split
    · exact suffix_cons_of_suffix (readEndTag_suffix _ _ _) _
    · exact readBogusComment_suffix _

theorem readBracket_suffix (foreign : Bool) (input : List Char) :
    (readBracket foreign input).2 <:+ input := by
  unfold readBracket
  split
  · exact suffix_cons_of_suffix (readDeclaration_suffix _ _) _
  · exact suffix_cons_of_suffix (readClosing_suffix _) _
  · exact readBogusComment_suffix _
  · split
    · exact suffix_cons_of_suffix (readStartTag_suffix _ _ _) _
    · exact List.suffix_rfl
  · exact List.suffix_rfl

theorem readRawEnd_suffix (input : List Char) :
    (readRawEnd input).2 <:+ input := by
  unfold readRawEnd
  split
  · split
    · exact suffix_cons_of_suffix
        (suffix_cons_of_suffix (readEndTag_suffix _ _ _) _) _
    · exact List.suffix_rfl
  · exact List.suffix_rfl

/-- What is left over behind the tokens that a character begins is an end of
what follows it. -/
theorem read_suffix (mode : ContentMode) (c : Char) (rest : List Char) :
    (read mode c rest).2 <:+ rest := by
  unfold read
  split
  · split
    · exact readBracket_suffix _ _
    · split
      · exact readReferenceTokens_suffix _
      · exact List.suffix_rfl
  · split
    · exact readRawEnd_suffix _
    · split
      · exact readReferenceTokens_suffix _
      · exact List.suffix_rfl
  · split
    · exact readRawEnd_suffix _
    · exact List.suffix_rfl
  · split
    · exact readRawEnd_suffix _
    · exact readScriptFrom_suffix _ _ _
  · exact List.suffix_rfl

end Token

/-! Line breaks. -/

theorem normalizeFrom_append (done front text : List Char) :
    normalizeFrom (done ++ front) text =
      front.reverse ++ normalizeFrom done text := by
  fun_induction normalizeFrom done text <;> simp_all [normalizeFrom]

/-- A carriage return is read as a line feed, perhaps with the line feed behind
it, and every other character as itself. -/
theorem normalizeFrom_cons (c : Char) (text : List Char) :
    ∃ rest, rest <:+ text ∧ (c ≠ '\r' → rest = text) ∧
      normalizeFrom [] (c :: text) = (if c = '\r' then '\n' else c) ::
        normalizeFrom [] rest := by
  have hpush (first : Char) (rest : List Char) :
      normalizeFrom [first] rest = first :: normalizeFrom [] rest :=
    normalizeFrom_append [] [first] rest
  by_cases hc : c = '\r'
  · subst hc
    cases text with
    | nil => exact ⟨[], List.suffix_rfl, fun _ => rfl, rfl⟩
    | cons d rest =>
      by_cases hd : d = '\n'
      · subst hd
        exact ⟨rest, List.suffix_cons _ _, fun h => absurd rfl h, hpush _ _⟩
      · refine ⟨d :: rest, List.suffix_rfl, fun _ => rfl, ?_⟩
        rw [normalizeFrom, if_pos rfl, hpush]
        exact fun _ h => hd (List.cons_eq_cons.1 h).1
  · refine ⟨text, List.suffix_rfl, fun _ => rfl, ?_⟩
    rw [normalizeFrom, if_neg hc, hpush]
    · exact fun _ h _ => hc h
    · exact hc

/-- Each end of what is read of a text is read of an end of it. -/
theorem exists_suffix_of_normalize {text read : List Char}
    (h : read <:+ normalize text) :
    ∃ source, source <:+ text ∧ normalizeFrom [] source = read := by
  have hfrom (text : List Char) (h : read <:+ normalizeFrom [] text) :
      ∃ source, source <:+ text ∧ normalizeFrom [] source = read := by
    induction hlength : text.length using Nat.strongRecOn generalizing text with
    | ind n ih =>
      cases text with
      | nil => exact ⟨[], List.suffix_rfl, (List.suffix_nil.1 h).symm⟩
      | cons c others =>
        obtain ⟨rest, hrest, -, hcons⟩ := normalizeFrom_cons c others
        rw [hcons, List.suffix_cons_iff, ← hcons] at h
        rcases h with rfl | h
        · exact ⟨c :: others, List.suffix_rfl, rfl⟩
        · have hlt : rest.length < n := by
            rw [← hlength, List.length_cons]
            exact Nat.lt_succ_of_le hrest.length_le
          obtain ⟨source, hsource, hread⟩ := ih _ hlt rest h rfl
          exact ⟨source, suffix_cons_of_suffix (hsource.trans hrest) c, hread⟩
  unfold normalize at h
  split at h
  · next rest =>
    obtain ⟨source, hsource, hread⟩ := hfrom rest h
    exact ⟨source, suffix_cons_of_suffix hsource _, hread⟩
  · exact hfrom text h

/-- A word on one line is read of the same word, and the line feed behind it
perhaps of a carriage return. -/
theorem exists_word_of_normalizeFrom {source word after : List Char} {d : Char}
    (hword : '\n' ∉ word) (h : normalizeFrom [] source = word ++ d :: after) :
    ∃ e rest, source = word ++ e :: rest ∧ (e = d ∨ e = '\r' ∧ d = '\n') := by
  induction word generalizing source with
  | nil =>
    cases source with
    | nil => cases h
    | cons c others =>
      obtain ⟨rest, -, -, hcons⟩ := normalizeFrom_cons c others
      rw [hcons, List.nil_append] at h
      have hd := (List.cons_eq_cons.1 h).1
      refine ⟨c, others, rfl, ?_⟩
      split at hd
      · next hc => exact .inr ⟨hc, hd.symm⟩
      · exact .inl hd
  | cons first word ih =>
    rw [List.mem_cons, not_or] at hword
    cases source with
    | nil => cases h
    | cons c others =>
      obtain ⟨rest, -, hrest, hcons⟩ := normalizeFrom_cons c others
      rw [hcons, List.cons_append] at h
      obtain ⟨hfirst, h⟩ := List.cons_eq_cons.1 h
      split at hfirst
      · exact absurd hfirst hword.1
      · next hc =>
        rw [hrest hc] at h
        obtain ⟨e, behind, rfl, he⟩ := ih hword.2 h
        exact ⟨e, behind, by rw [hfirst, List.cons_append], he⟩

end HtmlBuilder.Markup
