import HtmlBuilder.Markup.Document
import HtmlBuilder.Proofs.Markup.Remainder

/-!
Start tags of a body, as they are searched in a text and as they are read from
it. The search takes no notice of what surrounds the tag, so it finds a tag
wherever one is read, in a document or in the content of a body, and whatever
has been read before. What has to agree is where the name of the tag ends: it is
read up to a white space, a slash or the closing bracket, but searched without
the slash.
-/

namespace HtmlBuilder

namespace Markup

/-! The reading steps of a text. -/

namespace Construction

/-- The reading steps of a text: the text from each step on, and the tokens that
are read there. How the text is read depends on the tokens before, which are
handled first. -/
def readings (s : Construction) (text : List Char) :
    List (List Char × List Token) :=
  match text with
  | [] => []
  | c :: rest =>
    let read := Token.read s.contentMode c rest
    have := Token.read_length s.contentMode c rest
    (c :: rest, read.1) :: readings (read.1.foldl handle s) read.2
termination_by text.length
decreasing_by
  simp only [List.length_cons]
  omega

/-- Reading a text is handling the tokens of its reading steps and the end of
the text. -/
theorem run_eq_foldl_readings (s : Construction) (text : List Char) :
    s.run text =
      (((s.readings text).flatMap Prod.snd).foldl handle s).handle .finish := by
  fun_induction run s text with
  | case1 s => rw [readings, List.flatMap_nil, List.foldl_nil]
  | case2 s c rest read _ ih =>
    rw [readings, List.flatMap_cons, List.foldl_append]
    exact ih

theorem exists_read_of_mem_readings {s : Construction} {text input : List Char}
    {tokens : List Token} (h : (input, tokens) ∈ s.readings text) :
    input <:+ text ∧ ∃ mode c rest, input = c :: rest ∧
    tokens = (Token.read mode c rest).1 := by
  fun_induction readings s text with
  | case1 => cases h
  | case2 s c rest read _ ih =>
    rcases List.mem_cons.1 h with h | h
    · cases h
      exact ⟨List.suffix_rfl, _, _, _, rfl, rfl⟩
    · obtain ⟨hsuffix, hread⟩ := ih h
      exact ⟨suffix_cons_of_suffix
        (hsuffix.trans (Token.read_suffix _ c rest)) c, hread⟩

end Construction

/-! A start tag as it is written. -/

namespace Token

variable {tag : Tag}

theorem startTag_notMem_readReferenceTokens (rest : List Char) :
    .startTag tag ∉ (readReferenceTokens rest).1 := by
  unfold readReferenceTokens
  split
  · simp
  · dsimp only
    split <;> simp

theorem startTag_notMem_readEndTag (c : Char) (h : c.isAlpha = true)
    (rest : List Char) :
    .startTag tag ∉ (readEndTag c h rest).1 := by
  unfold readEndTag
  split <;> simp

theorem startTag_notMem_readRawEnd (input : List Char) :
    .startTag tag ∉ (readRawEnd input).1 := by
  unfold readRawEnd
  split
  · split
    · exact startTag_notMem_readEndTag _ _ _
    · simp
  · simp

theorem startTag_notMem_readMalformed (input : List Char) :
    .startTag tag ∉ (readMalformed input).1 := by
  simp [readMalformed]

theorem startTag_notMem_readClosing (input : List Char) :
    .startTag tag ∉ (readClosing input).1 := by
  unfold readClosing
  split
  · simp
  · simp
  · split
    · exact startTag_notMem_readEndTag _ _ _
    · exact startTag_notMem_readMalformed _

theorem startTag_notMem_readDeclaration (foreign : Bool) (input : List Char) :
    .startTag tag ∉ (readDeclaration foreign input).1 := by
  unfold readDeclaration
  split
  · simp
  · split
    · simp
    · split
      · simp
      · exact startTag_notMem_readMalformed _

theorem exists_readTag_of_mem_read {mode : ContentMode} {c : Char}
    {rest : List Char} (h : .startTag tag ∈ (read mode c rest).1) :
    c = '<' ∧ ∃ (first : Char) (hfirst : first.isAlpha = true)
      (written after : List Char),
      rest = first :: written ∧ readTag first hfirst written =
        some (tag, after) := by
  unfold read at h
  split at h
  · split at h
    · next hc =>
      refine ⟨hc, ?_⟩
      unfold readBracket at h
      split at h
      · exact absurd h (startTag_notMem_readDeclaration _ _)
      · exact absurd h (startTag_notMem_readClosing _)
      · exact absurd h (startTag_notMem_readMalformed _)
      · next first written _ _ _ =>
        split at h
        · next hfirst =>
          unfold readStartTag at h
          split at h
          · cases h
          · next read after hread =>
            obtain rfl : tag = read := by simpa using h
            exact ⟨first, hfirst, written, after, rfl, hread⟩
        · simp at h
      · simp at h
    · split at h
      · exact absurd h (startTag_notMem_readReferenceTokens _)
      · simp at h
  · split at h
    · exact absurd h (startTag_notMem_readRawEnd _)
    · split at h
      · exact absurd h (startTag_notMem_readReferenceTokens _)
      · simp [rawCharacter] at h
  · split at h
    · exact absurd h (startTag_notMem_readRawEnd _)
    · simp [rawCharacter] at h
  · split at h
    · exact absurd h (startTag_notMem_readRawEnd _)
    · simp [rawCharacter] at h
  · simp [rawCharacter] at h

end Token

/-- The name of a tag is written from its first letter up to a character at
which names end. A tag that the text ends in is none, so there is such a
character. -/
theorem exists_name_of_readTag {c : Char} {hc : c.isAlpha = true}
    {input rest : List Char} {tag : Tag}
    (h : readTag c hc input = some (tag, rest)) :
    ∃ name d after, input = name ++ d :: after ∧ endsName d = true ∧
      tag.name = TagName.read c hc name := by
  simp only [readTag] at h
  have hsplit :=
    List.takeWhile_append_dropWhile (p := fun c => !endsName c) (l := input)
  cases hrest : input.dropWhile fun c => !endsName c with
  | nil =>
    rw [hrest, readAttributes] at h
    cases h
  | cons d after =>
    have hd := List.head?_dropWhile_not (fun c => !endsName c) input
    rw [hrest] at hsplit hd
    refine ⟨_, d, after, hsplit.symm, by simpa using hd, ?_⟩
    split at h
    · cases h
    · cases h
      rfl

theorem toLower_eq_nameCharacter {c : Char} (h : nameCharacter c ≠ '\ufffd') :
    c.toLower = nameCharacter c := by
  unfold nameCharacter at h ⊢
  split
  · next hc => exact absurd (if_pos hc) h
  · rfl

theorem map_toLower_eq_of_read_eq {c : Char} {hc : c.isAlpha = true}
    {name : List Char}
    {tagName : TagName} (h : TagName.read c hc name = tagName)
    (hplain : '\ufffd' ∉ tagName.text.toList) :
    (c :: name).map Char.toLower = tagName.text.toList := by
  subst h
  simp only [TagName.read, String.toList_ofList] at hplain ⊢
  rw [← List.map_cons] at hplain ⊢
  exact List.map_congr_left fun e he =>
    toLower_eq_nameCharacter fun heq => hplain (heq ▸ List.mem_map_of_mem he)

end Markup

open Markup

/-! The search for a start tag. -/

theorem length_eq_of_map_toLower {name : List Char}
    (h : name.map Char.toLower = "body".toList) :
    name.length = 4 := by
  rw [← List.length_map, h]
  rfl

theorem startsBodyTag_name {name after : List Char} {d : Char}
    (hname : name.map Char.toLower = "body".toList)
    (hd : (Text.isBlank d || d == '>') = true) :
    startsBodyTag ('<' :: (name ++ d :: after)) = true := by
  have hlength := length_eq_of_map_toLower hname
  have htake : ('<' :: (name ++ d :: after)).take 5 = '<' :: name := by
    rw [List.take_succ_cons, List.take_left' hlength]
  have hdrop : ('<' :: (name ++ d :: after)).drop 5 = d :: after := by
    rw [List.drop_succ_cons, List.drop_left' hlength]
  rw [startsBodyTag, htake, hdrop, List.map_cons, hname]
  simpa using hd

theorem containsBodyTag_of_suffix {text rest : List Char}
    (hsuffix : rest <:+ text)
    (hrest : startsBodyTag rest = true) : containsBodyTag text = true := by
  induction text with
  | nil =>
    rw [List.suffix_nil.1 hsuffix] at hrest
    cases hrest
  | cons c text ih =>
    rw [containsBodyTag, Bool.or_eq_true]
    exact (List.suffix_cons_iff.1 hsuffix).imp
      (fun heq : rest = c :: text => heq ▸ hrest) ih

/-- A tag of which the name ends at a white space or the closing bracket is
found, also where it has a carriage return in the place of the line feed that is
read. -/
theorem hasBodyTag_of_suffix_normalize {text : String}
    {name after : List Char} {d : Char}
    (hsuffix : '<' :: (name ++ d :: after) <:+ normalize text.toList)
    (hname : name.map Char.toLower = "body".toList)
    (hd : isSpace d = true ∨ d = '>') :
    hasBodyTag text = true := by
  obtain ⟨source, hsource, hread⟩ := exists_suffix_of_normalize hsuffix
  have hword : '\n' ∉ '<' :: name := by
    intro hmem
    have hmem := List.mem_map_of_mem (f := Char.toLower) hmem
    rw [List.map_cons, hname] at hmem
    exact absurd hmem (by decide)
  obtain ⟨e, rest, rfl, he⟩ := exists_word_of_normalizeFrom hword hread
  refine containsBodyTag_of_suffix hsource (startsBodyTag_name hname ?_)
  rcases he with rfl | ⟨rfl, -⟩
  · rcases hd with hd | rfl
    · simp only [isSpace, Bool.or_eq_true, beq_iff_eq] at hd
      rcases hd with ((rfl | rfl) | rfl) | rfl <;> rfl
    · rfl
  · rfl

/-- A text in which a start tag of a body is found is converted as its head and
its body. -/
theorem Converter.convert_document (converter : Converter) {text : String}
    (h : hasBodyTag text = true) :
    converter.convert text =
      converter.convertNodes [(parseDocument text).head,
        (parseDocument text).body] := by
  rw [convert, if_pos h]

/-- Wherever a start tag of a body is read, in a document, in the content of a
body or from any other state, the text there is an opening bracket, the name in
letters of either case and a character at which names end. Unless this character
is a slash, the search finds the tag, and the text is converted as a
document. -/
theorem document_of_startTag_body (s : Construction) (text : String)
    (input : List Char) (tokens : List Token) (tag : Tag)
    (hread : (input, tokens) ∈ s.readings (normalize text.toList))
    (htag : .startTag tag ∈ tokens) (hbody : tag.name = .body) :
    ∃ name d after, input = '<' :: (name ++ d :: after) ∧
      name.map Char.toLower = "body".toList ∧
      (isSpace d = true ∨ d = '/' ∨ d = '>') ∧
      (d ≠ '/' → hasBodyTag text = true ∧ ∀ converter : Converter,
        converter.convert text =
          converter.convertNodes [(parseDocument text).head,
            (parseDocument text).body]) := by
  obtain ⟨hsuffix, mode, c, rest, rfl, rfl⟩ :=
    Construction.exists_read_of_mem_readings hread
  obtain ⟨rfl, first, hfirst, written, behind, rfl, hwritten⟩ :=
    Token.exists_readTag_of_mem_read htag
  obtain ⟨name, d, after, rfl, hd, hname⟩ := exists_name_of_readTag hwritten
  rw [hbody] at hname
  have hname := map_toLower_eq_of_read_eq hname.symm (by decide)
  have hd : isSpace d = true ∨ d = '/' ∨ d = '>' := by
    simpa [endsName, or_assoc] using hd
  refine ⟨first :: name, d, after, rfl, hname, hd, fun hslash => ?_⟩
  have hfound : hasBodyTag text = true :=
    hasBodyTag_of_suffix_normalize hsuffix hname
      (hd.imp_right fun h => h.resolve_left hslash)
  exact ⟨hfound, fun converter => converter.convert_document hfound⟩

theorem document_of_startTag_body_break :
    ("<BODY\nclass=x>".toList, [.startTag ⟨.body, [("class", "x")], false⟩]) ∈
        Construction.startFragment.readings
          (normalize "<i><BODY\r\nclass=x>".toList) ∧
    hasBodyTag "<i><BODY\r\nclass=x>" = true ∧
    ∀ converter : Converter, converter.convert "<i><BODY\r\nclass=x>" =
      converter.convertNodes [(parseDocument "<i><BODY\r\nclass=x>").head,
        (parseDocument "<i><BODY\r\nclass=x>").body] := by
  have hread : ("<BODY\nclass=x>".toList,
      [.startTag ⟨.body, [("class", "x")], false⟩]) ∈
      Construction.startFragment.readings
        (normalize "<i><BODY\r\nclass=x>".toList) := by
    decide +kernel
  obtain ⟨name, d, after, hinput, hname, -, hfound⟩ :=
    document_of_startTag_body _ _ _ _ _ hread (List.mem_singleton_self _) rfl
  have hlength := length_eq_of_map_toLower hname
  have hbreak : '\n' = d := by
    have hbehind := congrArg (List.head? ∘ List.drop 5) hinput
    simpa [List.drop_left' hlength] using hbehind
  exact ⟨hread, hfound (hbreak ▸ by decide)⟩

/-- A slash ends the name of a tag, but not that of a tag that is searched, so a
tag with a slash behind its name is lost with its attributes. -/
theorem startTag_body_slash_isMissed :
    (∃ tokens, ("<body/class=x>hi".toList, tokens) ∈
        Construction.startFragment.readings
          (normalize "<body/class=x>hi".toList) ∧
      .startTag ⟨.body, [("class", "x")], false⟩ ∈ tokens) ∧
    (∃ tokens, ("<body/class=x>hi".toList, tokens) ∈
        Construction.startDocument.readings
          (normalize "<body/class=x>hi".toList) ∧
      .startTag ⟨.body, [("class", "x")], false⟩ ∈ tokens) ∧
    hasBodyTag "<body/class=x>hi" = false ∧
    ({} : Converter).convert "<body/class=x>hi" = "+\"hi\"\n" ∧
    ({} : Converter).convert "<body class=x>hi" =
      "head\nbody(c = x) \x7b\n\t+\"hi\"\n\x7d\n" := by
  refine ⟨
    ⟨[.startTag ⟨.body, [("class", "x")], false⟩], by decide +kernel, by simp⟩,
    ⟨[.startTag ⟨.body, [("class", "x")], false⟩], by decide +kernel, by simp⟩,
    ?_, ?_, ?_⟩ <;>
  decide +kernel

end HtmlBuilder
