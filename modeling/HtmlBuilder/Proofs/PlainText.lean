import HtmlBuilder.Command.Run
import HtmlBuilder.Proofs.Files
import HtmlBuilder.Proofs.Layout
import HtmlBuilder.Proofs.Markup.Prose
import HtmlBuilder.Proofs.Markup.Shape

/-!
Plain text through the whole command. A text without an opening bracket has no
markup, so a run that converts only markup hands it on as it is, to the standard
output or to a file that then reads as that text. A run that converts it writes
at most one literal.
-/

namespace HtmlBuilder

open Markup

/-! Texts without an opening bracket. -/

theorem startsBodyTag_bracket {text : List Char}
    (h : startsBodyTag text = true) :
    ∃ c rest, text = '<' :: c :: rest ∧ c.toLower = 'b' := by
  rw [startsBodyTag, Bool.and_eq_true, beq_iff_eq,
    show "<body".toList = ['<', 'b', 'o', 'd', 'y'] by simp] at h
  match text, h.1 with
  | first :: c :: rest, hname =>
    simp only [List.take_succ_cons, List.map_cons] at hname
    obtain ⟨hfirst, hname⟩ := List.cons_eq_cons.1 hname
    obtain ⟨hc, -⟩ := List.cons_eq_cons.1 hname
    -- A capital letter would have become a small one, not a bracket.
    have hupper : first.isUpper = false := by
      rw [Bool.eq_false_iff]
      intro hupper
      have halpha : first.isAlpha = true := by
        show (first.isUpper || first.isLower) = true
        rw [hupper, Bool.true_or]
      have hletter := isAlpha_toLower halpha
      rw [← hfirst] at hletter
      exact absurd hletter (by decide)
    rw [toLower_eq_self hupper] at hfirst
    exact ⟨c, rest, by rw [hfirst], hc.symm⟩

/-- No start tag of a body begins where there is no bracket. -/
theorem containsBodyTag_append {text : List Char} (htext : '<' ∉ text)
    (rest : List Char) :
    containsBodyTag (text ++ rest) = containsBodyTag rest := by
  induction text with
  | nil => rfl
  | cons c text ih =>
    rw [List.mem_cons, not_or] at htext
    have hstart : startsBodyTag (c :: (text ++ rest)) = false := by
      rw [Bool.eq_false_iff]
      intro hstart
      obtain ⟨_, _, hcons, -⟩ := startsBodyTag_bracket hstart
      exact htext.1 (List.cons_eq_cons.1 hcons).1.symm
    rw [List.cons_append, containsBodyTag, hstart, Bool.false_or, ih htext.2]

theorem containsBodyTag_bracket {c : Char} (hc : c.toLower ≠ 'b')
    (rest : List Char) :
    containsBodyTag ('<' :: c :: rest) = containsBodyTag (c :: rest) := by
  have hstart : startsBodyTag ('<' :: c :: rest) = false := by
    rw [Bool.eq_false_iff]
    intro hstart
    obtain ⟨d, _, hcons, hd⟩ := startsBodyTag_bracket hstart
    obtain rfl : c = d := (List.cons_eq_cons.1 (List.cons_eq_cons.1 hcons).2).1
    exact hc hd
  rw [containsBodyTag, hstart, Bool.false_or]

theorem hasBodyTag_prose {text : String} (htext : '<' ∉ text.toList) :
    hasBodyTag text = false := by
  rw [hasBodyTag, ← List.append_nil text.toList, containsBodyTag_append htext,
    containsBodyTag]

/-- A text without an opening bracket is nothing or one text node, of which the
value is what is seen of it. -/
theorem parseFragment_prose {text : String} (htext : '<' ∉ text.toList) :
    parseFragment text =
      match proseText (normalize text.toList) with
      | [] => []
      | seen => [Node.text (String.ofList seen)] := by
  rw [parseFragment_eq, Dom.parseFragment_prose htext]
  cases proseText (normalize text.toList) <;> rfl

theorem containsMarkup_prose {text : String} (htext : '<' ∉ text.toList) :
    containsMarkup text = false := by
  rw [containsMarkup, hasBodyTag_prose htext, parseFragment_prose htext]
  cases proseText (normalize text.toList) <;> rfl

theorem Converter.convertNodes_text (converter : Converter) (value : String) :
    converter.convertNodes [Node.text value] =
      converter.textLiteral 0 value := by
  have hvalue : (Node.text value).value = value := rfl
  have hchildren : (Node.text value).children = [] := rfl
  rw [convertNodes_eq, textLiteral_eq_layout]
  simp [forestLines, treeLines_eq, openingLines, closingLines,
    hvalue, hchildren]

theorem Converter.convert_prose (converter : Converter) {text : String}
    (htext : '<' ∉ text.toList) :
    converter.convert text =
      match proseText (normalize text.toList) with
      | [] => ""
      | seen => converter.textLiteral 0 (String.ofList seen) := by
  rw [convert, hasBodyTag_prose htext, if_neg Bool.false_ne_true,
    parseFragment_prose htext]
  cases proseText (normalize text.toList) with
  | nil => rfl
  | cons first rest => exact converter.convertNodes_text _

theorem Converter.convert_blank (converter : Converter) {text : String}
    (hblank : ∀ c ∈ text.toList, Text.isBlank c = true) :
    converter.convert text = "" := by
  have hne : ∀ c, Text.isBlank c = true → c ≠ '<' ∧ c ≠ '&' ∧ c ≠ '\x00' := by
    rintro c hc
    refine ⟨?_, ?_, ?_⟩ <;> (rintro rfl; cases hc)
  have htext : '<' ∉ text.toList := fun hmem => (hne _ (hblank _ hmem)).1 rfl
  have hread : ∀ c ∈ normalize text.toList, Text.isBlank c = true :=
    forall_mem_normalize (p := (Text.isBlank · = true)) rfl hblank
  rw [converter.convert_prose htext, proseText_eq_of_ne fun c hc =>
    hne c (hread c hc)]
  split
  · rfl
  · rw [textLiteral_eq_layout, valueLines, String.toList_ofList,
      (Text.trimLines_eq_nil_iff _ _).2 hread]
    exact converter.layout_nil 0

namespace Command

/-- A text without markup is handed on as it is if only markup is to be
converted. -/
theorem resultOf_eq_self {settings : Settings} {text : String}
    (hmarkup : containsMarkup text = false)
    (honly : settings.onlyMarkup = true) :
    resultOf settings text = text := by
  rw [resultOf, hmarkup, honly]
  rfl

/-- A run that is no check converts what it reads with the settings that it
loads. -/
theorem run_eq_writeResult {arguments : List String} {stdin : ByteArray}
    {files : FileTree}
    {invocation : Invocation} {settings : Settings} {input : String}
    (hparse : Invocation.parse arguments = .ok invocation)
    (hcheck : invocation.check = false)
    (hinput : readInput invocation stdin files = .ok input)
    (hsettings : invocation.loader.build files = .ok settings) :
    run arguments stdin files =
      writeResult invocation files (resultOf settings input) := by
  rw [run, hparse]
  simp only [execute, hinput, hcheck, hsettings]
  rfl

end Command

open Command in
/-- A text without an opening bracket is not taken for markup: it is read as
nothing or as one text, written as at most one literal, which is nothing if all
of it is white space, and left unchanged by every run that is no check and
converts only markup. Such a run writes it to the standard output or to the file
that it is to write, which then reads as this text. -/
theorem prose_isNotMarkup (text : String) (htext : '<' ∉ text.toList) :
    (parseFragment text = [] ∨ ∃ value,
      parseFragment text = [Node.text value]) ∧
    containsMarkup text = false ∧
    (∀ converter : Converter,
      parseFragment text = [] ∧ converter.convert text = "" ∨
        ∃ value, parseFragment text = [Node.text value] ∧
          converter.convert text = converter.textLiteral 0 value) ∧
    ((∀ c ∈ text.toList, Text.isBlank c = true) →
      ∀ converter : Converter, converter.convert text = "") ∧
    ∀ (arguments : List String) (stdin : ByteArray) (files : FileTree)
      (invocation : Invocation) (settings : Settings),
      Invocation.parse arguments = .ok invocation → invocation.check = false →
      readInput invocation stdin files = .ok text →
      invocation.loader.build files = .ok settings →
      settings.onlyMarkup = true →
      (invocation.output? = none →
        run arguments stdin files = .ok ⟨text, files⟩) ∧
      ∀ path, invocation.output? = some path →
        (files.write? path text = none ∧
          run arguments stdin files = .error (.output path)) ∨
          ∃ after, files.write? path text = some after ∧
          after.read path = .ok text ∧
            run arguments stdin files = .ok ⟨"", after⟩ := by
  have hmarkup := containsMarkup_prose htext
  refine ⟨?_, hmarkup, ?_, fun hblank converter =>
    converter.convert_blank hblank, ?_⟩
  · rw [parseFragment_prose htext]
    cases proseText (normalize text.toList) with
    | nil => exact .inl rfl
    | cons first rest => exact .inr ⟨_, rfl⟩
  · intro converter
    rw [converter.convert_prose htext, parseFragment_prose htext]
    cases proseText (normalize text.toList) with
    | nil => exact .inl ⟨rfl, rfl⟩
    | cons first rest => exact .inr ⟨_, rfl, rfl⟩
  · intro arguments stdin files invocation settings hparse hcheck hinput
      hsettings honly
    rw [run_eq_writeResult hparse hcheck hinput hsettings,
      resultOf_eq_self hmarkup honly]
    refine ⟨fun houtput => ?_, fun path houtput => ?_⟩
    · rw [writeResult, houtput]
    · rw [writeResult, houtput]
      cases hwrite : files.write? path text with
      | none => exact .inl ⟨rfl, by simp only [hwrite]⟩
      | some after =>
        exact .inr ⟨after, rfl,
          FileTree.read_of_write? hwrite, by simp only [hwrite]⟩

open Command in
theorem prose_isNotMarkup_copy :
    (∀ converter : Converter, converter.convert " \r\n" = "") ∧
      run [] "fish &lt; chips".toUTF8 {} = .ok ⟨"fish &lt; chips", {}⟩ ∧
      ∃ after, run ["-o", "copy"] "fish &lt; chips".toUTF8 {} =
        .ok ⟨"", after⟩ ∧
        after.read "copy" = .ok "fish &lt; chips" := by
  have hblank := (prose_isNotMarkup " \r\n" (by simp)).2.2.2.1
    (by simp [Text.isBlank])
  have hprose := (prose_isNotMarkup "fish &lt; chips" (by simp)).2.2.2.2
  have hread (invocation : Invocation) (hinput : invocation.input? = none) :
      readInput invocation "fish &lt; chips".toUTF8 {} =
        .ok "fish &lt; chips" := by
    rw [readInput, hinput, FileTree.decode_toUTF8]
  have hstdout :=
    (hprose [] "fish &lt; chips".toUTF8 {} {}
      {} rfl rfl (hread _ rfl) rfl rfl).1 rfl
  have hcopy :=
    (hprose ["-o", "copy"] "fish &lt; chips".toUTF8 {}
      { output? := some "copy" } {}
    rfl rfl (hread _ rfl) rfl rfl).2 "copy" rfl
  refine ⟨hblank, hstdout, ?_⟩
  rcases hcopy with ⟨hwrite, -⟩ | ⟨after, -, hafter, hrun⟩
  · cases hwrite
  · exact ⟨after, hrun, hafter⟩

end HtmlBuilder
