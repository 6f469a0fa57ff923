import HtmlBuilder.Text.Literal

/-!
Reading literals. A reader takes the character behind a backslash as it is, ends
at the first quote without a backslash and gives up at a dollar sign without
one, since an interpolation would start there. It reads every escaped text back:
it goes through all of it, whatever backslashes and quotes the text has and
whatever follows, and stands right behind the closing quote.
-/

namespace HtmlBuilder.Text

/-- Reads the inside of a literal up to its closing quote: the text that it
stands for and what follows the quote. -/
def readLiteral : List Char → Option (List Char × List Char)
  | [] => none
  | ['\\'] => none
  | '\\' :: c :: rest => (readLiteral rest).map fun (text, rest) =>
    (c :: text, rest)
  | c :: rest =>
    if c = '"' then some ([], rest)
    else if c = '$' then none
    else (readLiteral rest).map fun (text, rest) => (c :: text, rest)

/-! The way of a reader through a literal. -/

inductive LiteralEnd where
  | quote
  | interpolation
  /-- The text ends inside the literal. -/
  | unfinished
deriving DecidableEq

structure LiteralReading where
  /-- The characters that it goes through, the one at which it ends included. -/
  consumed : List Char
  /-- The text that these stand for. -/
  text : List Char
  ending : LiteralEnd
  rest : List Char
deriving DecidableEq

namespace LiteralReading

def behind (reading : LiteralReading) (consumed text : List Char) :
    LiteralReading :=
  { reading with
    consumed := consumed ++ reading.consumed, text := text ++ reading.text }

theorem behind_behind (reading : LiteralReading)
    (consumed consumed' text text' : List Char) :
    (reading.behind consumed' text').behind consumed text =
      reading.behind (consumed ++ consumed') (text ++ text') := by
  simp [behind]

def closed? (reading : LiteralReading) : Option (List Char × List Char) :=
  if reading.ending = .quote then some (reading.text, reading.rest) else none

theorem closed?_behind (reading : LiteralReading) (consumed text : List Char) :
    (reading.behind consumed text).closed? =
      reading.closed?.map fun (inside, rest) => (text ++ inside, rest) := by
  unfold closed? behind
  split <;> rfl

end LiteralReading

/-- Reads the inside of a literal to its end; `escaped` says whether the reader
stands behind a backslash, which takes the next character as it is. -/
def readInside (escaped : Bool) : List Char → LiteralReading
  | [] => ⟨[], [], .unfinished, []⟩
  | c :: rest =>
    if escaped then (readInside false rest).behind [c] [c]
    else if c = '\\' then (readInside true rest).behind [c] []
    else if c = '"' then ⟨[c], [], .quote, rest⟩
    else if c = '$' then ⟨[c], [], .interpolation, rest⟩
    else (readInside false rest).behind [c] [c]

theorem readInside_backslash (c : Char) (rest : List Char) :
    readInside false ('\\' :: c :: rest) =
      (readInside false rest).behind ['\\', c] [c] := by
  rw [readInside, if_neg Bool.false_ne_true, if_pos rfl, readInside, if_pos rfl,
    LiteralReading.behind_behind]
  rfl

theorem readInside_plain {c : Char} (hslash : c ≠ '\\') (hquote : c ≠ '"')
    (hdollar : c ≠ '$') (rest : List Char) :
    readInside false (c :: rest) = (readInside false rest).behind [c] [c] := by
  rw [readInside, if_neg Bool.false_ne_true, if_neg hslash, if_neg hquote,
    if_neg hdollar]

theorem readInside_quote (rest : List Char) :
    readInside false ('"' :: rest) = ⟨['"'], [], .quote, rest⟩ := rfl

/-- The reader that gives up at an interpolation finds the literals that are
closed. -/
theorem readLiteral_eq (input : List Char) :
    readLiteral input = (readInside false input).closed? := by
  fun_induction readLiteral input with
  | case1 => rfl
  | case2 => rfl
  | case3 c rest ih =>
    rw [readInside_backslash, LiteralReading.closed?_behind, ih]
    rfl
  | case4 rest => rfl
  | case5 rest => rfl
  | case6 c rest hlast hslash hquote hdollar ih =>
    have hslash : c ≠ '\\' := by
      intro hc
      cases rest with
      | nil => exact hlast hc rfl
      | cons next rest => exact hslash next rest hc rfl
    rw [readInside_plain hslash hquote hdollar,
      LiteralReading.closed?_behind, ih]
    rfl

/-- Wherever a reader is inside of a literal, it goes through an escaped text
without an end and is inside of the literal again. -/
theorem readInside_escape (text rest : List Char) :
    readInside false (escape text ++ rest) =
      (readInside false rest).behind (escape text) text := by
  induction text with
  | nil => rfl
  | cons c text ih =>
    rw [escape_cons, List.append_assoc]
    by_cases hc : isSpecial c = true
    · -- The backslash in front of a special character takes its meaning away.
      rw [if_pos hc, List.cons_append, List.singleton_append,
        readInside_backslash, ih, LiteralReading.behind_behind]
      rfl
    · have hplain : c ≠ '\\' ∧ c ≠ '"' ∧ c ≠ '$' := by
        simpa [isSpecial, and_assoc] using hc
      obtain ⟨hslash, hquote, hdollar⟩ := hplain
      rw [if_neg hc, List.singleton_append,
        readInside_plain hslash hquote hdollar, ih,
        LiteralReading.behind_behind]
      rfl

/-- The reader takes an escaped text and the quote behind it, and nothing
else. -/
theorem readLiteral_escape (text rest : List Char) :
    readLiteral (escape text ++ '"' :: rest) = some (text, rest) := by
  rw [readLiteral_eq, readInside_escape, LiteralReading.closed?_behind,
    readInside_quote]
  simp [LiteralReading.closed?]

theorem escape_injective {a b : List Char} (h : escape a = escape b) :
    a = b := by
  have hread := readLiteral_escape a []
  rw [h, readLiteral_escape] at hread
  simpa using hread.symm

/-- Literals are exact. A reader that stands behind the opening quote goes
through the escaped text and the closing quote, meets no interpolation on its
way, finds the text itself and leaves what follows as it is. So what is written
inside and behind a literal is told by its characters, and different texts are
written differently. -/
theorem readInside_escape_quote (text rest : List Char) :
    readInside false (escape text ++ '"' :: rest) =
        { consumed := escape text ++ ['"'], text := text, ending := .quote,
          rest := rest } ∧
      (∀ text' rest',
        escape text ++ '"' :: rest = escape text' ++ '"' :: rest' ↔
        text = text' ∧ rest = rest') ∧
      Function.Injective escape := by
  refine ⟨?_, ?_, ?_⟩
  · rw [readInside_escape, readInside_quote]
    simp [LiteralReading.behind]
  · intro text' rest'
    constructor
    · intro h
      have hread := readLiteral_escape text rest
      rw [h, readLiteral_escape, Option.some_inj, Prod.mk.injEq] at hread
      exact ⟨hread.1.symm, hread.2.symm⟩
    · rintro ⟨rfl, rfl⟩
      rfl
  · intro a b h
    exact escape_injective h

/-- A text that ends in a backslash, with a quote that has one in front of
it. -/
example : readInside false (escape ['\\', '"', '\\'] ++ ['"', '$']) =
    ⟨['\\', '\\', '\\', '"', '\\', '\\', '"'], ['\\', '"', '\\'], .quote,
      ['$']⟩ := rfl

theorem notMem_escape {c : Char} (hc : c ≠ '\\') {text : List Char}
    (htext : c ∉ text) :
    c ∉ escape text := by
  intro hmem
  obtain ⟨d, hd, hcd⟩ := List.mem_flatMap.1 hmem
  have hne : c ≠ d := fun h => htext (h ▸ hd)
  split at hcd <;> simp [hc, hne] at hcd

theorem mem_escape_iff {c : Char} (hc : c ≠ '\\') (text : List Char) :
    c ∈ escape text ↔ c ∈ text := by
  refine ⟨fun hescape => ?_, fun htext => List.mem_flatMap.2 ⟨c, htext, ?_⟩⟩
  · exact Decidable.byContradiction fun htext => notMem_escape hc htext hescape
  · split <;> simp

end HtmlBuilder.Text
