import HtmlBuilder.Markup.NamedReference

/-!
Character references: an ampersand followed by a number or a name. The longest
known name wins. A name without its semicolon is not taken as a reference in an
attribute value where a letter, a digit or an equals sign follows it.
-/

namespace HtmlBuilder.Markup

structure Reference where
  text : List Char
  /-- Whether the reference ends with its semicolon. -/
  closed : Bool
  rest : List Char

def replacement : Char := '\ufffd'

/-- The characters that the numbers from 128 to 159 stand for in the older
encodings, 0 where there is none. -/
def legacyCharacters : List Nat := [
  0x20AC, 0, 0x201A, 0x0192, 0x201E, 0x2026, 0x2020, 0x2021,
  0x02C6, 0x2030, 0x0160, 0x2039, 0x0152, 0, 0x017D, 0,
  0, 0x2018, 0x2019, 0x201C, 0x201D, 0x2022, 0x2013, 0x2014,
  0x02DC, 0x2122, 0x0161, 0x203A, 0x0153, 0, 0x017E, 0x0178]

def referenceCharacter (n : Nat) : Char :=
  if n = 0 then replacement
  else if h : n.isValidChar then
    match legacyCharacters[n - 0x80]? with
    | some m => if n < 0x80 || m = 0 then Char.ofNatAux n h else Char.ofNat m
    | none => Char.ofNatAux n h
  else replacement

def decimalValue (digits : List Char) : Nat :=
  digits.foldl
    (fun value c => min 0x110000 (value * 10 + (c.toNat - '0'.toNat))) 0

def isHexadecimalDigit (c : Char) : Bool :=
  c.isDigit || ('a' ≤ c && c ≤ 'f') || ('A' ≤ c && c ≤ 'F')

/-- A reference by number, after the number sign and, for a hexadecimal one, the
letter x. -/
def readNumbered (digits rest : List Char) (value : Nat) : Option Reference :=
  if digits.isEmpty then none
  else
    let text := [referenceCharacter value]
    match rest with
    | ';' :: rest => some ⟨text, true, rest⟩
    | rest => some ⟨text, false, rest⟩

/-- The longest known name among the first characters of a text, at most
`length` of them. -/
def longestName? (input : List Char) : Nat → Option (Nat × List Char)
  | 0 => none
  | length + 1 =>
    match namedReferences[String.ofList (input.take (length + 1))]? with
    | some text => some (length + 1, text)
    | none => longestName? input length

def maxNameLength : Nat := 33

/-- The length of the run of letters and digits at the start of a text, with a
semicolon after it. -/
def nameLength (input : List Char) : Nat :=
  let run := (input.take maxNameLength).takeWhile Char.isAlphanum
  if (input.drop run.length).head? = some ';' then run.length + 1
  else run.length

/-- Whether a name without a semicolon is left as it stands, given what follows
it in an attribute value. -/
def continuesAsText (following : List Char) : Bool :=
  match following with
  | c :: _ => c == '=' || c.isAlphanum
  | [] => false

def readNamed (inAttribute : Bool) (input : List Char) : Option Reference :=
  match longestName? input (nameLength input) with
  | none => none
  | some (length, text) =>
    let rest := input.drop length
    if (input.take length).getLast? = some ';' then some ⟨text, true, rest⟩
    else if inAttribute && continuesAsText rest then none
    else some ⟨text, false, rest⟩

/-- Reads the reference that follows an ampersand; without one the ampersand
stands for itself. -/
def readReference (inAttribute : Bool) (input : List Char) : Option Reference :=
  match input with
  | '#' :: 'x' :: digits | '#' :: 'X' :: digits =>
    let number := digits.takeWhile isHexadecimalDigit
    readNumbered number (digits.dropWhile isHexadecimalDigit)
      (number.foldl
        (fun value c => min 0x110000 (value * 16 + hexadecimalValue [c])) 0)
  | '#' :: digits =>
    let number := digits.takeWhile Char.isDigit
    readNumbered number (digits.dropWhile Char.isDigit) (decimalValue number)
  | c :: _ => if c.isAlphanum then readNamed inAttribute input else none
  | [] => none

theorem readNumbered_length {digits rest : List Char} {value : Nat}
    {r : Reference} (h : readNumbered digits rest value = some r) :
    r.rest.length ≤ rest.length := by
  unfold readNumbered at h
  split at h
  · cases h
  · split at h
    · cases h; simp
    · cases h; simp

theorem readNamed_length {inAttribute : Bool} {input : List Char}
    {r : Reference} (h : readNamed inAttribute input = some r) :
    r.rest.length ≤ input.length := by
  unfold readNamed at h
  split at h
  · cases h
  · simp only at h
    split at h
    · cases h; simp
    · split at h
      · cases h
      · cases h; simp

theorem readReference_length {inAttribute : Bool} {input : List Char}
    {r : Reference} (h : readReference inAttribute input = some r) :
    r.rest.length ≤ input.length := by
  unfold readReference at h
  split at h
  case h_1 digits =>
    have h1 := readNumbered_length h
    have h2 := (digits.dropWhile_suffix isHexadecimalDigit).length_le
    simp only [List.length_cons]
    omega
  case h_2 digits =>
    have h1 := readNumbered_length h
    have h2 := (digits.dropWhile_suffix isHexadecimalDigit).length_le
    simp only [List.length_cons]
    omega
  case h_3 digits _ _ =>
    have h1 := readNumbered_length h
    have h2 := (digits.dropWhile_suffix Char.isDigit).length_le
    simp only [List.length_cons]
    omega
  case h_4 =>
    split at h
    · exact readNamed_length h
    · cases h
  case h_5 => cases h

def decodeFrom (done : List Char) (value : List Char) : List Char :=
  match value with
  | [] => done.reverse
  | c :: rest =>
    if c = '&' then
      match h : readReference true rest with
      | some r =>
        have := readReference_length h
        decodeFrom (r.text.reverse ++ done) r.rest
      | none => decodeFrom (c :: done) rest
    else if c = '\x00' then decodeFrom (replacement :: done) rest
    else decodeFrom (c :: done) rest
termination_by value.length
decreasing_by
  all_goals simp only [List.length_cons]; omega

def decodeValue (value : List Char) : String :=
  String.ofList (decodeFrom [] value)

end HtmlBuilder.Markup
