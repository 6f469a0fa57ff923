import HtmlBuilder.Markup.Reference
import HtmlBuilder.Markup.TagName

/-!
Reading tags. After its name a tag has attributes, separated by white space or
slashes, up to the closing angle bracket. A value stands in quotes of either
kind or without quotes, and a key without a value has the empty one. Of two
attributes with one key the first one counts. A tag that the text ends in is no
tag at all.
-/

namespace HtmlBuilder.Markup

structure Tag where
  name : TagName
  attributes : List (String × String)
  /-- Whether a slash stands before the closing bracket. -/
  selfClosing : Bool
deriving DecidableEq, Inhabited

def endsName (c : Char) : Bool :=
  isSpace c || c == '/' || c == '>'

/-- Where the key of an attribute ends; an equals sign may only be its first
character. -/
def endsKey (c : Char) : Bool :=
  endsName c || c == '='

def readQuoted (quote : Char) (input : List Char) :
    Option (String × List Char) :=
  match input.dropWhile (· != quote) with
  | [] => none
  | _ :: rest => some (decodeValue (input.takeWhile (· != quote)), rest)

def endsBare (c : Char) : Bool :=
  isSpace c || c == '>'

def readBare (input : List Char) : String × List Char :=
  (decodeValue (input.takeWhile fun c => !endsBare c),
    input.dropWhile fun c => !endsBare c)

/-- Reads what follows the key of an attribute: its value, or the empty one if
there is no equals sign. -/
def readValue (input : List Char) : Option (String × List Char) :=
  match input.dropWhile isSpace with
  | '=' :: rest =>
    match rest.dropWhile isSpace with
    | [] => none
    | '"' :: quoted => readQuoted '"' quoted
    | '\'' :: quoted => readQuoted '\'' quoted
    | bare => some (readBare bare)
  | rest => some ("", rest)

/-- Puts an attribute at the end, unless its key is already there. -/
def addAttribute (attributes : List (String × String)) (key value : String) :
    List (String × String) :=
  if (attributes.lookup key).isSome then attributes
  else attributes ++ [(key, value)]

theorem readQuoted_length {quote : Char} {input rest : List Char}
    {value : String} (h : readQuoted quote input = some (value, rest)) :
    rest.length ≤ input.length := by
  unfold readQuoted at h
  have hl := (input.dropWhile_suffix (· != quote)).length_le
  split at h
  · cases h
  · next hd =>
    cases h
    rw [hd, List.length_cons] at hl
    omega

theorem readValue_length {input rest : List Char} {value : String}
    (h : readValue input = some (value, rest)) :
    rest.length ≤ input.length := by
  unfold readValue at h
  have h1 := (input.dropWhile_suffix isSpace).length_le
  split at h
  · next after h2 =>
    rw [h2, List.length_cons] at h1
    have h3 := (after.dropWhile_suffix isSpace).length_le
    generalize after.dropWhile isSpace = bare at h h3
    split at h
    · cases h
    · have h4 := readQuoted_length h
      rw [List.length_cons] at h3
      omega
    · have h4 := readQuoted_length h
      rw [List.length_cons] at h3
      omega
    · have h4 := (bare.dropWhile_suffix fun c => !endsBare c).length_le
      simp only [readBare, Option.some.injEq, Prod.mk.injEq] at h
      rw [h.2] at h4
      omega
  · cases h
    exact h1

/-- Reads the attributes of a tag up to its closing bracket; `done` holds the
ones already read. -/
def readAttributes (done : List (String × String)) (input : List Char) :
    Option (List (String × String) × Bool × List Char) :=
  match input with
  | [] => none
  | '>' :: rest => some (done, false, rest)
  | '/' :: '>' :: rest => some (done, true, rest)
  | c :: rest =>
    if isSpace c || c == '/' then readAttributes done rest
    else
      let key :=
        String.ofList
          ((c :: rest.takeWhile fun c => !endsKey c).map nameCharacter)
      match h : readValue (rest.dropWhile fun c => !endsKey c) with
      | none => none
      | some (value, after) =>
        have := readValue_length h
        have := (rest.dropWhile_suffix fun c => !endsKey c).length_le
        readAttributes (addAttribute done key value) after
termination_by input.length
decreasing_by
  all_goals simp only [List.length_cons]; omega

/-- Reads a tag that begins with a letter, after the bracket and perhaps the
slash before it. -/
def readTag (c : Char) (h : c.isAlpha = true) (rest : List Char) :
    Option (Tag × List Char) :=
  let name := TagName.read c h (rest.takeWhile fun c => !endsName c)
  match readAttributes [] (rest.dropWhile fun c => !endsName c) with
  | none => none
  | some (attributes, selfClosing, after) =>
    some (⟨name, attributes, selfClosing⟩, after)

theorem readAttributes_length {done attributes : List (String × String)}
    {input rest : List Char} {selfClosing : Bool}
    (h : readAttributes done input = some (attributes, selfClosing, rest)) :
    rest.length ≤ input.length := by
  fun_induction readAttributes done input with
  | case1 => cases h
  | case2 => cases h; simp
  | case3 => cases h; simp; omega
  | case4 done c rest _ _ _ ih =>
    have := ih h
    simp only [List.length_cons]
    omega
  | case5 => cases h
  | case6 done c rest _ _ _ key value after _ _ _ ih =>
    have := ih h
    simp only [List.length_cons]
    omega

theorem readTag_length {c : Char} {hc : c.isAlpha = true}
    {input rest : List Char} {tag : Tag}
    (h : readTag c hc input = some (tag, rest)) :
    rest.length ≤ input.length := by
  unfold readTag at h
  simp only at h
  split at h
  · cases h
  · next hr =>
    cases h
    have h1 := readAttributes_length hr
    have h2 := (input.dropWhile_suffix fun c => !endsName c).length_le
    omega

end HtmlBuilder.Markup
