import HtmlBuilder.Text.CaseTable

/-!
Writing a text in lower case. Every character is mapped on its own, with two
exceptions: a capital I with a dot above becomes two characters, and a capital
sigma becomes a final sigma at the end of a word, that is after a letter with a
case and not before one.
-/

namespace HtmlBuilder.Text

/-- The simple lower-case mapping of a character outside ASCII. -/
def lowerMapped (n : Nat) : Nat :=
  match lowerRows.find? fun (first, last, step, _) =>
      decide (first ≤ n) && decide (n ≤ last) && (n - first) % step == 0 with
  | some (first, _, _, target) => target + (n - first)
  | none => n

/-- The lower-case form of a character, whatever stands around it. -/
def lowerChar (c : Char) : Char :=
  if c.val < 0x80 then c.toLower else Char.ofNat (lowerMapped c.toNat)

/-- Whether the first character that counts is a letter with a case. -/
def startsCased (text : List Char) : Bool :=
  match text.dropWhile fun c => inRanges caseIgnorableRanges c.toNat with
  | c :: _ => inRanges casedRanges c.toNat
  | [] => false

/-- The lower-case form of a text; `before` holds the characters already passed,
newest first, and `done` their lower-case form, newest first. -/
def lowercaseFrom (before done : List Char) : List Char → List Char
  | [] => done.reverse
  | c :: rest =>
    let lower :=
      if c == 'İ' then ['\u0307', 'i']
      else if c == 'Σ' then
        [if startsCased before && !startsCased rest then 'ς' else 'σ']
      else [lowerChar c]
    lowercaseFrom (c :: before) (lower ++ done) rest

def lowercase (text : String) : String :=
  String.ofList (lowercaseFrom [] [] text.toList)

end HtmlBuilder.Text
