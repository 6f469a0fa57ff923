import HtmlBuilder.Markup.TagName

/-!
Document type declarations. All that matters of a declaration is whether it puts
the document into quirks mode, in which a table may stand inside a paragraph: a
malformed declaration does, one of another name than html does, and so do the
public identifiers of older versions of the language.
-/

namespace HtmlBuilder.Markup

structure Doctype where
  name? : Option String := none
  public? : Option String := none
  system? : Option String := none
  /-- Whether the declaration is malformed in a way that forces quirks mode. -/
  forceQuirks : Bool := false
deriving DecidableEq, Inhabited

def skipDeclaration (input : List Char) : List Char :=
  (input.dropWhile (· != '>')).drop 1

def startsWithKeyword (keyword input : List Char) : Bool :=
  keyword.isPrefixOf ((input.take keyword.length).map Char.toLower)

def identifierText (text : List Char) : String :=
  String.ofList (text.map fun c => if c = '\x00' then '\ufffd' else c)

/-- Reads an identifier up to its closing quote; a bracket ends the whole
declaration. -/
def readIdentifier (quote : Char) (input : List Char) : String × List Char :=
  let inside := fun c => c != quote && c != '>'
  (identifierText (input.takeWhile inside), input.dropWhile inside)

def readAfterSystem (doctype : Doctype) (input : List Char) :
    Doctype × List Char :=
  match input.dropWhile isSpace with
  | [] => ({ doctype with forceQuirks := true }, [])
  | '>' :: rest => (doctype, rest)
  | rest => (doctype, skipDeclaration rest)

def readSystem (doctype : Doctype) (quote : Char) (input : List Char) :
    Doctype × List Char :=
  let (identifier, rest) := readIdentifier quote input
  let doctype := { doctype with system? := some identifier }
  match rest with
  | [] => ({ doctype with forceQuirks := true }, [])
  | c :: rest =>
    if c = quote then readAfterSystem doctype rest
    else ({ doctype with forceQuirks := true }, rest)

/-- Reads what may follow the public identifier or the keyword for a system
identifier; `needed` tells whether a system identifier has to follow. -/
def readBeforeSystem (doctype : Doctype) (needed : Bool) (input : List Char) :
    Doctype × List Char :=
  match input.dropWhile isSpace with
  | [] => ({ doctype with forceQuirks := true }, [])
  | '>' :: rest =>
    ({ doctype with forceQuirks := doctype.forceQuirks || needed }, rest)
  | '"' :: rest => readSystem doctype '"' rest
  | '\'' :: rest => readSystem doctype '\'' rest
  | rest => ({ doctype with forceQuirks := true }, skipDeclaration rest)

def readPublic (doctype : Doctype) (quote : Char) (input : List Char) :
    Doctype × List Char :=
  let (identifier, rest) := readIdentifier quote input
  let doctype := { doctype with public? := some identifier }
  match rest with
  | [] => ({ doctype with forceQuirks := true }, [])
  | c :: rest =>
    if c = quote then readBeforeSystem doctype false rest
    else ({ doctype with forceQuirks := true }, rest)

def readBeforePublic (doctype : Doctype) (input : List Char) :
    Doctype × List Char :=
  match input.dropWhile isSpace with
  | [] => ({ doctype with forceQuirks := true }, [])
  | '>' :: rest => ({ doctype with forceQuirks := true }, rest)
  | '"' :: rest => readPublic doctype '"' rest
  | '\'' :: rest => readPublic doctype '\'' rest
  | rest => ({ doctype with forceQuirks := true }, skipDeclaration rest)

def readAfterName (doctype : Doctype) (input : List Char) :
    Doctype × List Char :=
  match input.dropWhile isSpace with
  | [] => ({ doctype with forceQuirks := true }, [])
  | '>' :: rest => (doctype, rest)
  | rest =>
    if startsWithKeyword "public".toList rest then
      readBeforePublic doctype (rest.drop 6)
    else if startsWithKeyword "system".toList rest then
      readBeforeSystem doctype true (rest.drop 6)
    else ({ doctype with forceQuirks := true }, skipDeclaration rest)

def readDoctype (input : List Char) : Doctype × List Char :=
  match input.dropWhile isSpace with
  | [] => ({ forceQuirks := true }, [])
  | '>' :: rest => ({ forceQuirks := true }, rest)
  | rest =>
    let inside := fun c => !isSpace c && c != '>'
    readAfterName
      { name? :=
          some (String.ofList ((rest.takeWhile inside).map nameCharacter)) }
      (rest.dropWhile inside)

section Length

theorem skipDeclaration_length (input : List Char) :
    (skipDeclaration input).length ≤ input.length := by
  have := (input.dropWhile_suffix (· != '>')).length_le
  simp only [skipDeclaration, List.length_drop]
  omega

theorem readIdentifier_length (quote : Char) (input : List Char) :
    (readIdentifier quote input).2.length ≤ input.length :=
  (List.dropWhile_suffix _).length_le

theorem readAfterSystem_length (doctype : Doctype) (input : List Char) :
    (readAfterSystem doctype input).2.length ≤ input.length := by
  have h := (input.dropWhile_suffix isSpace).length_le
  unfold readAfterSystem
  generalize input.dropWhile isSpace = spaced at h
  split
  · exact Nat.zero_le _
  · exact Nat.le_of_succ_le h
  · exact Nat.le_trans (skipDeclaration_length _) h

theorem readSystem_length (doctype : Doctype) (quote : Char)
    (input : List Char) :
    (readSystem doctype quote input).2.length ≤ input.length := by
  have h := readIdentifier_length quote input
  unfold readSystem
  generalize readIdentifier quote input = read at h
  obtain ⟨identifier, rest⟩ := read
  cases rest with
  | nil => exact Nat.zero_le _
  | cons c rest =>
    simp only
    split
    · exact Nat.le_trans (readAfterSystem_length _ _) (Nat.le_of_succ_le h)
    · exact Nat.le_of_succ_le h

theorem readBeforeSystem_length (doctype : Doctype) (needed : Bool)
    (input : List Char) :
    (readBeforeSystem doctype needed input).2.length ≤ input.length := by
  have h := (input.dropWhile_suffix isSpace).length_le
  unfold readBeforeSystem
  generalize input.dropWhile isSpace = spaced at h
  split
  · exact Nat.zero_le _
  · exact Nat.le_of_succ_le h
  · exact Nat.le_trans (readSystem_length _ _ _) (Nat.le_of_succ_le h)
  · exact Nat.le_trans (readSystem_length _ _ _) (Nat.le_of_succ_le h)
  · exact Nat.le_trans (skipDeclaration_length _) h

theorem readPublic_length (doctype : Doctype) (quote : Char)
    (input : List Char) :
    (readPublic doctype quote input).2.length ≤ input.length := by
  have h := readIdentifier_length quote input
  unfold readPublic
  generalize readIdentifier quote input = read at h
  obtain ⟨identifier, rest⟩ := read
  cases rest with
  | nil => exact Nat.zero_le _
  | cons c rest =>
    simp only
    split
    · exact Nat.le_trans (readBeforeSystem_length _ _ _) (Nat.le_of_succ_le h)
    · exact Nat.le_of_succ_le h

theorem readBeforePublic_length (doctype : Doctype) (input : List Char) :
    (readBeforePublic doctype input).2.length ≤ input.length := by
  have h := (input.dropWhile_suffix isSpace).length_le
  unfold readBeforePublic
  generalize input.dropWhile isSpace = spaced at h
  split
  · exact Nat.zero_le _
  · exact Nat.le_of_succ_le h
  · exact Nat.le_trans (readPublic_length _ _ _) (Nat.le_of_succ_le h)
  · exact Nat.le_trans (readPublic_length _ _ _) (Nat.le_of_succ_le h)
  · exact Nat.le_trans (skipDeclaration_length _) h

theorem length_drop_le (n : Nat) (text : List Char) :
    (text.drop n).length ≤ text.length := by
  rw [List.length_drop]
  exact Nat.sub_le _ _

theorem readAfterName_length (doctype : Doctype) (input : List Char) :
    (readAfterName doctype input).2.length ≤ input.length := by
  have h := (input.dropWhile_suffix isSpace).length_le
  unfold readAfterName
  generalize input.dropWhile isSpace = spaced at h
  split
  · exact Nat.zero_le _
  · exact Nat.le_of_succ_le h
  · split
    · exact Nat.le_trans (readBeforePublic_length _ _)
        (Nat.le_trans (length_drop_le _ _) h)
    · split
      · exact Nat.le_trans (readBeforeSystem_length _ _ _)
          (Nat.le_trans (length_drop_le _ _) h)
      · exact Nat.le_trans (skipDeclaration_length _) h

/-- Reading a declaration never puts text back. -/
theorem readDoctype_length (input : List Char) :
    (readDoctype input).2.length ≤ input.length := by
  have h := (input.dropWhile_suffix isSpace).length_le
  unfold readDoctype
  generalize input.dropWhile isSpace = spaced at h
  split
  · exact Nat.zero_le _
  · exact Nat.le_of_succ_le h
  · exact Nat.le_trans (readAfterName_length _ _)
      (Nat.le_trans (List.dropWhile_suffix _).length_le h)

end Length

namespace Doctype

/-- Beginnings of the public identifiers of older versions, in lower case. -/
def quirkyPublicBeginnings : List String := [
  "+//silmaril//dtd html pro v0r11 19970101//",
  "-//as//dtd html 3.0 aswedit + extensions//",
  "-//advasoft ltd//dtd html 3.0 aswedit + extensions//",
  "-//ietf//dtd html 2.0 level 1//",
  "-//ietf//dtd html 2.0 level 2//",
  "-//ietf//dtd html 2.0 strict level 1//",
  "-//ietf//dtd html 2.0 strict level 2//",
  "-//ietf//dtd html 2.0 strict//",
  "-//ietf//dtd html 2.0//",
  "-//ietf//dtd html 2.1e//",
  "-//ietf//dtd html 3.0//",
  "-//ietf//dtd html 3.2 final//",
  "-//ietf//dtd html 3.2//",
  "-//ietf//dtd html 3//",
  "-//ietf//dtd html level 0//",
  "-//ietf//dtd html level 1//",
  "-//ietf//dtd html level 2//",
  "-//ietf//dtd html level 3//",
  "-//ietf//dtd html strict level 0//",
  "-//ietf//dtd html strict level 1//",
  "-//ietf//dtd html strict level 2//",
  "-//ietf//dtd html strict level 3//",
  "-//ietf//dtd html strict//",
  "-//ietf//dtd html//",
  "-//metrius//dtd metrius presentational//",
  "-//microsoft//dtd internet explorer 2.0 html strict//",
  "-//microsoft//dtd internet explorer 2.0 html//",
  "-//microsoft//dtd internet explorer 2.0 tables//",
  "-//microsoft//dtd internet explorer 3.0 html strict//",
  "-//microsoft//dtd internet explorer 3.0 html//",
  "-//microsoft//dtd internet explorer 3.0 tables//",
  "-//netscape comm. corp.//dtd html//",
  "-//netscape comm. corp.//dtd strict html//",
  "-//o'reilly and associates//dtd html 2.0//",
  "-//o'reilly and associates//dtd html extended 1.0//",
  "-//o'reilly and associates//dtd html extended relaxed 1.0//",
  "-//sq//dtd html 2.0 hotmetal + extensions//",
  "-//softquad software//dtd hotmetal pro 6.0::19990601::extensions to html 4.0//",
  "-//softquad//dtd hotmetal pro 4.0::19971010::extensions to html 4.0//",
  "-//spyglass//dtd html 2.0 extended//",
  "-//sun microsystems corp.//dtd hotjava html//",
  "-//sun microsystems corp.//dtd hotjava strict html//",
  "-//w3c//dtd html 3 1995-03-24//",
  "-//w3c//dtd html 3.2 draft//",
  "-//w3c//dtd html 3.2 final//",
  "-//w3c//dtd html 3.2//",
  "-//w3c//dtd html 3.2s draft//",
  "-//w3c//dtd html 4.0 frameset//",
  "-//w3c//dtd html 4.0 transitional//",
  "-//w3c//dtd html experimental 19960712//",
  "-//w3c//dtd html experimental 970421//",
  "-//w3c//dtd w3 html//",
  "-//w3o//dtd w3 html 3.0//",
  "-//webtechs//dtd mozilla html 2.0//",
  "-//webtechs//dtd mozilla html//"]

/-- Public identifiers that count as a whole, in lower case. -/
def quirkyPublicIdentifiers : List String := [
  "-//w3o//dtd w3 html strict 3.0//en//",
  "-/w3c/dtd html 4.0 transitional/en",
  "html"]

def quirkySystemIdentifiers : List String := [
  "http:" ++ "//www.ibm.com/data/dtd/v11/ibmxhtml1-transitional.dtd"]

/-- Beginnings of public identifiers that count unless a system identifier
follows. -/
def quirkyAloneBeginnings : List String := [
  "-//w3c//dtd html 4.01 frameset//",
  "-//w3c//dtd html 4.01 transitional//"]

def beginsWithAny (beginnings : List String) (text : String) : Bool :=
  beginnings.any fun beginning => beginning.toList.isPrefixOf text.toList

def lowerAscii (text : String) : String :=
  String.ofList (text.toList.map Char.toLower)

def quirks (doctype : Doctype) : Bool :=
  let isQuirkyPublic := fun text : String =>
    let text := lowerAscii text
    quirkyPublicIdentifiers.contains text ||
    beginsWithAny quirkyPublicBeginnings text ||
      (doctype.system?.isNone && beginsWithAny quirkyAloneBeginnings text)
  doctype.forceQuirks || doctype.name? != some "html" ||
  doctype.public?.any isQuirkyPublic ||
    doctype.system?.any fun text =>
      quirkySystemIdentifiers.contains (lowerAscii text)

end Doctype

end HtmlBuilder.Markup
