import HtmlBuilder.Markup.Token
import HtmlBuilder.Proofs.Entries

/-!
Tags that are written plainly: the name in small letters, then each attribute
behind a blank with its value in double quotes, then the closing bracket. Such a
tag is read back as what it was written for, whatever stands behind it. Nothing
in its name and its keys is changed by reading, nothing in a value stands for
something else, and no key comes twice, so no attribute is dropped.
-/

namespace HtmlBuilder.Markup

def isPlainCharacter (c : Char) : Bool :=
  c.isLower || c.isDigit || c == '-'

def isPlainWord (word : String) : Bool :=
  match word.toList with
  | [] => false
  | c :: rest => c.isLower && rest.all isPlainCharacter

def isPlainValue (value : String) : Bool :=
  value.toList.all fun c => !(['"', '<', '&', '\x00', '\r'].contains c)

def arePlain (entries : List (String × String)) : Bool :=
  entries.all fun entry => isPlainWord entry.1 && isPlainValue entry.2

def attributeMarkup (entry : String × String) : List Char :=
  ' ' :: entry.1.toList ++ '=' :: '"' :: entry.2.toList ++ ['"']

def tagMarkup (name : String) (entries : List (String × String)) : List Char :=
  name.toList ++ entries.flatMap attributeMarkup ++ ['>']

theorem arePlain_cons {entry : String × String}
    {entries : List (String × String)} :
    arePlain (entry :: entries) = true ↔
      isPlainWord entry.1 = true ∧ isPlainValue entry.2 = true ∧
      arePlain entries = true := by
  simp [arePlain, and_assoc]

/-! Characters that are read as they are. -/

theorem exists_toList_eq_cons {word : String} (h : isPlainWord word = true) :
    ∃ c rest, word.toList = c :: rest ∧ c.isLower = true := by
  rw [isPlainWord] at h
  match hword : word.toList with
  | [] => simp [hword] at h
  | c :: rest =>
    rw [hword, Bool.and_eq_true] at h
    exact ⟨c, rest, rfl, h.1⟩

theorem isPlainCharacter_of_mem {word : String} (h : isPlainWord word = true) :
    ∀ c ∈ word.toList, isPlainCharacter c = true := by
  rw [isPlainWord] at h
  match hword : word.toList with
  | [] => simp
  | c :: rest =>
    rw [hword, Bool.and_eq_true, List.all_eq_true] at h
    intro d hd
    rcases List.mem_cons.1 hd with rfl | hd
    · rw [isPlainCharacter, h.1, Bool.true_or, Bool.true_or]
    · exact h.2 d hd

theorem isPlainValue_iff (value : String) :
    isPlainValue value = true ↔
      ∀ c ∈ value.toList, c ≠ '"' ∧ c ≠ '<' ∧ c ≠ '&' ∧ c ≠ '\x00' ∧
      c ≠ '\r' := by
  simp [isPlainValue]

theorem endsKey_eq_false {c : Char} (h : isPlainCharacter c = true) :
    endsKey c = false := by
  rw [Bool.eq_false_iff]
  intro hends
  simp only [endsKey, endsName, isSpace, Bool.or_eq_true, beq_iff_eq] at hends
  rcases hends with (((((rfl | rfl) | rfl) | rfl) | rfl) | rfl) | rfl <;>
    exact absurd h (by decide)

theorem endsName_eq_false {c : Char} (h : isPlainCharacter c = true) :
    endsName c = false :=
  (Bool.or_eq_false_iff.1 (endsKey_eq_false h)).1

theorem nameCharacter_eq_self {c : Char} (h : isPlainCharacter c = true) :
    nameCharacter c = c := by
  have hnull : c ≠ '\x00' := by
    rintro rfl
    exact absurd h (by decide)
  have hupper : c.isUpper = false := by
    rw [Bool.eq_false_iff]
    intro hupper
    unfold isPlainCharacter at h
    delta Char.isUpper at hupper
    delta Char.isLower Char.isDigit at h
    simp only [Bool.or_eq_true, Bool.and_eq_true, decide_eq_true_eq,
      beq_iff_eq, ge_iff_le, UInt32.le_iff_toNat_le] at h hupper
    rcases h with (h | h) | rfl
    · simp at h hupper
      omega
    · simp at h hupper
      omega
    · exact absurd hupper.1 (by decide)
  rw [nameCharacter, if_neg hnull, toLower_eq_self hupper]

theorem ofList_map_nameCharacter {word : String} (h : isPlainWord word = true) :
    String.ofList (word.toList.map nameCharacter) = word := by
  rw [List.map_congr_left fun c hc =>
    nameCharacter_eq_self (isPlainCharacter_of_mem h c hc), List.map_id',
    String.ofList_toList]

theorem decodeFrom_plain (done : List Char) {value : List Char}
    (h : ∀ c ∈ value, c ≠ '&' ∧ c ≠ '\x00') :
    decodeFrom done value = done.reverse ++ value := by
  induction value generalizing done with
  | nil => simp [decodeFrom]
  | cons c rest ih =>
    obtain ⟨hampersand, hnull⟩ := h c List.mem_cons_self
    rw [decodeFrom, if_neg hampersand, if_neg hnull,
      ih _ fun d hd => h d (List.mem_cons_of_mem _ hd)]
    simp

/-! Parts that reach up to the character that ends them. -/

section

variable {p : Char → Bool} {text : List Char} {c : Char}

theorem takeWhile_append_cons (htext : ∀ d ∈ text, p d = true)
    (hc : p c = false)
    (rest : List Char) : (text ++ c :: rest).takeWhile p = text := by
  rw [List.takeWhile_append_of_pos htext,
    List.takeWhile_cons_of_neg (by simp [hc]), List.append_nil]

theorem dropWhile_append_cons (htext : ∀ d ∈ text, p d = true)
    (hc : p c = false)
    (rest : List Char) : (text ++ c :: rest).dropWhile p = c :: rest := by
  rw [List.dropWhile_append_of_pos htext,
    List.dropWhile_cons_of_neg (by simp [hc])]

end

/-- A plain value reaches up to the quote behind it and stands for itself. -/
theorem readQuoted_plain {value : String} (h : isPlainValue value = true)
    (rest : List Char) :
    readQuoted '"' (value.toList ++ '"' :: rest) = some (value, rest) := by
  have hplain := (isPlainValue_iff value).1 h
  have hinside : ∀ c ∈ value.toList, (c != '"') = true :=
    fun c hc => bne_iff_ne.2 (hplain c hc).1
  have hdecode : decodeFrom [] value.toList = value.toList :=
    decodeFrom_plain [] fun c hc => ⟨(hplain c hc).2.2.1, (hplain c hc).2.2.2.1⟩
  rw [readQuoted, dropWhile_append_cons hinside rfl,
    takeWhile_append_cons hinside rfl, decodeValue, hdecode,
    String.ofList_toList]

theorem readAttributes_blank (done : List (String × String))
    (rest : List Char) :
    readAttributes done (' ' :: rest) = readAttributes done rest := by
  rw [readAttributes]
  · exact if_pos rfl
  · exact fun h => absurd h (by decide)
  · exact fun _ h => absurd h (by decide)

/-- A key with what follows it is read as one attribute. -/
theorem readAttributes_of_readValue {c : Char} {rest after : List Char}
    {value : String} (hc : endsName c = false)
    (hread : readValue (rest.dropWhile fun c => !endsKey c) =
      some (value, after))
    (done : List (String × String)) :
    readAttributes done (c :: rest) =
      readAttributes
        (addAttribute done
          (String.ofList
            ((c :: rest.takeWhile fun c => !endsKey c).map nameCharacter))
          value)
        after := by
  have hne : c ≠ '>' ∧ c ≠ '/' ∧ isSpace c = false := by
    simp_all [endsName]
  rw [readAttributes, if_neg (by simp [hne])]
  · dsimp only
    split
    · next hnone =>
      rw [hread] at hnone
      cases hnone
    · next hsome =>
      rw [hread] at hsome
      cases hsome
      rfl
  · exact hne.1
  · exact fun _ h => absurd h hne.2.1

theorem readAttributes_attribute {key value : String}
    (hkey : isPlainWord key = true)
    (hvalue : isPlainValue value = true) {done : List (String × String)}
    (hnew : key ∉ done.map Prod.fst) (rest : List Char) :
    readAttributes done (attributeMarkup (key, value) ++ rest) =
      readAttributes (done ++ [(key, value)]) rest := by
  obtain ⟨c, cs, hlist, -⟩ := exists_toList_eq_cons hkey
  have hplain := isPlainCharacter_of_mem hkey
  have hname := ofList_map_nameCharacter hkey
  rw [hlist] at hplain hname
  have hinside : ∀ d ∈ cs, (!endsKey d) = true := fun d hd => by
    rw [endsKey_eq_false (hplain d (List.mem_cons_of_mem _ hd))]
    rfl
  have hmarkup : attributeMarkup (key, value) ++ rest =
      ' ' :: c :: (cs ++ '=' :: '"' :: (value.toList ++ '"' :: rest)) := by
    simp [attributeMarkup, hlist]
  have hread : readValue ('=' :: '"' :: (value.toList ++ '"' :: rest)) =
      some (value, rest) :=
    readQuoted_plain hvalue rest
  have hadd : addAttribute done key value = done ++ [(key, value)] := by
    rw [addAttribute, if_neg]
    rw [List.lookup_isSome_iff]
    rintro ⟨entry, hentry, he⟩
    exact hnew (List.mem_map.2 ⟨entry, hentry, (eq_of_beq he).symm⟩)
  rw [hmarkup, readAttributes_blank,
    readAttributes_of_readValue
      (endsName_eq_false (hplain c List.mem_cons_self))
      (by rw [dropWhile_append_cons hinside rfl, hread]),
    takeWhile_append_cons hinside rfl, hname, hadd]

/-- Attributes with different keys are all read, in their order. -/
theorem readAttributes_flatMap {entries : List (String × String)}
    (hplain : arePlain entries = true) {done : List (String × String)}
    (hnodup : ((done ++ entries).map Prod.fst).Nodup) (rest : List Char) :
    readAttributes done (entries.flatMap attributeMarkup ++ '>' :: rest) =
      some (done ++ entries, false, rest) := by
  induction entries generalizing done with
  | nil => simp [readAttributes]
  | cons entry entries ih =>
    obtain ⟨hkey, hvalue, hplain⟩ := arePlain_cons.1 hplain
    rw [List.flatMap_cons, List.append_assoc,
      readAttributes_attribute hkey hvalue (key_notMem_of_nodup hnodup),
      ih hplain (by simpa using hnodup)]
    simp

theorem exists_attributes_eq_cons (entries : List (String × String))
    (rest : List Char) :
    ∃ c tail, entries.flatMap attributeMarkup ++ '>' :: rest = c :: tail ∧
    endsName c = true := by
  cases entries with
  | nil => exact ⟨'>', rest, rfl, rfl⟩
  | cons entry entries => exact ⟨' ', _, rfl, rfl⟩

/-- A tag begins with a letter and is read up to its closing bracket. -/
theorem exists_readTag_tagMarkup {name : TagName}
    (hname : isPlainWord name.text = true)
    {entries : List (String × String)} (hplain : arePlain entries = true)
    (hnodup : (entries.map Prod.fst).Nodup) (rest : List Char) :
    ∃ c tail, ∃ hc : c.isAlpha = true,
      tagMarkup name.text entries ++ rest = c :: tail ∧
      readTag c hc tail = some (⟨name, entries, false⟩, rest) := by
  obtain ⟨c, cs, hlist, hlower⟩ := exists_toList_eq_cons hname
  have hc : c.isAlpha = true := by
    show (c.isUpper || c.isLower) = true
    rw [hlower, Bool.or_true]
  refine ⟨c, cs ++ (entries.flatMap attributeMarkup ++ '>' :: rest), hc, ?_, ?_⟩
  · simp [tagMarkup, hlist]
  · obtain ⟨last, tail, htail, hends⟩ := exists_attributes_eq_cons entries rest
    have hinside : ∀ d ∈ cs, (!endsName d) = true := fun d hd => by
      rw [endsName_eq_false
        (isPlainCharacter_of_mem hname d (by simp [hlist, hd]))]
      rfl
    have hread : TagName.read c hc cs = name := by
      have htext := ofList_map_nameCharacter hname
      rw [hlist] at htext
      obtain ⟨text, starts⟩ := name
      obtain rfl : _ = text := htext
      rfl
    rw [readTag, htail, takeWhile_append_cons hinside (by simp [hends]),
      dropWhile_append_cons hinside (by simp [hends]), hread, ← htail,
      readAttributes_flatMap hplain (by simpa using hnodup)]
    rfl

/-- A tag has no opening bracket inside and no carriage return. -/
theorem forall_mem_tagMarkup {name : String} (hname : isPlainWord name = true)
    {entries : List (String × String)} (hplain : arePlain entries = true) :
    ∀ c ∈ tagMarkup name entries, c ≠ '<' ∧ c ≠ '\r' := by
  have hword {word : String} (h : isPlainWord word = true) :
      ∀ c ∈ word.toList, c ≠ '<' ∧ c ≠ '\r' := by
    intro c hc
    have hcharacter := isPlainCharacter_of_mem h c hc
    constructor <;> (rintro rfl; exact absurd hcharacter (by decide))
  have hattribute {entry : String × String} (hentry : entry ∈ entries) :
      ∀ c ∈ attributeMarkup entry, c ≠ '<' ∧ c ≠ '\r' := by
    obtain ⟨hkey, hvalue⟩ :=
      Bool.and_eq_true_iff.1 (List.all_eq_true.1 hplain entry hentry)
    intro c hc
    simp only [attributeMarkup, List.mem_append, List.mem_cons,
      List.not_mem_nil, or_false] at hc
    rcases hc with ((rfl | hc) | (rfl | rfl | hc)) | rfl
    · decide
    · exact hword hkey c hc
    · decide
    · decide
    · have hcharacter := (isPlainValue_iff entry.2).1 hvalue c hc
      exact ⟨hcharacter.2.1, hcharacter.2.2.2.2⟩
    · decide
  intro c hc
  rw [tagMarkup, List.mem_append, List.mem_append, List.mem_flatMap,
    List.mem_singleton] at hc
  rcases hc with (hc | ⟨entry, hentry, hc⟩) | rfl
  · exact hword hname c hc
  · exact hattribute hentry c hc
  · decide

namespace Token

theorem readBracket_of_isAlpha {c : Char} (hc : c.isAlpha = true)
    (foreign : Bool) (rest : List Char) :
    readBracket foreign (c :: rest) = readStartTag c hc rest := by
  rw [readBracket, dif_pos hc] <;> (rintro rfl; cases hc)

theorem readClosing_of_isAlpha {c : Char} (hc : c.isAlpha = true)
    (rest : List Char) :
    readClosing (c :: rest) = readEndTag c hc rest := by
  rw [readClosing, dif_pos hc]
  rintro rfl
  cases hc

variable {name : TagName} (hname : isPlainWord name.text = true)
include hname

theorem read_startTag {entries : List (String × String)}
    (hplain : arePlain entries = true)
    (hnodup : (entries.map Prod.fst).Nodup) (rest : List Char) :
    read (.markup false) '<' (tagMarkup name.text entries ++ rest) =
      ([.startTag ⟨name, entries, false⟩], rest) := by
  obtain ⟨c, tail, hc, hmarkup, hread⟩ :=
    exists_readTag_tagMarkup hname hplain hnodup rest
  rw [read, if_pos rfl, hmarkup, readBracket_of_isAlpha hc, readStartTag, hread]

theorem read_endTag (rest : List Char) :
    read (.markup false) '<' ('/' :: (tagMarkup name.text [] ++ rest)) =
      ([.endTag name], rest) := by
  have hnone : arePlain [] = true := rfl
  obtain ⟨c, tail, hc, hmarkup, hread⟩ :=
    exists_readTag_tagMarkup hname hnone (by simp) rest
  rw [read, if_pos rfl, readBracket, hmarkup, readClosing_of_isAlpha hc,
    readEndTag, hread]

end Token

end HtmlBuilder.Markup
