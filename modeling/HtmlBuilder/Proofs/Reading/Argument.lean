import HtmlBuilder.Rule
import HtmlBuilder.Proofs.Reading.Basic
import HtmlBuilder.Proofs.Text.Lines

/-!
Reading arguments. The standard rules write an attribute as a name, an equals
sign and a body. Of a class attribute the body shows the identifiers of its
class names, of any other attribute its whole value. Keys in lower case never
clash with the names that the rules give, so a list of arguments is read back as
the attributes it came from.
-/

namespace HtmlBuilder

def isKeyCharacter (c : Char) : Bool :=
  c.isLower || c.isDigit || c == '-'

def isKeyName (name : String) : Bool :=
  name != "" && name.toList.all isKeyCharacter

/-- Letters, digits and hyphens. Outside ASCII every character counts as a
letter. -/
def isWordCharacter (c : Char) : Bool :=
  c.isAlphanum || c == '-' || 0x80 ≤ c.val

def isIdentifierCharacter (c : Char) : Bool :=
  isWordCharacter c || c == '_'

/-- An attribute with a plain key. A class value consists of class names, and
the value of an input type is a single word; other values are arbitrary. -/
def isPlainEntry (entry : String × String) : Bool :=
  isKeyName entry.1 &&
    (entry.1 != "class" || entry.2.toList.all fun c =>
      isIdentifierCharacter c || c == ' ') &&
    (entry.1 != "type" || entry.2.toList.all isWordCharacter)

inductive ArgumentForm where
  | classes (identifiers : List (List Char))
  | plain (key value : String)

namespace ArgumentForm

def ofEntry (entry : String × String) : ArgumentForm :=
  if entry.1 = "class" then
    .classes ((Rule.classNames entry.2.toList).map Rule.classIdentifier)
  else .plain entry.1 entry.2

def name : ArgumentForm → List Char
  | .classes _ => ['c']
  | .plain key _ =>
    if key = "type" then "inputType".toList
    else if key = "for" then "forId".toList
    else key.toList

def body (directLinks : Bool) : ArgumentForm → List Char
  | .classes identifiers => " + ".toList.intercalate identifiers
  | .plain key value =>
    if key = "type" then "InputType.".toList ++ value.toList
    else if key = "href" ∧ directLinks = true then
      "DirectLink(\"".toList ++ (Text.escape value.toList ++ ['"']) ++ [')']
    else '"' :: (Text.escape value.toList ++ ['"'])

def written (directLinks : Bool) (form : ArgumentForm) : List Char :=
  form.name ++ " = ".toList ++ form.body directLinks

/-- The argument that the standard rules give, key by key. -/
theorem argument_eq (options : Options) (key value : String) :
    Rules.argument {} options key value =
      if key = "class" then "c = " ++ Rule.classSum value
      else if key = "type" then "inputType = InputType." ++ value
      else if key = "href" then Rule.link.replacement value options
      else if key = "for" then Rule.quotedArgument "forId" value
      else Rule.quotedArgument key value := by
  have hrules :
      Rules.inOrder {} =
        [Rule.classes, Rule.inputType, Rule.link, Rule.labelTarget] := rfl
  have hclasses : Rule.classes.filter.accepts key options =
      (key == "class") := rfl
  have htype : Rule.inputType.filter.accepts key options =
      (key == "type") := rfl
  have hlink : Rule.link.filter.accepts key options = (key == "href") := rfl
  have hlabel : Rule.labelTarget.filter.accepts key options =
      (key == "for") := rfl
  simp only [Rules.argument, Rules.forKey?, hrules, List.find?_cons, hclasses,
    htype, hlink, hlabel, List.find?_nil]
  by_cases h₁ : key = "class"
  · rw [if_pos h₁, beq_iff_eq.2 h₁]
    rfl
  rw [if_neg h₁, beq_eq_false_iff_ne.2 h₁]
  by_cases h₂ : key = "type"
  · rw [if_pos h₂, beq_iff_eq.2 h₂]
    rfl
  rw [if_neg h₂, beq_eq_false_iff_ne.2 h₂]
  by_cases h₃ : key = "href"
  · rw [if_pos h₃, beq_iff_eq.2 h₃]
  rw [if_neg h₃, beq_eq_false_iff_ne.2 h₃]
  by_cases h₄ : key = "for"
  · rw [if_pos h₄, beq_iff_eq.2 h₄]
    rfl
  rw [if_neg h₄, beq_eq_false_iff_ne.2 h₄]

theorem toList_classSum (value : String) :
    (Rule.classSum value).toList =
      " + ".toList.intercalate
        ((Rule.classNames value.toList).map Rule.classIdentifier) := by
  simp [Rule.classSum, String.toList_intercalate, Function.comp_def]

theorem toList_quotedArgument (argument value : String) :
    (Rule.quotedArgument argument value).toList =
      argument.toList ++ " = ".toList ++ '"' ::
        (Text.escape value.toList ++ ['"']) := by
  simp [Rule.quotedArgument, Text.quoted]

theorem toList_link (options : Options) (value : String) :
    (Rule.link.replacement value options).toList =
      "href".toList ++ " = ".toList ++ if options.directLinks = true then
        "DirectLink(\"".toList ++ (Text.escape value.toList ++ ['"']) ++ [')']
      else '"' :: (Text.escape value.toList ++ ['"']) := by
  have hlink : Rule.link.replacement value options =
      if options.directLinks then
        "href = DirectLink(" ++ Text.quoted value ++ ")"
      else Rule.quotedArgument "href" value := rfl
  rw [hlink]
  cases options.directLinks with
  | true => simp [Text.quoted]
  | false => simp only [Bool.false_eq_true, if_false, toList_quotedArgument]

/-- What the standard rules write for an attribute depends on its form alone. -/
theorem toList_argument (options : Options) (key value : String) :
    (Rules.argument {} options key value).toList =
      (ofEntry (key, value)).written options.directLinks := by
  rw [argument_eq, ofEntry]
  by_cases h₁ : key = "class"
  · simp [h₁, toList_classSum, written, name, body]
  simp only [h₁, if_false, written, name, body]
  by_cases h₂ : key = "type"
  · simp [h₂]
  by_cases h₃ : key = "href"
  · have h₄ : key ≠ "for" := by
      rw [h₃]
      decide
    rw [if_neg h₂, if_pos h₃, if_neg h₂, if_neg h₄, if_neg h₂, toList_link]
    simp only [h₃, true_and]
  by_cases h₄ : key = "for"
  · simp only [h₂, h₃, if_false, if_pos h₄, toList_quotedArgument, false_and]
  · simp only [h₂, h₃, h₄, if_false, toList_quotedArgument, false_and]

/-! What the standard rules write can be read back. -/

def Readable : ArgumentForm → Prop
  | .classes identifiers =>
    ∀ identifier ∈ identifiers, identifier ≠ [] ∧ ∀ c ∈ identifier,
      isIdentifierCharacter c = true
  | .plain key value =>
    key ≠ "class" ∧ isKeyName key = true ∧
      (key = "type" → ∀ c ∈ value.toList, isWordCharacter c = true)

/-- An argument ends at a comma or at the parenthesis that closes the list. -/
def EndsArgument (rest : List Char) : Prop :=
  ∃ c rest', (c = ',' ∨ c = ')') ∧ rest = c :: rest'

theorem endsClass_of_endsArgument {p : Char → Bool} (hcomma : p ',' = false)
    (hclose : p ')' = false) {rest : List Char} (hrest : EndsArgument rest) :
    EndsClass p rest := by
  obtain ⟨c, rest, rfl | rfl, rfl⟩ := hrest
  · exact endsClass_cons hcomma rest
  · exact endsClass_cons hclose rest

/-- A word of a class of characters: not empty, and all of it in the class. -/
def IsWordOf (p : Char → Bool) (word : List Char) : Prop :=
  word ≠ [] ∧ ∀ c ∈ word, p c = true

section Sum

variable {p : Char → Bool} {words : List (List Char)}

/-- A sum of words starts with a character of the first one. -/
theorem exists_cons_sum (hwords : ∀ word ∈ words, IsWordOf p word)
    (hne : words ≠ []) :
    ∃ c rest, p c = true ∧ " + ".toList.intercalate words = c :: rest := by
  obtain ⟨first, others, rfl⟩ := List.exists_cons_of_ne_nil hne
  obtain ⟨hfirst, hcharacters⟩ := hwords first (by simp)
  obtain ⟨c, rest, rfl⟩ := List.exists_cons_of_ne_nil hfirst
  cases others with
  | nil => exact ⟨c, rest, hcharacters c (by simp), by simp⟩
  | cons second others =>
    exact ⟨c, _, hcharacters c (by simp),
      by rw [List.intercalate_cons_cons]; rfl⟩

theorem sum_append_ne (hwords : ∀ word ∈ words, IsWordOf p word)
    (hne : words ≠ [])
    {rest : List Char} (hrest : EndsClass p rest) (rest' : List Char) :
    " + ".toList.intercalate words ++ rest' ≠ rest := by
  obtain ⟨c, tail, hc, hsum⟩ := exists_cons_sum hwords hne
  rw [hsum]
  rintro rfl
  rw [hrest c rfl] at hc
  exact absurd hc (by decide)

/-- Words of a class without the space are read once between plus signs, even if
a plus sign is in the class: each of them is read up to the space behind it. -/
theorem readOnce_sum (hspace : p ' ' = false) {stop : List Char → Prop}
    (hend : ∀ rest, stop rest → EndsClass p rest)
    (hclash : ∀ rest rest', stop rest → rest ≠ " + ".toList ++ rest')
    (hwords : ∀ word ∈ words, IsWordOf p word) :
    ReadOnce (fun words => " + ".toList.intercalate words)
      (fun other => ∀ word ∈ other, IsWordOf p word) stop words := by
  intro other rest rest' hother hrest hrest' h
  dsimp only at h
  by_cases hne : words = []
  · by_cases hne' : other = []
    · subst hne hne'
      exact ⟨rfl, by simpa using h⟩
    · rw [hne, List.intercalate_nil, List.nil_append] at h
      exact absurd h.symm (sum_append_ne hother hne' (hend rest hrest) rest')
  · have hne' : other ≠ [] := by
      rintro rfl
      rw [List.intercalate_nil, List.nil_append] at h
      exact sum_append_ne hwords hne (hend rest' hrest') rest h
    have hword : ∀ word, IsWordOf p word →
        ReadOnce id (IsWordOf p) (EndsClass p) word :=
      fun word hword other rest rest' hother =>
        readOnce_word p hword.2 other rest rest' hother.2
    have hlist : ReadOnce
        (fun words => " + ".toList.intercalate (words.map id)) _ stop words :=
      readOnce_intercalate (fun rest => endsClass_cons hspace _) hend hclash
        hword hne hwords
    exact hlist other rest rest' ⟨hne', hother⟩ hrest hrest' (by simpa using h)

end Sum

theorem readOnce_identifiers {identifiers : List (List Char)}
    (hreadable : Readable (.classes identifiers)) :
    ReadOnce (fun identifiers => " + ".toList.intercalate identifiers)
      (fun other => Readable (.classes other)) EndsArgument identifiers := by
  have hclash (rest rest' : List Char) (hrest : EndsArgument rest) :
      rest ≠ " + ".toList ++ rest' := by
    obtain ⟨c, tail, hc, rfl⟩ := hrest
    intro hplus
    obtain ⟨rfl, -⟩ := List.cons_eq_cons.1 hplus
    exact absurd hc (by decide)
  exact readOnce_sum (by decide)
    (fun rest => endsClass_of_endsArgument (by decide) (by decide))
    hclash hreadable

/-! Names of arguments. -/

theorem ne_space_of_mem_name {form : ArgumentForm} (hreadable : form.Readable) :
    ∀ c ∈ form.name, (c != ' ') = true := by
  cases form with
  | classes => simp [name]
  | plain key value =>
    obtain ⟨-, hkey, -⟩ := hreadable
    rw [name]
    split
    · exact List.all_eq_true.1 (by decide)
    split
    · exact List.all_eq_true.1 (by decide)
    · intro c hc
      rw [isKeyName, Bool.and_eq_true, List.all_eq_true] at hkey
      rw [bne_iff_ne]
      rintro rfl
      exact absurd (hkey.2 ' ' hc) (by decide)

/-- The names of plain arguments tell their keys apart, since the names that the
rules give hold a capital letter. -/
theorem key_eq_of_name_eq {key value key' value' : String}
    (hkey : isKeyName key = true) (hkey' : isKeyName key' = true)
    (h : name (.plain key value) = name (.plain key' value')) :
    key = key' := by
  have hplain {key : String} (hkey : isKeyName key = true) :
      key ≠ "inputType" ∧ key ≠ "forId" := by
    constructor <;> (rintro rfl; exact absurd hkey (by decide))
  have hgiven : "inputType" ≠ "forId" := by decide
  simp only [name, ← apply_ite String.toList, String.toList_inj] at h
  split_ifs at h with htype htype' hfor' hfor htype' hfor' htype' hfor'
  · rw [htype, htype']
  · exact absurd h hgiven
  · exact absurd h.symm (hplain hkey').1
  · exact absurd h.symm hgiven
  · rw [hfor, hfor']
  · exact absurd h.symm (hplain hkey').2
  · exact absurd h (hplain hkey).1
  · exact absurd h (hplain hkey).2
  · exact h

theorem key_eq_c_of_name_eq {identifiers : List (List Char)}
    {key value : String}
    (h : name (.plain key value) = name (.classes identifiers)) :
    key = "c" := by
  have hc : name (.classes identifiers) = "c".toList := rfl
  rw [hc, name, ← apply_ite String.toList, ← apply_ite String.toList,
    String.toList_inj] at h
  split_ifs at h with htype hfor
  · exact absurd h (by decide)
  · exact absurd h (by decide)
  · exact h

/-! Bodies of arguments. -/

/-- Between arguments of one key, the body tells the values apart. -/
theorem readOnce_body (directLinks : Bool) {key value : String}
    (hvalue : key = "type" → ∀ c ∈ value.toList, isWordCharacter c = true) :
    ReadOnce (fun value => body directLinks (.plain key value))
      (fun other => key = "type" → ∀ c ∈ other.toList,
        isWordCharacter c = true) EndsArgument
      value := by
  intro other rest rest' hother hrest hrest' h
  simp only [body] at h
  split_ifs at h with htype hlink
  · rw [List.append_assoc, List.append_assoc] at h
    obtain ⟨hsame, hnext⟩ :=
      readOnce_word isWordCharacter (hvalue htype) other.toList rest rest'
        (hother htype) (endsClass_of_endsArgument (by decide) (by decide) hrest)
        (endsClass_of_endsArgument (by decide) (by decide) hrest')
        (List.append_cancel_left h)
    exact ⟨String.toList_inj.1 hsame, hnext⟩
  · simp only [List.append_assoc] at h
    obtain ⟨hsame, hnext⟩ :=
      readOnce_escape value.toList other.toList (')' :: rest) (')' :: rest')
        trivial trivial trivial (by simpa using List.append_cancel_left h)
    exact ⟨String.toList_inj.1 hsame, (List.cons_eq_cons.1 hnext).2⟩
  · obtain ⟨hsame, hnext⟩ :=
      readOnce_escape value.toList other.toList rest rest' trivial trivial
        trivial (List.cons_eq_cons.1 h).2
    exact ⟨String.toList_inj.1 hsame, hnext⟩

/-- The sum of a class attribute is never taken for a literal. -/
theorem sum_append_ne_quote {identifiers : List (List Char)}
    (hreadable : Readable (.classes identifiers)) {rest : List Char}
    (hrest : EndsArgument rest) (rest' : List Char) :
    " + ".toList.intercalate identifiers ++ rest ≠ '"' :: rest' := by
  by_cases hne : identifiers = []
  · obtain ⟨c, tail, hc, rfl⟩ := hrest
    subst hne
    rintro h
    obtain ⟨rfl, -⟩ := List.cons_eq_cons.1 h
    exact absurd hc (by decide)
  · exact sum_append_ne hreadable hne (endsClass_cons (by decide) rest') rest

/-- The key `c` is written like a class attribute but for the quotes around its
value. -/
theorem body_c (directLinks : Bool) (value : String) :
    body directLinks (.plain "c" value) =
      '"' :: (Text.escape value.toList ++ ['"']) := by
  simp [body]

theorem readOnce_written (directLinks : Bool) {form : ArgumentForm}
    (hreadable : form.Readable) :
    ReadOnce (written directLinks) Readable EndsArgument form := by
  intro other rest rest' hother hrest hrest' h
  simp only [written, List.append_assoc] at h
  have hspace (rest : List Char) :
      EndsClass (fun c => c != ' ') (" = ".toList ++ rest) :=
    endsClass_cons (by decide) _
  obtain ⟨hname, hbody⟩ :=
    readOnce_word (fun c => c != ' ') (ne_space_of_mem_name hreadable)
      other.name _ _ (ne_space_of_mem_name hother) (hspace _) (hspace _) h
  have hbody := List.append_cancel_left hbody
  match form, other with
  | .classes identifiers, .classes identifiers' =>
    obtain ⟨rfl, hnext⟩ :=
      readOnce_identifiers hreadable identifiers' rest rest' hother hrest
        hrest' hbody
    exact ⟨rfl, hnext⟩
  | .plain key value, .plain key' value' =>
    obtain rfl := key_eq_of_name_eq hreadable.2.1 hother.2.1 hname
    obtain ⟨rfl, hnext⟩ :=
      readOnce_body directLinks hreadable.2.2 value' rest rest' hother.2.2
        hrest hrest' hbody
    exact ⟨rfl, hnext⟩
  | .classes identifiers, .plain key value =>
    obtain rfl := key_eq_c_of_name_eq hname.symm
    rw [body_c] at hbody
    exact absurd hbody (sum_append_ne_quote hreadable hrest _)
  | .plain key value, .classes identifiers =>
    obtain rfl := key_eq_c_of_name_eq hname
    rw [body_c] at hbody
    exact absurd hbody.symm (sum_append_ne_quote hother hrest' _)

theorem written_ne_nil (directLinks : Bool) (form : ArgumentForm) :
    written directLinks form ≠ [] := by
  simp [written]

/-- The identifiers of plain class names are not empty and plain. -/
theorem readable_classes {value : String}
    (hvalue : ∀ c ∈ value.toList,
      (isIdentifierCharacter c || c == ' ') = true) :
    Readable
      (.classes ((Rule.classNames value.toList).map Rule.classIdentifier)) := by
  intro identifier hidentifier
  obtain ⟨part, hpart, rfl⟩ := List.mem_map.1 hidentifier
  obtain ⟨hsplit, hne⟩ := List.mem_filter.1 hpart
  have hplain : ∀ c ∈ part, isIdentifierCharacter c = true :=
    Text.forall_mem_of_mem_splitOn
      (fun c hc hspace => by simpa [hspace] using hvalue c hc) part hsplit
  refine ⟨by simpa [Rule.classIdentifier] using hne, ?_⟩
  intro c hc
  obtain ⟨d, hd, rfl⟩ := List.mem_map.1 hc
  split
  · decide
  · exact hplain d hd

/-- A plain attribute has a form that can be read back. -/
theorem readable_ofEntry {entry : String × String}
    (hentry : isPlainEntry entry = true) : (ofEntry entry).Readable := by
  simp only [isPlainEntry, Bool.and_eq_true, Bool.or_eq_true, bne_iff_ne,
    List.all_eq_true] at hentry
  obtain ⟨⟨hkey, hclass⟩, htype⟩ := hentry
  rw [ofEntry]
  split
  · next h =>
      exact readable_classes (by simpa using hclass.resolve_left (not_not.2 h))
  · next h => exact ⟨h, hkey, fun h => htype.resolve_left (not_not.2 h)⟩

/-! Lists of arguments. -/

def writtenList (directLinks : Bool) (forms : List ArgumentForm) : List Char :=
  match forms with
  | [] => []
  | forms =>
    '(' ::
      (", ".toList.intercalate (forms.map (written directLinks)) ++ [')'])

theorem writtenList_of_ne_nil (directLinks : Bool) {forms : List ArgumentForm}
    (hne : forms ≠ []) :
    writtenList directLinks forms =
      '(' ::
        (", ".toList.intercalate (forms.map (written directLinks)) ++
          [')']) := by
  cases forms with
  | nil => exact absurd rfl hne
  | cons form rest => rfl

theorem toList_arguments (options : Options)
    (entries : List (String × String)) :
    (Rules.arguments {} options entries).toList =
      ", ".toList.intercalate
        ((entries.map ofEntry).map (written options.directLinks)) := by
  rw [Rules.arguments, String.toList_intercalate, List.map_map, List.map_map]
  congr 1
  exact List.map_congr_left fun entry _ =>
    toList_argument options entry.1 entry.2

theorem arguments_eq_empty_iff (options : Options)
    (entries : List (String × String)) :
    Rules.arguments {} options entries = "" ↔ entries = [] := by
  rw [← String.toList_inj, toList_arguments]
  match entries with
  | [] => simp
  | [entry] => simp [written_ne_nil]
  | first :: second :: rest =>
    simp only [List.map_cons, List.intercalate_cons_cons]
    simp [written_ne_nil]

theorem toList_parenthesised (options : Options)
    (entries : List (String × String)) :
    (if Rules.arguments {} options entries = "" then ""
      else "(" ++ Rules.arguments {} options entries ++ ")").toList =
      writtenList options.directLinks (entries.map ofEntry) := by
  by_cases hentries : entries = []
  · subst hentries
    rfl
  · have hne : Rules.arguments {} options entries ≠ "" := fun h =>
      hentries ((arguments_eq_empty_iff options entries).1 h)
    rw [if_neg hne, writtenList_of_ne_nil _ (by simpa using hentries),
      ← toList_arguments]
    simp

theorem readOnce_writtenList (directLinks : Bool) {forms : List ArgumentForm}
    (hforms : ∀ form ∈ forms, form.Readable) :
    ReadOnce (writtenList directLinks)
      (fun other => ∀ form ∈ other, Readable form)
      (EndsClass (· == '(')) forms := by
  intro other rest rest' hother hrest hrest' h
  by_cases hne : forms = []
  · by_cases hne' : other = []
    · subst hne hne'
      exact ⟨rfl, h⟩
    · rw [hne, writtenList_of_ne_nil _ hne'] at h
      obtain rfl : rest = '(' :: _ := h
      have hopen := hrest '(' rfl
      exact absurd hopen (by decide)
  · have hne' : other ≠ [] := by
      rintro rfl
      rw [writtenList_of_ne_nil _ hne] at h
      obtain rfl : '(' :: _ = rest' := h
      have hopen := hrest' '(' rfl
      exact absurd hopen (by decide)
    rw [writtenList_of_ne_nil _ hne, writtenList_of_ne_nil _ hne',
      List.cons_append, List.cons_append, List.append_assoc,
      List.append_assoc] at h
    have hinside := (List.cons_eq_cons.1 h).2
    have hcomma (rest : List Char) : EndsArgument (", ".toList ++ rest) :=
      ⟨',', _, .inl rfl, rfl⟩
    have hclose (rest : List Char) (hrest : ∃ rest', rest = ')' :: rest') :
        EndsArgument rest := by
      obtain ⟨rest', rfl⟩ := hrest
      exact ⟨')', rest', .inr rfl, rfl⟩
    have hclash (rest rest' : List Char)
        (hrest : ∃ rest', rest = ')' :: rest') :
        rest ≠ ", ".toList ++ rest' := by
      obtain ⟨tail, rfl⟩ := hrest
      intro h
      exact absurd (List.cons_eq_cons.1 h).1 (by decide)
    obtain ⟨rfl, hnext⟩ := readOnce_intercalate hcomma hclose hclash
      (fun form => readOnce_written directLinks) hne hforms other _ _
      ⟨hne', hother⟩ ⟨rest, rfl⟩ ⟨rest', rfl⟩ hinside
    exact ⟨rfl, (List.cons_eq_cons.1 hnext).2⟩

end ArgumentForm

end HtmlBuilder
