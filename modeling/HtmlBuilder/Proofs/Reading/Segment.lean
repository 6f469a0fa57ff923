import HtmlBuilder.Proofs.Reading.Argument
import HtmlBuilder.Proofs.Text.Lines

/-!
Cutting a list of arguments into its segments. A reader of the list cuts at
every comma but those inside literals, where a backslash takes the next
character as it is. A text may stand in front of a separator without changing
what follows it if the reader, once through with it, has met no comma and is not
inside a literal. Arguments with a quoted value are like that whatever the value
is; a class name or an input type stands in its argument without quotes, and
there it depends on the value.
-/

namespace HtmlBuilder

/-- Where a reader of arguments stands: outside of literals, inside one, or
behind a backslash in one. -/
inductive Standing where
  | outside
  | inside
  | escaped
deriving DecidableEq

def Standing.next : Standing → Char → Standing
  | .outside, c => if c = '"' then .inside else .outside
  | .inside, c =>
    if c = '"' then .outside else if c = '\\' then .escaped else .inside
  | .escaped, _ => .inside

def segmentsFrom (standing : Standing) : List Char → List (List Char)
  | [] => [[]]
  | c :: rest =>
    if standing = .outside ∧ c = ',' then [] :: segmentsFrom .outside rest
    else (segmentsFrom (standing.next c) rest).modifyHead (c :: ·)

/-- The segments of a list of arguments; an empty text has none. -/
def segments (text : List Char) : List (List Char) :=
  if text = [] then [] else segmentsFrom .outside text

/-- Where a reader stands behind a text, unless it has met a comma outside of
literals. -/
def readThrough (standing : Standing) : List Char → Option Standing
  | [] => some standing
  | c :: rest =>
    if standing = .outside ∧ c = ',' then none
    else readThrough (standing.next c) rest

theorem readThrough_append (standing : Standing) (a b : List Char) :
    readThrough standing (a ++ b) =
      (readThrough standing a).bind (readThrough · b) := by
  induction a generalizing standing with
  | nil => rfl
  | cons c a ih =>
    rw [List.cons_append, readThrough, readThrough]
    split
    · rfl
    · exact ih (standing.next c)

theorem modifyHead_cons_inj (c : Char) {a b : List (List Char)} :
    a.modifyHead (c :: ·) = b.modifyHead (c :: ·) ↔ a = b := by
  cases a <;> cases b <;> simp

/-- The first segment ends at a comma exactly if the reader gets that far and is
outside there. -/
theorem segmentsFrom_append_comma_iff (standing : Standing) (a rest : List Char)
    (others : List (List Char)) :
    segmentsFrom standing (a ++ ',' :: rest) = a :: others ↔
      readThrough standing a = some .outside ∧
      segmentsFrom .outside rest = others := by
  induction a generalizing standing with
  | nil =>
    rw [List.nil_append, segmentsFrom, readThrough, Option.some_inj]
    by_cases hstanding : standing = .outside
    · simp [hstanding]
    · rw [if_neg fun h => hstanding h.1]
      cases segmentsFrom (standing.next ',') rest <;> simp [hstanding]
  | cons c a ih =>
    rw [List.cons_append, segmentsFrom, readThrough]
    split
    · simp
    · exact (modifyHead_cons_inj c (b := a :: others)).trans
        (ih (standing.next c))

theorem segmentsFrom_eq_singleton_iff (standing : Standing) (text : List Char) :
    segmentsFrom standing text = [text] ↔
      (readThrough standing text).isSome = true := by
  induction text generalizing standing with
  | nil => simp [segmentsFrom, readThrough]
  | cons c text ih =>
    rw [segmentsFrom, readThrough]
    split
    · simp
    · exact (modifyHead_cons_inj c (b := [text])).trans (ih (standing.next c))

/-- Texts with a space in front of all but the first. -/
def spaced : List (List Char) → List (List Char)
  | [] => []
  | first :: rest => first :: rest.map (' ' :: ·)

/-- A text that a reader leaves as it entered it, without having met a comma
outside of literals. -/
def Enclosed (text : List Char) : Prop :=
  readThrough .outside text = some .outside

instance (text : List Char) : Decidable (Enclosed text) :=
  inferInstanceAs (Decidable (_ = _))

/-- A list of texts is cut into these texts exactly if all of them are enclosed;
the last one need not close its literals. -/
theorem segmentsFrom_intercalate_iff {texts : List (List Char)}
    (hne : texts ≠ []) :
    segmentsFrom .outside (", ".toList.intercalate texts) = spaced texts ↔
      (∀ text ∈ texts.dropLast, Enclosed text) ∧
        ∀ text ∈ texts.getLast?, (readThrough .outside text).isSome = true := by
  induction texts with
  | nil => exact absurd rfl hne
  | cons first rest ih =>
    cases rest with
    | nil => simp [spaced, segmentsFrom_eq_singleton_iff]
    | cons second rest =>
      have hlist : ", ".toList.intercalate (first :: second :: rest) =
          first ++ ',' :: ' ' :: ", ".toList.intercalate (second :: rest) := by
        rw [List.intercalate_cons_cons, List.append_assoc]
        rfl
      have hspace (text : List Char) :
          segmentsFrom .outside (' ' :: text) =
            (segmentsFrom .outside text).modifyHead (' ' :: ·) := by
        rw [segmentsFrom, if_neg (by decide), Standing.next, if_neg (by decide)]
      have hspaced : (second :: rest).map (' ' :: ·) =
          (spaced (second :: rest)).modifyHead (' ' :: ·) := rfl
      rw [hlist, spaced, segmentsFrom_append_comma_iff, hspace, hspaced,
        modifyHead_cons_inj, ih (List.cons_ne_nil second rest),
        List.dropLast_cons_cons, List.forall_mem_cons, List.getLast?_cons_cons,
        Enclosed, and_assoc]

/-! What a reader does with the parts of an argument. -/

theorem readThrough_plain {text : List Char}
    (htext : ∀ c ∈ text, c ≠ ',' ∧ c ≠ '"') (rest : List Char) :
    readThrough .outside (text ++ rest) = readThrough .outside rest := by
  induction text with
  | nil => rfl
  | cons c text ih =>
    obtain ⟨hcomma, hquote⟩ := htext c List.mem_cons_self
    rw [List.cons_append, readThrough, if_neg fun h => hcomma h.2,
      Standing.next, if_neg hquote]
    exact ih fun d hd => htext d (List.mem_cons_of_mem _ hd)

theorem readThrough_escape (text rest : List Char) :
    readThrough .inside (Text.escape text ++ rest) =
      readThrough .inside rest := by
  induction text with
  | nil => rfl
  | cons c text ih =>
    rw [Text.escape_cons, List.append_assoc]
    by_cases hc : Text.isSpecial c = true
    · rw [if_pos hc]
      exact ih
    · have hplain : c ≠ '\\' ∧ c ≠ '"' ∧ c ≠ '$' := by
        simpa [Text.isSpecial, and_assoc] using hc
      rw [if_neg hc, List.singleton_append, readThrough, if_neg (by simp),
        Standing.next, if_neg hplain.2.1, if_neg hplain.1]
      exact ih

theorem readThrough_quoted (text rest : List Char) :
    readThrough .outside ('"' :: (Text.escape text ++ '"' :: rest)) =
      readThrough .outside rest := by
  rw [readThrough, if_neg (by decide)]
  change readThrough .inside _ = _
  rw [readThrough_escape, readThrough, if_neg (by decide)]
  rfl

/-! Class names. -/

/-- A hyphen and the underscore written for it are the same to a reader. -/
theorem readThrough_classIdentifier (standing : Standing) (name : List Char) :
    readThrough standing (Rule.classIdentifier name) =
      readThrough standing name := by
  induction name generalizing standing with
  | nil => rfl
  | cons c name ih =>
    have hcons : Rule.classIdentifier (c :: name) =
        (if c == '-' then '_' else c) :: Rule.classIdentifier name := rfl
    rw [hcons, readThrough, readThrough, ih]
    by_cases hc : c = '-'
    · subst hc
      cases standing <;> rfl
    · rw [beq_eq_false_iff_ne.2 hc]
      rfl

/-- Behind a space no character is escaped. -/
theorem readThrough_append_space {standing standing' : Standing}
    {text : List Char}
    (h : readThrough standing (text ++ [' ']) = some standing') :
    standing' ≠ .escaped := by
  rw [readThrough_append] at h
  obtain ⟨middle, -, hspace⟩ := Option.bind_eq_some_iff.1 h
  cases middle <;> (obtain rfl := Option.some_inj.1 hspace; decide)

theorem readThrough_spaces {standing : Standing}
    (hstanding : standing ≠ .escaped) :
    readThrough standing [' '] = some standing ∧
    readThrough standing ['+', ' '] = some standing := by
  cases standing with
  | outside => exact ⟨rfl, rfl⟩
  | inside => exact ⟨rfl, rfl⟩
  | escaped => exact absurd rfl hstanding

/-- Empty parts between spaces make no difference. -/
theorem readThrough_parts {standing : Standing}
    (hstanding : standing ≠ .escaped) (parts : List (List Char)) :
    readThrough standing
      ((parts.filter fun part => !part.isEmpty).flatMap (· ++ [' '])) =
      readThrough standing (parts.flatMap (· ++ [' '])) := by
  induction parts generalizing standing with
  | nil => rfl
  | cons part parts ih =>
    rw [List.flatMap_cons, readThrough_append]
    cases part with
    | nil =>
      rw [List.nil_append, (readThrough_spaces hstanding).1, Option.bind_some,
        ← ih hstanding]
      rfl
    | cons c part =>
      rw [List.filter_cons_of_pos rfl, List.flatMap_cons, readThrough_append]
      refine Option.bind_congr fun standing' hnext =>
        ih (readThrough_append_space hnext)

/-- The plus signs between identifiers make no difference. -/
theorem readThrough_sum {standing : Standing} (hstanding : standing ≠ .escaped)
    (names : List (List Char)) :
    readThrough standing
        (" + ".toList.intercalate (names.map Rule.classIdentifier) ++ [' ']) =
      readThrough standing (names.flatMap (· ++ [' '])) := by
  induction names generalizing standing with
  | nil => exact (readThrough_spaces hstanding).1
  | cons name names ih =>
    have hname : readThrough standing (Rule.classIdentifier name ++ [' ']) =
        readThrough standing (name ++ [' ']) := by
      rw [readThrough_append, readThrough_append, readThrough_classIdentifier]
    cases names with
    | nil => simpa using hname
    | cons second names =>
      have hsum :
          " + ".toList.intercalate
              ((name :: second :: names).map Rule.classIdentifier) ++ [' '] =
            (Rule.classIdentifier name ++ [' ']) ++ (['+', ' '] ++
              (" + ".toList.intercalate
                ((second :: names).map Rule.classIdentifier) ++ [' '])) := by
        rw [List.map_cons, List.map_cons, List.intercalate_cons_cons]
        simp
      rw [hsum,
        readThrough_append standing (Rule.classIdentifier name ++ [' ']), hname,
        List.flatMap_cons, readThrough_append standing (name ++ [' '])]
      refine Option.bind_congr fun standing' hnext => ?_
      have hstanding' := readThrough_append_space hnext
      rw [readThrough_append, (readThrough_spaces hstanding').2,
        Option.bind_some, ih hstanding']

/-- A reader cannot tell a class attribute from the sum that is written for it,
if a space follows. -/
theorem readThrough_classSum (value : String) :
    readThrough .outside ((Rule.classSum value).toList ++ [' ']) =
      readThrough .outside (value.toList ++ [' ']) := by
  calc readThrough .outside ((Rule.classSum value).toList ++ [' '])
    _ = readThrough .outside
        ((Rule.classNames value.toList).flatMap (· ++ [' '])) := by
      rw [ArgumentForm.toList_classSum, readThrough_sum (by decide)]
    _ = readThrough .outside
        ((value.toList.splitOn ' ').flatMap (· ++ [' '])) :=
      readThrough_parts (by decide) _
    _ = readThrough .outside (value.toList ++ [' ']) := by
      have hsplit : (value.toList ++ [' ']).splitOn ' ' =
          value.toList.splitOn ' ' ++ [[]] :=
        List.splitOn_append_cons_self _ _
      rw [← Text.intercalate_concat_nil, ← hsplit, List.intercalate_splitOn]

/-! Arguments. -/

def argumentName (key : String) : String :=
  if key = "class" then "c"
  else if key = "type" then "inputType"
  else if key = "for" then "forId"
  else key

/-- What stands in an argument without quotes: the value of a class or of a
type. -/
def bareValue (entry : String × String) : List Char :=
  if entry.1 = "class" ∨ entry.1 = "type" then entry.2.toList else []

def isArgumentKey (key : String) : Bool :=
  key != "" && key.toList.all fun c => c.isAlphanum || c == '-'

theorem ne_of_isArgumentKey {key : String} (hkey : isArgumentKey key = true) :
    ∀ c ∈ key.toList, c ≠ ',' ∧ c ≠ '"' := by
  rw [isArgumentKey, Bool.and_eq_true, List.all_eq_true] at hkey
  intro c hc
  have hplain := hkey.2 c hc
  constructor <;> (rintro rfl; exact absurd hplain (by decide))

/-- A quoted argument leaves a reader outside, whatever its value is. -/
theorem readThrough_quotedArgument {name : String}
    (hname : ∀ c ∈ name.toList, c ≠ ',' ∧ c ≠ '"')
    (value : String) (rest : List Char) :
    readThrough .outside ((Rule.quotedArgument name value).toList ++ rest) =
      readThrough .outside rest := by
  have hequals : ∀ c ∈ " = ".toList, c ≠ ',' ∧ c ≠ '"' := by simp
  rw [ArgumentForm.toList_quotedArgument]
  simp only [List.append_assoc, List.cons_append, List.nil_append]
  rw [readThrough_plain hname, readThrough_plain hequals, readThrough_quoted]

theorem readThrough_link (options : Options) (value : String)
    (rest : List Char) :
    readThrough .outside
      ((Rule.link.replacement value options).toList ++ rest) =
      readThrough .outside rest := by
  have hname : ∀ c ∈ "href".toList ++ " = ".toList, c ≠ ',' ∧ c ≠ '"' := by simp
  rw [ArgumentForm.toList_link, List.append_assoc, readThrough_plain hname]
  split
  · have hcall : ∀ c ∈ "DirectLink(".toList, c ≠ ',' ∧ c ≠ '"' := by simp
    have hclose : ∀ c ∈ [')'], c ≠ ',' ∧ c ≠ '"' := by simp
    have hquote : "DirectLink(\"".toList = "DirectLink(".toList ++ ['"'] := rfl
    rw [hquote]
    simp only [List.append_assoc, List.cons_append, List.nil_append]
    rw [readThrough_plain hcall, readThrough_quoted]
    exact readThrough_plain hclose rest
  · simp only [List.cons_append, List.append_assoc, List.nil_append]
    rw [readThrough_quoted]

/-- A reader that goes through an argument sees what is not quoted in it. -/
theorem readThrough_argument (options : Options) {entry : String × String}
    (hkey : isArgumentKey entry.1 = true) :
    readThrough .outside
      ((Rules.argument {} options entry.1 entry.2).toList ++ [' ']) =
      readThrough .outside (bareValue entry ++ [' ']) := by
  obtain ⟨key, value⟩ := entry
  simp only [ArgumentForm.argument_eq, bareValue]
  by_cases hclass : key = "class"
  · have hname : ∀ c ∈ "c = ".toList, c ≠ ',' ∧ c ≠ '"' := by simp
    rw [if_pos hclass, if_pos (.inl hclass), String.toList_append,
      List.append_assoc, readThrough_plain hname, readThrough_classSum]
  by_cases htype : key = "type"
  · have hname : ∀ c ∈ "inputType = InputType.".toList, c ≠ ',' ∧ c ≠ '"' := by
      simp
    rw [if_neg hclass, if_pos htype, if_pos (.inr htype), String.toList_append,
      List.append_assoc, readThrough_plain hname]
  rw [if_neg hclass, if_neg htype, if_neg (not_or.2 ⟨hclass, htype⟩),
    List.nil_append]
  by_cases hlink : key = "href"
  · rw [if_pos hlink, readThrough_link]
  rw [if_neg hlink]
  by_cases hlabel : key = "for"
  · rw [if_pos hlabel, readThrough_quotedArgument (by simp)]
  · rw [if_neg hlabel, readThrough_quotedArgument (ne_of_isArgumentKey hkey)]

/-- Texts that a reader cannot tell apart when a space follows are enclosed at
the same time, and free of commas outside of literals at the same time. -/
theorem enclosed_iff_of_readThrough_space {a b : List Char}
    (h : readThrough .outside (a ++ [' ']) =
      readThrough .outside (b ++ [' '])) :
    (Enclosed a ↔ Enclosed b) ∧
      ((readThrough .outside a).isSome = true ↔
        (readThrough .outside b).isSome = true) := by
  have hspace (standing : Standing) :
      readThrough standing [' '] = some (standing.next ' ') := by
    cases standing <;> rfl
  have houtside (standing : Standing) : standing.next ' ' = .outside ↔
      standing = .outside := by
    cases standing <;> decide
  simp only [readThrough_append, hspace] at h
  rw [Enclosed, Enclosed]
  cases ha : readThrough .outside a with
  | none =>
    cases hb : readThrough .outside b with
    | none => simp
    | some standing' => simp [ha, hb] at h
  | some standing =>
    cases hb : readThrough .outside b with
    | none => simp [ha, hb] at h
    | some standing' =>
      rw [ha, hb, Option.bind_some, Option.bind_some, Option.some_inj] at h
      refine ⟨?_, by simp⟩
      rw [Option.some_inj, Option.some_inj, ← houtside standing,
        ← houtside standing', h]

theorem argumentName_prefix (options : Options) (entry : String × String) :
    (argumentName entry.1 ++ " = ").toList <+:
      (Rules.argument {} options entry.1 entry.2).toList := by
  have hname : (argumentName entry.1).toList =
      (ArgumentForm.ofEntry entry).name := by
    rw [argumentName, ArgumentForm.ofEntry]
    by_cases hclass : entry.1 = "class"
    · rw [if_pos hclass, if_pos hclass]
      rfl
    · rw [if_neg hclass, if_neg hclass, ArgumentForm.name,
        apply_ite String.toList, apply_ite String.toList]
  rw [ArgumentForm.toList_argument, ArgumentForm.written,
    String.toList_append, hname]
  exact List.prefix_append _ _

/-- Cut at its commas outside of literals, a list of arguments falls into the
arguments of the single attributes exactly if the values that stand in it
without quotes are enclosed; the last of them need not close its literals. Each
argument begins with its name and an equals sign. -/
theorem segments_arguments_iff (options : Options)
    {entries : List (String × String)}
    (hkeys : ∀ entry ∈ entries, isArgumentKey entry.1 = true) :
    (segments (Rules.arguments {} options entries).toList =
        spaced (entries.map fun entry =>
          (Rules.argument {} options entry.1 entry.2).toList) ↔
      (∀ entry ∈ entries.dropLast, Enclosed (bareValue entry)) ∧
        ∀ entry ∈ entries.getLast?,
          (readThrough .outside (bareValue entry)).isSome = true) ∧
    ∀ entry ∈ entries, (argumentName entry.1 ++ " = ").toList <+:
      (Rules.argument {} options entry.1 entry.2).toList := by
  refine ⟨?_, fun entry _ => argumentName_prefix options entry⟩
  have hiff (entry : String × String) (hentry : entry ∈ entries) :=
    enclosed_iff_of_readThrough_space
      (readThrough_argument options (hkeys entry hentry))
  by_cases hne : entries = []
  · subst hne
    simp [Rules.arguments, segments, spaced]
  · have htext : (Rules.arguments {} options entries).toList ≠ [] := by
      rw [Ne, String.toList_eq_nil_iff, ArgumentForm.arguments_eq_empty_iff]
      exact hne
    have hlist : (Rules.arguments {} options entries).toList =
        ", ".toList.intercalate (entries.map fun entry =>
          (Rules.argument {} options entry.1 entry.2).toList) := by
      rw [Rules.arguments, String.toList_intercalate, List.map_map]
      rfl
    rw [segments, if_neg htext, hlist,
      segmentsFrom_intercalate_iff (by simpa using hne),
      ← List.map_dropLast, List.forall_mem_map, List.getLast?_map]
    refine and_congr ?_ ?_
    · exact forall₂_congr fun entry hentry =>
        (hiff entry (List.dropLast_subset entries hentry)).1
    · simp only [Option.mem_def, Option.map_eq_some_iff,
        forall_exists_index, and_imp, forall_apply_eq_imp_iff₂]
      exact forall₂_congr fun entry hentry =>
        (hiff entry (List.mem_of_getLast? hentry)).2

/-- A comma inside quotes of its own does no harm, and neither does a backslash
at the end of a value that is quoted. -/
theorem segments_arguments_iff_quotes :
    (∀ entry ∈ [("class", "a\"b,c\""), ("title", "x, \"y\\")],
      isArgumentKey entry.1 = true) ∧
      segments (Rules.arguments {} {} [("class", "a\"b,c\""),
        ("title", "x, \"y\\")]).toList =
        spaced ([("class", "a\"b,c\""), ("title", "x, \"y\\")].map fun entry =>
          (Rules.argument {} {} entry.1 entry.2).toList) := by
  have hkeys : ∀ entry ∈ [("class", "a\"b,c\""), ("title", "x, \"y\\")],
      isArgumentKey entry.1 = true := by decide
  exact ⟨hkeys, (segments_arguments_iff {} hkeys).1.2 ⟨by decide, by decide⟩⟩

/-- A comma in a class name makes a segment of its own. -/
theorem segments_arguments_comma :
    (∀ entry ∈ [("class", "a,b"), ("title", "t")],
      isArgumentKey entry.1 = true) ∧
      ([("class", "a,b"), ("title", "t")].map Prod.fst).Nodup ∧
      segments
        (Rules.arguments {} {} [("class", "a,b"), ("title", "t")]).toList =
        ["c = a".toList, "b".toList, " title = \"t\"".toList] := by
  refine ⟨by decide, by decide, by decide⟩

end HtmlBuilder
