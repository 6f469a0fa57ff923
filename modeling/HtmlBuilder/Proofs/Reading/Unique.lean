import HtmlBuilder.Proofs.Reading.Outline

/-!
Unique readability. Two forests of parsed trees with plain names have the same
output exactly when they have the same outline. Lines of a block are told from
the delimiter that closes it by their depth, so a block is read back line by
line; an outline is read back from its first character behind the tabs, and its
children, by induction, up to the brace that closes them.
-/

namespace HtmlBuilder

/-! Lines of a block. -/

def ClosesBlock (depth : Nat) (rest : List Char) : Prop :=
  ∃ c rest', c ≠ '\t' ∧ rest = tabs depth ++ c :: rest'

theorem closesBlock_line {depth : Nat} {c : Char} (hc : c ≠ '\t')
    (content rest : List Char) :
    ClosesBlock depth (writtenLine depth (c :: content) ++ rest) :=
  ⟨c, content ++ ['\n'] ++ rest, hc, by simp [writtenLine]⟩

theorem tabs_succ (depth : Nat) : tabs (depth + 1) = tabs depth ++ ['\t'] :=
  List.replicate_succ'

/-- A line that closes a block is no line of the block. -/
theorem ne_tabs_succ_append {depth : Nat} {rest : List Char}
    (hrest : ClosesBlock depth rest)
    (rest' : List Char) : rest ≠ tabs (depth + 1) ++ rest' := by
  obtain ⟨c, tail, hc, rfl⟩ := hrest
  rw [tabs_succ, List.append_assoc]
  intro h
  exact hc (List.cons_eq_cons.1 (List.append_cancel_left h)).1

theorem readOnce_writtenLine (depth : Nat) {content : List Char}
    (hcontent : '\n' ∉ content) :
    ReadOnce (writtenLine depth) (fun other => '\n' ∉ other)
      (fun _ => True) content := by
  intro other rest rest' hother _ _ h
  simp only [writtenLine, List.append_assoc] at h
  have hline {content : List Char} (hcontent : '\n' ∉ content) :
      ∀ c ∈ content, (c != '\n') = true :=
    fun c hc => by simpa using fun h : c = '\n' => hcontent (h ▸ hc)
  obtain ⟨hsame, hnext⟩ :=
    readOnce_word (fun c => c != '\n') (hline hcontent) other _ _
      (hline hother) (endsClass_cons (by decide) _)
      (endsClass_cons (by decide) _) (List.append_cancel_left h)
  exact ⟨hsame, (List.cons_eq_cons.1 hnext).2⟩

theorem readOnce_writtenLines (depth : Nat) {encode : List Char → List Char}
    (hinjective : ∀ a b, encode a = encode b → a = b)
    (hfeed : ∀ line, '\n' ∉ line → '\n' ∉ encode line)
    {lines : List String} (hlines : ∀ line ∈ lines, '\n' ∉ line.toList) :
    ReadOnce (writtenLines (depth + 1) encode)
      (fun other => ∀ line ∈ other, '\n' ∉ line.toList)
      (ClosesBlock depth) lines := by
  have hstop (line : String) (rest rest' : List Char) (_ : '\n' ∉ line.toList)
      (hrest : ClosesBlock depth rest) :
      rest ≠ writtenLine (depth + 1) (encode line.toList) ++ rest' := by
    rw [writtenLine, List.append_assoc, List.append_assoc]
    exact ne_tabs_succ_append hrest _
  refine readOnce_flatMap hstop hlines
    fun line hline other rest rest' hother _ _ h => ?_
  obtain ⟨hsame, hnext⟩ :=
    readOnce_writtenLine (depth + 1) (hfeed _ (hlines line hline)) _ _ _
      (hfeed _ hother) trivial trivial h
  exact ⟨String.toList_inj.1 (hinjective _ _ hsame), hnext⟩

/-- A block between two lines of the same delimiter. -/
theorem readOnce_block (depth : Nat) {encode : List Char → List Char}
    (hinjective : ∀ a b, encode a = encode b → a = b)
    (hfeed : ∀ line, '\n' ∉ line → '\n' ∉ encode line)
    (opening : List Char) {c : Char} (hc : c ≠ '\t') (closing : List Char)
    {lines : List String} (hlines : ∀ line ∈ lines, '\n' ∉ line.toList) :
    ReadOnce
      (fun lines =>
        writtenLine depth opening ++ writtenLines (depth + 1) encode lines ++
          writtenLine depth (c :: closing))
      (fun other => ∀ line ∈ other, '\n' ∉ line.toList)
      (fun _ => True) lines := by
  intro other rest rest' hother _ _ h
  simp only [List.append_assoc] at h
  obtain ⟨rfl, hnext⟩ :=
    readOnce_writtenLines depth hinjective hfeed hlines other _ _ hother
      (closesBlock_line hc closing rest) (closesBlock_line hc closing rest')
      (List.append_cancel_left h)
  exact ⟨rfl, List.append_cancel_left hnext⟩

namespace Outline

/-! Outlines that can be read back. -/

mutual

/-- An outline that comes from a parsed tree with plain names. -/
def Readable (inRawText : Bool) (outline : Outline) : Prop :=
  match outline with
  | .text lines =>
    inRawText = false ∧ lines ≠ [] ∧ ∀ line ∈ lines, '\n' ∉ line.toList
  | .comment lines => ∀ line ∈ lines, '\n' ∉ line.toList
  | .rawData lines => inRawText = true ∧ ∀ line ∈ lines, '\n' ∉ line.toList
  | .call name forms => isKeyName name = true ∧ ∀ form ∈ forms, form.Readable
  | .block name forms children =>
    (isKeyName name = true ∧ ∀ form ∈ forms, form.Readable) ∧
      AllReadable (holdsRawText name) children

def AllReadable (inRawText : Bool) (outlines : List Outline) : Prop :=
  match outlines with
  | [] => True
  | outline :: rest => Readable inRawText outline ∧ AllReadable inRawText rest

end

theorem allReadable_iff (inRawText : Bool) (outlines : List Outline) :
    AllReadable inRawText outlines ↔
      ∀ outline ∈ outlines, Readable inRawText outline := by
  induction outlines with
  | nil => simp [AllReadable]
  | cons outline rest ih => simp [AllReadable, ih]

mutual

theorem readable_outline? {inRawText : Bool} (node : Node)
    (hparsed : node.isParsed inRawText = true) (hplain : node.isPlain = true) :
    ∀ outline ∈ outline? node, Readable inRawText outline := by
  match node with
  | ⟨kind, name, value?, attributes, children⟩ =>
    have hlines := lineFeed_notMem_valueLines (value?.getD "")
    cases kind with
    | document => simp [outline?]
    | doctype => simp [outline?]
    | text =>
      rw [Node.isParsed, Bool.and_eq_true] at hparsed
      rw [outline?]
      split
      · simp
      · next hblank =>
        rintro outline ⟨⟩
        exact ⟨by simpa using hparsed.1,
          valueLines_ne_nil (by simpa using hblank), hlines⟩
    | comment =>
      rintro outline ⟨⟩
      exact hlines
    | rawData =>
      rw [Node.isParsed, Bool.and_eq_true] at hparsed
      rintro outline ⟨⟩
      exact ⟨hparsed.1, hlines⟩
    | element =>
      rw [Node.isParsed] at hparsed
      simp only [Node.isPlain, bne_self_eq_false, Bool.false_or,
        Bool.and_eq_true, List.all_eq_true] at hplain
      obtain ⟨⟨hname, hentries⟩, hchildren⟩ := hplain
      have hforms : ∀ form ∈ attributes.entries.map ArgumentForm.ofEntry,
          form.Readable := by
        intro form hform
        obtain ⟨entry, hentry, rfl⟩ := List.mem_map.1 hform
        exact ArgumentForm.readable_ofEntry (hentries entry hentry)
      match children with
      | [] =>
        rintro outline ⟨⟩
        exact ⟨hname, hforms⟩
      | child :: rest =>
        rintro outline ⟨⟩
        exact ⟨⟨hname, hforms⟩,
          allReadable_normalForm (child :: rest) hparsed hchildren⟩

theorem allReadable_normalForm {inRawText : Bool} (nodes : List Node)
    (hparsed : Node.areParsed inRawText nodes = true)
    (hplain : Node.arePlain nodes = true) :
    AllReadable inRawText (normalForm nodes) := by
  match nodes with
  | [] => trivial
  | node :: rest =>
    rw [Node.areParsed, Bool.and_eq_true] at hparsed
    rw [Node.arePlain, Bool.and_eq_true] at hplain
    rw [normalForm, allReadable_iff]
    intro outline houtline
    rcases List.mem_append.1 houtline with houtline | houtline
    · exact readable_outline? node hparsed.1 hplain.1 outline
        (by simpa using houtline)
    · have hrest := allReadable_normalForm rest hparsed.2 hplain.2
      exact (allReadable_iff _ _).1 hrest outline houtline

end

/-! What an outline starts with. -/

/-- Outlines of different families start with different characters. -/
inductive Family where
  | literal
  | comment
  | element

def family : Outline → Family
  | .text _ | .rawData _ => .literal
  | .comment _ => .comment
  | .call _ _ | .block _ _ _ => .element

def lead : Outline → Char
  | .text [_] => '+'
  | .text _ | .rawData _ => '"'
  | .comment _ => '/'
  | .call name _ | .block name _ _ => name.toList.headD ' '

def Family.ofLead (c : Char) : Family :=
  if isKeyCharacter c = true then .element
  else if c = '/' then .comment
  else .literal

theorem exists_cons_of_isKeyName {name : String}
    (hname : isKeyName name = true) :
    ∃ c rest, name.toList = c :: rest ∧ isKeyCharacter c = true := by
  rw [isKeyName, Bool.and_eq_true, bne_iff_ne, List.all_eq_true] at hname
  obtain ⟨c, rest, hlist⟩ :=
    List.exists_cons_of_ne_nil (by simpa using hname.1 : name.toList ≠ [])
  exact ⟨c, rest, hlist, hname.2 c (by simp [hlist])⟩

theorem exists_written_eq (directLinks : Bool) (depth : Nat) {inRawText : Bool}
    {outline : Outline} (hreadable : Readable inRawText outline) :
    ∃ rest, written directLinks depth outline =
      tabs depth ++ outline.lead :: rest := by
  match outline with
  | .text [] => exact absurd rfl hreadable.2.1
  | .text [single] =>
    exact ⟨_, by simp [written, writtenLine, lead]; rfl⟩
  | .text (first :: second :: rest) =>
    exact ⟨_, by simp [written, writtenLine, lead]; rfl⟩
  | .comment lines => exact ⟨_, by simp [written, writtenLine, lead]; rfl⟩
  | .rawData lines => exact ⟨_, by simp [written, writtenLine, lead]; rfl⟩
  | .call name forms =>
    obtain ⟨c, tail, hname, -⟩ := exists_cons_of_isKeyName hreadable.1
    exact ⟨_, by simp [written, writtenLine, lead, hname]; rfl⟩
  | .block name forms children =>
    obtain ⟨c, tail, hname, -⟩ := exists_cons_of_isKeyName hreadable.1.1
    exact ⟨_, by simp [written, writtenLine, lead, hname]; rfl⟩

theorem ofLead_lead {inRawText : Bool} {outline : Outline}
    (hreadable : Readable inRawText outline) :
    Family.ofLead outline.lead = outline.family := by
  match outline with
  | .text [] => exact absurd rfl hreadable.2.1
  | .text [single] => rfl
  | .text (first :: second :: rest) => rfl
  | .comment lines => rfl
  | .rawData lines => rfl
  | .call name forms =>
    obtain ⟨c, tail, hname, hc⟩ := exists_cons_of_isKeyName hreadable.1
    simp [lead, family, hname, Family.ofLead, hc]
  | .block name forms children =>
    obtain ⟨c, tail, hname, hc⟩ := exists_cons_of_isKeyName hreadable.1.1
    simp [lead, family, hname, Family.ofLead, hc]

theorem lead_eq {directLinks : Bool} {depth : Nat} {inRawText : Bool}
    {outline other : Outline}
    (hreadable : Readable inRawText outline) (hother : Readable inRawText other)
    {rest rest' : List Char}
    (h : written directLinks depth outline ++ rest =
      written directLinks depth other ++ rest') :
    outline.lead = other.lead := by
  obtain ⟨tail, hwritten⟩ := exists_written_eq directLinks depth hreadable
  obtain ⟨tail', hwritten'⟩ := exists_written_eq directLinks depth hother
  rw [hwritten, hwritten', List.append_assoc, List.append_assoc] at h
  exact (List.cons_eq_cons.1 (List.append_cancel_left h)).1

/-! Reading outlines back. -/

theorem readOnce_text (directLinks : Bool) (depth : Nat) {lines : List String}
    (hreadable : Readable false (.text lines)) :
    ReadOnce (fun lines => written directLinks depth (.text lines))
      (fun other => Readable false (.text other)) (fun _ => True) lines := by
  intro other rest rest' hother _ _ h
  have hlead := lead_eq hreadable hother h
  match lines, other with
  | [], _ => exact absurd rfl hreadable.2.1
  | _, [] => exact absurd rfl hother.2.1
  | [single], [single'] =>
    simp only [written, writtenLine, List.append_assoc, List.cons_append] at h
    have hinside :=
      (List.cons_eq_cons.1
        (List.cons_eq_cons.1 (List.append_cancel_left h)).2).2
    obtain ⟨hsame, hnext⟩ :=
      readOnce_escape single.toList single'.toList ('\n' :: rest)
        ('\n' :: rest') trivial trivial trivial (by simpa using hinside)
    exact ⟨by rw [String.toList_inj.1 hsame], (List.cons_eq_cons.1 hnext).2⟩
  | [single], first :: second :: others => exact absurd hlead (by simp [lead])
  | first :: second :: others, [single] => exact absurd hlead (by simp [lead])
  | first :: second :: others, first' :: second' :: others' =>
    simp only [written] at h
    exact readOnce_block depth (fun _ _ => Text.escape_injective)
      (fun _ => Text.notMem_escape (by decide))
      ['"', '"', '"'] (by decide) ['"', '"']
      hreadable.2.2 _ rest rest' hother.2.2 trivial trivial h

/-- The head of a call ends at the line feed or at the space before a brace. -/
def EndsHead (rest : List Char) : Prop :=
  ∃ c rest', (c = ' ' ∨ c = '\n') ∧ rest = c :: rest'

theorem endsClass_of_endsHead {p : Char → Bool} (hspace : p ' ' = false)
    (hfeed : p '\n' = false)
    {rest : List Char} (hrest : EndsHead rest) : EndsClass p rest := by
  obtain ⟨c, rest, rfl | rfl, rfl⟩ := hrest
  · exact endsClass_cons hspace rest
  · exact endsClass_cons hfeed rest

theorem endsClass_writtenList (directLinks : Bool) (forms : List ArgumentForm)
    {rest : List Char} (hrest : EndsHead rest) :
    EndsClass isKeyCharacter
      (ArgumentForm.writtenList directLinks forms ++ rest) := by
  cases forms with
  | nil => exact endsClass_of_endsHead (by decide) (by decide) hrest
  | cons form forms => exact endsClass_cons (by decide) _

theorem readOnce_head (directLinks : Bool) {name name' : String}
    {forms forms' : List ArgumentForm}
    (hname : isKeyName name = true) (hname' : isKeyName name' = true)
    (hforms : ∀ form ∈ forms, form.Readable)
    (hforms' : ∀ form ∈ forms', form.Readable)
    {rest rest' : List Char} (hrest : EndsHead rest) (hrest' : EndsHead rest')
    (h : name.toList ++ (ArgumentForm.writtenList directLinks forms ++ rest) =
      name'.toList ++ (ArgumentForm.writtenList directLinks forms' ++ rest')) :
    name = name' ∧ forms = forms' ∧ rest = rest' := by
  rw [isKeyName, Bool.and_eq_true, List.all_eq_true] at hname hname'
  obtain ⟨hsame, hlist⟩ :=
    readOnce_word isKeyCharacter hname.2 name'.toList _ _ hname'.2
      (endsClass_writtenList directLinks forms hrest)
      (endsClass_writtenList directLinks forms' hrest') h
  obtain ⟨rfl, hnext⟩ :=
    ArgumentForm.readOnce_writtenList directLinks hforms forms' rest rest'
      hforms' (endsClass_of_endsHead (by decide) (by decide) hrest)
      (endsClass_of_endsHead (by decide) (by decide) hrest') hlist
  exact ⟨String.toList_inj.1 hsame, rfl, hnext⟩

/-- Outlines that are read once are read back one after another, up to a text
that does not begin at their depth. -/
theorem readOnce_writtenAll (directLinks : Bool) (depth : Nat)
    {inRawText : Bool} {stop : List Char → Prop}
    (hstop : ∀ rest c rest', stop rest → rest ≠ tabs depth ++ c :: rest')
    {outlines : List Outline} (hreadable : AllReadable inRawText outlines)
    (honce : ∀ outline ∈ outlines,
      ReadOnce (written directLinks depth) (Readable inRawText)
      (fun _ => True) outline) :
    ReadOnce (writtenAll directLinks depth)
      (AllReadable inRawText) stop outlines := by
  intro others rest rest' hothers hrest hrest' h
  rw [allReadable_iff] at hreadable hothers
  rw [writtenAll_eq_flatMap, writtenAll_eq_flatMap] at h
  refine readOnce_flatMap ?_ hreadable honce others rest rest' hothers
    hrest hrest' h
  intro other rest rest' hother hrest
  obtain ⟨tail, hwritten⟩ := exists_written_eq directLinks depth hother
  rw [hwritten, List.append_assoc]
  exact hstop rest _ _ hrest

theorem written_call_append (directLinks : Bool) (depth : Nat) (name : String)
    (forms : List ArgumentForm) (rest : List Char) :
    written directLinks depth (.call name forms) ++ rest =
      tabs depth ++ (name.toList ++
        (ArgumentForm.writtenList directLinks forms ++ '\n' :: rest)) := by
  simp [written, writtenLine]

theorem written_block_append (directLinks : Bool) (depth : Nat) (name : String)
    (forms : List ArgumentForm) (children : List Outline) (rest : List Char) :
    written directLinks depth (.block name forms children) ++ rest =
      tabs depth ++
        (name.toList ++ (ArgumentForm.writtenList directLinks forms ++
          ' ' :: '{' :: '\n' :: (writtenAll directLinks (depth + 1) children ++
          (writtenLine depth ['}'] ++ rest)))) := by
  simp [written, writtenLine]

section

variable {directLinks inRawText : Bool} {depth : Nat} {name name' : String}
  {forms forms' : List ArgumentForm} {children children' : List Outline}
  {rest rest' : List Char}

theorem written_call_inj (hreadable : Readable inRawText (.call name forms))
    (hother : Readable inRawText (.call name' forms'))
    (h : written directLinks depth (.call name forms) ++ rest =
      written directLinks depth (.call name' forms') ++ rest') :
    name = name' ∧ forms = forms' ∧ rest = rest' := by
  rw [written_call_append, written_call_append] at h
  obtain ⟨hname, hforms, hnext⟩ :=
    readOnce_head directLinks hreadable.1 hother.1 hreadable.2 hother.2
      ⟨'\n', rest, .inr rfl, rfl⟩ ⟨'\n', rest', .inr rfl, rfl⟩
      (List.append_cancel_left h)
  exact ⟨hname, hforms, (List.cons_eq_cons.1 hnext).2⟩

/-- A call without a block ends its line where a block opens a brace. -/
theorem written_call_ne_written_block
    (hreadable : Readable inRawText (.call name forms))
    (hother : Readable inRawText (.block name' forms' children')) :
    written directLinks depth (.call name forms) ++ rest ≠
      written directLinks depth (.block name' forms' children') ++ rest' := by
  intro h
  rw [written_call_append, written_block_append] at h
  obtain ⟨-, -, hnext⟩ :=
    readOnce_head directLinks hreadable.1 hother.1.1 hreadable.2 hother.1.2
      ⟨'\n', rest, .inr rfl, rfl⟩ ⟨' ', _, .inl rfl, rfl⟩
      (List.append_cancel_left h)
  exact absurd (List.cons_eq_cons.1 hnext).1 (by decide)

theorem written_block_inj
    (hreadable : Readable inRawText (.block name forms children))
    (hother : Readable inRawText (.block name' forms' children'))
    (h : written directLinks depth (.block name forms children) ++ rest =
      written directLinks depth (.block name' forms' children') ++ rest') :
    name = name' ∧ forms = forms' ∧
      writtenAll directLinks (depth + 1) children ++
          (writtenLine depth ['}'] ++ rest) =
        writtenAll directLinks (depth + 1) children' ++
          (writtenLine depth ['}'] ++ rest') := by
  rw [written_block_append, written_block_append] at h
  obtain ⟨hname, hforms, hnext⟩ :=
    readOnce_head directLinks hreadable.1.1 hother.1.1 hreadable.1.2
      hother.1.2 ⟨' ', _, .inl rfl, rfl⟩ ⟨' ', _, .inl rfl, rfl⟩
      (List.append_cancel_left h)
  exact ⟨hname, hforms, by simpa using hnext⟩

end

mutual

/-- A readable outline is read once at every depth. -/
theorem readOnce_outline (directLinks : Bool) {inRawText : Bool}
    (outline : Outline) (hreadable : Readable inRawText outline) (depth : Nat) :
    ReadOnce (written directLinks depth) (Readable inRawText)
      (fun _ => True) outline := by
  intro other rest rest' hother _ _ h
  have hfamily : outline.family = other.family := by
    rw [← ofLead_lead hreadable, ← ofLead_lead hother,
      lead_eq hreadable hother h]
  match outline, other with
  | .text lines, .text lines' =>
    obtain rfl : inRawText = false := hreadable.1
    obtain ⟨rfl, hnext⟩ :=
      readOnce_text directLinks depth hreadable lines' rest rest' hother
        trivial trivial h
    exact ⟨rfl, hnext⟩
  | .comment lines, .comment lines' =>
    simp only [written] at h
    obtain ⟨rfl, hnext⟩ :=
      readOnce_block depth (fun _ _ => id) (fun _ => id) ['/', '*']
        (by decide) ['/'] hreadable lines' rest rest' hother trivial trivial h
    exact ⟨rfl, hnext⟩
  | .rawData lines, .rawData lines' =>
    simp only [written] at h
    obtain ⟨rfl, hnext⟩ :=
      readOnce_block depth (fun _ _ => id) (fun _ => id) ['"', '"', '"']
        (by decide) ['"', '"'] hreadable.2 lines' rest rest' hother.2
        trivial trivial h
    exact ⟨rfl, hnext⟩
  -- Texts and raw data look alike; the parent decides which of the two can
  -- stand here.
  | .text lines, .rawData lines' =>
    exact absurd (hreadable.1.symm.trans hother.1) (by decide)
  | .rawData lines, .text lines' =>
    exact absurd (hother.1.symm.trans hreadable.1) (by decide)
  | .call name forms, .call name' forms' =>
    obtain ⟨rfl, rfl, hnext⟩ := written_call_inj hreadable hother h
    exact ⟨rfl, hnext⟩
  | .call name forms, .block name' forms' children' =>
    exact absurd h (written_call_ne_written_block hreadable hother)
  | .block name forms children, .call name' forms' =>
    exact absurd h.symm (written_call_ne_written_block hother hreadable)
  | .block name forms children, .block name' forms' children' =>
    obtain ⟨rfl, rfl, hnext⟩ := written_block_inj hreadable hother h
    have hbrace : '}' ≠ '\t' := by decide
    -- The children end at the brace, the only line of the block at the depth of
    -- the parent.
    obtain ⟨rfl, hclosing⟩ := readOnce_writtenAll directLinks (depth + 1)
      (fun rest c rest' hrest => ne_tabs_succ_append hrest (c :: rest'))
      hreadable.2
      (readOnce_outlines directLinks children hreadable.2 (depth + 1))
      children' _ _ hother.2
      (closesBlock_line hbrace [] rest) (closesBlock_line hbrace [] rest') hnext
    exact ⟨rfl, List.append_cancel_left hclosing⟩
  | .text _, .comment _ | .text _, .call _ _ | .text _, .block _ _ _ =>
    exact nomatch hfamily
  | .comment _, .text _ | .comment _, .rawData _ | .comment _, .call _ _
  | .comment _, .block _ _ _ => exact nomatch hfamily
  | .rawData _, .comment _ | .rawData _, .call _ _ | .rawData _, .block _ _ _ =>
    exact nomatch hfamily
  | .call _ _, .text _ | .call _ _, .comment _ | .call _ _, .rawData _ =>
    exact nomatch hfamily
  | .block _ _ _, .text _ | .block _ _ _, .comment _
  | .block _ _ _, .rawData _ =>
    exact nomatch hfamily

theorem readOnce_outlines (directLinks : Bool) {inRawText : Bool}
    (outlines : List Outline)
    (hreadable : AllReadable inRawText outlines) (depth : Nat) :
    ∀ outline ∈ outlines,
      ReadOnce (written directLinks depth) (Readable inRawText)
        (fun _ => True) outline := by
  match outlines with
  | [] => simp
  | outline :: rest =>
    intro member hmember
    rcases List.mem_cons.1 hmember with hmember | hmember
    · rw [hmember]
      exact readOnce_outline directLinks outline hreadable.1 depth
    · exact readOnce_outlines directLinks rest hreadable.2 depth member hmember

end

end Outline

/-- Under the standard layout and rules, forests of parsed trees with plain
names have the same output exactly when they have the same outline. -/
theorem convertNodes_eq_iff_normalForm_eq (options : Options)
    (nodes nodes' : List Node) (hparsed : Node.areParsed false nodes = true)
    (hplain : Node.arePlain nodes = true)
    (hparsed' : Node.areParsed false nodes' = true)
    (hplain' : Node.arePlain nodes' = true) :
    (Converter.standard options).convertNodes nodes =
        (Converter.standard options).convertNodes nodes' ↔
      normalForm nodes = normalForm nodes' := by
  rw [← String.toList_inj,
    Converter.toList_convertNodes_standard options nodes hparsed,
    Converter.toList_convertNodes_standard options nodes' hparsed']
  refine ⟨fun h => ?_, fun h => by rw [h]⟩
  have hreadable := Outline.allReadable_normalForm nodes hparsed hplain
  have hreadable' := Outline.allReadable_normalForm nodes' hparsed' hplain'
  have hend (rest : List Char) (c : Char) (rest' : List Char)
      (hrest : rest = []) :
      rest ≠ tabs 0 ++ c :: rest' := by
    simp [hrest]
  have honce := Outline.readOnce_writtenAll options.directLinks 0 hend hreadable
    (Outline.readOnce_outlines options.directLinks _ hreadable 0)
  exact (honce _ [] [] hreadable' rfl rfl (by simpa using h)).1

/-- Different markup with one outline, and a comment whose text imitates the end
of a comment. -/
theorem convertNodes_eq_iff_normalForm_eq_comments :
    (Converter.standard ⟨true⟩).convertNodes
        [.doctype, ((Node.named "div" none).setAttr "class" "a-b  c").addChild
          (.text " x ")] =
      (Converter.standard ⟨true⟩).convertNodes
        [((Node.named "div" none).setAttr "class" "a_b c").addChild
          (.text "\n\nx\n"), .text "\n "] ∧
    (Converter.standard ⟨true⟩).convertNodes [.comment "x\n*/\n/*\ny"] ≠
      (Converter.standard ⟨true⟩).convertNodes
        [.comment "x", .comment "y"] := by
  refine ⟨?_, fun h => ?_⟩
  · exact (convertNodes_eq_iff_normalForm_eq ⟨true⟩ _ _
      (by decide) (by decide) (by decide) (by decide)).2 rfl
  · have hsame :=
      (convertNodes_eq_iff_normalForm_eq ⟨true⟩ _ _
        (by decide) (by decide) (by decide) (by decide)).1 h
    exact absurd (congrArg List.length hsame) (by decide)

end HtmlBuilder
