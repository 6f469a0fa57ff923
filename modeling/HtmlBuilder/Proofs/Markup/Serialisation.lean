import HtmlBuilder.Proofs.AttributeStore
import HtmlBuilder.Proofs.Markup.PlainBody
import HtmlBuilder.Proofs.Markup.PlainTag
import HtmlBuilder.Proofs.PlainText

/-!
Trees written as markup and read back. A forest of texts and of `div` and `span`
elements is written plainly: a text as it is, an element as its start tag, its
children and its end tag. Reading goes along with writing. In front of every
node the construction is in a plain body, behind it the arena has grown below
the current element by what is read as this node, and the same elements are open
as before. Two texts in a row would be read as one, so a text may only follow
where none has just grown.
-/

namespace HtmlBuilder

open Markup

def isPlainText (value : String) : Bool :=
  value != "" && value.toList.all fun c =>
    !(['<', '&', '\x00', '\r', '\ufeff'].contains c)

/-- Trees of texts and plain elements in which no text follows another. -/
inductive PlainForest : List Node → Prop
  | nil : PlainForest []
  | text {value : String} {rest : List Node} (hvalue : isPlainText value = true)
      (hnext : ∀ next ∈ rest.head?, next.kind ≠ .text)
      (hrest : PlainForest rest) :
      PlainForest (Node.text value :: rest)
  | element {name : String} {attributes : Attributes}
      {children rest : List Node} (hname : name ∈ plainNames)
      (hattributes : arePlain attributes.entries = true)
      (hchildren : PlainForest children) (hrest : PlainForest rest) :
      PlainForest (⟨.element, name, none, attributes, children⟩ :: rest)

namespace Node

mutual

/-- A tree as it is written: a text as it is, an element between its tags. -/
def markup (node : Node) : List Char :=
  match node with
  | ⟨.text, _, value?, _, _⟩ => (value?.getD "").toList
  | ⟨.element, name, _, attributes, children⟩ =>
    '<' :: tagMarkup name attributes.entries ++ markupAll children ++
    '<' :: '/' :: tagMarkup name []
  | _ => []

def markupAll (nodes : List Node) : List Char :=
  match nodes with
  | [] => []
  | node :: rest => markup node ++ markupAll rest

end

end Node

theorem Node.markupAll_text (value : String) (nodes : List Node) :
    markupAll (text value :: nodes) = value.toList ++ markupAll nodes := by
  rw [markupAll]
  rfl

theorem Node.markupAll_element (name : String) (value? : Option String)
    (attributes : Attributes) (children nodes : List Node) (rest : List Char) :
    markupAll (⟨.element, name, value?, attributes, children⟩ :: nodes) ++
        rest =
      '<' :: (tagMarkup name attributes.entries ++ (markupAll children ++
        '<' :: '/' :: (tagMarkup name [] ++ (markupAll nodes ++ rest)))) := by
  simp [markupAll, markup]

def serialise (nodes : List Node) : String :=
  String.ofList (Node.markupAll nodes)

theorem isPlainText_iff (value : String) :
    isPlainText value = true ↔ value.toList ≠ [] ∧
      ∀ c ∈ value.toList, c ≠ '<' ∧ c ≠ '&' ∧ c ≠ '\x00' ∧ c ≠ '\r' ∧
      c ≠ '\ufeff' := by
  simp [isPlainText]

theorem exists_tagName {name : String} (h : name ∈ plainNames) :
    ∃ tagName : TagName, tagName.text = name ∧ isPlainWord name = true ∧
      Text.lowercase name = name ∧ isRawTextElement name = false := by
  rcases List.mem_cons.1 h with rfl | h
  · exact ⟨⟨"div", by decide⟩, rfl, by decide, by decide, by decide⟩
  · rcases List.mem_singleton.1 h with rfl
    exact ⟨⟨"span", by decide⟩, rfl, by decide, by decide, by decide⟩

/-! Elements that are made again from what was written of them. -/

theorem Attributes.ofList_entries (attributes : Attributes) :
    Attributes.ofList attributes.entries = attributes := by
  have hentries : (Attributes.ofList attributes.entries).entries =
      attributes.entries := by
    rw [ofList, entries_setAll_eq_putEntries]
    exact putEntries_eq_self attributes.keys_nodup
  exact eq_of_entries_eq hentries

theorem elementNode_plain {name : TagName}
    (hlower : Text.lowercase name.text = name.text)
    (hraw : isRawTextElement name.text = false) (attributes : Attributes)
    (trees : List Dom) :
    elementNode name attributes.entries trees =
      ⟨.element, name.text, none, attributes, Dom.nodes false trees⟩ := by
  have hkind : NodeKind.ofName name.text = .element :=
    NodeKind.ofName_eq_element name.starts
  rw [elementNode_eq, hraw, Node.elementWith, Node.element, Node.named,
    hlower, hkind, Attributes.ofList_entries]

/-! Reading along with writing. -/

namespace Markup.Construction.InPlainBody

variable {s : Construction} {parent : Nat}

/-- Characters that stand for themselves join the text at the current place. -/
theorem run_characters (h : s.InPlainBody parent) {text : List Char}
    (htext : ∀ c ∈ text, c ≠ '<' ∧ c ≠ '&' ∧ c ≠ '\x00') :
    ∃ framesetOk, ∀ rest, s.run (text ++ rest) =
      { s with
        arena := text.foldl
          (fun arena c => arena.appendCharacter parent c) s.arena
        framesetOk }.run rest := by
  induction text generalizing s with
  | nil => exact ⟨s.framesetOk, fun rest => rfl⟩
  | cons c text ih =>
    obtain ⟨hbracket, hampersand, hnull⟩ := htext c List.mem_cons_self
    obtain ⟨framesetOk, hhandle⟩ := h.handle_character hnull
    obtain ⟨last, hrun⟩ :=
      ih (h.withArena (s.arena.appendCharacter parent c) framesetOk)
      fun d hd => htext d (List.mem_cons_of_mem _ hd)
    refine ⟨last, fun rest => ?_⟩
    rw [List.cons_append, run, h.contentMode_eq, Token.read, if_neg hbracket,
      if_neg hampersand, List.foldl_cons, List.foldl_nil, hhandle]
    exact hrun rest

theorem run_startTag (h : s.InPlainBody parent) {name : TagName}
    (hname : name.text ∈ plainNames)
    (hword : isPlainWord name.text = true) {attributes : Attributes}
    (hattributes : arePlain attributes.entries = true) (rest : List Char) :
    s.run ('<' :: (tagMarkup name.text attributes.entries ++ rest)) =
      { s with
        arena := s.arena.insert parent (.element .html name attributes.entries)
        stack := ⟨s.arena.next, .html, name⟩ :: s.stack }.run rest := by
  rw [run, h.contentMode_eq,
    Token.read_startTag hword hattributes attributes.keys_nodup]
  simp only [List.foldl_cons, List.foldl_nil]
  rw [h.handle_startTag hname]

theorem run_endTag (h : s.InPlainBody parent) {name : TagName}
    (hname : name.text ∈ plainNames)
    (hword : isPlainWord name.text = true) {outer : List OpenElement}
    (hstack : s.stack = ⟨parent, .html, name⟩ :: outer) (rest : List Char) :
    s.run ('<' :: '/' :: (tagMarkup name.text [] ++ rest)) =
      { s with stack := outer }.run rest := by
  rw [run, h.contentMode_eq, Token.read_endTag hword]
  simp only [List.foldl_cons, List.foldl_nil]
  rw [h.handle_endTag hname hstack]

end Markup.Construction.InPlainBody

/-- Where a plain forest stands, the arena grows by what is read as this
forest. -/
theorem PlainForest.run_markupAll {nodes : List Node}
    (hplain : PlainForest nodes)
    {s : Construction} {parent : Nat} (h : s.InPlainBody parent)
    (hparent : parent < s.arena.next) (hjoin : s.arena.EndsInText parent →
      ∀ first ∈ nodes.head?, first.kind ≠ .text) :
    ∃ arena framesetOk trees, Dom.nodes false trees = nodes ∧
      Arena.Grows parent trees s.arena arena ∧
      ∀ rest, s.run (Node.markupAll nodes ++ rest) =
        { s with arena, framesetOk }.run rest := by
  induction hplain generalizing s parent with
  | nil =>
    exact ⟨s.arena, s.framesetOk, [], rfl, .refl hparent, fun rest => rfl⟩
  | @text value nodes hvalue hnext hrest ih =>
    obtain ⟨hne, hcharacters⟩ := (isPlainText_iff value).1 hvalue
    have hplain : ∀ c ∈ value.toList, c ≠ '<' ∧ c ≠ '&' ∧ c ≠ '\x00' :=
      fun c hc =>
        ⟨(hcharacters c hc).1, (hcharacters c hc).2.1, (hcharacters c hc).2.2.1⟩
    obtain ⟨framesetOk, htext⟩ := h.run_characters hplain
    -- No text stands last, so the characters become a text of their own.
    have hfirst : ¬ s.arena.EndsInText parent :=
      fun hends => hjoin hends (Node.text value) rfl rfl
    have hgrown := Arena.grows_foldl_appendCharacter hparent hfirst hne
    rw [String.ofList_toList] at hgrown
    obtain ⟨arena, last, trees, htrees, hrest, hrun⟩ :=
      ih (h.withArena _ framesetOk)
        (Nat.lt_of_lt_of_le hparent hgrown.next_le) fun _ => hnext
    refine ⟨arena, last, .text value :: trees, ?_, hgrown.trans hrest,
      fun rest => ?_⟩
    · rw [Dom.nodes, htrees]
      rfl
    · rw [Node.markupAll_text, List.append_assoc, htext, hrun]
  | @element name attributes children nodes hname hattributes hchildren hrest
      ihchildren ih =>
    obtain ⟨name, rfl, hword, hlower, hraw⟩ := exists_tagName hname
    have hopened := h.opened hname
      (s.arena.insert parent (.element .html name attributes.entries))
      s.arena.next
    have hinside : s.arena.next <
        (s.arena.insert parent
          (.element .html name attributes.entries)).next := by
      rw [Arena.next_insert]
      exact Nat.lt_succ_self _
    -- The new element is empty and, once it is closed, stands last: a text
    -- joins no other text at its beginning nor behind it.
    obtain ⟨inside, framesetOk, trees, htrees, hcontent, hrunContent⟩ :=
      ihchildren hopened hinside
        fun hends => absurd hends (Arena.not_endsInText_insert _ _ hparent)
    have hgrown := Arena.Grows.element hparent hcontent
    obtain ⟨arena, last, others, hothers, hbehind, hrun⟩ :=
      ih (h.withArena inside framesetOk)
        (Nat.lt_of_lt_of_le hparent hgrown.next_le)
        fun hends => absurd hends hgrown.not_endsInText
    refine ⟨arena, last, .element name attributes.entries trees :: others, ?_,
      hgrown.trans hbehind, fun rest => ?_⟩
    · rw [Dom.nodes, node?_element, elementNode_plain hlower hraw,
        htrees, hothers]
      rfl
    · rw [Node.markupAll_element, h.run_startTag hname hword hattributes,
        hrunContent,
        (hopened.withArena inside framesetOk).run_endTag hname hword rfl]
      exact hrun rest

/-! No body begins in a plain element. -/

section

variable {name : String} (hname : name ∈ plainNames)
include hname

theorem containsBodyTag_startTag {entries : List (String × String)}
    (hplain : arePlain entries = true) (rest : List Char) :
    containsBodyTag ('<' :: (tagMarkup name entries ++ rest)) =
      containsBodyTag rest := by
  obtain ⟨-, -, hword, -⟩ := exists_tagName hname
  have hbracket : '<' ∉ tagMarkup name entries :=
    fun hmem => (forall_mem_tagMarkup hword hplain _ hmem).1 rfl
  obtain ⟨c, tail, htag, hc⟩ :
      ∃ c tail, tagMarkup name entries = c :: tail ∧ c.toLower ≠ 'b' := by
    rcases List.mem_cons.1 hname with rfl | hname
    · exact ⟨'d', _, rfl, by decide⟩
    · rcases List.mem_singleton.1 hname with rfl
      exact ⟨'s', _, rfl, by decide⟩
  rw [htag] at hbracket ⊢
  rw [List.cons_append, containsBodyTag_bracket hc, ← List.cons_append,
    containsBodyTag_append hbracket]

theorem containsBodyTag_endTag (rest : List Char) :
    containsBodyTag ('<' :: '/' :: (tagMarkup name [] ++ rest)) =
      containsBodyTag rest := by
  obtain ⟨-, -, hword, -⟩ := exists_tagName hname
  have hbracket : '<' ∉ '/' :: tagMarkup name [] := by
    rw [List.mem_cons, not_or]
    exact ⟨by decide, fun hmem => (forall_mem_tagMarkup hword rfl _ hmem).1 rfl⟩
  rw [containsBodyTag_bracket (by decide), ← List.cons_append,
    containsBodyTag_append hbracket]

end

namespace PlainForest

variable {nodes : List Node}

/-- The markup of a plain forest is read without a change. -/
theorem normalize_markupAll (hplain : PlainForest nodes) :
    normalize (Node.markupAll nodes) = Node.markupAll nodes := by
  refine normalize_eq_self ?_ ?_
  · induction hplain with
    | nil => simp [Node.markupAll]
    | @text value nodes hvalue hnext hrest ih =>
      have hvalue := ((isPlainText_iff value).1 hvalue).2
      rw [Node.markupAll_text, List.mem_append, not_or]
      exact ⟨fun hmem => (hvalue _ hmem).2.2.2.1 rfl, ih⟩
    | @element name attributes children nodes hname hattributes hchildren hrest
        ihchildren ih =>
      obtain ⟨-, -, hword, -⟩ := exists_tagName hname
      have hstart : '\r' ∉ tagMarkup name attributes.entries :=
        fun hmem => (forall_mem_tagMarkup hword hattributes _ hmem).2 rfl
      have hend : '\r' ∉ tagMarkup name [] :=
        fun hmem => (forall_mem_tagMarkup hword rfl _ hmem).2 rfl
      simp [Node.markupAll, Node.markup, hstart, hend, ihchildren, ih]
  · cases hplain with
    | nil => simp [Node.markupAll]
    | @text value nodes hvalue =>
      obtain ⟨hne, hvalue⟩ := (isPlainText_iff value).1 hvalue
      obtain ⟨c, rest, hlist⟩ := List.exists_cons_of_ne_nil hne
      have hc := (hvalue c (by simp [hlist])).2.2.2.2
      rw [Node.markupAll_text, hlist, List.cons_append, List.head?_cons]
      exact fun he => hc (Option.some.inj he)
    | element => simp [Node.markupAll, Node.markup]

/-- In the markup of a plain forest no body begins. -/
theorem containsBodyTag_markupAll (hplain : PlainForest nodes)
    (rest : List Char) :
    containsBodyTag (Node.markupAll nodes ++ rest) = containsBodyTag rest := by
  induction hplain generalizing rest with
  | nil => rfl
  | @text value nodes hvalue hnext hrest ih =>
    have hbracket : '<' ∉ value.toList :=
      fun hmem => (((isPlainText_iff value).1 hvalue).2 _ hmem).1 rfl
    rw [Node.markupAll_text, List.append_assoc,
      containsBodyTag_append hbracket, ih]
  | @element name attributes children nodes hname hattributes hchildren hrest
      ihchildren ih =>
    rw [Node.markupAll_element, containsBodyTag_startTag hname hattributes,
      ihchildren, containsBodyTag_endTag hname, ih]

end PlainForest

/-- A plain forest that is written as one text is read back as it was, and so
the text is converted as the forest itself is. -/
theorem parseFragment_serialise (forest : List Node)
    (hplain : PlainForest forest) :
    parseFragment (serialise forest) = forest ∧
      ∀ converter : Converter,
        converter.convert (serialise forest) =
          converter.convertNodes forest := by
  have hread : parseFragment (serialise forest) = forest := by
    obtain ⟨arena, framesetOk, trees, htrees, hgrown, hrun⟩ :=
      hplain.run_markupAll inPlainBody_startFragment (by decide) (by
        rintro ⟨last, hlast, -⟩
        cases hlast)
    have hfinal : Construction.startFragment.run
        (normalize (serialise forest).toList) =
        { Construction.startFragment with arena, framesetOk } := by
      rw [serialise, String.toList_ofList, hplain.normalize_markupAll,
        ← List.append_nil (Node.markupAll forest), hrun, Construction.run]
      exact (inPlainBody_startFragment.withArena arena framesetOk).handle_finish
    rw [parseFragment_eq, Dom.parseFragment_eq_of_grows (by rwa [hfinal]),
      htrees]
  have hbody : hasBodyTag (serialise forest) = false := by
    rw [hasBodyTag, serialise, String.toList_ofList,
      ← List.append_nil (Node.markupAll forest),
      hplain.containsBodyTag_markupAll, containsBodyTag]
  refine ⟨hread, fun converter => ?_⟩
  rw [Converter.convert, hbody, if_neg Bool.false_ne_true, hread]

theorem parseFragment_serialise_card :
    let card : List Node := [
      ⟨.element, "div", none,
        ⟨[("id", "card"), ("data-n1", "a > 'b'")], by decide⟩,
        [Node.text "one ", ⟨.element, "span", none, ∅, []⟩,
          Node.text " two\n"]⟩,
      Node.text "> 0"]
    PlainForest card ∧
      serialise card =
        "<div id=\"card\" data-n1=\"a > 'b'\">one <span></span> two\n</div>> 0" ∧
      parseFragment (serialise card) = card := by
  intro card
  have hplain : PlainForest card :=
    .element (by decide) (by decide)
      (.text (by decide) (by decide)
        (.element (by decide) (by decide) .nil
          (.text (by decide) (by decide) .nil)))
      (.text (by decide) (by decide) .nil)
  exact ⟨hplain, by decide, (parseFragment_serialise card hplain).1⟩

end HtmlBuilder
