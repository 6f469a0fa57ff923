import HtmlBuilder.Markup.Construction.Run
import HtmlBuilder.Proofs.Markup.Arena

/-!
Construction in a plain body. As long as nothing but `div` and `span` elements
is open inside the root and no formatting element waits to be opened again, a
token does what it says: a character joins the text at the current place, a
start tag opens its element there and an end tag closes the current element.
Apart from the arena and the open elements, only the permission to replace the
body by a set of frames can change, and it plays no part in what is read later.
-/

namespace HtmlBuilder.Markup

def plainNames : List String := ["div", "span"]

namespace OpenElement

/-- An element that changes nothing about how its content is read. -/
def IsPlain (element : OpenElement) : Prop :=
  element.space = .html ∧ element.name.text ∈ "html" :: plainNames

theorem IsPlain.isOneOf {element : OpenElement} (h : element.IsPlain)
    {names : List String}
    (hnames : ∀ name ∈ "html" :: plainNames, name ∉ names) :
    element.isOneOf names = false := by
  have hname := hnames _ h.2
  simp [OpenElement.isOneOf, hname]

theorem IsPlain.isNamed {element : OpenElement} (h : element.IsPlain)
    {name : String}
    (hname : name ∉ "html" :: plainNames) : element.isNamed name = false := by
  have hne : element.name.text ≠ name := fun he => hname (he ▸ h.2)
  simp [OpenElement.isNamed, hne]

end OpenElement

namespace Construction

/-- A plain body is under construction, and new nodes go below the given
cell. -/
structure InPlainBody (s : Construction) (parent : Nat) : Prop where
  mode_eq : s.mode = .inBody
  raw?_eq : s.raw? = none
  formatting_eq : s.formatting = []
  templateModes_eq : s.templateModes = []
  fostering_eq : s.fostering = false
  skipLineFeed_eq : s.skipLineFeed = false
  current : ∃ element outer, s.stack = element :: outer ∧ element.id = parent
  plain : ∀ element ∈ s.stack, element.IsPlain

theorem inScopeOf_eq_false (bounds target : OpenElement → Bool)
    {stack : List OpenElement} (h : ∀ element ∈ stack, target element = false) :
    inScopeOf bounds target stack = false := by
  induction stack with
  | nil => rfl
  | cons element rest ih =>
    rw [inScopeOf, h element List.mem_cons_self, ih fun other hother =>
      h other (List.mem_cons_of_mem _ hother)]
    simp

namespace InPlainBody

variable {s : Construction} {parent : Nat}

/-- The arena and the permission to replace the body do not matter for being in
a plain body. -/
theorem withArena (h : InPlainBody s parent) (arena : Arena)
    (framesetOk : Bool) : InPlainBody { s with arena, framesetOk } parent :=
  ⟨h.mode_eq, h.raw?_eq, h.formatting_eq, h.templateModes_eq, h.fostering_eq,
    h.skipLineFeed_eq, h.current, h.plain⟩

theorem exists_current (h : InPlainBody s parent) :
    ∃ element outer, s.stack = element :: outer ∧ s.current? = some element ∧
      element.id = parent ∧ element.IsPlain := by
  obtain ⟨element, outer, hstack, hid⟩ := h.current
  refine ⟨element, outer, hstack, ?_, hid, h.plain element ?_⟩
  · rw [current?, hstack, List.head?_cons]
  · rw [hstack]
    exact List.mem_cons_self

theorem contentMode_eq (h : InPlainBody s parent) :
    s.contentMode = .markup false := by
  obtain ⟨element, outer, -, hcurrent, -, hplain⟩ := h.exists_current
  simp [contentMode, h.raw?_eq, hcurrent, OpenElement.isHtml, hplain.1]

theorem isForeign_eq (h : InPlainBody s parent) (token : Token) :
    s.isForeign token = false := by
  obtain ⟨element, outer, -, hcurrent, -, hplain⟩ := h.exists_current
  simp [isForeign, hcurrent, OpenElement.isHtml, hplain.1]

theorem place_eq (h : InPlainBody s parent) : s.place = .inside parent := by
  obtain ⟨element, outer, -, hcurrent, hid, hplain⟩ := h.exists_current
  have htemplate : element.isNamed "template" = false :=
    hplain.isNamed (by decide)
  simp [place, hcurrent, placeIn, h.fostering_eq, insideOf, htemplate, hid]

theorem skipNothing (h : InPlainBody s parent) :
    { s with skipLineFeed := false } = s := by
  rw [← h.skipLineFeed_eq]

/-- A token that the rules of the body deal with at once is dealt with by
them. -/
theorem handleTimes_eq (h : InPlainBody s parent) {token : Token}
    (hdone : (s.inBody token).again = false) :
    s.handleTimes token s.maxTimes = (s.inBody token).state := by
  have htimes : s.maxTimes = 4 * (s.stack.length + s.templateModes.length) +
      15 + 1 := rfl
  have hstep : s.step token = s.inBody token := by
    rw [step, h.mode_eq]
  rw [htimes, handleTimes, h.isForeign_eq]
  simp [hstep, hdone]

theorem reconstruct_eq (h : InPlainBody s parent) : s.reconstruct = s := by
  rw [reconstruct, unopened, h.formatting_eq]
  rfl

theorem insertCharacter_eq (h : InPlainBody s parent) (c : Char) :
    s.insertCharacter c =
      { s with arena := s.arena.appendCharacter parent c } := by
  rw [insertCharacter, h.place_eq]

/-- A character joins the text at the current place. -/
theorem handle_character (h : InPlainBody s parent) {c : Char}
    (hc : c ≠ '\x00') :
    ∃ framesetOk, s.handle (.character c) =
      { s with arena := s.arena.appendCharacter parent c, framesetOk } := by
  have hbody : (s.inBody (.character c)).state =
      if isSeparator c then { s with arena := s.arena.appendCharacter parent c }
      else { s with
        arena := s.arena.appendCharacter parent c, framesetOk := false } := by
    simp only [inBody, done, bodyCharacter, if_neg hc, h.reconstruct_eq,
      h.insertCharacter_eq, forbidFrameset]
  have hhandle : s.handle (.character c) = (s.inBody (.character c)).state := by
    simp only [handle, h.skipLineFeed_eq, h.skipNothing, Bool.false_and,
      Bool.false_eq_true, if_false]
    exact h.handleTimes_eq rfl
  rw [hhandle, hbody]
  by_cases hseparator : isSeparator c = true
  · exact ⟨s.framesetOk, by rw [if_pos hseparator]⟩
  · exact ⟨false, by rw [if_neg hseparator]⟩

theorem handle_null (h : InPlainBody s parent) :
    s.handle (.character '\x00') = s := by
  simp only [handle, h.skipLineFeed_eq, h.skipNothing, Bool.false_and,
    Bool.false_eq_true, if_false]
  exact h.handleTimes_eq rfl

theorem handle_fault (h : InPlainBody s parent) : s.handle .fault = s :=
  h.skipNothing

theorem handle_finish (h : InPlainBody s parent) : s.handle .finish = s := by
  have hbody : s.inBody .finish = s.done := by
    simp [inBody, h.templateModes_eq]
  simp only [handle, h.skipNothing]
  rw [h.handleTimes_eq (by rw [hbody, done]), hbody, done]

end InPlainBody

end Construction

def Token.visible? : Token → Option Char
  | .character c => if c = '\x00' then none else some c
  | _ => none

def Token.IsProse (token : Token) : Prop :=
  token = .fault ∨ ∃ c, token = .character c

namespace Construction.InPlainBody

variable {s : Construction} {parent : Nat}

/-- Tokens of text put their characters at the current place. -/
theorem foldl_handle (h : InPlainBody s parent) {tokens : List Token}
    (htokens : ∀ token ∈ tokens, token.IsProse) :
    ∃ framesetOk, tokens.foldl handle s =
      { s with
        arena := (tokens.filterMap Token.visible?).foldl
          (fun arena c => arena.appendCharacter parent c) s.arena
        framesetOk } := by
  induction tokens generalizing s with
  | nil => exact ⟨s.framesetOk, rfl⟩
  | cons token rest ih =>
    have hrest : ∀ token ∈ rest, token.IsProse :=
      fun other hother => htokens other (List.mem_cons_of_mem _ hother)
    rw [List.foldl_cons, List.filterMap_cons]
    rcases htokens token List.mem_cons_self with rfl | ⟨c, rfl⟩
    · rw [h.handle_fault]
      exact ih h hrest
    · by_cases hc : c = '\x00'
      · subst hc
        rw [h.handle_null]
        exact ih h hrest
      · obtain ⟨framesetOk, hhandle⟩ := h.handle_character hc
        obtain ⟨last, hfold⟩ := ih (h.withArena _ framesetOk) hrest
        refine ⟨last, ?_⟩
        rw [hhandle, hfold]
        simp [Token.visible?, hc]

theorem openHtml_eq (h : InPlainBody s parent) {name : TagName}
    (hname : name.text ∈ plainNames) (attributes : List (String × String)) :
    s.openHtml name attributes =
      { s with
        arena := s.arena.insert parent (.element .html name attributes)
        stack := ⟨s.arena.next, .html, name⟩ :: s.stack } := by
  have hne : name.text ≠ "template" := by
    rintro he
    rw [he] at hname
    exact absurd hname (by decide)
  simp only [openHtml, insertElement, createElement, h.place_eq,
    insertAt, push, hne, beq_iff_eq, Bool.and_eq_true, and_false, if_false]
  rfl

theorem handle_startTag (h : InPlainBody s parent) {tag : Tag}
    (hname : tag.name.text ∈ plainNames) :
    s.handle (.startTag tag) =
      { s with
        arena := s.arena.insert parent (.element .html tag.name tag.attributes)
        stack := ⟨s.arena.next, .html, tag.name⟩ :: s.stack } := by
  have hparagraph : s.closeOpenParagraph = s := by
    rw [closeOpenParagraph, inButtonScope, inScopeOf_eq_false]
    · rfl
    · exact fun element helement =>
        (h.plain element helement).isNamed (by decide)
  have hstart : s.bodyStart tag = s.openTag tag := by
    rcases List.mem_cons.1 hname with hdiv | hspan
    · simp only [bodyStart, hdiv, show BodyStart.ofName "div" = .block from rfl,
        hparagraph]
    · rw [List.mem_singleton] at hspan
      simp only [bodyStart, hspan, show BodyStart.ofName "span" = .other
        from rfl, h.reconstruct_eq]
  have hhandle : s.handle (.startTag tag) =
      (s.inBody (.startTag tag)).state := by
    simp only [handle, h.skipNothing]
    exact h.handleTimes_eq rfl
  rw [hhandle]
  simp only [inBody, done, hstart, openTag]
  exact h.openHtml_eq hname tag.attributes

theorem opened (h : InPlainBody s parent) {name : TagName}
    (hname : name.text ∈ plainNames) (arena : Arena) (id : Nat) :
    InPlainBody { s with arena, stack := ⟨id, .html, name⟩ :: s.stack } id where
  mode_eq := h.mode_eq
  raw?_eq := h.raw?_eq
  formatting_eq := h.formatting_eq
  templateModes_eq := h.templateModes_eq
  fostering_eq := h.fostering_eq
  skipLineFeed_eq := h.skipLineFeed_eq
  current := ⟨_, _, rfl, rfl⟩
  plain := by
    intro element helement
    rcases List.mem_cons.1 helement with rfl | helement
    · exact ⟨rfl, List.mem_cons_of_mem _ hname⟩
    · exact h.plain element helement

theorem handle_endTag (h : InPlainBody s parent) {name : TagName}
    (hname : name.text ∈ plainNames) {outer : List OpenElement}
    (hstack : s.stack = ⟨parent, .html, name⟩ :: outer) :
    s.handle (.endTag name) = { s with stack := outer } := by
  have hnamed : OpenElement.isNamed name.text ⟨parent, .html, name⟩ = true := by
    simp [OpenElement.isNamed, OpenElement.isHtml]
  have hend : s.bodyEnd name = { s with stack := outer }.done := by
    rcases List.mem_cons.1 hname with hdiv | hspan
    · -- A block closes elements that may be left open first; a plain one is none of them.
      have hclosed : OpenElement.mayBeUnclosed ⟨parent, .html, name⟩ = false :=
        OpenElement.IsPlain.isOneOf ⟨rfl, List.mem_cons_of_mem _ hname⟩
          (by decide)
      have himplied : s.closeImplied = s := by
        rw [closeImplied, popWhile, hstack,
          List.dropWhile_cons_of_neg (by simp [hclosed]), ← hstack]
      rw [bodyEnd, hdiv, show BodyEnd.ofName "div" = .block from rfl]
      simp only
      rw [← hdiv, closeNamed, inScope, hstack, inScopeOf, hnamed,
        if_pos rfl, if_pos rfl, himplied, popThrough, hstack,
        List.dropWhile_cons_of_neg (by simp [hnamed])]
      rfl
    · rw [List.mem_singleton] at hspan
      rw [bodyEnd, hspan, show BodyEnd.ofName "span" = .other from rfl]
      simp only
      rw [endOther, hstack, List.find?_cons_of_pos (by simp [hnamed])]
      simp only [hnamed, if_true]
      rw [popThrough, hstack, List.dropWhile_cons_of_neg (by simp)]
      rfl
  have hhandle : s.handle (.endTag name) = (s.inBody (.endTag name)).state := by
    simp only [handle, h.skipNothing]
    exact h.handleTimes_eq (by rw [inBody, hend, done])
  rw [hhandle, inBody, hend, done]

end Construction.InPlainBody

/-! The content of a body as a whole. -/

/-- The root of a fragment is the first cell below the document. -/
theorem inPlainBody_startFragment :
    Construction.startFragment.InPlainBody 1 where
  mode_eq := rfl
  raw?_eq := rfl
  formatting_eq := rfl
  templateModes_eq := rfl
  fostering_eq := rfl
  skipLineFeed_eq := rfl
  current := ⟨_, _, rfl, rfl⟩
  plain := by
    intro element helement
    obtain rfl : element = ⟨1, .html, .html⟩ := List.mem_singleton.1 helement
    exact ⟨rfl, List.mem_cons_self⟩

/-- What has grown below the root of a fragment is what the fragment is read
as. -/
theorem Dom.parseFragment_eq_of_grows {text : String} {trees : List Dom}
    (h : Arena.Grows 1 trees Construction.startFragment.arena
      (Construction.startFragment.run (normalize text.toList)).arena) :
    Dom.parseFragment text = trees := by
  generalize hfinal : Construction.startFragment.run (normalize text.toList) =
      final at h
  obtain ⟨cell, ids, hcell, hroot, hshown⟩ := h.shown
  have hstart : Construction.startFragment.arena.cells[1]? =
      some ⟨.element .html .html [], some 0, #[]⟩ := rfl
  obtain rfl := Option.some.inj (hstart.symm.trans hcell)
  -- The document is cell 0 and keeps the root as its only child.
  have hdocument : final.arena.cells[0]? = some ⟨.document, none, #[1]⟩ :=
    h.kept 0 (by decide) (by decide)
  have hshows : final.arena.Shows (.element .html [] trees) 1 := by
    rw [Arena.Shows]
    refine ⟨_, hroot, ⟨.html, rfl⟩, ?_⟩
    rw [show Construction.startFragment.arena.next = 2 from rfl] at hshown
    simpa using hshown
  have htree : final.arena.tree final.arena.cells.size 1 =
      .element .html [] trees :=
    Arena.tree_of_shows _ hshows (Nat.le_succ _)
  have hchildren : final.arena.childTrees 0 = [.element .html [] trees] := by
    rw [Arena.childTrees, Arena.children, hdocument, ← htree]
    rfl
  rw [Dom.parseFragment, hfinal]
  simp only [hchildren]
  rfl

end HtmlBuilder.Markup
