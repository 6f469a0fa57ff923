import HtmlBuilder.Markup.Dom
import Mathlib.Data.Nat.SuccPred
import Mathlib.Logic.Function.Iterate

/-!
Making nodes as a recursion over parsed markup. The loop keeps a stack of
frames, each a node with some of its children and the trees that the others are
still to be made of. A stack is read back as one node: every frame gets the
nodes of its pending trees, and the result becomes the last child of the frame
around it. No round of the loop changes what its stack is read back as, and
every round takes one off the number of rounds that are left.
-/

namespace HtmlBuilder.Markup

namespace Dom

mutual

/-- The node of a tree: text is raw data if `raw` says so, and the content of a
template has no node. Text in an element is raw data if the name of that
element, in lower case, is the name of a script or a style sheet. -/
def node? (raw : Bool) (tree : Dom) : Option Node :=
  match tree with
  | .element name attributes children =>
    some { Node.elementWith name.text attributes with
      children :=
        nodes (Text.lowercase name.text ∈ ["script", "style"]) children }
  | .text value => some (if raw then Node.rawData value else Node.text value)
  | .comment value => some (Node.comment value)
  | .doctype => some Node.doctype
  | .contents _ => none

def nodes (raw : Bool) (trees : List Dom) : List Node :=
  match trees with
  | [] => []
  | tree :: rest => (node? raw tree).toList ++ nodes raw rest

end

mutual

/-- The rounds that the loop takes for a tree: two for an element besides those
for its children, one for any other tree. -/
def rounds (tree : Dom) : Nat :=
  match tree with
  | .element _ _ children => 2 + roundsAll children
  | .text _ | .comment _ | .doctype | .contents _ => 1

def roundsAll (trees : List Dom) : Nat :=
  match trees with
  | [] => 0
  | tree :: rest => rounds tree + roundsAll rest

end

end Dom

theorem isRawTextElement_eq (name : String) :
    isRawTextElement name =
      decide (Text.lowercase name ∈ ["script", "style"]) := by
  rw [Bool.eq_iff_iff]
  simp [isRawTextElement]

/-! Stacks read back. -/

def Frame.completed (frame : Frame) : Node :=
  { frame.node with
    children := frame.done.reverse ++ Dom.nodes frame.raw frame.pending }

/-- The node that a stack becomes when its innermost frame has become `made`. -/
def readBack (made : Node) (parents : List Frame) : Node :=
  parents.foldl (fun made parent => (parent.add made).completed) made

theorem Frame.completed_start (raw : Bool) (name : TagName)
    (attributes : List (String × String)) (children : List Dom) :
    some (Frame.start name attributes children).completed =
      Dom.node? raw (.element name attributes children) := by
  rw [Dom.node?, ← isRawTextElement_eq]
  rfl

theorem Frame.completed_nil (node : Node) (raw : Bool) (done : List Node) :
    Frame.completed ⟨node, raw, done, []⟩ =
      Frame.finish ⟨node, raw, done, []⟩ := by
  simp [Frame.completed, Frame.finish, Dom.nodes]

/-- The first pending tree of a frame can be exchanged for its node, if it has
one. -/
theorem Frame.completed_cons (node : Node) (raw : Bool) (done : List Node)
    (tree : Dom) (rest : List Dom) :
    Frame.completed ⟨node, raw, done, tree :: rest⟩ =
      Frame.completed
        ⟨node, raw, (Dom.node? raw tree).toList ++ done, rest⟩ := by
  cases tree <;> simp [Frame.completed, Dom.nodes, Dom.node?]

/-- A frame on top of the one whose first pending tree it was started for reads
back as that frame with its tree still pending. -/
theorem completed_add_start (node : Node) (raw : Bool) (done : List Node)
    (name : TagName) (attributes : List (String × String))
    (children rest : List Dom) :
    (Frame.add ⟨node, raw, done, rest⟩
        (Frame.start name attributes children).completed).completed =
      Frame.completed
        ⟨node, raw, done, .element name attributes children :: rest⟩ := by
  rw [Frame.completed_cons, ← Frame.completed_start raw]
  rfl

/-- The loop makes what its stack reads back as. -/
theorem assemble_eq_readBack (frame : Frame) (parents : List Frame) :
    assemble frame parents = readBack frame.completed parents := by
  fun_induction assemble frame parents with
  | case1 node raw done made => exact (Frame.completed_nil node raw done).symm
  | case2 node raw done made parent parents ih =>
    rw [ih, Frame.completed_nil]
    rfl
  | case3 parents node raw done name attributes children rest ih =>
    rw [ih, readBack, List.foldl_cons, completed_add_start]
    rfl
  | case4 parents node raw done value rest child ih =>
    rw [ih, Frame.completed_cons]
    rfl
  | case5 parents node raw done value rest ih =>
    rw [ih, Frame.completed_cons]
    rfl
  | case6 parents node raw done rest ih =>
    rw [ih, Frame.completed_cons]
    rfl
  | case7 parents node raw done children rest ih =>
    rw [ih, Frame.completed_cons]
    rfl

theorem elementNode_eq (name : TagName) (attributes : List (String × String))
    (children : List Dom) :
    elementNode name attributes children =
      { Node.elementWith name.text attributes with
        children := Dom.nodes (isRawTextElement name.text) children } := by
  rw [elementNode, assemble_eq_readBack]
  rfl

theorem node?_element (raw : Bool) (name : TagName)
    (attributes : List (String × String)) (children : List Dom) :
    Dom.node? raw (.element name attributes children) =
      some (elementNode name attributes children) := by
  rw [elementNode_eq, Dom.node?, isRawTextElement_eq]

/-! The loop, one round at a time. -/

/-- One round of the loop on the finished root, if there is one, and the stack.
It takes one tree off the innermost frame, or the frame itself off the stack if
no tree is left in it. -/
def takeRound : Option Node × List Frame → Option Node × List Frame
  | (root?, []) => (root?, [])
  | (_, [⟨node, raw, done, []⟩]) =>
    (some (Frame.finish ⟨node, raw, done, []⟩), [])
  | (root?, ⟨node, raw, done, []⟩ :: parent :: parents) =>
    (root?, parent.add (Frame.finish ⟨node, raw, done, []⟩) :: parents)
  | (root?, ⟨node, raw, done, .element name attributes children :: rest⟩ ::
      parents) =>
    (root?, Frame.start name attributes children ::
      ⟨node, raw, done, rest⟩ :: parents)
  | (root?, ⟨node, raw, done, .text value :: rest⟩ :: parents) =>
    (root?, ⟨node, raw,
      (if raw then Node.rawData value else Node.text value) :: done, rest⟩ ::
      parents)
  | (root?, ⟨node, raw, done, .comment value :: rest⟩ :: parents) =>
    (root?, ⟨node, raw, Node.comment value :: done, rest⟩ :: parents)
  | (root?, ⟨node, raw, done, .doctype :: rest⟩ :: parents) =>
    (root?, ⟨node, raw, Node.doctype :: done, rest⟩ :: parents)
  | (root?, ⟨node, raw, done, .contents _ :: rest⟩ :: parents) =>
    (root?, ⟨node, raw, done, rest⟩ :: parents)

def outcome : Option Node × List Frame → Option Node
  | (root?, []) => root?
  | (_, frame :: parents) => some (assemble frame parents)

def roundsLeft : List Frame → Nat
  | [] => 0
  | frame :: parents => 1 + Dom.roundsAll frame.pending + roundsLeft parents

theorem outcome_takeRound : outcome ∘ takeRound = outcome := by
  funext state
  rw [Function.comp_apply]
  fun_cases takeRound state with
  | case1 root? => rfl
  | case2 root? node raw done => simp only [outcome, assemble]
  | case3 root? node raw done parent parents => simp only [outcome, assemble]
  | case4 root? node raw done name attributes children rest parents =>
    rw [outcome, outcome, assemble]
  | case5 root? node raw done value rest parents =>
    rw [outcome, outcome, assemble]
  | case6 root? node raw done value rest parents =>
    rw [outcome, outcome, assemble]
  | case7 root? node raw done rest parents => rw [outcome, outcome, assemble]
  | case8 root? node raw done children rest parents =>
    rw [outcome, outcome, assemble]

theorem roundsLeft_takeRound :
    Function.Semiconj (fun state => roundsLeft state.2) takeRound Nat.pred := by
  intro state
  dsimp only
  fun_cases takeRound state with
  | case1 root? => rfl
  | case2 root? node raw done => rfl
  | case3 root? node raw done parent parents =>
    simp only [roundsLeft, Frame.add, Dom.roundsAll, Nat.pred_eq_sub_one]
    omega
  | case4 root? node raw done name attributes children rest parents =>
    simp only [roundsLeft, Frame.start, Dom.roundsAll, Dom.rounds,
      Nat.pred_eq_sub_one]
    omega
  | case5 | case6 | case7 | case8 =>
    simp only [roundsLeft, Dom.roundsAll, Dom.rounds, Nat.pred_eq_sub_one]
    omega

theorem roundsLeft_eq_zero_iff (stack : List Frame) :
    roundsLeft stack = 0 ↔ stack = [] := by
  cases stack with
  | nil => simp [roundsLeft]
  | cons frame parents =>
    simp only [roundsLeft, reduceCtorEq, iff_false]
    omega

/-- The stack is empty once the loop has taken all of its rounds, and not
before. -/
theorem iterate_takeRound_snd_eq_nil_iff (count : Nat)
    (state : Option Node × List Frame) :
    (takeRound^[count] state).2 = [] ↔ roundsLeft state.2 ≤ count := by
  have hleft : roundsLeft (takeRound^[count] state).2 =
      roundsLeft state.2 - count := by
    rw [← Nat.pred_iterate]
    exact roundsLeft_takeRound.iterate_right count state
  rw [← roundsLeft_eq_zero_iff, hleft]
  omega

theorem outcome_iterate_takeRound (count : Nat)
    (state : Option Node × List Frame) :
    outcome (takeRound^[count] state) = outcome state :=
  congrFun (Function.iterate_invariant outcome_takeRound count) state

/-- The node of an element is its image under the recursion. The loop that makes
it has an empty stack after one round for the element and the rounds that its
children take, never before, and then holds that node. -/
theorem elementNode_eq_node? (raw : Bool) (name : TagName)
    (attributes : List (String × String)) (children : List Dom) :
    some (elementNode name attributes children) =
        Dom.node? raw (.element name attributes children) ∧
      takeRound^[1 + Dom.roundsAll children]
        (none, [Frame.start name attributes children]) =
        (Dom.node? raw (.element name attributes children), []) ∧
      ∀ count : Nat,
        (takeRound^[count] (none, [Frame.start name attributes children])).2 =
          [] ↔
          1 + Dom.roundsAll children ≤ count := by
  have hnode : some (elementNode name attributes children) =
      Dom.node? raw (.element name attributes children) := by
    rw [elementNode, assemble_eq_readBack, readBack, List.foldl_nil,
      Frame.completed_start]
  have hempty (count : Nat) := iterate_takeRound_snd_eq_nil_iff count
    (none, [Frame.start name attributes children])
  refine ⟨hnode, ?_, hempty⟩
  have hstack := (hempty (1 + Dom.roundsAll children)).2 (Nat.le_refl _)
  have houtcome := outcome_iterate_takeRound (1 + Dom.roundsAll children)
    (none, [Frame.start name attributes children])
  rw [← hnode]
  generalize takeRound^[1 + Dom.roundsAll children]
    (none, [Frame.start name attributes children]) =
    state at hstack houtcome
  obtain ⟨root?, stack⟩ := state
  subst hstack
  exact Prod.ext houtcome rfl

end HtmlBuilder.Markup
