import HtmlBuilder.Traversal
import Mathlib.Logic.Function.Iterate

/-!
The walk of a tree as a recursion over its nodes. The loop with its list of
pending steps does what the recursion does: what it still has to do is the walk
of every step that is pending, one after another, and every round takes one step
off the cost of that list.

An occurrence of a node is told apart from equal nodes elsewhere by its place,
the positions that lead to it from the root. Logging the steps of a walk
together with their places shows that every occurrence is entered and left once,
with its descendants and nothing else in between.
-/

namespace HtmlBuilder

mutual

def walk {State : Type} (visitor : Visitor State) (node : Node) (depth : Nat)
    (state : State) : State :=
  match node with
  | node@⟨_, _, _, _, children⟩ =>
    visitor.exit node depth
      (walkAll visitor children (depth + 1) (visitor.enter node depth state))

def walkAll {State : Type} (visitor : Visitor State) (nodes : List Node)
    (depth : Nat) (state : State) : State :=
  match nodes with
  | [] => state
  | node :: rest => walkAll visitor rest depth (walk visitor node depth state)

end

variable {State : Type} (visitor : Visitor State)

theorem walk_eq (node : Node) (depth : Nat) (state : State) :
    walk visitor node depth state =
      visitor.exit node depth
        (walkAll visitor node.children (depth + 1)
          (visitor.enter node depth state)) := by
  cases node
  rw [walk]

/-! What a list of pending steps stands for. -/

/-- What is left to do for a pending step: a node to be entered is walked. -/
def walkStep (state : State) : Step → State
  | .enter node depth => walk visitor node depth state
  | .exit node depth => visitor.exit node depth state

theorem foldl_enterAll (nodes : List Node) (depth : Nat) (state : State) :
    (enterAll nodes depth).foldl (walkStep visitor) state =
      walkAll visitor nodes depth state := by
  induction nodes generalizing state with
  | nil => rfl
  | cons node rest ih =>
    rw [walkAll, ← ih]
    rfl

/-- The rest of a run is the walks of the pending steps, in order. -/
theorem runSteps_eq_foldl (state : State) (steps : List Step) :
    runSteps visitor state steps = steps.foldl (walkStep visitor) state := by
  fun_induction runSteps visitor state steps with
  | case1 => rfl
  | case2 state node depth rest ih => rw [ih, List.foldl_cons, walkStep]
  | case3 state node depth rest ih =>
    rw [ih, List.foldl_append, foldl_enterAll, List.foldl_cons, List.foldl_cons]
    simp only [walkStep, walk_eq]

/-! The loop, one round at a time. -/

/-- One round of the loop: takes the first pending step and puts what it brings
up in its place. A loop with nothing left to do stays as it is. -/
def takeStep : State × List Step → State × List Step
  | (state, []) => (state, [])
  | (state, .exit node depth :: rest) => (visitor.exit node depth state, rest)
  | (state, .enter node depth :: rest) =>
    (visitor.enter node depth state,
      enterAll node.children (depth + 1) ++ .exit node depth :: rest)

theorem runSteps_takeStep (state : State) (steps : List Step) :
    runSteps visitor (takeStep visitor (state, steps)).1
      (takeStep visitor (state, steps)).2 =
      runSteps visitor state steps := by
  match steps with
  | [] => rfl
  | .exit node depth :: rest => rw [takeStep, runSteps]
  | .enter node depth :: rest => rw [takeStep, runSteps]

theorem pendingCost_takeStep (state : State) (steps : List Step) :
    pendingCost (takeStep visitor (state, steps)).2 =
      pendingCost steps - 1 := by
  match steps with
  | [] => rfl
  | .exit node depth :: rest => simp [takeStep, pendingCost, Step.cost]
  | .enter node depth :: rest =>
    simp only [takeStep, pendingCost_append, pendingCost_cons,
      pendingCost_enterAll, Step.cost, Node.size_eq node]
    omega

theorem pendingCost_eq_zero_iff (steps : List Step) :
    pendingCost steps = 0 ↔ steps = [] := by
  match steps with
  | [] => simp [pendingCost]
  | .exit node depth :: rest => simp [pendingCost, Step.cost]
  | .enter node depth :: rest =>
    have hsize := Node.size_eq node
    simp only [pendingCost, Step.cost, reduceCtorEq, iff_false]
    omega

theorem pendingCost_iterate (rounds : Nat) (state : State) (steps : List Step) :
    pendingCost ((takeStep visitor)^[rounds] (state, steps)).2 =
      pendingCost steps - rounds := by
  induction rounds generalizing state steps with
  | zero => rfl
  | succ rounds ih =>
    rw [Function.iterate_succ_apply, ih, pendingCost_takeStep]
    omega

theorem runSteps_iterate (rounds : Nat) (state : State) (steps : List Step) :
    runSteps visitor ((takeStep visitor)^[rounds] (state, steps)).1
        ((takeStep visitor)^[rounds] (state, steps)).2 =
      runSteps visitor state steps := by
  induction rounds generalizing state steps with
  | zero => rfl
  | succ rounds ih => rw [Function.iterate_succ_apply, ih, runSteps_takeStep]

/-- The loop has nothing left to do once it has taken as many rounds as its
steps cost. -/
theorem iterate_snd_eq_nil_iff (rounds : Nat) (state : State)
    (steps : List Step) :
    ((takeStep visitor)^[rounds] (state, steps)).2 = [] ↔
      pendingCost steps ≤ rounds := by
  rw [← pendingCost_eq_zero_iff, pendingCost_iterate]
  omega

theorem iterate_pendingCost (state : State) (steps : List Step) :
    (takeStep visitor)^[pendingCost steps] (state, steps) =
      (runSteps visitor state steps, []) := by
  have hempty : ((takeStep visitor)^[pendingCost steps] (state, steps)).2 =
      [] :=
    (iterate_snd_eq_nil_iff visitor _ state steps).2 (Nat.le_refl _)
  have hrun := runSteps_iterate visitor (pendingCost steps) state steps
  rw [hempty, runSteps] at hrun
  exact Prod.ext hrun hempty

/-! Steps with the places they belong to. -/

/-- The node at a place: the empty place is the root, and every number picks a
child. -/
def Node.at? (node : Node) : List Nat → Option Node
  | [] => some node
  | index :: place => node.children[index]?.bind (·.at? place)

def Occurs (node : Node) (nodes : List Node) : Prop :=
  ∃ root ∈ nodes, ∃ place, root.at? place = some node

theorem forall_occurs_nil {p : Node → Prop} :
    ∀ node, Occurs node [] → p node := by
  simp [Occurs]

theorem forall_occurs_cons_iff {p : Node → Prop} (root : Node)
    (rest : List Node) : (∀ node, Occurs node (root :: rest) → p node) ↔
      p root ∧ (∀ node, Occurs node root.children → p node) ∧
      ∀ node, Occurs node rest → p node := by
  constructor
  · intro hall
    refine ⟨hall root ⟨root, by simp, [], rfl⟩, ?_, ?_⟩
    · rintro node ⟨child, hchild, place, hplace⟩
      obtain ⟨index, hindex⟩ := List.getElem?_of_mem hchild
      exact hall node ⟨root, by simp,
        index :: place, by simpa [Node.at?, hindex] using hplace⟩
    · rintro node ⟨other, hother, hplace⟩
      exact hall node ⟨other, by simp [hother], hplace⟩
  · rintro ⟨hroot, hchildren, hrest⟩ node ⟨tree, htree, place, hplace⟩
    rcases List.mem_cons.1 htree with rfl | htree
    · match place with
      | [] =>
        obtain rfl : tree = node := by simpa [Node.at?] using hplace
        exact hroot
      | index :: place =>
        obtain ⟨child, hchild, hplace⟩ := Option.bind_eq_some_iff.1 hplace
        exact hchildren node ⟨child, List.mem_of_getElem? hchild, place, hplace⟩
    · exact hrest node ⟨tree, htree, place, hplace⟩

theorem forall_occurs_append_iff {p : Node → Prop} (a b : List Node) :
    (∀ node, Occurs node (a ++ b) → p node) ↔
      (∀ node, Occurs node a → p node) ∧ ∀ node, Occurs node b → p node := by
  simp only [Occurs, List.mem_append, or_and_right, exists_or,
    or_imp, forall_and]

def Visitor.apply (state : State) : Step → State
  | .enter node depth => visitor.enter node depth state
  | .exit node depth => visitor.exit node depth state

mutual

/-- The steps that a walk takes for the node at a place and for all that is
below it, each with its place. The depth of a step is the length of its
place. -/
def stepLog (place : List Nat) (node : Node) : List (List Nat × Step) :=
  match node with
  | node@⟨_, _, _, _, children⟩ =>
    (place, .enter node place.length) ::
      (stepLogFrom place 0 children ++ [(place, .exit node place.length)])

/-- The steps for children of the node at a place, the first of them at the
given position. -/
def stepLogFrom (place : List Nat) (index : Nat) (nodes : List Node) :
    List (List Nat × Step) :=
  match nodes with
  | [] => []
  | node :: rest =>
    stepLog (place ++ [index]) node ++ stepLogFrom place (index + 1) rest

end

theorem stepLog_eq (place : List Nat) (node : Node) :
    stepLog place node = (place, .enter node place.length) ::
      (stepLogFrom place 0 node.children ++
        [(place, .exit node place.length)]) := by
  cases node
  rw [stepLog]

mutual

theorem foldl_stepLog (place : List Nat) (node : Node) (state : State) :
    (stepLog place node).foldl
      (fun state entry => visitor.apply state entry.2) state =
      walk visitor node place.length state := by
  match node with
  | ⟨_, _, _, _, children⟩ =>
    rw [stepLog, walk, List.foldl_cons, List.foldl_append, foldl_stepLogFrom]
    rfl

theorem foldl_stepLogFrom (place : List Nat) (index : Nat) (nodes : List Node)
    (state : State) :
    (stepLogFrom place index nodes).foldl
      (fun state entry => visitor.apply state entry.2) state =
      walkAll visitor nodes (place.length + 1) state := by
  match nodes with
  | [] => rfl
  | node :: rest =>
    rw [stepLogFrom, walkAll, List.foldl_append, foldl_stepLog,
      foldl_stepLogFrom, List.length_append, List.length_singleton]

end

mutual

/-- Every logged step enters or leaves the node at its place, at the depth of
that place. -/
theorem at?_of_mem_stepLog {place : List Nat} {node : Node}
    {entry : List Nat × Step} (hentry : entry ∈ stepLog place node) :
    ∃ below sub, entry.1 = place ++ below ∧ node.at? below = some sub ∧
      (entry.2 = .enter sub entry.1.length ∨
        entry.2 = .exit sub entry.1.length) := by
  match node with
  | ⟨kind, name, value?, attributes, children⟩ =>
    rw [stepLog, List.mem_cons, List.mem_append, List.mem_singleton] at hentry
    rcases hentry with rfl | hentry | rfl
    · exact ⟨[], _, by simp, rfl, .inl rfl⟩
    · obtain ⟨index, below, child, sub, hplace, hchild, hsub, hstep⟩ :=
        at?_of_mem_stepLogFrom hentry
      refine ⟨index :: below, sub, by simpa using hplace, ?_, hstep⟩
      simpa [Node.at?, hchild] using hsub
    · exact ⟨[], _, by simp, rfl, .inr rfl⟩

theorem at?_of_mem_stepLogFrom {place : List Nat} {start : Nat}
    {nodes : List Node}
    {entry : List Nat × Step} (hentry : entry ∈ stepLogFrom place start nodes) :
    ∃ index below child sub, entry.1 = place ++ [start + index] ++ below ∧
      nodes[index]? = some child ∧ child.at? below = some sub ∧
      (entry.2 = .enter sub entry.1.length ∨
        entry.2 = .exit sub entry.1.length) := by
  match nodes with
  | [] => simp [stepLogFrom] at hentry
  | node :: rest =>
    rw [stepLogFrom, List.mem_append] at hentry
    rcases hentry with hentry | hentry
    · obtain ⟨below, sub, hplace, hsub, hstep⟩ := at?_of_mem_stepLog hentry
      exact ⟨0, below, node, sub, by simpa using hplace, rfl, hsub, hstep⟩
    · obtain ⟨index, below, child, sub, hplace, hchild, hsub, hstep⟩ :=
        at?_of_mem_stepLogFrom hentry
      refine ⟨index + 1, below, child, sub, ?_, by simpa using hchild,
        hsub, hstep⟩
      rw [hplace, Nat.add_assoc, Nat.add_comm 1 index]

end

theorem place_ne_of_mem_stepLogFrom {place : List Nat} {start : Nat}
    {nodes : List Node}
    {entry : List Nat × Step} (hentry : entry ∈ stepLogFrom place start nodes) :
    place <+: entry.1 ∧ entry.1 ≠ place := by
  obtain ⟨index, below, _, _, hplace, _⟩ := at?_of_mem_stepLogFrom hentry
  rw [hplace, List.append_assoc]
  exact ⟨List.prefix_append _ _, by simp⟩

/-- Entries of children other than the one at a position do not lie below that
position. -/
theorem not_isPrefix_of_mem_stepLogFrom {place below : List Nat}
    {start position : Nat} {nodes : List Node} {entry : List Nat × Step}
    (hentry : entry ∈ stepLogFrom place start nodes)
    (hposition : position < start ∨ start + nodes.length ≤ position) :
    ¬ place ++ position :: below <+: entry.1 := by
  obtain ⟨index, _, _, _, hplace, hchild, _⟩ := at?_of_mem_stepLogFrom hentry
  obtain ⟨hindex, _⟩ := List.getElem?_eq_some_iff.1 hchild
  rw [hplace, List.append_assoc, List.prefix_append_right_inj,
    List.singleton_append, List.cons_prefix_cons]
  rintro ⟨hsame, -⟩
  omega

theorem stepLogFrom_split (place : List Nat) (start : Nat) {index : Nat}
    {nodes : List Node} {child : Node} (hchild : nodes[index]? = some child) :
    stepLogFrom place start nodes =
      stepLogFrom place start (nodes.take index) ++
        stepLog (place ++ [start + index]) child ++
        stepLogFrom place (start + index + 1) (nodes.drop (index + 1)) := by
  induction nodes generalizing start index with
  | nil => simp at hchild
  | cons node rest ih =>
    cases index with
    | zero =>
      obtain rfl : node = child := by simpa using hchild
      simp [stepLogFrom]
    | succ index =>
      rw [stepLogFrom, ih (start + 1) (by simpa using hchild)]
      simp only [List.take_succ_cons, List.drop_succ_cons, stepLogFrom,
        List.append_assoc]
      rw [show start + 1 + index = start + (index + 1) by omega]

/-- The log of a tree holds the log of each of its subtrees in one piece, and no
other entry belongs to that subtree. -/
theorem stepLog_split (place : List Nat) {below : List Nat} {node sub : Node}
    (hsub : node.at? below = some sub) :
    ∃ before after,
      stepLog place node = before ++ stepLog (place ++ below) sub ++ after ∧
      ∀ entry ∈ before ++ after, ¬ place ++ below <+: entry.1 := by
  induction below generalizing place node with
  | nil =>
    obtain rfl : node = sub := by simpa [Node.at?] using hsub
    exact ⟨[], [], by simp, by simp⟩
  | cons index below ih =>
    obtain ⟨child, hchild, hsub⟩ := Option.bind_eq_some_iff.1 hsub
    obtain ⟨before, after, hlog, hrest⟩ := ih (place ++ [index]) hsub
    have hsplit := stepLogFrom_split place 0 hchild
    have hindex := (List.getElem?_eq_some_iff.1 hchild).1
    rw [Nat.zero_add, hlog] at hsplit
    refine ⟨(place, .enter node place.length) ::
        (stepLogFrom place 0 (node.children.take index) ++ before),
      after ++ stepLogFrom place (index + 1) (node.children.drop (index + 1)) ++
        [(place, .exit node place.length)], ?_, ?_⟩
    · rw [stepLog_eq, hsplit]
      simp
    · have hown : ¬ place ++ index :: below <+: place := by
        intro hprefix
        have hlength := hprefix.length_le
        rw [List.length_append, List.length_cons] at hlength
        omega
      intro entry hentry
      simp only [List.mem_append, List.mem_cons, List.not_mem_nil,
        or_false] at hentry
      rw [List.append_assoc, List.singleton_append] at hrest
      rcases hentry with (rfl | hentry | hentry) | (hentry | hentry) | rfl
      · exact hown
      · exact not_isPrefix_of_mem_stepLogFrom hentry
          (.inr (by rw [List.length_take]; omega))
      · exact hrest entry (List.mem_append_left _ hentry)
      · exact hrest entry (List.mem_append_right _ hentry)
      · exact not_isPrefix_of_mem_stepLogFrom hentry (.inl (by omega))
      · exact hown

/-- In a log, the node at a place is entered once and left once, both at its
true depth; what stands between the two belongs to its descendants, and nothing
else in the log does. -/
def VisitedOnce (entries : List (List Nat × Step)) (place : List Nat)
    (node : Node) : Prop :=
  ∃ before within after,
    entries = before ++ (place, .enter node place.length) ::
      (within ++ (place, .exit node place.length) :: after) ∧
    (∀ entry ∈ within, place <+: entry.1 ∧ entry.1 ≠ place) ∧
    ∀ entry ∈ before ++ after, ¬ place <+: entry.1

theorem visitedOnce_of_at? {root node : Node} {place : List Nat}
    (hnode : root.at? place = some node) :
    VisitedOnce (stepLog [] root) place node := by
  obtain ⟨before, after, hlog, hrest⟩ := stepLog_split [] hnode
  rw [List.nil_append] at hlog hrest
  refine ⟨before, stepLogFrom place 0 node.children, after, ?_, ?_, hrest⟩
  · rw [hlog, stepLog_eq]
    simp
  · exact fun entry hentry => place_ne_of_mem_stepLogFrom hentry

/-- The loop ends after two rounds for every node and leaves the visitor in the
state of the recursive walk. What the visitor is shown is a log of steps in
which exactly the nodes of the tree occur, each entered once and left once at
its own depth, around the steps of its descendants. -/
theorem traverse_eq_walk (root : Node) (state : State) :
    traverse visitor root state = walk visitor root 0 state ∧
      (takeStep visitor)^[2 * root.size] (state, [.enter root 0]) =
        (walk visitor root 0 state, []) ∧
      (∀ rounds < 2 * root.size,
        ((takeStep visitor)^[rounds] (state, [.enter root 0])).2 ≠ []) ∧
      traverse visitor root state =
        (stepLog [] root).foldl
          (fun state entry => visitor.apply state entry.2) state ∧
      (∀ entry ∈ stepLog [] root, ∃ node, root.at? entry.1 = some node ∧
        (entry.2 = .enter node entry.1.length ∨
          entry.2 = .exit node entry.1.length)) ∧
      ∀ place node, root.at? place = some node →
      VisitedOnce (stepLog [] root) place node := by
  have hwalk : traverse visitor root state = walk visitor root 0 state :=
    runSteps_eq_foldl visitor state [.enter root 0]
  have hcost : pendingCost [.enter root 0] = 2 * root.size := rfl
  refine ⟨hwalk, ?_, ?_, ?_, ?_, ?_⟩
  · rw [← hcost, iterate_pendingCost, ← hwalk, traverse]
  · intro rounds hrounds hempty
    rw [iterate_snd_eq_nil_iff, hcost] at hempty
    omega
  · rw [hwalk, foldl_stepLog, List.length_nil]
  · intro entry hentry
    obtain ⟨below, sub, hplace, hsub, hstep⟩ := at?_of_mem_stepLog hentry
    rw [List.nil_append] at hplace
    exact ⟨sub, hplace ▸ hsub, hstep⟩
  · exact fun place node => visitedOnce_of_at?

theorem traverse_eq_walk_nested :
    ((Node.element "p").addChild (Node.text "a")).at? [0] =
        some (Node.text "a") ∧
      3 < 2 * ((Node.element "p").addChild (Node.text "a")).size ∧
      VisitedOnce (stepLog [] ((Node.element "p").addChild (Node.text "a"))) [0]
        (Node.text "a") ∧
      ((takeStep ⟨fun _ depth sum => sum + depth, fun _ _ sum => sum⟩)^[3]
          (0, [.enter ((Node.element "p").addChild (Node.text "a")) 0])).2 ≠
        [] := by
  have hspec :=
    traverse_eq_walk ⟨fun _ depth sum => sum + depth, fun _ _ sum => sum⟩
      ((Node.element "p").addChild (Node.text "a")) 0
  obtain ⟨-, -, hrounds, -, -, honce⟩ := hspec
  exact ⟨rfl, by decide, honce [0] _ rfl, hrounds 3 (by decide)⟩

end HtmlBuilder
