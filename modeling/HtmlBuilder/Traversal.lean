import HtmlBuilder.Node

/-!
Walking a tree in document order. A visitor has a state, is shown every node
when it is entered and again when it is left, and is told the depth of the node
below the root. The walk keeps the steps that are still to be taken in a list,
so the nesting of a tree costs no stack.
-/

namespace HtmlBuilder

/-- What is done when a node is entered and when it is left. -/
structure Visitor (State : Type) where
  enter : Node → Nat → State → State
  exit : Node → Nat → State → State

inductive Step where
  | enter (node : Node) (depth : Nat)
  | exit (node : Node) (depth : Nat)

namespace Step

/-- The number of steps that a pending step still stands for. -/
def cost : Step → Nat
  | .enter node _ => 2 * node.size
  | .exit _ _ => 1

end Step

def pendingCost : List Step → Nat
  | [] => 0
  | step :: rest => step.cost + pendingCost rest

def enterAll (nodes : List Node) (depth : Nat) : List Step :=
  nodes.map fun node => .enter node depth

theorem pendingCost_cons (step : Step) (steps : List Step) :
    pendingCost (step :: steps) = step.cost + pendingCost steps :=
  rfl

theorem pendingCost_append (a b : List Step) :
    pendingCost (a ++ b) = pendingCost a + pendingCost b := by
  induction a with
  | nil => simp [pendingCost]
  | cons step rest ih =>
    simp only [List.cons_append, pendingCost, ih, Nat.add_assoc]

theorem pendingCost_enterAll (nodes : List Node) (depth : Nat) :
    pendingCost (enterAll nodes depth) = 2 * Node.sizeAll nodes := by
  induction nodes with
  | nil => rfl
  | cons node rest ih =>
    simp only [enterAll, List.map_cons] at ih ⊢
    rw [pendingCost_cons, ih]
    simp only [Step.cost, Node.sizeAll]
    omega

/-- Takes the pending steps in order: entering a node puts its children and then
its own exit in front of the steps that follow. -/
def runSteps {State : Type} (visitor : Visitor State) (state : State) :
    List Step → State
  | [] => state
  | .exit node depth :: rest =>
    runSteps visitor (visitor.exit node depth state) rest
  | .enter node depth :: rest =>
    runSteps visitor (visitor.enter node depth state)
      (enterAll node.children (depth + 1) ++ .exit node depth :: rest)
termination_by steps => pendingCost steps
decreasing_by
  · rw [pendingCost_cons]; simp [Step.cost]
  · rw [pendingCost_append, pendingCost_cons, pendingCost_cons,
      pendingCost_enterAll]
    simp only [Step.cost, Node.size_eq node]
    omega

/-- Walks a tree from its root, which has depth zero. -/
def traverse {State : Type} (visitor : Visitor State) (root : Node)
    (state : State) : State :=
  runSteps visitor state [.enter root 0]

end HtmlBuilder
