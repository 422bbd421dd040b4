import Mathlib.Data.List.Basic
import Sentry.Run

/-!
# Behavior trees

The nodes of BehaviorTree.CPP 4, as far as trees without pre- and postconditions and
without parallel nodes use them. A tree (`Node`) is a term with the status of every
node, and with the index of the current child in a sequence with memory. Its leaves
act on a world: `Leaf.sync` is a node that completes when ticked, `Leaf.stateful` one
that may be running from tick to tick.

Ticking a tree (`Node.tick`) gives its new statuses, the new world, and the leaves
visited, each with the world it was ticked in. A running child that loses its turn is
halted (`Node.halt`): the nodes under it become idle. Halting a leaf changes nothing
in the world.

So all that a tick does to the world is done by the leaves it visits, one after the
other (`Node.tick_run`): what every leaf keeps, every tick keeps.
-/

namespace BehaviorTree

/-- `NodeStatus`; without preconditions, no node is skipped. -/
inductive Status
  | idle
  | running
  | success
  | failure
  deriving DecidableEq

variable {L W : Type*}

/-- What a leaf does when it is ticked with a status, in a world. -/
structure Leaf (W : Type*) where
  tick : Status → W → Status × W

/-- A `SyncActionNode` or a `ConditionNode`. -/
@[simp] def Leaf.sync (tick : W → Status × W) : Leaf W where
  tick _ w := tick w

/-- A `StatefulActionNode`: one that has completed stays so until it is reset. -/
@[simp] def Leaf.stateful (onStart onRunning : W → Status × W) : Leaf W where
  tick
    | .idle, w => onStart w
    | .running, w => onRunning w
    | status, w => (status, w)

/-- A tree, with the statuses of its nodes. -/
inductive Node (L : Type*)
  | leaf (l : L) (status : Status)
  /-- `SequenceNode`, with the index of its current child. -/
  | sequence (children : List (Node L)) (index : ℕ) (status : Status)
  /-- `ReactiveSequence` and `ReactiveFallback`: the first one goes on while its children
      succeed, the second one while they fail. -/
  | reactive (goOn : Status) (children : List (Node L)) (status : Status)
  /-- `InverterNode` -/
  | inverter (child : Node L) (status : Status)
  /-- `KeepRunningUntilFailureNode` -/
  | keepRunning (child : Node L) (status : Status)

namespace Node

/-- `ReactiveSequence` -/
abbrev reactiveSequence (children : List (Node L)) (status : Status) : Node L :=
  .reactive .success children status

/-- `ReactiveFallback` -/
abbrev reactiveFallback (children : List (Node L)) (status : Status) : Node L :=
  .reactive .failure children status

def status : Node L → Status
  | .leaf _ status => status
  | .sequence _ _ status => status
  | .reactive _ _ status => status
  | .inverter _ status => status
  | .keepRunning _ status => status

/-- The leaves, with their statuses. -/
@[simp] def leaves : Node L → List (L × Status)
  | .leaf l status => [(l, status)]
  | .sequence children _ _ => leavesOf children
  | .reactive _ children _ => leavesOf children
  | .inverter child _ => leaves child
  | .keepRunning child _ => leaves child
where
  /-- The leaves of some nodes. -/
  leavesOf : List (Node L) → List (L × Status)
    | [] => []
    | child :: children => leaves child ++ leavesOf children

/-- The statuses of a node and of all the nodes under it. -/
@[simp] def statuses : Node L → List Status
  | .leaf _ status => [status]
  | .sequence children _ status => status :: statusesOf children
  | .reactive _ children status => status :: statusesOf children
  | .inverter child status => status :: statuses child
  | .keepRunning child status => status :: statuses child
where
  /-- The statuses of some nodes, and of all the nodes under them. -/
  @[simp] statusesOf : List (Node L) → List Status
    | [] => []
    | child :: children => statuses child ++ statusesOf children

/-- `setStatus` -/
def setStatus (status : Status) : Node L → Node L
  | .leaf l _ => .leaf l status
  | .sequence children index _ => .sequence children index status
  | .reactive goOn children _ => .reactive goOn children status
  | .inverter child _ => .inverter child status
  | .keepRunning child _ => .keepRunning child status

@[simp] theorem setStatus_sequence (children : List (Node L)) (index : ℕ)
    (status status' : Status) : (sequence children index status).setStatus status' =
      .sequence children index status' := rfl

@[simp] theorem setStatus_reactive (goOn : Status) (children : List (Node L))
    (status status' : Status) : (reactive goOn children status).setStatus status' =
      .reactive goOn children status' := rfl

@[simp] theorem setStatus_keepRunning (child : Node L) (status status' : Status) :
    (keepRunning child status).setStatus status' = .keepRunning child status' := rfl

/-- `resetStatus` -/
def resetStatus (n : Node L) : Node L := n.setStatus .idle

@[simp] theorem resetStatus_keepRunning (child : Node L) (status : Status) :
    (keepRunning child status).resetStatus = .keepRunning child .idle := rfl

mutual

/-- `halt`: the children are reset, a sequence goes back to its first child. -/
def halt : Node L → Node L
  | .leaf l _ => .leaf l .idle
  | .sequence children _ _ => .sequence (resetChildren children) 0 .idle
  | .reactive goOn children _ => .reactive goOn (resetChildren children) .idle
  | .inverter child _ =>
    .inverter (if child.status = .running then halt child else child.resetStatus) .idle
  | .keepRunning child _ =>
    .keepRunning (if child.status = .running then halt child else child.resetStatus) .idle

/-- `resetChildren`: the running children are halted, all of them become idle. -/
def resetChildren : List (Node L) → List (Node L)
  | [] => []
  | child :: children =>
    (if child.status = .running then halt child else child.resetStatus) :: resetChildren children

end

/-- `resetChild`, `haltChild`: a running node is halted, and it becomes idle. -/
def reset (n : Node L) : Node L := if n.status = .running then n.halt else n.resetStatus

@[simp] theorem resetChildren_nil : resetChildren ([] : List (Node L)) = [] := rfl

@[simp] theorem resetChildren_cons (child : Node L) (children : List (Node L)) :
    resetChildren (child :: children) = child.reset :: resetChildren children := rfl

@[simp] theorem reset_leaf (l : L) (status : Status) : (leaf l status).reset = .leaf l .idle := by
  rw [reset]
  split <;> rfl

@[simp] theorem reset_sequence (children : List (Node L)) (index : ℕ) (status : Status) :
    (sequence children index status).reset = if status = .running then
      .sequence (resetChildren children) 0 .idle else .sequence children index .idle := rfl

@[simp] theorem reset_reactive (goOn : Status) (children : List (Node L)) (status : Status) :
    (reactive goOn children status).reset = if status = .running then
      .reactive goOn (resetChildren children) .idle else .reactive goOn children .idle := rfl

@[simp] theorem reset_inverter (child : Node L) (status : Status) :
    (inverter child status).reset = if status = .running then .inverter child.reset .idle
      else .inverter child .idle := rfl

@[simp] theorem reset_keepRunning (child : Node L) (status : Status) :
    (keepRunning child status).reset = if status = .running then .keepRunning child.reset .idle
      else .keepRunning child .idle := rfl

@[simp] theorem status_setStatus (n : Node L) (status : Status) :
    (n.setStatus status).status = status := by
  cases n <;> rfl

@[simp] theorem resetStatus_setStatus (n : Node L) (status : Status) :
    (n.setStatus status).resetStatus = n.resetStatus := by
  cases n <;> rfl

/-- Resetting a node that has completed leaves the nodes under it alone. -/
@[simp] theorem reset_setStatus (n : Node L) {status : Status} (h : status ≠ .running) :
    (n.setStatus status).reset = n.resetStatus := by
  rw [reset, status_setStatus, if_neg h, resetStatus_setStatus]

end Node

/-- What ticking a node, or the children of one, comes to. -/
structure Outcome (L W α : Type*) where
  status : Status
  /-- The node, or the children, after the tick. -/
  result : α
  world : W
  /-- The leaves ticked, with the worlds they were ticked in. -/
  visits : List (L × W)

namespace Node

variable (sem : L → Leaf W)

mutual

/-- `executeTick` -/
@[simp] def tick : Node L → W → Outcome L W (Node L)
  | .leaf l status, w =>
    let r := (sem l).tick status w
    ⟨r.1, .leaf l r.1, r.2, [(l, w)]⟩
  | .sequence children index _, w =>
    let r := tickSequence children index w
    if r.status = .running then
      ⟨.running, .sequence r.result.1 r.result.2 .running, r.world, r.visits⟩
    else ⟨r.status, .sequence (resetChildren r.result.1) 0 r.status, r.world, r.visits⟩
  | .reactive goOn children _, w =>
    let r := tickReactive goOn children w
    ⟨r.status, .reactive goOn r.result r.status, r.world, r.visits⟩
  | .inverter child _, w =>
    let r := tick child w
    match r.status with
    | .success => ⟨.failure, .inverter r.result.reset .failure, r.world, r.visits⟩
    | .failure => ⟨.success, .inverter r.result.reset .success, r.world, r.visits⟩
    | status => ⟨status, .inverter r.result status, r.world, r.visits⟩
  | .keepRunning child _, w =>
    let r := tick child w
    match r.status with
    | .success => ⟨.running, .keepRunning r.result.reset .running, r.world, r.visits⟩
    | .failure => ⟨.failure, .keepRunning r.result.reset .failure, r.world, r.visits⟩
    | status => ⟨status, .keepRunning r.result status, r.world, r.visits⟩

/-- The loop of `SequenceNode`: the children from the current one on are ticked, until
    one of them does not succeed; it is the current child then. -/
@[simp] def tickSequence : List (Node L) → ℕ → W → Outcome L W (List (Node L) × ℕ)
  | [], _, w => ⟨.success, ([], 0), w, []⟩
  | child :: children, index + 1, w =>
    let r := tickSequence children index w
    ⟨r.status, (child :: r.result.1, r.result.2 + 1), r.world, r.visits⟩
  | child :: children, 0, w =>
    let r := tick child w
    if r.status = .success then
      let rest := tickSequence children 0 r.world
      ⟨rest.status, (r.result :: rest.result.1, rest.result.2 + 1), rest.world,
        r.visits ++ rest.visits⟩
    else ⟨r.status, (r.result :: children, 0), r.world, r.visits⟩

/-- The loop of `ReactiveSequence` and `ReactiveFallback`: all the children are ticked,
    until one of them does not return `goOn`. All the children are reset, but one that
    is running. -/
@[simp] def tickReactive (goOn : Status) : List (Node L) → W → Outcome L W (List (Node L))
  | [], w => ⟨goOn, [], w, []⟩
  | child :: children, w =>
    let r := tick child w
    if r.status = goOn then
      let rest := tickReactive goOn children r.world
      ⟨rest.status, r.result.reset :: rest.result, rest.world, r.visits ++ rest.visits⟩
    else if r.status = .running then
      ⟨.running, r.result :: resetChildren children, r.world, r.visits⟩
    else ⟨r.status, r.result.reset :: resetChildren children, r.world, r.visits⟩

end

/-- `Tree::tickOnce`: the status of the root is reset when it has completed. -/
def tickOnce (n : Node L) (w : W) : Outcome L W (Node L) :=
  let r := tick sem n w
  if r.status = .success ∨ r.status = .failure then { r with result := r.result.resetStatus } else r

/-! ## What a tick does -/

open Transition (Run)

/-- A leaf is ticked, with some status. -/
def LeafStep (w : W) (visits : List (L × W)) (w' : W) : Prop :=
  ∃ l status, visits = [(l, w)] ∧ w' = ((sem l).tick status w).2

variable {sem} in
/-- The first visit is in the first world, and the others come after it. -/
theorem run_cons {w w' : W} {visit : L × W} {visits : List (L × W)}
    (h : Run (LeafStep sem) w (visit :: visits) w') :
    ∃ l status, visit = (l, w) ∧ Run (LeafStep sem) ((sem l).tick status w).2 visits w' := by
  generalize hvisits : visit :: visits = all at h
  cases h with
  | nil => exact absurd hvisits (List.cons_ne_nil _ _)
  | cons hstep hrest =>
    obtain ⟨l, status, rfl, rfl⟩ := hstep
    obtain ⟨rfl, rfl⟩ := List.cons.inj hvisits
    exact ⟨l, status, rfl, hrest⟩

mutual

/-- Ticking a tree is ticking the leaves it visits, one after the other. -/
theorem tick_run : ∀ (n : Node L) (w : W),
    Run (LeafStep sem) w (tick sem n w).visits (tick sem n w).world
  | .leaf l status, w => by
    have hrun : Run (LeafStep sem) w ([(l, w)] ++ []) ((sem l).tick status w).2 :=
      .cons ⟨l, status, rfl, rfl⟩ (.nil _)
    simpa using hrun
  | .sequence children index _, w => by
    have hrun := tickSequence_run children index w
    simp only [tick]
    split <;> exact hrun
  | .reactive goOn children _, w => tickReactive_run goOn children w
  | .inverter child _, w => by
    have hrun := tick_run child w
    simp only [tick]
    split <;> exact hrun
  | .keepRunning child _, w => by
    have hrun := tick_run child w
    simp only [tick]
    split <;> exact hrun

theorem tickSequence_run : ∀ (children : List (Node L)) (index : ℕ) (w : W),
    Run (LeafStep sem) w (tickSequence sem children index w).visits
      (tickSequence sem children index w).world
  | [], _, w => .nil w
  | _ :: children, index + 1, w => tickSequence_run children index w
  | child :: children, 0, w => by
    have hrun := tick_run child w
    simp only [tickSequence]
    split
    · exact hrun.trans (tickSequence_run children 0 _)
    · exact hrun

theorem tickReactive_run : ∀ (goOn : Status) (children : List (Node L)) (w : W),
    Run (LeafStep sem) w (tickReactive sem goOn children w).visits
      (tickReactive sem goOn children w).world
  | _, [], w => .nil w
  | goOn, child :: children, w => by
    have hrun := tick_run child w
    simp only [tickReactive]
    split
    · exact hrun.trans (tickReactive_run goOn children _)
    · split <;> exact hrun

end

theorem tickOnce_run (n : Node L) (w : W) :
    Run (LeafStep sem) w (tickOnce sem n w).visits (tickOnce sem n w).world := by
  simp only [tickOnce]
  split <;> exact tick_run sem n w

end Node

end BehaviorTree
