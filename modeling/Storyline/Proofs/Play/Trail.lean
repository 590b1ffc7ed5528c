import Mathlib.Data.List.Chain
import Storyline.Proofs.Play.Walk

/-!
The trail of a game: the ids over which it goes when it enters a node. A trail is found in one state
that does not change, since no condition looks at what entering a node changes. What is shown on the
way and where the game stands at its end are told from the trail alone.
-/

namespace Storyline

def NodeKind.isBranch : NodeKind → Bool
  | branch _ => true
  | _ => false

namespace Content

/-- Where a node leads on at once. Only a branch does; without a bound it leads where its condition
does not hold. -/
def successor? (content : Content) (s : GameState) (id : String) : Option String :=
  match (content.node? id).map Node.kind with
  | some (.branch condition) =>
    some (match condition.holds s with
      | .ok true => condition.ifTrue
      | _ => condition.ifFalse)
  | _ => none

/-- The ids from one on, as far as branches lead, over at most `hops` of them. -/
def trail (content : Content) (s : GameState) (id : String) : Nat → List String
  | 0 => [id]
  | hops + 1 =>
    id :: match content.successor? s id with
      | some next => content.trail s next hops
      | none => []

/-- Whether a game that may follow `hops` branches goes over these ids, and over no more. -/
structure IsTrail (content : Content) (s : GameState) (hops : Nat) (id : String)
    (ids : List String) : Prop where
  start : ids.head? = some id
  leads : ids.IsChain fun here next => content.successor? s here = some next
  bound : ids.length ≤ hops + 1
  ends : content.successor? s (ids.getLastD id) = none ∨ ids.length = hops + 1

def entered (content : Content) (ids : List String) : List (String × Node) :=
  ids.filterMap fun id => (content.node? id).map fun node => (id, node)

def header (content : Content) (s : GameState) : Header where
  day := s.day
  episode := s.episode
  activePlayers :=
    if s.activePlayers.isEmpty then content.titles.castSize.toNat else s.activePlayers.length

/-- How a trail ends at an id. A branch at the end of a trail is one too many. -/
def stopAt (content : Content) (id : String) : Stop :=
  match content.node? id with
  | none => .lost (.missingNode id)
  | some node =>
    match node.kind with
    | .narrative next => .checkpoint (.narrative next)
    | .choice choices => .checkpoint (.choice id choices.length)
    | .ending => .ended
    | .branch _ => .lost (.branchCycle id)

def display (content : Content) (timing : Timing) (s : GameState) (id : String) : List Directive :=
  match content.node? id with
  | none => [.error (ContentFault.missingNode id).message]
  | some node =>
    let text := Wording.nodeText s content.cast node.text node.speaker
    match node.kind with
    | .narrative _ => [.clearChoices, .displayText text .body, .continueAvailable true]
    | .choice choices =>
      [.clearChoices, .displayText text .body, .delay timing.choice,
        .presentChoices (ChoiceItem.numbered (choices.map (·.text)))]
    | .ending =>
      [.clearChoices, .endingCue, .delay timing.endingCue,
        .displayText (Wording.endingText s node.text) .ending, .delay timing.ending,
        .presentChoices (ChoiceItem.numbered [Interpreter.playAgain])]
    | .branch _ => [.error (ContentFault.branchCycle id).message]

end Content

/-- The state after some nodes were entered one after the other: it is at the last of them, on the
last day and in the last episode that one of them begins. -/
def GameState.through (s : GameState) (nodes : List (String × Node)) : GameState :=
  { s with
    currentNode := (nodes.map Prod.fst).getLastD s.currentNode
    day := (nodes.filterMap (·.2.day)).getLastD s.day
    episode := (nodes.filterMap (·.2.episode)).getLastD s.episode }

namespace Content

def headers (content : Content) (s : GameState) (nodes : List (String × Node)) : List Header :=
  (List.range nodes.length).map fun i => content.header (s.through (nodes.take (i + 1)))

/-- What is shown of the trail from an id: a header for each node, and then the end of it. -/
def shown (content : Content) (timing : Timing) (s : GameState) (id : String) (hops : Nat) :
    List Directive :=
  (content.headers s (content.entered (content.trail s id hops))).map .updateHeader
    ++ content.display timing s ((content.trail s id hops).getLastD id)

end Content

theorem GameState.through_cons (s : GameState) (id : String) (node : Node)
    (rest : List (String × Node)) :
    s.through ((id, node) :: rest) = (s.entering id node).through rest := by
  unfold through entering
  simp only [List.map_cons, List.filterMap_cons, List.getLastD_cons]
  cases node.day <;> cases node.episode <;> simp only [List.getLastD_cons, Option.getD]

theorem Condition.next_eq (c : Condition) (s : GameState) :
    c.next s = match c.holds s with
      | .ok true => c.ifTrue
      | _ => c.ifFalse := by
  unfold next target
  cases c.holds s with
  | error e => rfl
  | ok b => cases b <;> rfl

namespace Content

variable {content : Content} {s : GameState} {id : String} {node : Node}

theorem successor?_branch {condition : Condition} (found : content.node? id = some node)
    (kind : node.kind = .branch condition) :
    content.successor? s id = some (condition.next s) := by
  unfold successor?
  rw [found, condition.next_eq]
  simp only [Option.map_some, kind]

theorem successor?_missing (missing : content.node? id = none) :
    content.successor? s id = none := by
  unfold successor?
  rw [missing]
  rfl

theorem successor?_stop (found : content.node? id = some node)
    (stops : node.kind.isBranch = false) : content.successor? s id = none := by
  unfold successor?
  rw [found]
  cases kind : node.kind with
  | branch condition =>
    rw [kind] at stops
    cases stops
  | _ => simp only [Option.map_some, kind]

theorem successor?_entering (here : String) :
    content.successor? (s.entering id node) here = content.successor? s here := rfl

theorem trail_entering (here : String) (hops : Nat) :
    content.trail (s.entering id node) here hops = content.trail s here hops := by
  induction hops generalizing here with
  | zero => rfl
  | succ hops ih =>
    unfold trail
    rw [successor?_entering]
    cases content.successor? s here with
    | none => rfl
    | some next => exact congrArg (here :: ·) (ih next)

theorem trail_stops (ends : content.successor? s id = none) (hops : Nat) :
    content.trail s id hops = [id] := by
  cases hops with
  | zero => rfl
  | succ hops =>
    unfold trail
    rw [ends]

theorem trail_single (found : content.node? id = some node)
    (stops : node.kind.isBranch = false) (hops : Nat) :
    content.trail s id hops = [id] := trail_stops (successor?_stop found stops) hops

theorem trail_succ {next : String} (leads : content.successor? s id = some next) (hops : Nat) :
    content.trail s id (hops + 1) = id :: content.trail s next hops := by
  conv => lhs; unfold trail
  rw [leads]

theorem exists_trail (content : Content) (s : GameState) (id : String) (hops : Nat) :
    ∃ rest, content.trail s id hops = id :: rest := by
  cases hops with
  | zero => exact ⟨[], rfl⟩
  | succ hops => exact ⟨_, rfl⟩

theorem getLastD_trail_succ {next : String} (leads : content.successor? s id = some next)
    (hops : Nat) :
    (content.trail s id (hops + 1)).getLastD id = (content.trail s next hops).getLastD next := by
  obtain ⟨rest, starts⟩ := content.exists_trail s next hops
  rw [trail_succ leads, starts]
  simp only [List.getLastD_cons]

theorem isTrail_trail (content : Content) (s : GameState) (id : String) (hops : Nat) :
    content.IsTrail s hops id (content.trail s id hops) := by
  induction hops generalizing id with
  | zero => exact ⟨rfl, .singleton id, Nat.le_refl 1, .inr rfl⟩
  | succ hops ih =>
    cases leads : content.successor? s id with
    | none =>
      rw [trail_stops leads]
      exact ⟨rfl, .singleton id, Nat.le_add_left 1 _, .inl leads⟩
    | some next =>
      obtain ⟨_, chain, bound, ends⟩ := ih next
      rw [← getLastD_trail_succ leads] at ends
      rw [trail_succ leads] at ends ⊢
      refine ⟨rfl, ?_, Nat.succ_le_succ bound, ends.imp_right (congrArg (· + 1))⟩
      obtain ⟨rest, starts⟩ := content.exists_trail s next hops
      rw [starts] at chain ⊢
      exact .cons_cons leads chain

theorem entered_cons (found : content.node? id = some node) (rest : List String) :
    content.entered (id :: rest) = (id, node) :: content.entered rest := by
  unfold entered
  rw [List.filterMap_cons, found]
  rfl

theorem entered_missing (missing : content.node? id = none) : content.entered [id] = [] := by
  unfold entered
  rw [List.filterMap_cons, missing]
  rfl

theorem through_single (found : content.node? id = some node) {hops : Nat}
    (single : content.trail s id hops = [id]) :
    (s.through (content.entered (content.trail s id hops)),
      content.stopAt ((content.trail s id hops).getLastD id)) =
        (s.entering id node, content.stopAt id) := by
  rw [single, entered_cons found, GameState.through_cons]
  rfl

/-- A way through the story is its trail: the state goes through the nodes that are entered, and the
last id tells how the way ends. -/
theorem walk_eq_trail (content : Content) (s : GameState) (id : String) (hops : Nat) :
    content.walk s id hops = (s.through (content.entered (content.trail s id hops)),
      content.stopAt ((content.trail s id hops).getLastD id)) := by
  fun_induction walk content s id hops with
  | case1 hops s id missing =>
    rw [trail_stops (successor?_missing missing), entered_missing missing]
    unfold stopAt
    simp only [List.getLastD_cons, List.getLastD_nil, missing]
    rfl
  | case2 hops s id node found next kind =>
    rw [through_single found (trail_single found (by rw [kind]; rfl) _)]
    unfold stopAt
    simp only [found, kind]
  | case3 hops s id node found choices kind =>
    rw [through_single found (trail_single found (by rw [kind]; rfl) _)]
    unfold stopAt
    simp only [found, kind]
  | case4 hops s id node found kind =>
    rw [through_single found (trail_single found (by rw [kind]; rfl) _)]
    unfold stopAt
    simp only [found, kind]
  | case5 s id node found condition kind =>
    rw [through_single found rfl]
    unfold stopAt
    simp only [found, kind]
  | case6 s id node found condition kind hops ih =>
    have leads := successor?_branch (s := s) found kind
    rw [getLastD_trail_succ leads, trail_succ leads, entered_cons found, GameState.through_cons]
    rw [trail_entering] at ih
    exact ih

end Content
end Storyline
