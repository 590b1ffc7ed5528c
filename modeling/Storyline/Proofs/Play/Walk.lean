import Storyline.Proofs.Play.Runs

/-!
The way of a game through a story, without anything shown or saved: from a node over branches to
the node at which it comes to rest. Entering a node goes this way, and touches the saves only at
its end.
-/

namespace Storyline

/-- A node at which a game waits on the way. -/
inductive Checkpoint
  | narrative (next : Option String)
  | choice (id : String) (count : Nat)

def Checkpoint.pending : Checkpoint → Pending
  | narrative next => .advance next
  | choice id count => .choice id count

inductive Stop
  | checkpoint (c : Checkpoint)
  | ended
  | lost (fault : ContentFault)

namespace Stop

def pending : Stop → Pending
  | checkpoint c => c.pending
  | ended => .restart
  | lost _ => .halted

def fault : Stop → Option ContentFault
  | lost fault => some fault
  | _ => none

/-- What is done to the autosave at the end of the way. -/
def settle {σ : Type} [Store σ] (stop : Stop) (s : GameState) (saves : Saves σ) : Saves σ :=
  match stop with
  | checkpoint _ => (saves.autoSave s).2
  | ended => saves.clearAutosave.2
  | lost _ => saves

end Stop

def GameState.entering (s : GameState) (id : String) (node : Node) : GameState :=
  { s with
    currentNode := id
    day := node.day.getD s.day
    episode := node.episode.getD s.episode }

def Condition.next (c : Condition) (s : GameState) : String :=
  match c.target s with
  | .ok target => target
  | .error _ => c.ifFalse

/-- The state at the end of the way from a node, and how the way ends. -/
def Content.walk (content : Content) (s : GameState) (id : String) (hops : Nat) : GameState × Stop :=
  match content.node? id with
  | none => (s, .lost (.missingNode id))
  | some node =>
    match node.kind with
    | .narrative next => (s.entering id node, .checkpoint (.narrative next))
    | .choice choices => (s.entering id node, .checkpoint (.choice id choices.length))
    | .ending => (s.entering id node, .ended)
    | .branch condition =>
      match hops with
      | 0 => (s.entering id node, .lost (.branchCycle id))
      | hops + 1 =>
        content.walk (s.entering id node) (condition.next (s.entering id node)) hops

theorem Content.walk_keeps {content : Content} {P : GameState → Prop}
    (entered : ∀ s id node, content.node? id = some node → P s → P (s.entering id node))
    {s : GameState} (h : P s) (id : String) (hops : Nat) : P (content.walk s id hops).1 := by
  fun_induction walk content s id hops with
  | case1 => exact h
  | case2 hops s id node found | case3 hops s id node found | case4 hops s id node found =>
    exact entered s id node found h
  | case5 s id node found => exact entered s id node found h
  | case6 s id node found condition kind hops ih => exact ih (entered s id node found h)

def errorsIn (directives : List Directive) : List String :=
  directives.filterMap fun
    | .error message => some message
    | _ => none

theorem errorsIn_append (left right : List Directive) :
    errorsIn (left ++ right) = errorsIn left ++ errorsIn right := List.filterMap_append

def ContentFault.messages (fault : Option ContentFault) : List String :=
  (fault.map message).toList

namespace Interpreter

variable {σ : Type}

/-- The same game with other saves, in another state, waiting for something else. What was written
into the journal on the way does not matter. -/
structure Lands (it : Interpreter σ) (saves : Saves σ) (state : GameState) (pending : Pending)
    (it' : Interpreter σ) : Prop where
  content : it'.content = it.content
  config : it'.config = it.config
  saves : it'.saves = saves
  state : it'.state = state
  pending : it'.pending = pending

theorem noteFailure_fields {α : Type} (it : Interpreter σ) (operation : SaveOperation)
    (result : Except SaveError α) :
    Lands it it.saves it.state it.pending (it.noteFailure operation result) := by
  cases result <;> exact ⟨rfl, rfl, rfl, rfl, rfl⟩

theorem route_next (it : Interpreter σ) (id : String) (condition : Condition) :
    (it.route id condition).1 = condition.next it.state ∧
      Lands it it.saves it.state it.pending (it.route id condition).2 := by
  unfold route Condition.next
  cases condition.target it.state with
  | ok target => exact ⟨rfl, rfl, rfl, rfl, rfl, rfl⟩
  | error e => exact ⟨rfl, rfl, rfl, rfl, rfl, rfl⟩

variable [Store σ]

theorem autoSave_fields (it : Interpreter σ) :
    Lands it (it.saves.autoSave it.state).2 it.state it.pending it.autoSave := by
  unfold autoSave
  obtain ⟨content, config, saves, state, pending⟩ := noteFailure_fields
    { it with saves := (it.saves.autoSave it.state).2 } .autosave (it.saves.autoSave it.state).1
  exact ⟨content, config, saves, state, pending⟩

theorem clearAutosave_fields (it : Interpreter σ) :
    Lands it it.saves.clearAutosave.2 it.state it.pending it.clearAutosave := by
  unfold clearAutosave
  obtain ⟨content, config, saves, state, pending⟩ := noteFailure_fields
    { it with saves := it.saves.clearAutosave.2 } .clearAutosave it.saves.clearAutosave.1
  exact ⟨content, config, saves, state, pending⟩

theorem arrive_checkpoint (it : Interpreter σ) (id : String) {node : Node}
    (stops : node.isCheckpoint = true) :
    Lands it (it.saves.autoSave (it.state.entering id node)).2 (it.state.entering id node)
      it.pending (it.arrive id node) := by
  unfold arrive
  rw [if_pos stops]
  obtain ⟨content, config, saves, state, pending⟩ :=
    autoSave_fields ((it.note (.entered node.kind.name id)).moveTo id node)
  exact ⟨content, config, saves, state, pending⟩

theorem arrive_passing (it : Interpreter σ) (id : String) {node : Node}
    (passes : node.isCheckpoint = false) :
    Lands it it.saves (it.state.entering id node) it.pending (it.arrive id node) := by
  unfold arrive
  rw [passes]
  exact ⟨rfl, rfl, rfl, rfl, rfl⟩

/-- The way that was gone, with its errors shown and the autosave settled at its end. -/
structure Arrives (it : Interpreter σ) (way : GameState × Stop)
    (result : List Directive × Interpreter σ) : Prop where
  errors : errorsIn result.1 = ContentFault.messages way.2.fault
  lands : Lands it (way.2.settle way.1 it.saves) way.1 way.2.pending result.2

theorem enter_arrives (it : Interpreter σ) (id : String) (hops : Nat) :
    Arrives it (it.content.walk it.state id hops) (it.enter id hops) := by
  fun_induction enter it id hops with
  | case1 hops it id missing =>
    unfold Content.walk
    rw [missing]
    exact ⟨rfl, rfl, rfl, rfl, rfl, rfl⟩
  | case2 hops it id node found at_node header next kind shown it' shows =>
    unfold Content.walk
    rw [found]
    simp only [kind]
    cases shows
    have stops : node.isCheckpoint = true := by simp only [Node.isCheckpoint, kind]
    obtain ⟨content, config, saves, state, _⟩ := it.arrive_checkpoint id stops
    exact ⟨rfl, content, config, saves, state, rfl⟩
  | case3 hops it id node found at_node header choices kind shown it' shows =>
    unfold Content.walk
    rw [found]
    simp only [kind]
    cases shows
    have stops : node.isCheckpoint = true := by simp only [Node.isCheckpoint, kind]
    obtain ⟨content, config, saves, state, _⟩ := it.arrive_checkpoint id stops
    refine ⟨rfl, content, config, saves, state, ?_⟩
    exact congrArg (fun s => Pending.choice s choices.length) (congrArg GameState.currentNode state)
  | case4 hops it id node found at_node header kind shown it' shows =>
    unfold Content.walk
    rw [found]
    simp only [kind]
    cases shows
    have passes : node.isCheckpoint = false := by simp only [Node.isCheckpoint, kind]
    have here : Lands it it.saves (it.state.entering id node) it.pending at_node :=
      it.arrive_passing id passes
    obtain ⟨content, config, saves, state, _⟩ := at_node.clearAutosave_fields
    refine ⟨rfl, content.trans here.content, config.trans here.config, saves.trans ?_,
      state.trans here.state, rfl⟩
    exact congrArg (fun saves => saves.clearAutosave.2) here.saves
  | case5 it id node found at_node header condition kind shown it' shows =>
    unfold Content.walk
    rw [found]
    simp only [kind]
    cases shows
    have passes : node.isCheckpoint = false := by simp only [Node.isCheckpoint, kind]
    have here : Lands it it.saves (it.state.entering id node) it.pending at_node :=
      it.arrive_passing id passes
    exact ⟨rfl, here.content, here.config, here.saves, here.state, rfl⟩
  | case6 it id node found at_node header condition kind hops target it' routed shown it'' shows ih =>
    have passes : node.isCheckpoint = false := by simp only [Node.isCheckpoint, kind]
    have here : Lands it it.saves (it.state.entering id node) it.pending at_node :=
      it.arrive_passing id passes
    obtain ⟨leads, there⟩ := at_node.route_next id condition
    rw [routed] at leads there
    have leads : target = condition.next (it.state.entering id node) := leads.trans (by rw [here.state])
    have way : it.content.walk it.state id (hops + 1) = it'.content.walk it'.state target hops := by
      rw [Content.walk, found]
      simp only [kind]
      rw [there.content, there.state, here.content, here.state, leads]
    rw [way]
    rw [shows] at ih
    obtain ⟨errors, content, config, saves, state, pending⟩ := ih
    refine ⟨errors, content.trans (there.content.trans here.content),
      config.trans (there.config.trans here.config), saves.trans ?_, state, pending⟩
    rw [there.saves, here.saves]

end Interpreter
end Storyline
