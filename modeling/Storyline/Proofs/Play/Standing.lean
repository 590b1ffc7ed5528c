import Storyline.Proofs.Play.Course

/-!
Where a game stands. A game that waits at a node for the player would not be moved by entering that
node again: day and episode are already those of the node, and what is pending is what the node
asks for.
-/

namespace Storyline

theorem GameState.entering_entering (s : GameState) (id : String) (node : Node) :
    (s.entering id node).entering id node = s.entering id node := by
  unfold entering
  cases node.day <;> cases node.episode <;> rfl

/-- Whether a node asks for that. -/
def Checkpoint.AskedBy (id : String) (node : Node) : Checkpoint → Prop
  | narrative next => node.kind = .narrative next
  | choice id' count => id' = id ∧ ∃ choices, node.kind = .choice choices ∧ choices.length = count

namespace Content

/-- The way from the node of the state ends at once, where the state is. -/
def Rests (content : Content) (s : GameState) (stop : Stop) : Prop :=
  ∀ hops, content.walk s s.currentNode hops = (s, stop)

/-- Every way that is not lost ends where the game can rest. -/
theorem rests_walk (content : Content) (s : GameState) (id : String) (hops : Nat)
    (arrives : (content.walk s id hops).2.fault = none) :
    content.Rests (content.walk s id hops).1 (content.walk s id hops).2 := by
  fun_induction walk content s id hops with
  | case1 hops s id missing => cases arrives
  | case2 hops s id node found next kind =>
    intro hops'
    have here : content.node? (s.entering id node).currentNode = some node := found
    unfold walk
    rw [here]
    simp only [kind]
    exact congrArg (·, Stop.checkpoint (.narrative next)) (s.entering_entering id node)
  | case3 hops s id node found choices kind =>
    intro hops'
    have here : content.node? (s.entering id node).currentNode = some node := found
    unfold walk
    rw [here]
    simp only [kind]
    exact congrArg (·, Stop.checkpoint (.choice id choices.length)) (s.entering_entering id node)
  | case4 hops s id node found kind =>
    intro hops'
    have here : content.node? (s.entering id node).currentNode = some node := found
    unfold walk
    rw [here]
    simp only [kind]
    exact congrArg (·, Stop.ended) (s.entering_entering id node)
  | case5 s id node found condition kind => cases arrives
  | case6 s id node found condition kind hops ih => exact ih arrives

theorem Rests.checkpoint {content : Content} {s : GameState} {c : Checkpoint}
    (rests : content.Rests s (.checkpoint c)) :
    ∃ node, content.node? s.currentNode = some node ∧ c.AskedBy s.currentNode node := by
  have here := rests 0
  unfold walk at here
  cases found : content.node? s.currentNode with
  | none =>
    rw [found] at here
    cases congrArg Prod.snd here
  | some node =>
    rw [found] at here
    refine ⟨node, rfl, ?_⟩
    cases kind : node.kind with
    | narrative next =>
      simp only [kind] at here
      cases congrArg Prod.snd here
      exact kind
    | choice choices =>
      simp only [kind] at here
      cases congrArg Prod.snd here
      exact ⟨rfl, choices, kind, rfl⟩
    | ending =>
      simp only [kind] at here
      cases congrArg Prod.snd here
    | branch condition =>
      simp only [kind] at here
      cases congrArg Prod.snd here

theorem Rests.ended {content : Content} {s : GameState} (rests : content.Rests s .ended) :
    ∃ node, content.node? s.currentNode = some node ∧ node.kind = .ending := by
  have here := rests 0
  unfold walk at here
  cases found : content.node? s.currentNode with
  | none =>
    rw [found] at here
    cases congrArg Prod.snd here
  | some node =>
    rw [found] at here
    refine ⟨node, rfl, ?_⟩
    cases kind : node.kind with
    | ending => rfl
    | _ =>
      simp only [kind] at here
      cases congrArg Prod.snd here

end Content

namespace Pending

def AtCheckpoint : Pending → Prop
  | advance _ | choice .. => True
  | _ => False

/-- Whether the game is at a node and waits there for the player. -/
def AtNode : Pending → Prop
  | advance _ | choice .. | restart => True
  | _ => False

theorem AtCheckpoint.atNode {p : Pending} (h : p.AtCheckpoint) : p.AtNode := by
  cases p with
  | advance next => trivial
  | choice id count => trivial
  | _ => exact h.elim

theorem AtNode.ne_savedGame {p : Pending} (h : p.AtNode) : p ≠ .savedGame := by
  rintro rfl
  exact h

end Pending

namespace Wait

def AtCheckpoint : Wait → Prop
  | advance | choice _ => True
  | _ => False

def AtNode : Wait → Prop
  | advance | choice _ | restart => True
  | _ => False

end Wait

theorem Pending.atCheckpoint_wait {p : Pending} (h : p.wait.AtCheckpoint) : p.AtCheckpoint := by
  cases p with
  | advance next => trivial
  | choice id count => trivial
  | _ => exact h.elim

theorem Pending.atNode_wait {p : Pending} (h : p.wait.AtNode) : p.AtNode := by
  cases p with
  | advance next => trivial
  | choice id count => trivial
  | restart => trivial
  | _ => exact h.elim

theorem Pending.restart_of_wait {p : Pending} (h : p.wait = .restart) : p = .restart := by
  cases p with
  | restart => rfl
  | _ => cases h

theorem Pending.choice_of_wait {p : Pending} {count : Nat} (h : p.wait = .choice count) :
    ∃ id, p = .choice id count := by
  cases p with
  | choice id count' =>
    cases h
    exact ⟨id, rfl⟩
  | _ => cases h

theorem Stop.checkpoint_of_pending {stop : Stop} (h : stop.pending.AtCheckpoint) :
    ∃ c, stop = .checkpoint c := by
  cases stop with
  | checkpoint c => exact ⟨c, rfl⟩
  | ended => exact h.elim
  | lost fault => exact h.elim

theorem Checkpoint.pending_atCheckpoint (c : Checkpoint) : c.pending.AtCheckpoint := by
  cases c <;> trivial

theorem Checkpoint.pending_inj {a b : Checkpoint} (h : a.pending = b.pending) : a = b := by
  cases a <;> cases b <;> cases h <;> rfl

namespace Interpreter

variable {σ : Type}

/-- What is pending at a node is what that node asks for. -/
def Suspended (it : Interpreter σ) : Prop :=
  it.pending.AtNode → ∃ stop, stop.pending = it.pending ∧ it.content.Rests it.state stop

theorem suspended_new (content : Content) (config : Config) (store : σ) (now : UInt64) :
    (Interpreter.new content config store now).Suspended := fun waits => waits.elim

theorem Suspended.asked {it : Interpreter σ} (h : it.Suspended) {c : Checkpoint}
    (waits : it.pending = c.pending) : ∃ node,
      it.content.node? it.state.currentNode = some node ∧ c.AskedBy it.state.currentNode node := by
  have checkpoint : it.pending.AtCheckpoint := waits ▸ c.pending_atCheckpoint
  obtain ⟨stop, pending, rests⟩ := h checkpoint.atNode
  obtain ⟨c', rfl⟩ := Stop.checkpoint_of_pending (pending.symm ▸ checkpoint)
  cases Checkpoint.pending_inj (pending.trans waits)
  exact rests.checkpoint

theorem Suspended.ended {it : Interpreter σ} (h : it.Suspended) (waits : it.pending = .restart) :
    ∃ node, it.content.node? it.state.currentNode = some node ∧ node.kind = .ending := by
  obtain ⟨stop, pending, rests⟩ := h (waits ▸ trivial)
  rw [waits] at pending
  cases stop with
  | ended => exact rests.ended
  | checkpoint c => cases c <;> cases pending
  | lost fault => cases pending

theorem option?_choice {content : Content} {id : String} {node : Node} {choices : List Choice}
    (found : content.node? id = some node) (kind : node.kind = .choice choices) (index : Nat) :
    option? content id index = choices[index - 1]? := by
  unfold option?
  rw [found]
  simp only [Option.map_some, kind]

theorem Suspended.option {it : Interpreter σ} (h : it.Suspended) {id : String} {count index : Nat}
    (waits : it.pending = .choice id count) (fits : inRange index count = true) :
    1 ≤ index ∧ ∃ choice, option? it.content id index = some choice := by
  have pending : it.pending = (Checkpoint.choice id count).pending := waits
  obtain ⟨node, found, rfl, choices, kind, rfl⟩ := h.asked pending
  obtain ⟨first, last⟩ := (inRange_iff index choices.length).mp fits
  have bound : index - 1 < choices.length := by omega
  exact ⟨first, choices[index - 1],
    (option?_choice found kind index).trans (List.getElem?_eq_getElem bound)⟩

/-- Only where a game stays or goes to a node can it wait at one. -/
theorem course_of_waits {it : Interpreter σ} {course : Course}
    (waits : (it.land course).pending.AtNode) :
    course = .stays ∨ ∃ s id, course = .goes s id := by
  cases course with
  | stays => exact .inl rfl
  | goes s id => exact .inr ⟨s, id, rfl⟩
  | _ => exact waits.elim

theorem goes_arrives (it : Interpreter σ) {s : GameState} {id : String}
    (waits : (it.land (.goes s id)).pending.AtNode) :
    (it.content.walk s id it.config.hopLimit).2.fault = none := by
  cases ends : (it.content.walk s id it.config.hopLimit).2 with
  | checkpoint pending => rfl
  | ended => rfl
  | lost fault =>
    have halted : (it.land (.goes s id)).pending = .halted := congrArg Stop.pending ends
    rw [halted] at waits
    exact waits.elim

theorem rests_goes (it : Interpreter σ) {s : GameState} {id : String}
    (waits : (it.land (.goes s id)).pending.AtNode) :
    ∃ stop, stop.pending = (it.land (.goes s id)).pending ∧
      it.content.Rests (it.land (.goes s id)).state stop :=
  ⟨_, rfl, it.content.rests_walk s id it.config.hopLimit (it.goes_arrives waits)⟩

theorem land_course {it : Interpreter σ} {game : SaveRecord} {stop : Stop}
    (rests : it.content.Rests game.state stop) :
    it.land game.course = ⟨game.state, stop.pending, some stop⟩ := by
  simp only [SaveRecord.course, land, rests it.config.hopLimit]

variable [Store σ]

/-- No action leaves a node without what is pending there. -/
theorem Suspended.act {it : Interpreter σ} (h : it.Suspended) (action : Action) :
    (it.act action).2.Suspended := by
  intro waits
  obtain ⟨_, lands⟩ := it.act_comes action
  rw [lands.pending] at waits ⊢
  rw [lands.content, lands.state]
  unfold landing at waits ⊢
  rcases course_of_waits waits with stays | ⟨s, id, goes⟩
  · rw [stays] at waits ⊢
    exact h waits
  · rw [goes] at waits ⊢
    exact it.rests_goes waits

end Interpreter
end Storyline
