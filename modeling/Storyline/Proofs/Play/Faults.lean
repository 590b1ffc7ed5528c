import Storyline.Proofs.Play.Naming
import Storyline.Proofs.Play.Stranding
import Storyline.Proofs.Play.Suspension

/-!
The faults of the content that a game meets on its way. A node that does not exist is shown to the
player, and so is a branch after as many as may be followed; nothing else is. A branch that compares a
relationship with no bound is not shown: the way goes on as if its condition did not hold.
-/

namespace Storyline

namespace Content

variable {content : Content} {s : GameState} {id next : String} {fault : ContentFault}

def isBranch (content : Content) (id : String) : Bool :=
  (content.node? id).any fun node => node.kind.isBranch

/-- Whether a fault is met on a way over some ids, where no more than `hops` branches are followed. -/
def Meets (content : Content) (hops : Nat) (ids : List String) : ContentFault → Prop
  | .missingNode id => id ∈ ids ∧ content.hasNode id = false
  | .branchCycle id => hops < ids.countP content.isBranch ∧ ids.getLast? = some id
  | .missingChoice .. => False

/-- Whether a node is a branch that compares a relationship with nothing, and where it leads when its
condition does not hold. -/
def Unbounded (content : Content) (id ifFalse : String) : Prop :=
  ∃ node character ifTrue, content.node? id = some node ∧
    node.kind = .branch ⟨.relationship character none none, ifTrue, ifFalse⟩

theorem isBranch_eq (content : Content) (s : GameState) (id : String) :
    content.isBranch id = (content.successor? s id).isSome := by
  unfold isBranch
  cases found : content.node? id with
  | none =>
    rw [successor?_missing found]
    rfl
  | some node =>
    cases kind : node.kind with
    | branch condition =>
      rw [successor?_branch found kind, Option.any_some, kind]
      rfl
    | _ =>
      rw [successor?_stop found (by rw [kind]; rfl), Option.any_some, kind]
      rfl

theorem hasNode_of_isBranch (branch : content.isBranch id = true) : content.hasNode id = true := by
  unfold isBranch at branch
  cases found : content.node? id with
  | none =>
    rw [found] at branch
    cases branch
  | some node => exact hasNode_of_node found

theorem meets_single {hops : Nat} : content.Meets hops [id] fault ↔
    fault = .missingNode id ∧ content.hasNode id = false ∨
      fault = .branchCycle id ∧ hops = 0 ∧ content.isBranch id = true := by
  cases fault with
  | missingNode id' =>
    simp only [Meets, List.mem_singleton, ContentFault.missingNode.injEq, reduceCtorEq, false_and,
      or_false]
    exact and_congr_right fun same => same ▸ Iff.rfl
  | missingChoice index id' =>
    simp only [Meets, reduceCtorEq, false_and, or_false]
  | branchCycle id' =>
    have one : [id].countP content.isBranch = if content.isBranch id then 1 else 0 := by
      simp [List.countP_cons]
    simp only [Meets, List.getLast?_singleton, Option.some.injEq, reduceCtorEq, false_and, false_or,
      ContentFault.branchCycle.injEq, one]
    split
    · next branch => simp [branch, eq_comm, and_comm]
    · next other => simp [other]

theorem fault_stopAt : (content.stopAt id).fault = some fault ↔ content.Meets 0 [id] fault := by
  rw [meets_single]
  unfold stopAt isBranch hasNode Dict.contains
  have same : content.nodes.find? id = content.node? id := rfl
  rw [same]
  cases content.node? id with
  | none => simp [Stop.fault, eq_comm]
  | some node => cases kind : node.kind <;> simp [Stop.fault, NodeKind.isBranch, kind, eq_comm]

theorem meets_cons (branch : content.isBranch id = true) {hops : Nat} (rest : List String) :
    content.Meets (hops + 1) (id :: next :: rest) fault ↔ content.Meets hops (next :: rest) fault := by
  cases fault with
  | missingNode id' =>
    have there := hasNode_of_isBranch branch
    unfold Meets
    constructor
    · rintro ⟨member, missing⟩
      rcases List.mem_cons.mp member with rfl | later
      · exact absurd (there.symm.trans missing) nofun
      · exact ⟨later, missing⟩
    · exact fun ⟨later, missing⟩ => ⟨List.mem_cons_of_mem id later, missing⟩
  | missingChoice index id' => exact Iff.rfl
  | branchCycle id' =>
    unfold Meets
    rw [List.countP_cons_of_pos branch, Nat.add_lt_add_iff_right, List.getLast?_cons_cons]

theorem meets_trail (content : Content) (s : GameState) (id : String) (hops : Nat)
    (fault : ContentFault) : content.Meets hops (content.trail s id hops) fault ↔
      (content.stopAt ((content.trail s id hops).getLastD id)).fault = some fault := by
  induction hops generalizing id with
  | zero => exact fault_stopAt.symm
  | succ hops ih =>
    have branch := content.isBranch_eq s id
    cases leads : content.successor? s id with
    | none =>
      rw [leads, Option.isSome_none] at branch
      rw [trail_stops leads, List.getLastD_cons, List.getLastD_nil, fault_stopAt, meets_single,
        meets_single, branch]
      simp only [Bool.false_eq_true, and_false]
    | some next =>
      rw [leads, Option.isSome_some] at branch
      rw [getLastD_trail_succ leads, trail_succ leads, ← ih next]
      obtain ⟨rest, starts⟩ := content.exists_trail s next hops
      rw [starts]
      exact meets_cons branch rest

theorem unbounded_trail {start ifFalse : String} {hops : Nat}
    (unbounded : content.Unbounded id ifFalse)
    (follows : [id, next] <:+: content.trail s start hops) : next = ifFalse := by
  have pair := List.IsChain.infix (content.isTrail_trail s start hops).leads follows
  have leads : content.successor? s id = some next := (List.isChain_cons_cons.mp pair).1
  obtain ⟨node, character, ifTrue, found, kind⟩ := unbounded
  rw [successor?_branch found kind] at leads
  exact (Option.some.inj leads).symm

end Content

namespace Interpreter

variable {σ : Type} {it : Interpreter σ}

theorem meets_goes (it : Interpreter σ) (s : GameState) (id : String) (fault : ContentFault) :
    it.content.Meets it.config.hopLimit (it.content.trail s id it.config.hopLimit) fault ↔
      (it.land (.goes s id)).fault = some fault := by
  rw [fault_goes]
  exact it.content.meets_trail s id it.config.hopLimit fault

theorem halted_of_fault {course : Course} {fault : ContentFault}
    (found : (it.land course).fault = some fault) : (it.land course).pending = .halted := by
  obtain ⟨stop, stops, same⟩ := Option.bind_eq_some_iff.mp found
  cases stop with
  | lost => exact land_stop stops
  | checkpoint => cases same
  | ended => cases same

theorem fault_of_stays (options : ∀ id count index, it.pending = .choice id count →
      inRange index count = true → ∃ choice, option? it.content id index = some choice)
    {game : Option SaveRecord} {action : Action}
    (stays : ∀ s id, it.course game action ≠ .goes s id) :
    (it.land (it.course game action)).fault = none := by
  cases leads : it.course game action with
  | goes s id => exact absurd leads (stays s id)
  | halts s fault =>
    cases course_halts options leads
    rfl
  | _ => rfl

variable [Store σ]

theorem goes_shows {turn : Turn} {state : GameState} {id : String}
    (goes : it.course ((it.atTime turn.now).consult turn.action).1 turn.action = .goes state id) :
    let ids := it.content.trail state id it.config.hopLimit
    (∀ message, message ∈ (it.take turn).1.errors ↔
      ∃ fault, it.content.Meets it.config.hopLimit ids fault ∧ message = fault.message) ∧
    ∀ fault, it.content.Meets it.config.hopLimit ids fault →
      (it.take turn).1.errors = [fault.message] ∧ (it.take turn).2.wait = .halted := by
  intro ids
  obtain ⟨_, pending, errors⟩ := it.take_comes rfl goes
  have meets := it.meets_goes state id
  constructor
  · intro message
    rw [errors, ContentFault.mem_messages]
    exact exists_congr fun fault => and_congr_left fun _ => (meets fault).symm
  · intro fault met
    have found := (meets fault).mp met
    rw [errors, wait, pending, found, halted_of_fault found]
    exact ⟨rfl, rfl⟩

/-- What the player sees of the faults of the content, in any state of a game. Whatever leads on through
the story shows an error for each fault that is met on the way, and no other; there is at most one,
and the game halts there. A branch that compares a relationship with no bound is none: it leads where
its condition does not hold, and nothing tells of it. What does not lead on shows no error at all. -/
theorem shows_what_it_meets (content : Content) (config : Config) (store : σ) (start : UInt64)
    (turns : List Turn) (s : GameState) (turn : Turn) :
    let it := { (Interpreter.new content config store start).run turns with state := s }
    let course := it.course ((it.atTime turn.now).consult turn.action).1 turn.action
    let after := it.take turn
    (∀ state id, course = .goes state id →
      let ids := content.trail state id config.hopLimit
      (∀ message, message ∈ after.1.errors ↔
        ∃ fault, content.Meets config.hopLimit ids fault ∧ message = fault.message) ∧
      (∀ fault, content.Meets config.hopLimit ids fault →
        after.1.errors = [fault.message] ∧ after.2.wait = .halted) ∧
      ∀ branch next ifFalse, content.Unbounded branch ifFalse → [branch, next] <:+: ids →
        next = ifFalse) ∧
    ((∀ state id, course ≠ .goes state id) → after.1.errors = []) := by
  intro it
  have story : it.content = content := content_run _ turns
  have limit : it.config = config := config_run _ turns
  have options : ∀ id count index, it.pending = .choice id count → inRange index count = true →
      ∃ choice, option? it.content id index = some choice :=
    fun _ _ _ waits fits => ((suspended_run content config store start turns).option waits fits).2
  clear_value it
  subst story limit
  intro course after
  refine ⟨?_, ?_⟩
  · intro state id goes
    obtain ⟨shown, halted⟩ := goes_shows goes
    exact ⟨shown, halted, fun _ _ _ unbounded follows => Content.unbounded_trail unbounded follows⟩
  · intro stays
    obtain ⟨_, _, errors⟩ := it.take_comes rfl (rfl : it.course _ turn.action = course)
    rw [errors, fault_of_stays options stays]
    rfl

end Interpreter

/-- A game that has to be won, where it is not said by how much. -/
def Content.gate : Content where
  titles := .standard
  nodes := Dict.ofList [
    ("gate", .branch ⟨.relationship "ann" none none, "win", "lose"⟩),
    ("lose", .ending "Lost."),
    ("win", .ending "Won.")]
  cast := .standard
  template := { GameState.blank with currentNode := "gate" }

theorem Content.unbounded_gate : gate.Unbounded "gate" "lose" := ⟨_, "ann", "win", rfl, rfl⟩

namespace Interpreter

theorem shows_what_it_meets_gate :
    let it := Interpreter.new .gate .standard (MemoryStore.mk .empty) 0
    (it.take ⟨1, .process "gone"⟩).1.errors = [(ContentFault.missingNode "gone").message] ∧
      (it.take ⟨1, .process "gone"⟩).2.wait = .halted := by
  intro it
  obtain ⟨goes, _⟩ := shows_what_it_meets .gate .standard (MemoryStore.mk .empty) 0 [] it.state
    ⟨1, .process "gone"⟩
  obtain ⟨_, halts, _⟩ := goes it.state "gone" rfl
  exact halts (.missingNode "gone") ⟨by decide +kernel, by decide +kernel⟩

/-- A comparison without a bound on the way is passed over, and the story ends as if nothing were
wrong. -/
theorem gate_shows_nothing :
    let it := Interpreter.new .gate .standard (MemoryStore.mk .empty) 0
    Content.gate.Unbounded "gate" "lose" ∧
      Content.gate.trail it.state "gate" Config.standard.hopLimit = ["gate", "lose"] ∧
      (it.take ⟨1, .process "gate"⟩).1.errors = [] ∧
      (it.take ⟨1, .process "gate"⟩).2.wait = .restart := by
  intro it
  exact ⟨Content.unbounded_gate, by decide +kernel, by decide +kernel, by decide +kernel⟩

end Interpreter
end Storyline
