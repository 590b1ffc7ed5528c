import Storyline.Proofs.Play.Course
import Storyline.Proofs.Validation.Playable

/-!
What is written into the journal. It only ever grows, and that a bound is missing is written only of
branches that have none.
-/

namespace Storyline

/-- Whether there is a reason in the content for a note. -/
def Note.Warranted (content : Content) : Note → Prop
  | .boundMissing id _ => ∃ node condition, content.node? id = some node ∧
      node.kind = .branch condition ∧ ¬condition.Bounded
  | _ => True

namespace Interpreter

variable {σ : Type}

/-- The same story with more in the journal, all of it for a reason. -/
structure Grows (it it' : Interpreter σ) : Prop where
  content : it'.content = it.content
  journal : ∃ notes, it'.journal = notes ++ it.journal ∧ ∀ n ∈ notes, n.Warranted it.content

namespace Grows

variable {before it it' : Interpreter σ}

theorem still (content : it'.content = it.content) (journal : it'.journal = it.journal) :
    Grows it it' :=
  ⟨content, [], journal, fun _ absent => (List.not_mem_nil absent).elim⟩

theorem trans (first : Grows before it) (second : Grows it it') : Grows before it' := by
  obtain ⟨content, notes, journal, reasons⟩ := first
  obtain ⟨content', notes', journal', reasons'⟩ := second
  refine ⟨content'.trans content, notes' ++ notes, ?_, ?_⟩
  · rw [journal', journal, List.append_assoc]
  · intro n member
    rcases List.mem_append.mp member with new | old
    · exact content ▸ reasons' n new
    · exact reasons n old

theorem note (h : Grows before it) {n : Note} (reason : n.Warranted before.content) :
    Grows before (it.note n) := by
  refine h.trans ⟨rfl, [n], rfl, ?_⟩
  intro other member
  cases List.mem_singleton.mp member
  exact h.content ▸ reason

theorem suspend (h : Grows before it) (pending : Pending) : Grows before (it.suspend pending) :=
  h.trans (still rfl rfl)

theorem noteFailure {α : Type} (h : Grows before it) (operation : SaveOperation)
    (result : Except SaveError α) : Grows before (it.noteFailure operation result) := by
  cases result with
  | ok value => exact h
  | error e => exact h.note (n := .saveFailed operation e) trivial

theorem fault (h : Grows before it) (f : ContentFault) : Grows before (it.fault f).2 :=
  (h.note (n := .contentFault f) trivial).suspend .halted

theorem withSaves (h : Grows before it) (saves : Saves σ) : Grows before { it with saves := saves } :=
  h.trans (still rfl rfl)

theorem withState (h : Grows before it) (state : GameState) : Grows before { it with state := state } :=
  h.trans (still rfl rfl)

/-- A branch that is routed without a bound has none. -/
theorem route (h : Grows before it) {id : String} {node : Node} {condition : Condition}
    (found : before.content.node? id = some node) (kind : node.kind = .branch condition) :
    Grows before (it.route id condition).2 := by
  unfold Interpreter.route
  cases leads : condition.target it.state with
  | ok target => exact h.note (n := .routed target) trivial
  | error e =>
    have unbounded : ¬condition.Bounded := by
      intro bounded
      obtain ⟨target, reached, _⟩ := bounded.target it.state
      rw [leads] at reached
      cases reached
    have reason : (Note.boundMissing id e.message).Warranted before.content :=
      ⟨node, condition, found, kind, unbounded⟩
    exact (h.note reason).note (n := .routed condition.ifFalse) trivial

theorem startNewGame (h : Grows before it) : Grows before it.startNewGame.2 :=
  ((h.withState (freshState it.content)).note (n := .newGame _) trivial).suspend .playerName

theorem noteLoad (h : Grows before it) (slot : UInt8)
    (result : Option (Except SaveError (Option SaveRecord))) :
    Grows before (it.noteLoad slot result) := by
  cases result with
  | none => exact h.note (n := .noSlotToLoad slot) trivial
  | some result => exact h.noteFailure .load result

variable [Store σ]

theorem autoSave (h : Grows before it) : Grows before it.autoSave :=
  (h.withSaves (it.saves.autoSave it.state).2).noteFailure .autosave _

theorem clearAutosave (h : Grows before it) : Grows before it.clearAutosave :=
  (h.withSaves it.saves.clearAutosave.2).noteFailure .clearAutosave _

theorem loadAutosave (h : Grows before it) : Grows before it.loadAutosave.2 :=
  (h.withSaves it.saves.loadAutosave.2).noteFailure .loadAutosave _

theorem arrive (h : Grows before it) (id : String) (node : Node) :
    Grows before (it.arrive id node) := by
  have moved := (h.note (n := .entered node.kind.name id) trivial).withState
    (it.state.entering id node)
  unfold Interpreter.arrive
  cases node.isCheckpoint with
  | true => exact moved.autoSave
  | false => exact moved

theorem enter (h : Grows before it) (id : String) (hops : Nat) :
    Grows before (it.enter id hops).2 := by
  fun_induction Interpreter.enter it id hops with
  | case1 hops it id missing => exact h.fault _
  | case2 hops it id node found at_node header next kind shown it' shows =>
    cases shows
    exact (h.arrive id node).suspend _
  | case3 hops it id node found at_node header choices kind shown it' shows =>
    cases shows
    exact (h.arrive id node).suspend _
  | case4 hops it id node found at_node header kind shown it' shows =>
    cases shows
    exact ((h.arrive id node).clearAutosave.note (n := .ended _) trivial).suspend .restart
  | case5 it id node found at_node header condition kind shown it' shows =>
    cases shows
    exact (h.arrive id node).fault _
  | case6 it id node found at_node header condition kind hops target it' routed shown it'' shows ih =>
    have here : before.content.node? id = some node := h.content ▸ found
    have there := (h.arrive id node).route here kind
    rw [show (it.arrive id node).route id condition = (target, it') from routed] at there
    have beyond := ih there
    rw [shows] at beyond
    exact beyond

theorem goToAfter (h : Grows before it) (first : List Directive) (id : String) :
    Grows before (it.goToAfter first id).2 := h.enter id it.config.hopLimit

theorem resumeGame (h : Grows before it) (game : SaveRecord) :
    Grows before (it.resumeGame game).2 :=
  ((h.withState game.state).note (n := .gameLoaded game.timestamp game.state.currentNode)
    trivial).goToAfter _ _

theorem boot (h : Grows before it) : Grows before it.boot.2 := by
  have loaded := h.loadAutosave
  unfold Interpreter.boot
  cases looked : it.loadAutosave with
  | mk game it' =>
    rw [looked] at loaded
    cases game with
    | some game => exact loaded.suspend .savedGame
    | none => exact loaded.startNewGame

theorem continueSavedGame (h : Grows before it) : Grows before it.continueSavedGame.2 := by
  have loaded := h.loadAutosave
  unfold Interpreter.continueSavedGame
  cases looked : it.loadAutosave with
  | mk game it' =>
    rw [looked] at loaded
    cases game with
    | some game => exact loaded.resumeGame game
    | none => exact (loaded.note (n := .autosaveGone) trivial).startNewGame

theorem advance (h : Grows before it) (next : Option String) :
    Grows before (it.advance next).2 := by
  cases next with
  | some next => exact h.goToAfter _ next
  | none => exact (h.note (n := .nothingNext it.state.currentNode) trivial).suspend .halted

theorem choose (h : Grows before it) (id : String) (index : Nat) :
    Grows before (it.choose id index).2 := by
  unfold Interpreter.choose
  cases option? it.content id index with
  | none => exact h.fault _
  | some c =>
    have chosen := (h.note (n := .chosen id index c.text) trivial).withState (c.outcome it.state)
    simp only
    cases c.next with
    | some next => exact chosen.goToAfter _ next
    | none => exact chosen.suspend .halted

theorem takeName (h : Grows before it) {name : String} {result : List Directive × Interpreter σ}
    (taken : it.takeName name = .ok result) : Grows before result.2 := by
  unfold Interpreter.takeName at taken
  -- The table of capitals is of no concern here.
  generalize Text.uppercase (Text.trim name) = capitals at taken
  by_cases empty : capitals.isEmpty = true
  · simp only [if_pos empty] at taken
    cases taken
  · simp only [if_neg empty] at taken
    cases taken
    exact ((h.withState { it.state with playerName := capitals }).note
      (n := .playerNamed capitals) trivial).goToAfter _ _

theorem resume (h : Grows before it) {event : Event} {result : List Directive × Interpreter σ}
    (taken : it.resume event = .ok result) : Grows before result.2 := by
  unfold Interpreter.resume at taken
  split at taken
  · exact h.takeName taken
  · cases taken
    exact h.advance _
  · split at taken
    · cases taken
      exact h.choose _ _
    · cases taken
  · split at taken
    · cases taken
      exact h.continueSavedGame
    · split at taken
      · cases taken
        exact h.startNewGame
      · cases taken
  · split at taken
    · cases taken
      exact h.startNewGame
    · cases taken
  · cases taken

theorem respond (h : Grows before it) (event : Event) : Grows before (it.respond event).2 := by
  unfold Interpreter.respond
  cases heard : it.resume event with
  | ok result => exact h.resume heard
  | error reason => exact h

theorem saveTo (h : Grows before it) (slot : UInt8) : Grows before (it.saveTo slot).2 := by
  unfold Interpreter.saveTo
  rcases it.saves.saveTo slot it.state with ⟨result, saves⟩
  have tried := h.withSaves saves
  cases result with
  | none => exact tried.note (n := .noSlotToSave slot) trivial
  | some result =>
    cases result with
    | error e => exact tried.note (n := .saveFailed .save e) trivial
    | ok done => exact tried.note (n := .savedTo slot) trivial

theorem load (h : Grows before it) (slot : UInt8) : Grows before (it.act (.load slot)).2 := by
  have looked := (h.withSaves (it.saves.loadFrom slot).2).noteLoad slot (it.saves.loadFrom slot).1
  unfold Interpreter.act loadFrom
  cases found : Saves.game? (it.saves.loadFrom slot).1 with
  | none =>
    simp only [found]
    exact looked
  | some game =>
    simp only [found]
    exact looked.resumeGame game

end Grows

variable [Store σ]

/-- Every action writes only what there is a reason for. -/
theorem act_grows (it : Interpreter σ) (action : Action) : Grows it (it.act action).2 := by
  have start : Grows it it := .still rfl rfl
  cases action with
  | boot => exact start.boot
  | newGame => exact start.startNewGame
  | restart => exact start.clearAutosave.startNewGame
  | resume event => exact start.respond event
  | process id => exact start.enter id _
  | save slot => exact start.saveTo slot
  | load slot => exact start.load slot

end Interpreter
end Storyline
