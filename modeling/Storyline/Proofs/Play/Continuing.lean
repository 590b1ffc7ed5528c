import Storyline.Proofs.Play.Choosing
import Storyline.Terminal.Script

/-!
The offer to go on. A renderer takes it up where a narrative is shown and drops it only where the
story is gone on with, so it is never missing while a narrative waits, and stays behind where one is
left in another way.
-/

namespace Storyline

/-- Whether a renderer offers to go on after a directive. -/
def Directive.offering (on : Bool) : Directive → Bool
  | continueAvailable now => now
  | _ => on

def offering (on : Bool) (directives : List Directive) : Bool :=
  directives.foldl Directive.offering on

theorem offering_append (on : Bool) (left right : List Directive) :
    offering on (left ++ right) = offering (offering on left) right := List.foldl_append

theorem offering_updates (on : Bool) (headers : List Header) :
    offering on (headers.map .updateHeader) = on := by
  induction headers with
  | nil => rfl
  | cons header headers ih => exact ih

def Terminal.View.after (view : View) (timing : Timing) (directives : List Directive) : View :=
  directives.foldl (fun view d => (directiveBeats timing view d).2) view

theorem Terminal.View.continueAvailable_after (view : View) (timing : Timing)
    (directives : List Directive) :
    (view.after timing directives).continueAvailable = offering view.continueAvailable directives := by
  induction directives generalizing view with
  | nil => rfl
  | cons d directives ih =>
    have first : (directiveBeats timing view d).2.continueAvailable =
        d.offering view.continueAvailable := by
      cases d with
      | updateHeader header =>
        simp only [directiveBeats, takeHeader]
        split <;> rfl
      | _ => rfl
    unfold offering
    rw [List.foldl_cons, ← first]
    exact ih _

namespace Content

theorem offering_display (content : Content) (timing : Timing) (s : GameState) (id : String)
    (on : Bool) : offering on (content.display timing s id) = true ↔
      (content.stopAt id).pending.wait = .advance ∨ on = true := by
  unfold display stopAt
  cases content.node? id with
  | none => exact ⟨.inr, fun h => h.resolve_left nofun⟩
  | some node =>
    simp only
    cases node.kind with
    | narrative next => exact ⟨fun _ => .inl rfl, fun _ => rfl⟩
    | choice choices => exact ⟨.inr, fun h => h.resolve_left nofun⟩
    | ending => exact ⟨.inr, fun h => h.resolve_left nofun⟩
    | branch condition => exact ⟨.inr, fun h => h.resolve_left nofun⟩

end Content

namespace Interpreter

variable {σ : Type}

def GoesOn (it : Interpreter σ) (action : Action) : Prop :=
  it.wait = .advance ∧ action = .resume .advance

theorem offering_intro (it : Interpreter σ) (on : Bool) : offering on it.intro = on := by
  unfold intro
  cases logo : it.content.titles.logo <;> simp only [logo] <;> rfl

theorem offering_reaction (c : Choice) (timing : Timing) (s : GameState) (on : Bool) :
    offering on (c.reaction timing s) = on := by
  unfold Choice.reaction
  cases c.response <;> cases c.next <;> rfl

theorem offering_game (it : Interpreter σ) (game : Option SaveRecord) (on : Bool) :
    offering on ((game.map it.resumption).getD it.intro) = on := by
  cases game with
  | none => exact it.offering_intro on
  | some game => rfl

theorem offering_preambleOf (it : Interpreter σ) (game : Option SaveRecord) (event : Event)
    (on : Bool) : offering on (it.preambleOf game event) = true ↔
      on = true ∧ ¬it.GoesOn (.resume event) := by
  have other {p : Pending} (waits : it.pending = p) (calm : p.wait ≠ .advance) :
      on = true ↔ on = true ∧ ¬it.GoesOn (.resume event) := by
    refine ⟨fun shown => ⟨shown, fun goes => calm ?_⟩, And.left⟩
    rw [← waits]
    exact goes.1
  unfold preambleOf
  cases waits : it.pending with
  | advance next =>
    have advances : it.wait = .advance := congrArg Pending.wait waits
    cases event with
    | advance => exact ⟨nofun, fun h => absurd ⟨advances, rfl⟩ h.2⟩
    | _ => exact ⟨fun shown => ⟨shown, fun goes => nomatch goes.2⟩, And.left⟩
  | playerName =>
    rw [← other waits nofun]
    cases event with
    | playerName name =>
      simp only
      -- The table of capitals is of no concern here.
      generalize Text.uppercase (Text.trim name) = capitals
      split <;> rfl
    | _ => rfl
  | choice id count =>
    rw [← other waits nofun]
    cases event with
    | choose index =>
      simp only
      split
      · split
        · rw [offering_reaction]
        · rfl
      · rfl
    | _ => rfl
  | savedGame =>
    rw [← other waits nofun]
    cases event with
    | choose index =>
      simp only
      split
      · rw [offering_game]
      · split
        · rw [offering_intro]
        · rfl
    | _ => rfl
  | restart =>
    rw [← other waits nofun]
    cases event with
    | choose index =>
      simp only
      split
      · rw [offering_intro]
      · rfl
    | _ => rfl
  | halted =>
    rw [← other waits nofun]
    rfl

theorem offering_preamble (it : Interpreter σ) (game : Option SaveRecord) (action : Action)
    (on : Bool) : offering on (it.preamble game action) = true ↔ on = true ∧ ¬it.GoesOn action := by
  cases action with
  | resume event => exact it.offering_preambleOf game event on
  | boot =>
    have shown : offering on (it.preamble game .boot) = on := by
      cases game with
      | none => exact it.offering_intro on
      | some game => rfl
    rw [shown]
    exact ⟨fun h => ⟨h, fun goes => nomatch goes.2⟩, And.left⟩
  | load slot =>
    have shown : offering on (it.preamble game (.load slot)) = on := by cases game <;> rfl
    rw [shown]
    exact ⟨fun h => ⟨h, fun goes => nomatch goes.2⟩, And.left⟩
  | newGame | restart =>
    simp only [preamble, offering_intro]
    exact ⟨fun h => ⟨h, fun goes => nomatch goes.2⟩, And.left⟩
  | process id => exact ⟨fun h => ⟨h, fun goes => nomatch goes.2⟩, And.left⟩
  | save slot => exact ⟨fun h => ⟨h, fun goes => nomatch goes.2⟩, And.left⟩

theorem offering_sequel (it : Interpreter σ) (course : Course) (on : Bool)
    (moves : course ≠ .stays) : offering on (it.sequel course) = true ↔
      (it.land course).pending.wait = .advance ∨ on = true := by
  cases course with
  | stays => exact absurd rfl moves
  | begins => exact ⟨.inr, fun h => h.resolve_left nofun⟩
  | offers => exact ⟨.inr, fun h => h.resolve_left nofun⟩
  | halts s fault => cases fault <;> exact ⟨.inr, fun h => h.resolve_left nofun⟩
  | goes s id =>
    simp only [sequel, land, Content.shown, Content.walk_eq_trail, offering_append, offering_updates]
    exact it.content.offering_display _ _ _ on

theorem goesOn_moves {it : Interpreter σ} {action : Action} (goes : it.GoesOn action)
    (game : Option SaveRecord) : it.course game action ≠ .stays := by
  obtain ⟨waits, rfl⟩ := goes
  unfold course courseOf
  unfold wait at waits
  cases pending : it.pending with
  | advance next => cases next <;> exact nofun
  | _ =>
    rw [pending] at waits
    cases waits

variable [Store σ] {it : Interpreter σ} {on : Bool}

/-- After an action the offer stands where a narrative waits, and where it stood before unless the
story was gone on with. -/
theorem offering_act (start : it.wait = .advance → on = true) (action : Action) :
    offering on (it.act action).1.directives = true ↔
      (it.act action).2.wait = .advance ∨ on = true ∧ ¬it.GoesOn action := by
  have lands := (it.act_comes action).lands
  have ends : (it.act action).2.wait = (it.landing action).pending.wait :=
    congrArg Pending.wait lands.pending
  rw [ends, it.act_shows action]
  unfold landing
  by_cases stays : it.course (it.consult action).1 action = .stays
  · -- A narrative may still wait here, and nothing is shown that would offer to go on anew.
    rw [telling_stays stays, stays]
    have still : ¬it.GoesOn action := fun goes => goesOn_moves goes _ stays
    exact ⟨fun shown => .inr ⟨shown, still⟩, fun h => h.elim start And.left⟩
  · unfold telling
    rw [offering_append, it.offering_sequel _ _ stays, offering_preamble]

theorem offering_run (start : it.wait = .advance → on = true) (turns : List Turn) :
    (it.run turns).wait = .advance → offering on (it.emitted turns) = true := by
  induction turns generalizing it on with
  | nil => exact start
  | cons turn turns ih =>
    have timed : (it.atTime turn.now).wait = .advance → on = true := start
    have next := offering_act timed turn.action
    unfold emitted
    rw [offering_append]
    exact ih fun waits => next.mpr (.inl waits)

/-- Whether each narrative that waits is left only by going on with the story. -/
def LeavesByGoingOn : Interpreter σ → List Turn → Prop :=
  Throughout fun it turn =>
    it.wait = .advance → it.GoesOn turn.action ∨ (it.take turn).2.wait = .advance

theorem offering_leaves {turns : List Turn} (leaves : it.LeavesByGoingOn turns)
    (start : on = true ↔ it.wait = .advance) :
    offering on (it.emitted turns) = true ↔ (it.run turns).wait = .advance := by
  induction turns generalizing it on with
  | nil => exact start
  | cons turn turns ih =>
    have timed : (it.atTime turn.now).wait = .advance → on = true := start.mpr
    have next := offering_act timed turn.action
    unfold emitted
    rw [offering_append]
    refine ih leaves.2 (next.trans ⟨?_, .inl⟩)
    rintro (waits | ⟨stood, stuck⟩)
    · exact waits
    · exact (leaves.1 (start.mp stood)).resolve_left stuck

/-- The offer to go on, for every run over any store. It always stands while a narrative waits. If
each narrative is left by going on with the story, it stands nowhere else; it outlasts a narrative
that is left in another way, and then stands until the next one is gone on with. A terminal shows it
in its prompt. -/
theorem offer_stands (content : Content) (config : Config) (store : σ) (start : UInt64)
    (turns : List Turn) :
    let first := Interpreter.new content config store start
    let it := first.run turns
    let on := offering false (first.emitted turns)
    (it.wait = .advance → on = true) ∧
    (first.LeavesByGoingOn turns → (on = true ↔ it.wait = .advance)) ∧
    (∀ turn : Turn, offering on (it.take turn).1.directives = true ↔
      (it.take turn).2.wait = .advance ∨
        on = true ∧ ¬(it.wait = .advance ∧ turn.action = .resume .advance)) ∧
    ∀ timing : Timing,
      (Terminal.View.blank.after timing (first.emitted turns)).continueAvailable = on := by
  intro first it on
  have idle : first.wait = .advance → false = true := nofun
  have stands : it.wait = .advance → on = true := offering_run idle turns
  refine ⟨stands, ?_, ?_, ?_⟩
  · intro leaves
    exact offering_leaves leaves ⟨nofun, idle⟩
  · intro turn
    have timed : (it.atTime turn.now).wait = .advance → on = true := stands
    exact offering_act timed turn.action
  · intro timing
    exact Terminal.View.continueAvailable_after .blank timing _

theorem offer_stands_tale :
    let first := Interpreter.new .tale .standard (MemoryStore.mk .empty) 0
    let turns : List Turn := [⟨1, .boot⟩, ⟨2, .resume (.playerName "A")⟩, ⟨3, .resume (.choose 1)⟩]
    let ended := turns ++ [⟨4, .resume .advance⟩]
    first.LeavesByGoingOn ended ∧
      (first.run turns).wait = .advance ∧ offering false (first.emitted turns) = true ∧
      (first.run ended).wait = .restart ∧ offering false (first.emitted ended) = false := by
  intro first turns ended
  have waits : (first.run turns).wait = .advance := by decide +kernel
  have restarts : (first.run ended).wait = .restart := by decide +kernel
  have leaves : first.LeavesByGoingOn ended := by
    have named : (first.run [⟨1, .boot⟩]).wait ≠ .advance := by decide +kernel
    have picked : (first.run [⟨1, .boot⟩, ⟨2, .resume (.playerName "A")⟩]).wait ≠ .advance := by
      decide +kernel
    exact ⟨nofun, fun h => absurd h named, fun h => absurd h picked, fun h => .inl ⟨h, rfl⟩, trivial⟩
  obtain ⟨stands, _⟩ := offer_stands .tale .standard (MemoryStore.mk .empty) 0 turns
  obtain ⟨_, nowhere, _⟩ := offer_stands .tale .standard (MemoryStore.mk .empty) 0 ended
  refine ⟨leaves, waits, stands waits, restarts, ?_⟩
  refine Bool.eq_false_iff.mpr fun on => ?_
  rw [(nowhere leaves).mp on] at restarts
  cases restarts

/-- A story that is left by a restart and then stops is still offered to be gone on with. -/
theorem offer_outlasts_restart :
    let first := Interpreter.new .tale .standard (MemoryStore.mk .empty) 0
    let turns : List Turn := [⟨1, .boot⟩, ⟨2, .resume (.playerName "A")⟩, ⟨3, .resume (.choose 1)⟩,
      ⟨4, .restart⟩, ⟨5, .resume (.playerName "A")⟩, ⟨6, .resume (.choose 2)⟩]
    (first.run turns).wait = .halted ∧ offering false (first.emitted turns) = true := by
  decide +kernel

end Interpreter
end Storyline
