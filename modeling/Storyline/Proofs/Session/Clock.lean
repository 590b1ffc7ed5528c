import Storyline.Proofs.Session.Exchanges
import Storyline.Proofs.Session.Replay

/-!
Sessions while the clock goes on. Each turn has a time of its own, with which it stamps what it saves;
a session whose clock stands still is the case in which all the times are one.
-/

namespace Storyline

theorem Landing.now_settle {σ : Type} [Store σ] (landing : Landing) (saves : Saves σ) :
    (landing.settle saves).now = saves.now := by
  unfold settle Stop.settle
  split
  · split <;> rfl
  · rfl

namespace Interpreter

variable {σ : Type} [Store σ]

theorem now_consult (it : Interpreter σ) (action : Action) :
    (it.consult action).2.now = it.saves.now := by
  unfold consult Saves.saveTo Saves.loadFrom
  cases action with
  | resume event => dsimp only; split <;> rfl
  | save slot | load slot => dsimp only; split <;> rfl
  | _ => rfl

theorem now_act (it : Interpreter σ) (action : Action) :
    (it.act action).2.saves.now = it.saves.now := by
  rw [(it.act_comes action).lands.saves, Landing.now_settle, it.now_consult]

theorem now_react (it : Interpreter σ) (input : PlayerInput) :
    (it.react input).2.saves.now = it.saves.now := by
  by_cases quits : input = .quit
  · subst quits
    rfl
  · rw [(it.react_heeds quits).2.2.saves]
    unfold heed
    cases input.action? with
    | none => rfl
    | some action => exact it.now_act action

end Interpreter

namespace Session

variable {σ ρ : Type}

def now (s : Session σ ρ) : UInt64 := s.interpreter.saves.now

def atTime (s : Session σ ρ) (now : UInt64) : Session σ ρ :=
  { s with interpreter := s.interpreter.atTime now }

theorem showReaction_interpreter [Renderer ρ] (it : Interpreter σ) (r : ρ) (reaction : Reaction) :
    (showReaction it r reaction).2.interpreter = it := by
  have shown (result : Except RenderFault Unit × ρ) : (after it result).2.interpreter = it := by
    obtain ⟨_ | _, r'⟩ := result <;> rfl
  cases reaction with
  | quit => rfl
  | _ => exact shown _

variable [Store σ] [Renderer ρ]

def turnsAt : List UInt64 → Session σ ρ → Progress × Session σ ρ
  | [], s => (.running, s)
  | now :: times, s =>
    match (s.atTime now).turn with
    | (.running, s) => turnsAt times s
    | ended => ended

def runAt (times : List UInt64) (s : Session σ ρ) : Progress × Session σ ρ :=
  match s.begin with
  | (.running, s) => s.turnsAt times
  | ended => ended

/-- The inputs that are heard in turns at these times, each with the game that it comes to. -/
def hearingsAt : List UInt64 → Session σ ρ → List (Interpreter σ × PlayerInput)
  | [], _ => []
  | now :: times, s =>
    match Renderer.ask s.interpreter.wait.prompt s.renderer with
    | (.error _, _) => []
    | (.ok input, _) =>
      (s.interpreter.atTime now, input) ::
        match (s.atTime now).turn with
        | (.running, s) => hearingsAt times s
        | _ => []

def heardAt (times : List UInt64) (s : Session σ ρ) : List (Interpreter σ × PlayerInput) :=
  match s.begin with
  | (.running, s) => s.hearingsAt times
  | _ => []

theorem now_turn (s : Session σ ρ) : s.turn.2.now = s.now := by
  unfold turn
  rcases Renderer.ask s.interpreter.wait.prompt s.renderer with ⟨_ | input, r⟩
  · rfl
  · simp only [now, showReaction_interpreter, Interpreter.now_react]

theorem now_begin (s : Session σ ρ) : s.begin.2.now = s.now := by
  have shown := showReaction_interpreter s.interpreter.boot.2 s.renderer (.play s.interpreter.boot.1)
  exact (congrArg (fun it => it.saves.now) shown).trans (s.interpreter.now_act .boot)

theorem turnsAt_replicate (n : Nat) (s : Session σ ρ) :
    s.turnsAt (List.replicate n s.now) = s.turns n := by
  induction n generalizing s with
  | zero => rfl
  | succ n ih =>
    have here : s.atTime s.now = s := rfl
    rw [List.replicate_succ, turnsAt, turns, here, ← s.now_turn]
    rcases s.turn with ⟨_ | result, s'⟩
    · exact ih s'
    · rfl

/-- A session is a session whose clock stands still. -/
theorem runAt_replicate (n : Nat) (s : Session σ ρ) :
    s.runAt (List.replicate n s.now) = s.run n := by
  unfold runAt run
  rw [← s.now_begin]
  rcases s.begin with ⟨_ | result, s'⟩
  · exact turnsAt_replicate n s'
  · rfl

end Session
end Storyline
