import Storyline.Interpreter.Operations

/-!
Runs: what is asked of an interpreter one thing after the other, each at a time of its own. The
clock only stamps what is saved; nothing is assumed of the order of times.
-/

namespace Storyline

/-- Anything that can be asked of an interpreter and may change it. -/
inductive Action
  | boot
  | newGame
  | restart
  | resume (event : Event)
  /-- Goes to a node at once, whatever is pending. -/
  | process (id : String)
  | save (slot : UInt8)
  | load (slot : UInt8)

inductive Reply
  | shown (out : Output)
  | rejected (reason : Rejection)
  | saved (done : Bool)
  | loaded (out : Option Output)

def Reply.ofResponse : Except Rejection Output → Reply
  | .ok out => .shown out
  | .error reason => .rejected reason

def Reply.errors : Reply → List String
  | shown out | loaded (some out) => out.errors
  | _ => []

def Reply.output? : Reply → Option Output
  | shown out => some out
  | loaded out => out
  | _ => none

def Reply.directives (reply : Reply) : List Directive :=
  (reply.output?.map Output.directives).getD []

structure Turn where
  now : UInt64
  action : Action

namespace Interpreter

theorem inRange_iff (index count : Nat) :
    inRange index count = true ↔ 1 ≤ index ∧ index ≤ count := by
  unfold inRange
  rw [Bool.and_eq_true, decide_eq_true_eq, decide_eq_true_eq]

variable {σ : Type}

def atTime (it : Interpreter σ) (now : UInt64) : Interpreter σ :=
  { it with saves := { it.saves with now := now } }

theorem atTime_wait (it : Interpreter σ) (now : UInt64) : (it.atTime now).wait = it.wait := rfl

variable [Store σ]

/-- What an event comes to: an answer, or a refusal after which nothing has changed. -/
def respond (it : Interpreter σ) (event : Event) : Except Rejection Output × Interpreter σ :=
  match it.resume event with
  | .ok result => ((answer result).map .ok id)
  | .error reason => (.error reason, it)

def act (it : Interpreter σ) : Action → Reply × Interpreter σ
  | .boot => (answer it.boot).map .shown id
  | .newGame => (answer it.startNewGame).map .shown id
  | .restart => (answer it.restart).map .shown id
  | .resume event => (it.respond event).map .ofResponse fun it => it
  | .process id => (answer (it.goTo id)).map .shown fun it => it
  | .save slot => (it.saveTo slot).map .saved id
  | .load slot =>
    match it.loadFrom slot with
    | (some shown, it) => (.loaded (some ⟨shown, it.wait⟩), it)
    | (none, it) => (.loaded none, it)

def take (it : Interpreter σ) (turn : Turn) : Reply × Interpreter σ :=
  (it.atTime turn.now).act turn.action

def run (it : Interpreter σ) : List Turn → Interpreter σ
  | [] => it
  | turn :: turns => run (it.take turn).2 turns

theorem run_append (it : Interpreter σ) (left right : List Turn) :
    it.run (left ++ right) = (it.run left).run right := by
  induction left generalizing it with
  | nil => rfl
  | cons turn left ih => exact ih (it.take turn).2

def hear (it : Interpreter σ) :
    List (UInt64 × Event) → List (Except Rejection Output × GameState × Wait)
  | [] => []
  | (now, event) :: rest =>
    let (result, it) := (it.atTime now).respond event
    (result, it.state, it.wait) :: it.hear rest

/-- What every turn preserves, a run preserves. -/
theorem run_keeps {I : Interpreter σ → Prop} {turns : List Turn}
    (step : ∀ it, ∀ turn ∈ turns, I it → I (it.take turn).2) {it : Interpreter σ} (start : I it) :
    I (it.run turns) := by
  induction turns generalizing it with
  | nil => exact start
  | cons turn turns ih =>
    have first := step it turn List.mem_cons_self start
    exact ih (fun it turn' member => step it turn' (List.mem_cons_of_mem turn member)) first

/-- Whether every turn of a run is as it should be for the game before it. -/
def Throughout (P : Interpreter σ → Turn → Prop) (it : Interpreter σ) : List Turn → Prop
  | [] => True
  | turn :: turns => P it turn ∧ (it.take turn).2.Throughout P turns

theorem throughout_append {P : Interpreter σ → Turn → Prop} {it : Interpreter σ}
    {left right : List Turn} :
    it.Throughout P (left ++ right) ↔ it.Throughout P left ∧ (it.run left).Throughout P right := by
  induction left generalizing it with
  | nil => exact (iff_of_eq (true_and _)).symm
  | cons turn left ih => exact (and_congr_right fun _ => ih).trans and_assoc.symm

theorem run_throughout {P : Interpreter σ → Turn → Prop} {I : Interpreter σ → Prop}
    {turns : List Turn}
    (step : ∀ it, ∀ turn ∈ turns, P it turn → I it → I (it.take turn).2) {it : Interpreter σ}
    (through : it.Throughout P turns) (start : I it) : I (it.run turns) := by
  induction turns generalizing it with
  | nil => exact start
  | cons turn turns ih =>
    have first := step it turn List.mem_cons_self through.1 start
    exact ih (fun it turn' member => step it turn' (List.mem_cons_of_mem turn member)) through.2 first

end Interpreter
end Storyline
