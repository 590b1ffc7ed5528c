import Storyline.Interpreter.Operations
import Storyline.Session.Renderer

/-!
Sessions: an interpreter whose answers go to a renderer, and whose player answers through it.

A session goes turn by turn. In each the player is asked for what the interpreter waits for, and
what comes of the input is shown.
-/

namespace Storyline

def Wait.prompt : Wait → Prompt
  | playerName => .name
  | advance | halted => .advance
  | choice count => .choice count
  | savedGame => .choice 2
  | restart => .choice 1

inductive Reaction
  | play (directives : List Directive)
  | notice (text : String)
  | status (report : StatusReport)
  | quit

def stoppedNotice : String := "The story has stopped. Load a save, restart, or quit."

namespace Interpreter

variable {σ : Type} [Store σ]

def react (it : Interpreter σ) : PlayerInput → Reaction × Interpreter σ
  | .quit => (.quit, it.note (.playerQuit it.state.currentNode))
  | .event event =>
    if it.wait = .halted then (.notice stoppedNotice, it)
    else
      match it.resume event with
      | .ok (shown, it) => (.play shown, it)
      | .error e => (.notice e.message, it.note (.inputRejected e.message))
  | .save slot =>
    match it.saveTo slot with
    | (true, it) => (.notice s!"Saved to slot {slot.toNat}.", it)
    | (false, it) => (.notice s!"Could not save to slot {slot.toNat}.", it)
  | .load slot =>
    match it.loadFrom slot with
    | (some shown, it) => (.play shown, it)
    | (none, it) => (.notice s!"Slot {slot.toNat} is empty.", it)
  | .status => (.status it.status, it)
  | .restart =>
    let (shown, it) := it.restart
    (.play shown, it)

end Interpreter

structure Session (σ ρ : Type) where
  interpreter : Interpreter σ
  renderer : ρ

inductive Progress
  | running
  | ended (result : Except RenderFault Unit)

namespace Session

variable {σ ρ : Type} [Store σ] [Renderer ρ]

/-- The session after the renderer was called for the last time in a turn. -/
def after (it : Interpreter σ) (result : Except RenderFault Unit × ρ) : Progress × Session σ ρ :=
  match result with
  | (.ok _, r) => (.running, ⟨it, r⟩)
  | (.error e, r) => (.ended (.error e), ⟨it, r⟩)

def begin (s : Session σ ρ) : Progress × Session σ ρ :=
  let (shown, it) := s.interpreter.boot
  after it (Renderer.play shown s.renderer)

def showReaction (it : Interpreter σ) (r : ρ) : Reaction → Progress × Session σ ρ
  | .quit => (.ended (.ok ()), ⟨it, r⟩)
  | .play directives => after it (Renderer.play directives r)
  | .notice text => after it (Renderer.display (.notice text) r)
  | .status report => after it (Renderer.display (.status report) r)

def turn (s : Session σ ρ) : Progress × Session σ ρ :=
  match Renderer.ask s.interpreter.wait.prompt s.renderer with
  | (.error e, r) => (.ended (.error e), { s with renderer := r })
  | (.ok input, r) =>
    let (reaction, it) := s.interpreter.react input
    showReaction it r reaction

def turns : Nat → Session σ ρ → Progress × Session σ ρ
  | 0, s => (.running, s)
  | n + 1, s =>
    match s.turn with
    | (.running, s) => turns n s
    | ended => ended

/-- The beginning and at most so many turns. Each turn takes an input or is the last, so one more
than there are inputs is enough. -/
def run (n : Nat) (s : Session σ ρ) : Progress × Session σ ρ :=
  match s.begin with
  | (.running, s) => s.turns n
  | ended => ended

end Session
end Storyline
