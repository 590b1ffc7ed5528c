import Storyline.Proofs.Session.Replay
import Storyline.Proofs.Terminal.Lines
import Storyline.Proofs.Terminal.Printing

/-!
Turns at a terminal. A terminal never fails, so a turn is what is put out while the player is asked,
and then what the input shows; only the wish to quit shows nothing and ends the session.
-/

namespace Storyline.Terminal

open Session

def beatsOf (timing : Timing) (view : View) : List Shown → List Beat × View
  | [] => ([], view)
  | shown :: rest =>
    let (first, view) := beats timing view shown
    let (more, view) := beatsOf timing view rest
    (first ++ more, view)

/-- What is put out while the player is asked over some lines: the prompt, and again after each line
that is no answer. -/
def promptBeats (view : View) (prompt : Prompt) : List String → List Beat
  | [] => [.write (promptText view prompt)]
  | line :: rest =>
    .write (promptText view prompt) ::
      match reply prompt (Text.trim line) with
      | .input _ => []
      | .again help => .write help :: promptBeats view prompt rest

namespace Timed

def lines (t : Timed) : List String := t.arrivals.map Prod.snd

/-- The lines over which the player can still be asked. -/
def heldLines (t : Timed) : List String := if t.keyboard.closed then [] else t.lines

theorem displays_play (shown : List Shown) (t : Timed) :
    Plays t (beatsOf t.timing t.view shown).1 (beatsOf t.timing t.view shown).2
      (shown.foldl display t) := by
  induction shown generalizing t with
  | nil => exact .refl t
  | cons first rest ih =>
    have plays := t.display_plays first
    have others := ih (t.display first)
    rw [plays.timing, plays.view] at others
    exact plays.append others

theorem askOver_plays (prompt : Prompt) (arrivals : List (Nat × String)) (t : Timed) :
    Plays t (promptBeats t.view prompt (arrivals.map Prod.snd)) t.view
      (askOver prompt t arrivals).2 := by
  induction arrivals generalizing t with
  | nil => exact ⟨(t.play_plays (.write _)).output, (t.play_plays (.write _)).errors, rfl, rfl⟩
  | cons first rest ih =>
    obtain ⟨time, line⟩ := first
    have asked : Plays t [.write (promptText t.view prompt)] t.view
        { t.write (promptText t.view prompt) with
          keyboard := { t.keyboard with arrivals := rest, now := max t.keyboard.now time } } :=
      ⟨(t.play_plays (.write _)).output, (t.play_plays (.write _)).errors, rfl, rfl⟩
    unfold askOver
    rw [List.map_cons, promptBeats]
    dsimp only
    cases reply prompt (Text.trim line) with
    | input input => exact asked
    | again help => exact asked.append ((play_plays _ (.write help)).append (ih _))

theorem ask_plays (t : Timed) (prompt : Prompt) :
    Plays t (promptBeats t.view prompt t.heldLines) t.view (t.ask prompt).2 := by
  unfold ask heldLines
  split
  · exact t.play_plays (.write _)
  · exact askOver_plays prompt t.arrivals t

/-- A delay is shown as a pause is made; one of no length leaves everything as it is. -/
theorem play_displays (directives : List Directive) (t : Timed) :
    Renderer.play directives t = (.ok (), (directives.map .directive).foldl display t) := by
  induction directives generalizing t with
  | nil => rfl
  | cons d directives ih =>
    cases d with
    | delay ms =>
      have paused : (if ms = 0 then t else Renderer.pause ms t) = t.display (.directive (.delay ms)) := by
        split
        · next none =>
          subst none
          rfl
        · rfl
      rw [Renderer.play, paused]
      exact ih _
    | _ => exact ih _

end Timed

variable {σ : Type}

theorem showReaction_displays (it : Interpreter σ) (t : Timed) {reaction : Reaction}
    (goes : reaction ≠ .quit) :
    showReaction it t reaction = (.running, ⟨it, reaction.shown.foldl Timed.display t⟩) := by
  cases reaction with
  | play directives => exact congrArg (after it) (Timed.play_displays directives t)
  | quit => exact absurd rfl goes
  | _ => rfl

variable [Store σ] {s : Session σ Timed} {t : Timed} {input : PlayerInput}

theorem begin_displays (s : Session σ Timed) : s.begin = (.running, ⟨s.interpreter.boot.2,
    (s.interpreter.boot.1.map .directive).foldl Timed.display s.renderer⟩) :=
  congrArg (after s.interpreter.boot.2) (Timed.play_displays s.interpreter.boot.1 s.renderer)

theorem turn_quits (asked : s.renderer.ask s.interpreter.wait.prompt = (.quit, t)) :
    s.turn = (.ended (.ok ()), ⟨(s.interpreter.react .quit).2, t⟩) := by
  simp only [turn, Renderer.ask, asked]
  rfl

theorem turn_displays (asked : s.renderer.ask s.interpreter.wait.prompt = (input, t))
    (goes : input ≠ .quit) :
    s.turn = (.running, ⟨(s.interpreter.react input).2,
      (s.interpreter.showing input).foldl Timed.display t⟩) := by
  obtain ⟨runs, shows, _⟩ := s.interpreter.react_heeds goes
  simp only [turn, Renderer.ask, asked]
  rw [showReaction_displays _ t runs, shows]

end Storyline.Terminal
