import Storyline.Output
import Storyline.Status

/-!
Renderers: what shows a story and takes the player's input, which answers the interpreter or asks
something of the session.

A renderer is a value; each call answers with what came of it and with the renderer after it. A pause
lasts as many milliseconds as are asked for, but never longer than thirty years.
-/

namespace Storyline

inductive PlayerInput
  | event (e : Event)
  | save (slot : UInt8)
  | load (slot : UInt8)
  | status
  | restart
  | quit
  deriving DecidableEq

/-- Thirty years of 365 days, in milliseconds. -/
def longestPause : Nat := 30 * 365 * 24 * 60 * 60 * 1000

def pauseLength (ms : Nat) : Nat := min ms longestPause

theorem pauseLength_of_le {ms : Nat} (h : ms ≤ longestPause) : pauseLength ms = ms :=
  Nat.min_eq_left h

inductive Shown
  | directive (d : Directive)
  | notice (text : String)
  | status (report : StatusReport)
  deriving DecidableEq

inductive Prompt
  | name
  | advance
  | choice (count : Nat)
  deriving DecidableEq

structure RenderFault where
  message : String
  deriving DecidableEq

/-- A renderer whose states are the values of `ρ`. -/
class Renderer (ρ : Type) where
  display : Shown → ρ → Except RenderFault Unit × ρ
  ask : Prompt → ρ → Except RenderFault PlayerInput × ρ
  pause : Nat → ρ → ρ

namespace Renderer

variable {ρ : Type} [Renderer ρ]

/-- Carries directives out in their order, up to the first that fails. -/
def play : List Directive → ρ → Except RenderFault Unit × ρ
  | [], r => (.ok (), r)
  | .delay ms :: rest, r => play rest (if ms = 0 then r else pause ms r)
  | d :: rest, r =>
    match display (.directive d) r with
    | (.ok _, r) => play rest r
    | (.error e, r) => (.error e, r)

theorem play_cons (d : Directive) (rest : List Directive) (r : ρ) :
    (∃ ms, d = .delay ms ∧ play (d :: rest) r = play rest (if ms = 0 then r else pause ms r)) ∨
      play (d :: rest) r =
        match display (.directive d) r with
        | (.ok _, r) => play rest r
        | (.error e, r) => (.error e, r) := by
  cases d with
  | delay ms => exact .inl ⟨ms, rfl, rfl⟩
  | _ => exact .inr rfl

end Renderer

inductive RendererCall
  | displayed (s : Shown)
  | asked (p : Prompt)
  deriving DecidableEq

/-- A renderer that answers from a script and keeps a record of all calls. -/
structure Script where
  /-- The inputs to come; when there are none the player quits. -/
  inputs : List PlayerInput
  breaks : RendererCall → Bool
  now : Nat
  /-- The calls so far with their times, the last first. -/
  log : List (Nat × RendererCall)

namespace Script

def record (s : Script) (call : RendererCall) : Except RenderFault Unit × Script :=
  (if s.breaks call then .error ⟨"renderer gone"⟩ else .ok (),
    { s with log := (s.now, call) :: s.log })

instance : Renderer Script where
  display shown s := s.record (.displayed shown)
  ask prompt s :=
    match s.record (.asked prompt) with
    | (.error e, s) => (.error e, s)
    | (.ok _, s) =>
      match s.inputs with
      | [] => (.ok .quit, s)
      | input :: rest => (.ok input, { s with inputs := rest })
  pause ms s := { s with now := s.now + pauseLength ms }

end Script
end Storyline
