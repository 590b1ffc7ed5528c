import Storyline.Terminal.Script
import Storyline.Terminal.Typewriter

/-!
A terminal on a clock of its own, with a keyboard whose lines arrive at given times.

While a text is revealed, a line that arrives makes the rest of it come at once, and is not seen by
a later prompt. Nothing else than a reveal and a prompt takes a line.
-/

namespace Storyline.Terminal

structure Keyboard where
  arrivals : List (Nat × String)
  closesAt : Nat
  closed : Bool
  now : Nat

namespace Keyboard

/-- Lines with the times at which they are meant to be typed; none overtakes an earlier one. The
input ends with the last. -/
def ofLines (lines : List (Nat × String)) : Keyboard :=
  let (last, arrivals) := lines.foldl (fun (last, arrivals) l =>
    let time := max last l.1
    (time, arrivals ++ [(time, l.2)])) (0, ([] : List (Nat × String)))
  ⟨arrivals, last, false, 0⟩

def wait (k : Keyboard) (ms : Nat) : Keyboard := { k with now := k.now + pauseLength ms }

/-- A pause, and the lines that arrive before it is over are taken. The first part tells whether
there were any, or the input ended. -/
def listen (k : Keyboard) (ms : Nat) : Bool × Keyboard :=
  let later := k.now + pauseLength ms
  if k.closed then (false, { k with now := later })
  else
    let left := k.arrivals.dropWhile fun a => a.1 < later
    let ends := left.isEmpty && k.closesAt < later
    (ends || left.length < k.arrivals.length,
      { k with arrivals := left, closed := ends, now := later })

end Keyboard

structure Timed where
  timing : Timing
  view : View
  keyboard : Keyboard
  signal : Signal
  /-- What was put out, the last first. -/
  out : List String
  errors : List String

namespace Timed

def new (timing : Timing) (keyboard : Keyboard) : Timed where
  timing := timing
  view := .blank
  keyboard := keyboard
  signal := .normal
  out := []
  errors := []

def write (t : Timed) (s : String) : Timed := { t with out := s :: t.out }

def output (t : Timed) : String := String.join t.out.reverse

def errorOutput (t : Timed) : String := String.join t.errors.reverse

def typewriter (timing : Timing) : Typewriter := ⟨timing.typewriter, timing.typewriterFast⟩

/-- Chunks go to the output, and while a delay passes a line makes the signal a skip. -/
def watcher : Watcher (Keyboard × List String) where
  emitted chunk so signal := ((so.1, String.ofList chunk :: so.2), signal)
  waited ms so signal :=
    let (noticed, keyboard) := so.1.listen ms
    ((keyboard, so.2), if noticed then signal.after .skip else signal)

def play (t : Timed) : Beat → Timed
  | .write s => t.write s
  | .reveal s =>
    let ((keyboard, out), signal) :=
      (typewriter t.timing).reveal watcher s.toList (t.keyboard, t.out) t.signal
    { t with keyboard := keyboard, out := out, signal := signal }
  | .rest ms => { t with keyboard := t.keyboard.wait ms }
  | .fresh => { t with signal := t.signal.after .reset }
  | .complain s => { t with errors := s :: t.errors }

def display (t : Timed) (shown : Shown) : Timed :=
  let (beats, view) := beats t.timing t.view shown
  beats.foldl play { t with view := view }

/-- Asks the player over the lines to come, until one is an answer. The end of the input is
taken for the wish to quit. -/
def askOver (prompt : Prompt) (t : Timed) : List (Nat × String) → PlayerInput × Timed
  | [] =>
    let k := t.keyboard
    (.quit, { t.write (promptText t.view prompt) with
      keyboard := { k with arrivals := [], closed := true, now := max k.now k.closesAt } })
  | (time, line) :: rest =>
    let k := t.keyboard
    let t := { t.write (promptText t.view prompt) with
      keyboard := { k with arrivals := rest, now := max k.now time } }
    match reply prompt (Text.trim line) with
    | .input input => (input, t)
    | .again help => askOver prompt (t.write help) rest

/-- Asks the player. Once the end of the input has been seen there is nothing to ask. -/
def ask (t : Timed) (prompt : Prompt) : PlayerInput × Timed :=
  if t.keyboard.closed then (.quit, t.write (promptText t.view prompt))
  else askOver prompt t t.keyboard.arrivals

instance : Renderer Timed where
  display shown t := (.ok (), t.display shown)
  ask prompt t :=
    let (input, t) := t.ask prompt
    (.ok input, t)
  pause ms t := { t with keyboard := t.keyboard.wait ms }

end Timed
end Storyline.Terminal
