/-!
Text revealed character by character.

A signal makes the rest of a text come faster or all at once. Whoever watches a reveal may change
the signal when a chunk is out, during a pause, and before the next step.
-/

namespace Storyline.Terminal

inductive Signal
  | normal
  | hurried
  | skipped
  deriving DecidableEq

inductive Gesture
  | hurry
  | skip
  | reset
  deriving DecidableEq

/-- The signal after a gesture. A skip outlasts a hurry. -/
def Signal.after (s : Signal) : Gesture → Signal
  | .hurry => if s = .normal then .hurried else s
  | .skip => .skipped
  | .reset => .normal

/-- Delays for each character, in milliseconds. -/
structure Typewriter where
  delay : Nat
  fastDelay : Nat

structure Watcher (ω : Type) where
  emitted : List Char → ω → Signal → ω × Signal
  waited : Nat → ω → Signal → ω × Signal
  between : ω → Signal → ω × Signal := fun so signal => (so, signal)

/-- Reveals a text. Once the signal is a skip, the rest is one chunk and no more time passes. -/
def Typewriter.reveal {ω : Type} (t : Typewriter) (w : Watcher ω) :
    List Char → ω → Signal → ω × Signal
  | [], so, signal => (so, signal)
  | c :: rest, so, signal =>
    if signal = .skipped then w.emitted (c :: rest) so signal
    else
      let (so, signal) := w.emitted [c] so signal
      let delay := if signal = .hurried then t.fastDelay else t.delay
      let (so, signal) := if delay = 0 then (so, signal) else w.waited delay so signal
      let (so, signal) := w.between so signal
      t.reveal w rest so signal

/-- What holds of the part of a text that is out, of whoever watches and of the signal holds of the
whole text in the end, if each chunk that is out, each pause that is made and the end of each step
keep it. -/
theorem Typewriter.reveal_keeps {ω : Type} {P : List Char → ω × Signal → Prop} (t : Typewriter)
    (w : Watcher ω)
    (emitted : ∀ shown chunk so signal, P shown (so, signal) →
      P (shown ++ chunk) (w.emitted chunk so signal))
    (waited : ∀ shown so signal, let delay := if signal = .hurried then t.fastDelay else t.delay
      delay ≠ 0 → P shown (so, signal) → P shown (w.waited delay so signal))
    (between : ∀ shown so signal, P shown (so, signal) → P shown (w.between so signal))
    (text shown : List Char) (so : ω) (signal : Signal) (holds : P shown (so, signal)) :
    P (shown ++ text) (t.reveal w text so signal) := by
  induction text generalizing shown so signal with
  | nil => rwa [List.append_nil]
  | cons c rest ih =>
    unfold reveal
    split
    · exact emitted _ _ so signal holds
    · have first := emitted shown [c] so signal holds
      rw [List.append_cons]
      generalize w.emitted [c] so signal = next at first ⊢
      obtain ⟨so, signal⟩ := next
      dsimp only
      by_cases none : (if signal = .hurried then t.fastDelay else t.delay) = 0
      · rw [if_pos none]
        exact ih _ _ _ (between _ so signal first)
      · rw [if_neg none]
        exact ih _ _ _ (between _ _ _ (waited _ so signal none first))

end Storyline.Terminal
