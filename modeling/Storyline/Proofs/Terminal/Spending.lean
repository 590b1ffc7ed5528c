import Storyline.Proofs.Session.Spending
import Storyline.Proofs.Terminal.Turns

/-!
A session at a terminal ends with the lines. A prompt that is shown takes a line, whether it is an
answer or not, or there is no line and the player quits; a text that is revealed may take lines too, and
nothing gives one back.
-/

namespace Storyline.Terminal

open Session

/-- How often the player is prompted over some lines: for each until one is an answer, and for the end
of the input if none is. -/
def promptings (prompt : Prompt) : List String → Nat
  | [] => 1
  | line :: rest =>
    match reply prompt (Text.trim line) with
    | .input _ => 1
    | .again _ => promptings prompt rest + 1

namespace Timed

def promptings (prompt : Prompt) (t : Timed) : Nat := Terminal.promptings prompt t.heldLines

theorem askOver_spends (prompt : Prompt) (lines : List (Nat × String)) (t : Timed) :
    Terminal.promptings prompt (lines.map Prod.snd) + (askOver prompt t lines).2.arrivals.length ≤
      lines.length + (if (askOver prompt t lines).1 = .quit then 1 else 0) := by
  induction lines generalizing t with
  | nil => exact Nat.le_refl 1
  | cons first rest ih =>
    obtain ⟨time, line⟩ := first
    unfold askOver
    rw [List.map_cons, Terminal.promptings, List.length_cons]
    dsimp only
    cases reply prompt (Text.trim line) with
    | input input =>
      change 1 + rest.length ≤ _
      omega
    | again help =>
      have later := ih ({ t.write (promptText t.view prompt) with
        keyboard := { t.keyboard with arrivals := rest, now := max t.keyboard.now time } }.write help)
      dsimp only at later ⊢
      omega

theorem promptings_pos (prompt : Prompt) (lines : List String) :
    1 ≤ Terminal.promptings prompt lines := by
  unfold Terminal.promptings
  split
  · exact Nat.le_refl 1
  · split
    · exact Nat.le_refl 1
    · exact Nat.le_add_left 1 _

theorem spends : Renderer.Spends (fun _ => True) (fun t : Timed => t.arrivals.length) promptings where
  display := fun {t} _ shown =>
    ⟨t.display shown, rfl, trivial, (t.display_suffix shown).length_le⟩
  pause := fun _ _ => ⟨trivial, Nat.le_refl _⟩
  ask := by
    intro t _ prompt
    refine ⟨(t.ask prompt).1, (t.ask prompt).2, rfl, trivial, ?_⟩
    unfold promptings heldLines ask
    split
    · change 1 + t.arrivals.length ≤ _
      rw [if_pos rfl, Nat.add_comm]
    · exact askOver_spends prompt t.arrivals t
  costs := fun prompt t => promptings_pos prompt t.heldLines

end Timed

/-- Sessions end with their input. Whatever the story, the settings and the saves are, and whatever has
been played before, a session over lines that are typed, or over a script of inputs, is over after one
turn more than there are of these, and nothing failed; the player was not prompted more often. For each
prompt a line is gone, or the player quits: nothing that is shown, and no line that is refused, is
followed by a prompt for nothing. -/
theorem ends_with_its_input {σ : Type} [Store σ] (it : Interpreter σ) :
    (∀ t : Timed,
      EndsWithInput (fun t => t.arrivals.length) Timed.promptings (Session.mk it t)) ∧
    (∀ inputs : List PlayerInput,
      EndsWithInput (fun s => s.inputs.length) (fun _ _ => 1)
        (Session.mk it (Script.fresh inputs))) ∧
    ∀ t : Timed,
      (∃ s, (Session.mk it t).turn = (.ended (.ok ()), s)) ∨
        ∃ s, (Session.mk it t).turn = (.running, s) ∧
          1 ≤ t.promptings it.wait.prompt ∧
          t.promptings it.wait.prompt + s.renderer.arrivals.length ≤ t.arrivals.length := by
  refine ⟨fun t => endsWithInput Timed.spends _ trivial,
    fun inputs => endsWithInput Script.spends _ fun _ => rfl, fun t => ?_⟩
  have each : Turned (fun _ => True) (fun t : Timed => t.arrivals.length)
      (t.promptings it.wait.prompt) (Session.mk it t) := turned Timed.spends ⟨it, t⟩ trivial
  cases each with
  | quits ends _ => exact .inl ⟨_, ends⟩
  | goes runs _ there => exact .inr ⟨_, runs, Timed.promptings_pos _ _, there⟩

theorem ends_with_its_input_tale :
    let typed : Timed := .new .standard ⟨[(0, "Ann"), (5, "what?"), (9, "1")], 20, false, 0⟩
    let s : Session MemoryStore Timed :=
      ⟨Interpreter.new .tale .standard (MemoryStore.mk .empty) 0, typed⟩
    (s.runAt [1, 2, 3, 4]).1 = .ended (.ok ()) ∧ (s.run 4).1 = .ended (.ok ()) ∧
      (s.heardAt [1, 2, 3, 4, 5]).length ≤ 4 := by
  intro typed s
  obtain ⟨terminal, -, -⟩ := ends_with_its_input s.interpreter
  obtain ⟨ends, still, asks, spends⟩ := terminal typed
  exact ⟨ends [1, 2, 3, 4] (by decide), still 4 (by decide),
    (asks [1, 2, 3, 4, 5]).trans (spends [1, 2, 3, 4, 5])⟩

end Storyline.Terminal
