import Storyline.Proofs.Session.Clock

/-!
Sessions end when their input does. Where there is only so much left for a renderer to take, and no
showing adds to it, every turn takes some of it or is the last, whatever the story is and whatever is
made of the inputs.
-/

namespace Storyline

namespace Renderer

variable {ρ : Type} [Renderer ρ]

/-- A renderer that never fails while all is `fine`, and has only so much `left`. Each time the player
is asked costs some of that, at least one, and what it costs is there, but that one is lent to the
player who quits. -/
structure Spends (fine : ρ → Prop) (left : ρ → Nat) (cost : Prompt → ρ → Nat) : Prop where
  display : ∀ {r}, fine r → ∀ shown, ∃ r', Renderer.display shown r = (.ok (), r') ∧
    fine r' ∧ left r' ≤ left r
  pause : ∀ {r}, fine r → ∀ ms, fine (Renderer.pause ms r) ∧ left (Renderer.pause ms r) ≤ left r
  ask : ∀ {r}, fine r → ∀ prompt, ∃ input r', Renderer.ask prompt r = (.ok input, r') ∧ fine r' ∧
    cost prompt r + left r' ≤ left r + (if input = .quit then 1 else 0)
  costs : ∀ prompt r, 1 ≤ cost prompt r

variable {fine : ρ → Prop} {left : ρ → Nat} {cost : Prompt → ρ → Nat} {r : ρ}

theorem Spends.play (h : Spends fine left cost) (directives : List Directive) (ok : fine r) :
    ∃ r', Renderer.play directives r = (.ok (), r') ∧ fine r' ∧ left r' ≤ left r := by
  induction directives generalizing r with
  | nil => exact ⟨r, rfl, ok, Nat.le_refl _⟩
  | cons d directives ih =>
    rcases Renderer.play_cons d directives r with ⟨ms, rfl, plays⟩ | plays
    · have waited : fine (if ms = 0 then r else Renderer.pause ms r) ∧
          left (if ms = 0 then r else Renderer.pause ms r) ≤ left r := by
        split
        · exact ⟨ok, Nat.le_refl _⟩
        · exact h.pause ok ms
      obtain ⟨r', others, fine', less⟩ := ih waited.1
      exact ⟨r', plays.trans others, fine', less.trans waited.2⟩
    · obtain ⟨next, shows, fine', less⟩ := h.display ok (.directive d)
      obtain ⟨r', others, fine'', less'⟩ := ih fine'
      rw [plays, shows]
      exact ⟨r', others, fine'', less'.trans less⟩

end Renderer

namespace Session

variable {σ ρ : Type} [Renderer ρ]

section

variable {fine : ρ → Prop} {left : ρ → Nat} {cost : Prompt → ρ → Nat} {r : ρ}

theorem showReaction_spends (h : Renderer.Spends fine left cost) (ok : fine r) (it : Interpreter σ)
    {reaction : Reaction} (goes : reaction ≠ .quit) :
    ∃ r', showReaction it r reaction = (.running, ⟨it, r'⟩) ∧ fine r' ∧ left r' ≤ left r := by
  cases reaction with
  | quit => exact absurd rfl goes
  | play directives =>
    obtain ⟨r', plays, kept⟩ := h.play directives ok
    exact ⟨r', congrArg (after it) plays, kept⟩
  | notice text =>
    obtain ⟨r', shows, kept⟩ := h.display ok (.notice text)
    exact ⟨r', congrArg (after it) shows, kept⟩
  | status report =>
    obtain ⟨r', shows, kept⟩ := h.display ok (.status report)
    exact ⟨r', congrArg (after it) shows, kept⟩

end

variable [Store σ]

def spent (cost : Prompt → ρ → Nat) : List UInt64 → Session σ ρ → Nat
  | [], _ => 0
  | now :: times, s =>
    cost s.interpreter.wait.prompt s.renderer +
      match (s.atTime now).turn with
      | (.running, s) => spent cost times s
      | _ => 0

def spentIn (cost : Prompt → ρ → Nat) (times : List UInt64) (s : Session σ ρ) : Nat :=
  match s.begin with
  | (.running, s) => s.spent cost times
  | _ => 0

variable {fine : ρ → Prop} {left : ρ → Nat} {cost : Prompt → ρ → Nat} {r : ρ}

/-- What becomes of a turn: it is the last one, or its cost is taken from what is left. -/
inductive Turned (fine : ρ → Prop) (left : ρ → Nat) (paid : Nat) (s : Session σ ρ) : Prop
  | quits {s' : Session σ ρ} (ends : s.turn = (.ended (.ok ()), s'))
      (there : paid ≤ left s.renderer + 1)
  | goes {s' : Session σ ρ} (runs : s.turn = (.running, s')) (ok : fine s'.renderer)
      (there : paid + left s'.renderer ≤ left s.renderer)

theorem turned (h : Renderer.Spends fine left cost) (s : Session σ ρ) (ok : fine s.renderer) :
    Turned fine left (cost s.interpreter.wait.prompt s.renderer) s := by
  obtain ⟨input, r, asked, fine', paid⟩ := h.ask ok s.interpreter.wait.prompt
  by_cases quits : input = .quit
  · subst quits
    rw [if_pos rfl] at paid
    have ends : s.turn = (.ended (.ok ()), ⟨(s.interpreter.react .quit).2, r⟩) := by
      simp only [turn, asked]
      rfl
    exact .quits ends (by omega)
  · rw [if_neg quits] at paid
    obtain ⟨runs, -⟩ := s.interpreter.react_heeds quits
    obtain ⟨r', shows, fine'', less⟩ :=
      showReaction_spends h fine' (s.interpreter.react input).2 runs
    have goes : s.turn = (.running, ⟨(s.interpreter.react input).2, r'⟩) := by
      simp only [turn, asked, shows]
    exact .goes goes fine'' ((Nat.add_le_add_left less _).trans paid)

/-- What is spent in turns was there, one apart, and turns enough are the end of the session. -/
theorem turnsAt_spends (h : Renderer.Spends fine left cost) (times : List UInt64) (s : Session σ ρ)
    (ok : fine s.renderer) :
    (left s.renderer < times.length → (s.turnsAt times).1 = .ended (.ok ())) ∧
      (s.hearingsAt times).length ≤ s.spent cost times ∧
      s.spent cost times ≤ left s.renderer + 1 := by
  induction times generalizing s with
  | nil => exact ⟨fun short => absurd short (Nat.not_lt_zero _), Nat.le_refl 0, Nat.zero_le _⟩
  | cons now times ih =>
    have least := h.costs s.interpreter.wait.prompt s.renderer
    obtain ⟨input, r, asked, -⟩ := h.ask ok s.interpreter.wait.prompt
    unfold turnsAt hearingsAt spent
    simp only [asked, List.length_cons]
    -- a turn at its time asks for the same, over the same renderer
    have turned : Turned fine left (cost s.interpreter.wait.prompt s.renderer) (s.atTime now) :=
      turned h (s.atTime now) ok
    cases turned with
    | quits ends there =>
      simp only [ends]
      exact ⟨fun _ => trivial, least, there⟩
    | goes runs ok' there =>
      change _ ≤ left s.renderer at there
      obtain ⟨ends, heard, spends⟩ := ih _ ok'
      simp only [runs]
      exact ⟨fun long => ends (by omega), by omega, by omega⟩

/-- A session that comes to its end, whenever its turns are, once its renderer has nothing left. -/
structure EndsWithInput (left : ρ → Nat) (cost : Prompt → ρ → Nat) (s : Session σ ρ) : Prop where
  /-- With one turn more than there is left, the session is over, and nothing failed. -/
  ends : ∀ times, left s.renderer < times.length → (s.runAt times).1 = .ended (.ok ())
  still : ∀ n, left s.renderer < n → (s.run n).1 = .ended (.ok ())
  asks : ∀ times, (s.heardAt times).length ≤ s.spentIn cost times
  spends : ∀ times, s.spentIn cost times ≤ left s.renderer + 1

theorem endsWithInput (h : Renderer.Spends fine left cost) (s : Session σ ρ)
    (ok : fine s.renderer) : EndsWithInput left cost s := by
  obtain ⟨r, plays, fine', less⟩ := h.play s.interpreter.boot.1 ok
  have begins : s.begin = (.running, ⟨s.interpreter.boot.2, r⟩) :=
    congrArg (after s.interpreter.boot.2) plays
  have each (times : List UInt64) := turnsAt_spends h times ⟨s.interpreter.boot.2, r⟩ fine'
  have ends (times : List UInt64) (long : left s.renderer < times.length) :
      (s.runAt times).1 = .ended (.ok ()) := by
    simp only [runAt, begins]
    exact (each times).1 (less.trans_lt long)
  refine ⟨ends, fun n long => ?_, fun times => ?_, fun times => ?_⟩
  · rw [← runAt_replicate]
    exact ends _ (by rwa [List.length_replicate])
  · simp only [heardAt, spentIn, begins]
    exact (each times).2.1
  · simp only [spentIn, begins]
    exact (each times).2.2.trans (Nat.succ_le_succ less)

end Session

namespace Script

theorem spends : Renderer.Spends Sound (fun s => s.inputs.length) fun _ _ => 1 where
  display := by
    intro s sound shown
    refine ⟨{ s with log := (s.now, .displayed shown) :: s.log }, ?_, sound, Nat.le_refl _⟩
    simp only [Renderer.display, record, sound (.displayed shown)]
    rfl
  pause := fun sound ms => ⟨sound, Nat.le_refl _⟩
  ask := by
    intro s sound prompt
    refine ⟨_, _, ask_made sound prompt, sound, ?_⟩
    change 1 + s.inputs.tail.length ≤ s.inputs.length + _
    cases s.inputs with
    | nil => exact Nat.le_refl 1
    | cons input rest =>
      rw [List.tail_cons, List.length_cons, Nat.add_comm]
      exact Nat.le_add_right _ _
  costs := fun _ _ => Nat.le_refl 1

end Script
end Storyline
