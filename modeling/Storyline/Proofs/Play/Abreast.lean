import Storyline.Proofs.Saves.Stamps
import Storyline.Proofs.Session.Replay

/-!
Games that are played side by side by two clocks, over stores that the clocks do not tell apart.
Whatever both are asked, they answer the same and are still side by side.
-/

namespace Storyline

theorem Reply.Alike.eq {left right : Reply} (alike : left.Alike right)
    (other : ∀ done, left ≠ .saved done) : left = right := by
  cases left with
  | saved done => exact absurd rfl (other done)
  | _ => exact alike

namespace Saves.Alike

variable {σ : Type} [Store σ] {clock : List (UInt64 × UInt64)} {a b : Saves σ}

theorem saveTo (h : Saves.Alike clock a b) (slot : UInt8) (s : GameState) :
    (a.saveTo slot s).1 = (b.saveTo slot s).1 ∧
      Saves.Alike clock (a.saveTo slot s).2 (b.saveTo slot s).2 := by
  unfold Saves.saveTo
  rw [h.layout]
  cases b.layout.slotKey? slot with
  | none => exact ⟨rfl, h⟩
  | some key => exact (h.write key s).imp_left (congrArg some)

theorem loadFrom (h : Saves.Alike clock a b) (slot : UInt8) :
    (game? (a.loadFrom slot).1).map SaveRecord.state =
        (game? (b.loadFrom slot).1).map SaveRecord.state ∧
      Saves.Alike clock (a.loadFrom slot).2 (b.loadFrom slot).2 := by
  unfold Saves.loadFrom
  rw [h.layout]
  cases b.layout.slotKey? slot with
  | none => exact ⟨rfl, h⟩
  | some key => exact h.read key

theorem settle (h : Saves.Alike clock a b) (landing : Landing) :
    Saves.Alike clock (landing.settle a) (landing.settle b) := by
  unfold Landing.settle Stop.settle autoSave clearAutosave
  rw [h.layout]
  split
  · split
    · exact (h.write _ _).2
    · exact (h.remove _).2
    · exact h
  · exact h

end Saves.Alike

namespace Interpreter

variable {σ : Type} [Store σ] {clock : List (UInt64 × UInt64)} {a b : Interpreter σ}

/-- Two games that are told apart by their journals and the times of their saves only. -/
structure Abreast (clock : List (UInt64 × UInt64)) (a b : Interpreter σ) : Prop
    extends Agree a b where
  saves : Saves.Alike clock a.saves b.saves

namespace Abreast

theorem atTime (h : Abreast clock a b) {times : UInt64 × UInt64} (member : times ∈ clock) :
    Abreast clock (a.atTime times.1) (b.atTime times.2) where
  toAgree := h.toAgree.atTime times.1 times.2
  saves := ⟨h.saves.layout, member, h.saves.store⟩

theorem of_twins {a' b' : Interpreter σ} (h : Abreast clock a b) (left : Twin a' a)
    (right : Twin b' b) : Abreast clock a' b' where
  content := left.content.trans (h.content.trans right.content.symm)
  config := left.config.trans (h.config.trans right.config.symm)
  state := left.state.trans (h.state.trans right.state.symm)
  pending := left.pending.trans (h.pending.trans right.pending.symm)
  saves := by
    rw [left.saves, right.saves]
    exact h.saves

theorem consult (h : Abreast clock a b) (action : Action) :
    (a.consult action).1.map SaveRecord.state = (b.consult action).1.map SaveRecord.state ∧
      Saves.Alike clock (a.consult action).2 (b.consult action).2 := by
  have autosave := h.saves.read b.saves.layout.autosaveKey
  have layout := h.saves.layout
  unfold Interpreter.consult Saves.loadAutosave Saves.clearAutosave
  rw [layout]
  cases action with
  | boot => exact autosave
  | restart => exact ⟨rfl, (h.saves.remove _).2⟩
  | resume event =>
    simp only [h.pending]
    split
    · exact autosave
    · exact ⟨rfl, h.saves⟩
  | save slot =>
    rw [h.state]
    exact ⟨rfl, (h.saves.saveTo slot b.state).2⟩
  | load slot => exact h.saves.loadFrom slot
  | newGame | process id => exact ⟨rfl, h.saves⟩

theorem saved (h : Abreast clock a b) (slot : UInt8) : (a.saveTo slot).1 = (b.saveTo slot).1 := by
  have done := (h.saves.saveTo slot b.state).1
  unfold Interpreter.saveTo
  rw [h.state]
  generalize a.saves.saveTo slot b.state = left, b.saves.saveTo slot b.state = right at done ⊢
  obtain ⟨result, saves⟩ := left
  obtain ⟨result', saves'⟩ := right
  cases done
  rcases result with _ | _ | _ <;> rfl

/-- Both answer every action alike, and are side by side after it. -/
theorem act (h : Abreast clock a b) (action : Action) :
    (a.act action).1 = (b.act action).1 ∧ Abreast clock (a.act action).2 (b.act action).2 := by
  obtain ⟨reads, consulted⟩ := h.consult action
  obtain ⟨alike, agree⟩ := h.toAgree.act reads
  refine ⟨?_, agree, ?_⟩
  · cases action with
    | save slot => exact congrArg Reply.saved (h.saved slot)
    | load slot =>
      refine alike.eq fun done => ?_
      rw [a.load_replies]
      exact nofun
    | resume event =>
      refine alike.eq fun done => ?_
      show Reply.ofResponse (a.respond event).1 ≠ .saved done
      cases (a.respond event).1 <;> exact nofun
    | boot | newGame | restart | process id => exact alike.eq fun done => nofun
  · rw [(a.act_comes action).lands.saves, (b.act_comes action).lands.saves,
      h.toAgree.landing reads]
    exact consulted.settle _

theorem heed (h : Abreast clock a b) (input : PlayerInput) :
    Abreast clock (a.heed input) (b.heed input) := by
  unfold Interpreter.heed
  cases input.action? with
  | none => exact h
  | some action => exact (h.act action).2

theorem showing (h : Abreast clock a b) (input : PlayerInput) :
    a.showing input = b.showing input :=
  h.toAgree.showing (fun action => (h.act action).1) input

theorem react (h : Abreast clock a b) (input : PlayerInput) :
    Abreast clock (a.react input).2 (b.react input).2 := by
  by_cases quits : input = .quit
  · subst quits
    exact h.of_twins (.note a _) (.note b _)
  · exact (h.heed input).of_twins (a.react_heeds quits).2.2 (b.react_heeds quits).2.2

end Abreast
end Interpreter
end Storyline
