import Storyline.Proofs.Play.Soundness

/-!
What lasts. A property of states that a new game has, that saving and loading does not lose and that
no course loses is one of every game that is played over a store which makes nothing up. Which calls
of the store fail does not matter, nor what is shown.
-/

namespace Storyline

/-- A property of states that is true of a new game, is read back from a saved one, and is kept on
every course of such actions. -/
structure Content.Lasts (content : Content) (A : Action → Prop) (P : GameState → Prop) : Prop where
  fresh : P (Interpreter.freshState content)
  outlasts : SaveRecord.Outlasts P
  course : ∀ {σ : Type} (it : Interpreter σ) (game : Option SaveRecord) (action : Action),
    it.content = content → it.Suspended → P it.state → (∀ r, game = some r → P r.state) → A action →
      P (it.land (it.course game action)).state

namespace Interpreter

variable {σ : Type} [Store σ]

/-- A game of some content in such a state, over a store with such states only. -/
structure Abides (content : Content) (P : GameState → Prop) (start : σ) (it : Interpreter σ) :
    Prop where
  story : it.content = content
  suspended : it.Suspended
  state : P it.state
  trusted : Store.Trusted (SaveRecord.Wrote P) start it.saves.store

variable {content : Content} {A : Action → Prop} {P : GameState → Prop} {start : σ}
  {it : Interpreter σ}

theorem abides_new (lasts : content.Lasts A P) (config : Config) (start : σ) (now : UInt64) :
    (Interpreter.new content config start now).Abides content P start :=
  ⟨rfl, suspended_new content config start now, lasts.fresh, .refl⟩

namespace Abides

theorem atTime (h : it.Abides content P start) (now : UInt64) :
    (it.atTime now).Abides content P start := ⟨h.story, h.suspended, h.state, h.trusted⟩

theorem consult (h : it.Abides content P start) (outlasts : SaveRecord.Outlasts P)
    (honest : Store.Honest start) (action : Action) :
    Store.Trusted (SaveRecord.Wrote P) start (it.consult action).2.store ∧
      ∀ r, (it.consult action).1 = some r → P r.state :=
  consult_trusted outlasts honest h.trusted fun _ _ => h.state

theorem act (h : it.Abides content P start) (lasts : content.Lasts A P)
    (honest : Store.Honest start) {action : Action} (fits : A action) :
    (it.act action).2.Abides content P start := by
  obtain ⟨trusted, found⟩ := h.consult lasts.outlasts honest action
  have good : P (it.landing action).state :=
    lasts.course it _ action h.story h.suspended h.state found fits
  have lands := (it.act_comes action).lands
  refine ⟨lands.content.trans h.story, h.suspended.act action, ?_, ?_⟩
  · rw [lands.state]
    exact good
  · rw [lands.saves]
    exact Landing.settle_trusted trusted fun _ _ => good

theorem run (h : it.Abides content P start) (lasts : content.Lasts A P)
    (honest : Store.Honest start) {turns : List Turn} (fits : ∀ turn ∈ turns, A turn.action) :
    (it.run turns).Abides content P start :=
  run_keeps (fun _ turn member h => (h.atTime turn.now).act lasts honest (fits turn member)) h

end Abides
end Interpreter
end Storyline
