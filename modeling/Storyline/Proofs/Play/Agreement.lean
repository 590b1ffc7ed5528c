import Mathlib.Data.List.Forall2
import Storyline.Proofs.Play.Acceptance
import Storyline.Proofs.Play.Leads
import Storyline.Proofs.Play.Showing

/-!
Games that differ in their saves and journals only. Nothing that is shown or refused depends on
these, but for the saved state that is read; so two such games that read the same, or do not read at
all, are not told apart.
-/

namespace Storyline

theorem timed_alike {α : Type} {left right : List (UInt64 × α)}
    (same : left.map Prod.snd = right.map Prod.snd) :
    List.Forall₂ (fun l r => l.2 = r.2) left right := by
  rw [← List.forall₂_eq_eq_eq, List.forall₂_map_left_iff, List.forall₂_map_right_iff] at same
  exact same

theorem SaveRecord.same_state {game game' : Option SaveRecord}
    (same : game.map state = game'.map state) :
    (game = none ∧ game' = none) ∨ ∃ s t t', game = some ⟨s, t⟩ ∧ game' = some ⟨s, t'⟩ := by
  rcases game with _ | ⟨s, t⟩ <;> rcases game' with _ | ⟨s', t'⟩
  · exact .inl ⟨rfl, rfl⟩
  · cases same
  · cases same
  · cases same
    exact .inr ⟨s, t, t', rfl, rfl⟩

/-- Answers that are the same, but perhaps for whether a game could be saved. -/
def Reply.Alike : Reply → Reply → Prop
  | saved _, saved _ => True
  | left, right => left = right

theorem Reply.Alike.of_eq {left right : Reply} (same : left = right) : left.Alike right := by
  subst same
  cases left with
  | saved done => exact trivial
  | _ => rfl

namespace Interpreter

variable {σ τ : Type}

/-- The same story, settings, state and thing to do, over any stores. -/
structure Agree (a : Interpreter σ) (b : Interpreter τ) : Prop where
  content : a.content = b.content
  config : a.config = b.config
  state : a.state = b.state
  pending : a.pending = b.pending

namespace Agree

variable {a : Interpreter σ} {b : Interpreter τ} {game game' : Option SaveRecord}

theorem atTime (same : Agree a b) (now now' : UInt64) : Agree (a.atTime now) (b.atTime now') :=
  ⟨same.content, same.config, same.state, same.pending⟩

theorem wait (same : Agree a b) : a.wait = b.wait := congrArg Pending.wait same.pending

theorem intro (same : Agree a b) : a.intro = b.intro := by
  unfold Interpreter.intro
  rw [same.content, same.config]

theorem resumption (same : Agree a b) (s : GameState) (t t' : UInt64) :
    a.resumption ⟨s, t⟩ = b.resumption ⟨s, t'⟩ := by
  unfold Interpreter.resumption
  rw [same.content]

theorem land (same : Agree a b) (course : Course) : a.land course = b.land course := by
  cases course <;> simp only [Interpreter.land, same.content, same.config, same.state, same.pending]

theorem sequel (same : Agree a b) (course : Course) : a.sequel course = b.sequel course := by
  cases course <;> simp only [Interpreter.sequel, same.content, same.config]

theorem courseOf (same : Agree a b) (games : game.map SaveRecord.state = game'.map SaveRecord.state)
    (event : Event) : a.courseOf game event = b.courseOf game' event := by
  unfold Interpreter.courseOf named
  rw [same.pending, same.state, same.content]
  obtain ⟨rfl, rfl⟩ | ⟨s, t, t', rfl, rfl⟩ := SaveRecord.same_state games <;> rfl

theorem course (same : Agree a b) (games : game.map SaveRecord.state = game'.map SaveRecord.state)
    (action : Action) : a.course game action = b.course game' action := by
  have event := same.courseOf games
  -- a course is the same term for games saved at other times, since it takes their states only
  obtain ⟨rfl, rfl⟩ | ⟨s, t, t', rfl, rfl⟩ := SaveRecord.same_state games
  · cases action with
    | resume e => exact event e
    | process id => exact congrArg (Course.goes · id) same.state
    | _ => rfl
  · cases action with
    | resume e => exact event e
    | process id => exact congrArg (Course.goes · id) same.state
    | _ => rfl

theorem preambleOf (same : Agree a b)
    (games : game.map SaveRecord.state = game'.map SaveRecord.state) (event : Event) :
    a.preambleOf game event = b.preambleOf game' event := by
  have resumed : (game.map a.resumption).getD a.intro = (game'.map b.resumption).getD b.intro := by
    obtain ⟨rfl, rfl⟩ | ⟨s, t, t', rfl, rfl⟩ := SaveRecord.same_state games
    · exact same.intro
    · exact same.resumption s t t'
  unfold Interpreter.preambleOf
  rw [resumed, same.intro, same.pending, same.content, same.config, same.state]

theorem preamble (same : Agree a b)
    (games : game.map SaveRecord.state = game'.map SaveRecord.state) (action : Action) :
    a.preamble game action = b.preamble game' action := by
  have event := same.preambleOf games
  obtain ⟨rfl, rfl⟩ | ⟨s, t, t', rfl, rfl⟩ := SaveRecord.same_state games
  · cases action with
    | resume e => exact event e
    | boot | newGame | restart => exact same.intro
    | _ => rfl
  · cases action with
    | resume e => exact event e
    | newGame | restart => exact same.intro
    | load slot => exact same.resumption s t t'
    | _ => rfl

theorem telling (same : Agree a b)
    (games : game.map SaveRecord.state = game'.map SaveRecord.state) (action : Action) :
    a.telling game action = b.telling game' action := by
  unfold Interpreter.telling
  rw [same.preamble games, same.course games, same.sequel]

theorem lands (same : Agree a b) {saves : Saves σ} {saves' : Saves τ} {s s' : GameState}
    {p p' : Pending} {a' : Interpreter σ} {b' : Interpreter τ} (left : Lands a saves s p a')
    (right : Lands b saves' s' p' b') (states : s = s') (pendings : p = p') : Agree a' b' :=
  ⟨left.content.trans (same.content.trans right.content.symm),
    left.config.trans (same.config.trans right.config.symm),
    left.state.trans (states.trans right.state.symm),
    left.pending.trans (pendings.trans right.pending.symm)⟩

end Agree

theorem stop_not_savedGame (stop : Stop) : stop.pending ≠ .savedGame := by
  cases stop with
  | checkpoint c => cases c <;> exact nofun
  | _ => exact nofun

theorem land_not_savedGame {it : Interpreter σ} (h : it.pending ≠ .savedGame) {course : Course}
    (other : course ≠ .offers) : (it.land course).pending ≠ .savedGame := by
  cases course with
  | stays => exact h
  | begins => exact nofun
  | offers => exact absurd rfl other
  | halts s fault => exact nofun
  | goes s id => exact stop_not_savedGame _

theorem courseOf_ne_offers (it : Interpreter σ) (event : Event) :
    it.courseOf none event ≠ .offers := by
  intro offers
  have leads := it.courseOf_leads none event
  rw [offers] at leads
  cases leads

variable [Store σ] [Store τ] {a : Interpreter σ} {b : Interpreter τ}

theorem respond_fit {event : Event} (takes : a.wait.Takes event) : (a.respond event).1 =
    .ok ⟨a.telling (a.consult (.resume event)).1 (.resume event), (a.respond event).2.wait⟩ := by
  have shows := a.respond_shows event
  unfold respond at shows ⊢
  rcases a.resume_takes event with ⟨_, result, taken⟩ | ⟨unfit, _⟩
  · rw [taken] at shows ⊢
    exact congrArg (fun directives => Except.ok (Output.mk directives _)) shows
  · exact absurd takes unfit

namespace Agree

theorem responds (same : Agree a b) {event : Event}
    (reads : (a.consult (.resume event)).1.map SaveRecord.state =
      (b.consult (.resume event)).1.map SaveRecord.state)
    (waits : (a.respond event).2.wait = (b.respond event).2.wait) :
    (a.respond event).1 = (b.respond event).1 := by
  by_cases takes : a.wait.Takes event
  · rw [respond_fit takes, respond_fit (same.wait ▸ takes), same.telling reads, waits]
  · rw [respond_unfit_eq takes, respond_unfit_eq (same.wait ▸ takes), same.wait]

theorem landing (same : Agree a b) {action : Action} (reads :
    (a.consult action).1.map SaveRecord.state = (b.consult action).1.map SaveRecord.state) :
    a.landing action = b.landing action := by
  unfold Interpreter.landing
  rw [same.course reads, same.land]

/-- Two such games stay such games over an action for which they read the same state, and answer it
alike. -/
theorem act (same : Agree a b) {action : Action} (reads :
    (a.consult action).1.map SaveRecord.state = (b.consult action).1.map SaveRecord.state) :
    (a.act action).1.Alike (b.act action).1 ∧ Agree (a.act action).2 (b.act action).2 := by
  have landing := same.landing reads
  have there : Agree (a.act action).2 (b.act action).2 :=
    same.lands (a.act_comes action).lands (b.act_comes action).lands
      (congrArg Landing.state landing) (congrArg Landing.pending landing)
  refine ⟨?_, there⟩
  cases action with
  | boot | newGame | restart | process id =>
    have shown : (a.act _).1.directives = (b.act _).1.directives :=
      (a.act_shows _).trans ((same.telling reads _).trans (b.act_shows _).symm)
    exact congrArg Reply.shown (congr (congrArg Output.mk shown) there.wait)
  | save slot => exact trivial
  | load slot =>
    refine .of_eq ?_
    rw [a.load_replies, b.load_replies, same.content, same.config]
    obtain ⟨none, none'⟩ | ⟨s, t, t', found, found'⟩ := SaveRecord.same_state reads
    · rw [none, none']
    · rw [found, found']
      rfl
  | resume event =>
    exact .of_eq (congrArg Reply.ofResponse (same.responds reads there.wait))

end Agree

theorem respond_not_savedGame {it : Interpreter σ} (h : it.pending ≠ .savedGame) (event : Event) :
    (it.respond event).2.pending ≠ .savedGame := by
  rw [(it.respond_comes event).lands.pending]
  unfold landing
  rw [consult_resume fun both => h both.1]
  exact land_not_savedGame h (it.courseOf_ne_offers event)

theorem Agree.respond (same : Agree a b) {event : Event}
    (calm : ¬(a.pending = .savedGame ∧ event = .choose 1)) :
    (a.respond event).1 = (b.respond event).1 ∧ Agree (a.respond event).2 (b.respond event).2 := by
  have reads : (a.consult (.resume event)).1.map SaveRecord.state =
      (b.consult (.resume event)).1.map SaveRecord.state := by
    rw [consult_resume calm, consult_resume (same.pending ▸ calm)]
  have there : Agree (a.respond event).2 (b.respond event).2 := (same.act reads).2
  exact ⟨same.responds reads there.wait, there⟩

/-- Two such games are not told apart by any events, whenever these come. -/
theorem Agree.hear (same : Agree a b) (h : a.pending ≠ .savedGame)
    {left right : List (UInt64 × Event)} (events : left.map Prod.snd = right.map Prod.snd) :
    a.hear left = b.hear right := by
  replace events := timed_alike events
  -- on both lists at once; after each event neither game asks about the saved one, so nothing is read
  induction events generalizing a b with
  | nil => rfl
  | @cons first first' left right same' _ ih =>
    obtain ⟨now, event⟩ := first
    obtain ⟨now', event'⟩ := first'
    cases same'
    have waiting : (a.atTime now).pending ≠ .savedGame := h
    obtain ⟨result, after⟩ := (same.atTime now now').respond fun both => waiting both.1
    have others := ih after (respond_not_savedGame waiting event)
    have wait := after.wait
    simp only [Interpreter.hear]
    rw [result, after.state, others]
    exact congrArg (fun wait => (_, _, wait) :: _) wait

end Interpreter
end Storyline
