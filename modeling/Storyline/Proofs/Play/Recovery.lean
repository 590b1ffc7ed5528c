import Storyline.Proofs.Play.Upkeep

/-!
The autosave as the game that is on. While a game waits at a narrative or a choice, the autosave is
the game as it stands, even if a slot shares its key; so a game whose interpreter is lost goes on
from the store alone as if nothing had happened.
-/

namespace Storyline

namespace Interpreter

variable {σ : Type} {entries : Dict String} {it : Interpreter σ}

/-- The autosave is the game as it stands. -/
def Mirrored (entries : Dict String) (it : Interpreter σ) : Prop :=
  it.pending.AtCheckpoint →
    ∃ time, entries.find? it.saves.layout.autosaveKey = some (SaveRecord.encode ⟨it.state, time⟩)

theorem mirrored_consulted (h : it.Mirrored entries) {action : Action} {game : Option SaveRecord}
    (stays : it.course game action = .stays) : it.Mirrored (it.consulted entries action) := by
  intro waits
  cases action with
  | restart => cases stays
  | save slot =>
    simp only [consulted]
    cases known : it.saves.layout.slotKey? slot with
    | none => exact h waits
    | some key =>
      by_cases same : it.saves.layout.autosaveKey = key
      · rw [same]
        exact ⟨it.saves.now, Dict.find?_insert_self entries key _⟩
      · obtain ⟨time, held⟩ := h waits
        exact ⟨time, (Dict.find?_insert_of_ne entries same _).trans held⟩
  | _ => exact h waits

variable [Store σ] {content : Content} {config : Config}

theorem Mirrored.act (h : it.Mirrored entries) (story : content.Savable)
    (steady : Steady content config entries it) (action : Action) :
    (it.act action).2.Mirrored (it.upkept entries action) := by
  intro waits
  have lands := steady.act_lands action
  have layout : (it.act action).2.saves.layout = it.saves.layout :=
    (steady.act story action).layout.trans steady.layout.symm
  rw [lands.pending] at waits
  rw [layout, lands.state]
  unfold upkept
  unfold landingIn at waits ⊢
  rcases course_of_waits waits.atNode with stays | ⟨s, id, goes⟩
  · rw [stays] at waits ⊢
    exact mirrored_consulted h stays waits
  · rw [goes] at waits ⊢
    obtain ⟨p, ends⟩ := Stop.checkpoint_of_pending waits
    have stop : (it.land (.goes s id)).stop = some (.checkpoint p) := congrArg some ends
    unfold Landing.upkeep
    rw [stop]
    exact ⟨it.saves.now, Dict.find?_insert_self _ _ _⟩

theorem mirrored_run (story : content.Savable) (steady : Steady content config entries it)
    (h : it.Mirrored entries) (turns : List Turn) :
    ∃ entries', Steady content config entries' (it.run turns) ∧ (it.run turns).Mirrored entries' := by
  refine run_keeps (I := fun it => ∃ entries, Steady content config entries it ∧ it.Mirrored entries)
    ?_ ⟨entries, steady, h⟩
  rintro it turn _ ⟨entries, steady, h⟩
  have timed := steady.atTime turn.now
  have mirrored : (it.atTime turn.now).Mirrored entries := h
  exact ⟨_, timed.act story turn.action, mirrored.act story timed turn.action⟩

theorem respond_continue (waits : it.pending = .savedGame) :
    ∃ out, (it.respond (.choose 1)).1 = .ok out := by
  unfold respond resume
  rw [waits]
  exact ⟨_, rfl⟩

theorem boot_offers (steady : Steady content config entries it) {game : SaveRecord}
    (held : entries.find? it.saves.layout.autosaveKey = some game.encode)
    (savable : game.state.Savable) : (it.act .boot).2.pending = .savedGame ∧
      it.upkept entries .boot = entries := by
  have found : it.found entries .boot = some game := by
    simp only [Interpreter.found, held]
    exact SaveRecord.ofText?_encode savable
  have ends : it.landingIn entries .boot = it.land .offers := by
    unfold landingIn
    rw [found]
    rfl
  constructor
  · rw [(steady.act_lands .boot).pending, ends]
    rfl
  · unfold upkept
    rw [ends]
    rfl

theorem continue_lands (steady : Steady content config entries it) (waits : it.pending = .savedGame)
    {game : SaveRecord} (held : entries.find? it.saves.layout.autosaveKey = some game.encode)
    (savable : game.state.Savable) {stop : Stop} (rests : content.Rests game.state stop) :
    (it.respond (.choose 1)).2.state = game.state ∧
      (it.respond (.choose 1)).2.pending = stop.pending := by
  have found : it.found entries (.resume (.choose 1)) = some game := by
    simp only [Interpreter.found, held, waits]
    exact SaveRecord.ofText?_encode savable
  have ends : it.landingIn entries (.resume (.choose 1)) = ⟨game.state, stop.pending, some stop⟩ := by
    have recalls : (Action.resume (.choose 1)).Recalls it.pending := ⟨waits, rfl⟩
    unfold landingIn
    rw [found, course_recalls recalls game]
    exact land_course (steady.content.symm ▸ rests)
  have lands := steady.act_lands (.resume (.choose 1))
  rw [ends] at lands
  exact ⟨lands.state, lands.pending⟩

/-- The interpreter of a game that waits at a narrative or a choice is lost, and only its store is
left. A new one finds the game there, and from then on is not told apart from the lost one. -/
theorem continues_after_loss {text : String} (parsed : Content.ofText text = .ok content)
    (numbers : content.Faithful) (config : Config) {store : σ}
    (works : Store.Works config.saves.Uses store)
    (saved : Store.Faithful config.saves.Uses store) (start : UInt64) (turns : List Turn)
    (waits : ((Interpreter.new content config store start).run turns).wait.AtCheckpoint)
    (now later resumption : UInt64) :
    let lost := (Interpreter.new content config store start).run turns
    let booted := ((Interpreter.new content config lost.saves.store now).take ⟨later, .boot⟩).2
    let resumed := (booted.atTime resumption).respond (.choose 1)
    booted.wait = .savedGame ∧ (∃ out, resumed.1 = .ok out) ∧
      resumed.2.state = lost.state ∧ resumed.2.wait = lost.wait ∧
      ∀ left right : List (UInt64 × Event), left.map Prod.snd = right.map Prod.snd →
        resumed.2.hear left = lost.hear right := by
  intro lost booted resumed
  have story := Content.savable_ofText parsed numbers
  obtain ⟨entries, fresh⟩ := steady_of_works story config works saved start
  obtain ⟨entries, steady, mirrored⟩ := mirrored_run story fresh (fun waits => waits.elim) turns
  have checkpoint : lost.pending.AtCheckpoint := Pending.atCheckpoint_wait waits
  obtain ⟨time, held⟩ := mirrored checkpoint
  obtain ⟨stop, pending, rests⟩ := steady.suspended checkpoint.atNode
  have rests : content.Rests lost.state stop := steady.content ▸ rests
  rw [steady.layout] at held
  have again : Steady content config entries
      ((Interpreter.new content config lost.saves.store now).atTime later) :=
    (steady.renewed story now).atTime later
  obtain ⟨offered, unchanged⟩ := boot_offers again held steady.savable
  have offering : Steady content config entries booted := unchanged ▸ again.act story .boot
  have ready := offering.atTime resumption
  have kept : entries.find? (booted.atTime resumption).saves.layout.autosaveKey =
      some (SaveRecord.encode ⟨lost.state, time⟩) := ready.layout ▸ held
  obtain ⟨state, waiting⟩ := continue_lands ready offered kept steady.savable rests
  have stands : resumed.2.pending = lost.pending := waiting.trans pending
  have after : Steady content config _ resumed.2 := ready.act story (.resume (.choose 1))
  refine ⟨congrArg Pending.wait offered, respond_continue offered, state,
    congrArg Pending.wait stands, ?_⟩
  intro left right events
  exact after.hear steady state stands checkpoint.atNode events

theorem continues_after_loss_fork :
    let lost := (Interpreter.new .fork .standard (MemoryStore.mk .empty) 0).run
      [⟨1, .newGame⟩, ⟨2, .resume (.playerName "A")⟩, ⟨3, .resume (.choose 1)⟩]
    let booted := ((Interpreter.new .fork .standard lost.saves.store 4).take ⟨5, .boot⟩).2
    let resumed := (booted.atTime 6).respond (.choose 1)
    lost.wait = .choice 2 ∧ booted.wait = .savedGame ∧ resumed.2.state = lost.state ∧
      resumed.2.wait = .choice 2 ∧ resumed.2.hear [(7, .choose 2)] = lost.hear [(4, .choose 2)] := by
  have waits : ((Interpreter.new .fork .standard (MemoryStore.mk .empty) 0).run
      [⟨1, .newGame⟩, ⟨2, .resume (.playerName "A")⟩, ⟨3, .resume (.choose 1)⟩]).wait = .choice 2 := by
    decide +kernel
  obtain ⟨offered, _, state, wait, future⟩ := continues_after_loss Content.parsed_fork
    Content.faithful_fork .standard (Store.works_memory _ _) (Store.faithful_memory _) 0
    [⟨1, .newGame⟩, ⟨2, .resume (.playerName "A")⟩, ⟨3, .resume (.choose 1)⟩]
    (by rw [waits]; trivial) 4 5 6
  exact ⟨waits, offered, state, wait.trans waits, future [(7, .choose 2)] [(4, .choose 2)] rfl⟩

end Interpreter
end Storyline
