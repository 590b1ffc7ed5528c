import Storyline.Proofs.Play.Upkeep

/-!
The law of the autosave. What is under its key is told by the last thing that happened to a game:
whether it came to a narrative or a choice, came to an ending, or was restarted. Where the slots have
other keys, nothing else that is asked of an interpreter touches it.
-/

namespace Storyline

/-- What last happened to a game that matters to the autosave. -/
inductive Mark
  | untouched
  | entered (s : GameState)
  /-- It entered an ending, or was restarted. -/
  | gone

namespace Mark

def passing (mark : Mark) : Action → Mark
  | .restart => .gone
  | _ => mark

def next (mark : Mark) (landing : Landing) (action : Action) : Mark :=
  match landing.stop with
  | some (.checkpoint _) => .entered landing.state
  | some .ended => .gone
  | _ => mark.passing action

/-- What a mark says of the text under the key of the autosave; `first` is what was there at first. -/
def Shows (mark : Mark) (first found : Except StoreError (Option String)) : Prop :=
  match mark with
  | untouched => found = first
  | entered s => ∃ text time, found = .ok (some text) ∧ SaveRecord.decode text = .ok ⟨s, time⟩
  | gone => found = .ok none

/-- The same of the texts in a store that works. -/
def Fits (mark : Mark) (first held : Option String) : Prop :=
  match mark with
  | untouched => held = first
  | entered s => s.Savable ∧ ∃ time, held = some (SaveRecord.encode ⟨s, time⟩)
  | gone => held = none

theorem Fits.shows {mark : Mark} {first held : Option String} (h : mark.Fits first held) :
    mark.Shows (.ok first) (.ok held) := by
  cases mark with
  | untouched => exact congrArg Except.ok h
  | entered s =>
    obtain ⟨savable, time, rfl⟩ := h
    exact ⟨_, time, rfl, SaveRecord.decode_encode savable.storable savable.faithful⟩
  | gone => exact congrArg Except.ok h

/-- The mark agrees with what the game waits for, and in which state. -/
structure Agrees (mark : Mark) (s : GameState) (p : Pending) : Prop where
  checkpoint : p.AtCheckpoint → mark = .entered s
  ending : p = .restart → mark = .gone

theorem agrees_walk (mark : Mark) {s : GameState} {stop : Stop} (action : Action) :
    (mark.next ⟨s, stop.pending, some stop⟩ action).Agrees s stop.pending := by
  cases stop with
  | checkpoint c =>
    refine ⟨fun _ => rfl, ?_⟩
    cases c <;> exact nofun
  | ended => exact ⟨fun waits => waits.elim, fun _ => rfl⟩
  | lost fault => exact ⟨fun waits => waits.elim, nofun⟩

end Mark

namespace Interpreter

variable {σ : Type} {entries : Dict String} {it : Interpreter σ}

theorem fits_passing (apart : it.saves.layout.Apart) {mark : Mark} {first : Option String}
    (fits : mark.Fits first (entries.find? it.saves.layout.autosaveKey)) (action : Action) :
    (mark.passing action).Fits first
      ((it.consulted entries action).find? it.saves.layout.autosaveKey) := by
  cases action with
  | restart => exact Dict.find?_erase_self entries _
  | save slot =>
    simp only [consulted]
    cases known : it.saves.layout.slotKey? slot with
    | none => exact fits
    | some key =>
      have different : it.saves.layout.autosaveKey ≠ key := by
        rintro rfl
        exact apart slot known
      rw [Dict.find?_insert_of_ne entries different]
      exact fits
  | _ => exact fits

variable [Store σ] {content : Content} {config : Config}

def markAfter (it : Interpreter σ) (mark : Mark) : List Turn → Mark
  | [] => mark
  | turn :: turns =>
    (it.take turn).2.markAfter
      (mark.next ((it.atTime turn.now).landing turn.action) turn.action) turns

theorem Steady.landing_eq (h : Steady content config entries it) (action : Action) :
    it.landing action = it.landingIn entries action := by
  unfold landing landingIn
  rw [(consult_works h.keeps.works action).1]

theorem fits_next (steady : Steady content config entries it) (story : content.Savable)
    (apart : config.saves.Apart) {mark : Mark} {first : Option String}
    (fits : mark.Fits first (entries.find? config.saves.autosaveKey)) (action : Action) :
    (mark.next (it.landing action) action).Fits first
      ((it.upkept entries action).find? config.saves.autosaveKey) := by
  have savable : (it.landingIn entries action).state.Savable :=
    (steady.act_lands action).state ▸ (steady.act story action).savable
  rw [steady.landing_eq]
  rw [← steady.layout] at apart fits ⊢
  have passing := fits_passing apart fits action
  unfold upkept Landing.upkeep Mark.next
  cases ends : (it.landingIn entries action).stop with
  | none => exact passing
  | some stop =>
    cases stop with
    | checkpoint p => exact ⟨savable, it.saves.now, Dict.find?_insert_self _ _ _⟩
    | ended => exact Dict.find?_erase_self _ _
    | lost fault => exact passing

theorem agrees_next {mark : Mark} (h : mark.Agrees it.state it.pending) (action : Action) :
    (mark.next (it.landing action) action).Agrees (it.landing action).state
      (it.landing action).pending := by
  unfold landing
  cases leads : it.course (it.consult action).1 action with
  | stays =>
    have unmarked : mark.next (it.land .stays) action = mark := by
      cases action with
      | restart => cases leads
      | _ => rfl
    rw [unmarked]
    exact h
  | begins => exact ⟨fun waits => waits.elim, nofun⟩
  | offers => exact ⟨fun waits => waits.elim, nofun⟩
  | halts s fault => exact ⟨fun waits => waits.elim, nofun⟩
  | goes s id => exact mark.agrees_walk action

theorem fits_run (story : content.Savable) (apart : config.saves.Apart) {first : Option String}
    (steady : Steady content config entries it) {mark : Mark}
    (fits : mark.Fits first (entries.find? config.saves.autosaveKey))
    (agrees : mark.Agrees it.state it.pending) (turns : List Turn) :
    ∃ entries', Steady content config entries' (it.run turns) ∧
      (it.markAfter mark turns).Fits first (entries'.find? config.saves.autosaveKey) ∧
      (it.markAfter mark turns).Agrees (it.run turns).state (it.run turns).pending := by
  induction turns generalizing it mark entries with
  | nil => exact ⟨entries, steady, fits, agrees⟩
  | cons turn turns ih =>
    have timed := steady.atTime turn.now
    have lands := ((it.atTime turn.now).act_comes turn.action).lands
    have agreed : mark.Agrees (it.atTime turn.now).state (it.atTime turn.now).pending := agrees
    have after := agrees_next agreed turn.action
    rw [← lands.state, ← lands.pending] at after
    exact ih (timed.act story turn.action) (fits_next timed story apart fits turn.action) after

/-- The law of the autosave, for every run: the mark tells what is under its key; a game that waits
at a narrative or a choice is there as it stands, and one that has ended is not there. -/
theorem autosave_law {text : String} (parsed : Content.ofText text = .ok content)
    (numbers : content.Faithful) (config : Config) (apart : config.saves.Apart) {store : σ}
    (works : Store.Works config.saves.Uses store)
    (saved : Store.Faithful config.saves.Uses store) (start : UInt64) (turns : List Turn) :
    let it := (Interpreter.new content config store start).run turns
    let mark := (Interpreter.new content config store start).markAfter .untouched turns
    let autosave := fun s : σ => (Store.get config.saves.autosaveKey s).1
    mark.Shows (autosave store) (autosave it.saves.store) ∧
      (it.wait.AtCheckpoint → ∃ text time, autosave it.saves.store = .ok (some text) ∧
        SaveRecord.decode text = .ok ⟨it.state, time⟩) ∧
      (it.wait = .restart → autosave it.saves.store = .ok none) := by
  intro it mark autosave
  have story := Content.savable_ofText parsed numbers
  obtain ⟨entries, fresh⟩ := steady_of_works story config works saved start
  have untouched : Mark.untouched.Fits (entries.find? config.saves.autosaveKey)
      (entries.find? config.saves.autosaveKey) := rfl
  have idle : Mark.untouched.Agrees (Interpreter.new content config store start).state .halted :=
    ⟨fun waits => waits.elim, nofun⟩
  obtain ⟨entries', steady, fits, agrees⟩ := fits_run story apart fresh untouched idle turns
  have key : config.saves.Uses config.saves.autosaveKey := .inl rfl
  have first : autosave store = .ok (entries.find? config.saves.autosaveKey) := (fresh.keeps.works.get key).1
  have now : autosave it.saves.store = .ok (entries'.find? config.saves.autosaveKey) :=
    (steady.keeps.works.get (steady.layout ▸ key)).1
  have shows : mark.Shows (autosave store) (autosave it.saves.store) := by
    rw [first, now]
    exact fits.shows
  refine ⟨shows, ?_, ?_⟩
  · intro waits
    have entered : mark = .entered it.state := agrees.checkpoint (Pending.atCheckpoint_wait waits)
    rw [entered] at shows
    exact shows
  · intro waits
    have gone : mark = .gone := agrees.ending (Pending.restart_of_wait waits)
    rw [gone] at shows
    exact shows

theorem autosave_law_fork :
    let it := (Interpreter.new .fork .standard (MemoryStore.mk .empty) 0).run
      [⟨1, .newGame⟩, ⟨2, .resume (.playerName "A")⟩, ⟨3, .resume (.choose 1)⟩]
    let ended := it.run [⟨4, .resume (.choose 2)⟩]
    let autosave := fun s : MemoryStore => (Store.get "c2s_autosave" s).1
    it.wait = .choice 2 ∧ ended.wait = .restart ∧
      (∃ text time, autosave it.saves.store = .ok (some text) ∧
        SaveRecord.decode text = .ok ⟨it.state, time⟩) ∧
      autosave ended.saves.store = .ok none := by
  intro it ended autosave
  have waits : it.wait = .choice 2 := by decide +kernel
  have restarts : ended.wait = .restart := by decide +kernel
  have law := fun turns => autosave_law Content.parsed_fork Content.faithful_fork .standard
    SaveLayout.apart_standard (Store.works_memory _ _) (Store.faithful_memory _) 0 turns
  obtain ⟨_, checkpoint, _⟩ := law [⟨1, .newGame⟩, ⟨2, .resume (.playerName "A")⟩,
    ⟨3, .resume (.choose 1)⟩]
  obtain ⟨_, _, ending⟩ := law [⟨1, .newGame⟩, ⟨2, .resume (.playerName "A")⟩,
    ⟨3, .resume (.choose 1)⟩, ⟨4, .resume (.choose 2)⟩]
  exact ⟨waits, restarts, checkpoint (waits ▸ trivial), ending restarts⟩

end Interpreter
end Storyline
