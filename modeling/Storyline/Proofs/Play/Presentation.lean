import Storyline.Proofs.Play.Bare
import Storyline.Proofs.Play.Indifference
import Storyline.Proofs.Play.Suspension
import Storyline.Proofs.Play.Upkeep
import Storyline.Proofs.Saves.Undated

/-!
What is shown has no part in play. Two games whose stories are the same but for words, whose settings
are the same but for timings, and whose stores hold the same games go through the same states, wait
for the same things, take and refuse the same events and save the same games, at whatever times they
are played.
-/

namespace Storyline

def Reply.bare : Reply → Reply
  | shown out => .shown ⟨[], out.wait⟩
  | rejected reason => .rejected reason
  | saved done => .saved done
  | loaded out => .loaded (out.map fun out => ⟨[], out.wait⟩)

def Outcome.bare : Outcome → Outcome
  | replied reply => .replied reply.bare
  | listed slots => .listed (slots.map fun s => (s.1, s.2.map fun info => { info with timestamp := 0 }))

/-- Texts that hold the same states under the keys of saves. -/
def SaveLayout.SameGames (layout : SaveLayout) (entries entries' : Dict String) : Prop :=
  ∀ key, layout.Uses key →
    GameState.ofText? (entries.find? key) = GameState.ofText? (entries'.find? key)

namespace SaveLayout.SameGames

variable {layout : SaveLayout} {entries entries' : Dict String}

theorem insert (h : layout.SameGames entries entries') (key : String) (s : GameState)
    (t t' : UInt64) : layout.SameGames (entries.insert key (SaveRecord.encode ⟨s, t⟩))
      (entries'.insert key (SaveRecord.encode ⟨s, t'⟩)) := by
  intro other used
  rw [Dict.find?_insert, Dict.find?_insert]
  split
  · exact GameState.ofText?_encode s t t'
  · exact h other used

theorem erase (h : layout.SameGames entries entries') (key : String) :
    layout.SameGames (entries.erase key) (entries'.erase key) := by
  intro other used
  rw [Dict.find?_erase, Dict.find?_erase]
  split
  · rfl
  · exact h other used

theorem slot (h : layout.SameGames entries entries') (slot : UInt8) :
    (layout.gameIn entries slot).map SaveRecord.state =
      (layout.gameIn entries' slot).map SaveRecord.state := by
  unfold gameIn
  cases known : layout.slotKey? slot with
  | none => rfl
  | some key => exact h key (.inr ⟨slot, known⟩)

theorem upkeep (h : layout.SameGames entries entries') (landing : Landing) (now now' : UInt64) :
    layout.SameGames (landing.upkeep layout now entries) (landing.upkeep layout now' entries') := by
  unfold Landing.upkeep
  cases landing.stop with
  | none => exact h
  | some stop =>
    cases stop with
    | checkpoint c => exact h.insert _ _ now now'
    | ended => exact h.erase _
    | lost fault => exact h

end SaveLayout.SameGames

namespace Interpreter

variable {σ τ : Type}

/-- Two games of one bare story over stores that hold the same games. -/
structure Kin [Store σ] [Store τ] (a : Interpreter σ) (b : Interpreter τ)
    (entries entries' : Dict String) : Prop where
  bare : Agree a.bare b.bare
  layout : a.saves.layout = b.saves.layout
  left : Store.WorksAs a.saves.layout.Uses a.saves.store entries
  right : Store.WorksAs b.saves.layout.Uses b.saves.store entries'
  games : a.saves.layout.SameGames entries entries'

/-- The states that are saved, each with its key. -/
def saved [Store σ] (it : Interpreter σ) : List (String × Option GameState) :=
  it.saves.layout.keys.map fun key =>
    (key, (Saves.game? (some (it.saves.read key).1)).map SaveRecord.state)

/-- What can be told of a game after a demand by one who looks at nothing that is shown. -/
structure Footprint where
  outcome : Outcome
  state : GameState
  wait : Wait
  saved : List (String × Option GameState)

def footprints [Store σ] (it : Interpreter σ) : List (UInt64 × Demand) → List Footprint
  | [] => []
  | (now, demand) :: rest =>
    let served := (it.atTime now).serve demand
    ⟨served.1.bare, served.2.state, served.2.wait, served.2.saved⟩ :: served.2.footprints rest

variable [Store σ] [Store τ] {a : Interpreter σ} {b : Interpreter τ} {entries entries' : Dict String}

theorem save_replies (works : Store.WorksAs a.saves.layout.Uses a.saves.store entries) (slot : UInt8) :
    (a.act (.save slot)).1 = .saved (a.saves.layout.slotKey? slot).isSome := by
  simp only [Interpreter.act, saveTo, Saves.saveTo]
  cases known : a.saves.layout.slotKey? slot with
  | none => rfl
  | some key =>
    obtain ⟨done, _⟩ := Saves.write_works works (.inr ⟨slot, known⟩) a.state
    simp only [done]
    rfl

/-- What is loaded is known, but for what is shown, by whether there is a game to load. -/
theorem bare_load (it : Interpreter σ) (slot : UInt8) : (it.act (.load slot)).1.bare =
    .loaded ((it.consult (.load slot)).1.map fun _ => ⟨[], (it.act (.load slot)).2.wait⟩) := by
  have waits : ∀ out, (it.act (.load slot)).1.output? = some out →
      out.wait = (it.act (.load slot)).2.wait := fun _ shown => it.act_output (.load slot) shown
  rw [it.load_replies] at waits ⊢
  cases found : (it.consult (.load slot)).1 with
  | none => rfl
  | some game =>
    rw [found] at waits
    exact congrArg (fun wait => Reply.loaded (some ⟨[], wait⟩)) (waits _ rfl)

theorem bare_slots {it : Interpreter σ}
    (works : Store.WorksAs it.saves.layout.Uses it.saves.store entries) :
    (Outcome.listed it.slots.1).bare = .listed (it.saves.layout.slots.map fun slot =>
        (slot, ((it.saves.layout.gameIn entries slot).map SaveRecord.state).map
          fun s => SaveRecord.info ⟨s, 0⟩)) ∧
      Store.WorksAs it.saves.layout.Uses it.slots.2.saves.store entries ∧
      it.slots.2.saves.layout = it.saves.layout := by
  obtain ⟨found, kept, layout⟩ := Saves.loadEach_works works it.saves.layout.slots
  have lands := it.slots_lands
  refine ⟨?_, ?_, ?_⟩
  · have listed := congrArg
      (List.map fun r => (r.1, r.2.map fun r => SaveRecord.info ⟨r.state, 0⟩)) found
    rw [List.map_map, List.map_map] at listed
    simp only [Outcome.bare, Interpreter.slots, List.map_map, Option.map_map, Function.comp_def]
      at listed ⊢
    exact congrArg Outcome.listed listed
  · rw [lands.saves]
    exact kept
  · rw [lands.saves]
    exact layout

namespace Kin

theorem atTime (kin : Kin a b entries entries') (now now' : UInt64) :
    Kin (a.atTime now) (b.atTime now') entries entries' :=
  ⟨kin.bare.atTime now now', kin.layout, kin.left, kin.right, kin.games⟩

theorem wait (kin : Kin a b entries entries') : a.wait = b.wait := kin.bare.wait

theorem found (kin : Kin a b entries entries') (action : Action) :
    (a.found entries action).map SaveRecord.state =
      (b.found entries' action).map SaveRecord.state := by
  have autosave := kin.games a.saves.layout.autosaveKey (.inl rfl)
  have pending : a.pending = b.pending := kin.bare.pending
  unfold Interpreter.found
  rw [← kin.layout, ← pending]
  cases action with
  | boot => exact autosave
  | resume event =>
    by_cases asked : a.pending = .savedGame ∧ event = .choose 1
    · simp only [if_pos asked]
      exact autosave
    · simp only [if_neg asked]
  | load slot => exact kin.games.slot slot
  | _ => rfl

theorem landingIn (kin : Kin a b entries entries') (action : Action) :
    a.landingIn entries action = b.landingIn entries' action := by
  unfold Interpreter.landingIn
  -- the course and its end are those of the bare stories, which are one story
  rw [← a.course_bare, ← b.course_bare, kin.bare.course (kin.found action), ← a.land_bare,
    kin.bare.land, b.land_bare]

theorem consulted (kin : Kin a b entries entries') (action : Action) :
    a.saves.layout.SameGames (a.consulted entries action) (b.consulted entries' action) := by
  have state : a.state = b.state := kin.bare.state
  unfold Interpreter.consulted
  rw [← kin.layout, ← state]
  cases action with
  | restart => exact kin.games.erase _
  | save slot =>
    dsimp only
    cases a.saves.layout.slotKey? slot with
    | none => exact kin.games
    | some key => exact kin.games.insert key a.state _ _
  | _ => exact kin.games

theorem upkept (kin : Kin a b entries entries') (action : Action) :
    a.saves.layout.SameGames (a.upkept entries action) (b.upkept entries' action) := by
  unfold Interpreter.upkept
  rw [← kin.layout, ← kin.landingIn action]
  exact (kin.consulted action).upkeep _ _ _

theorem act (kin : Kin a b entries entries') (action : Action) :
    Kin (a.act action).2 (b.act action).2 (a.upkept entries action) (b.upkept entries' action) := by
  obtain ⟨lands, works, layout⟩ := act_works kin.left action
  obtain ⟨lands', works', layout'⟩ := act_works kin.right action
  have ends := kin.landingIn action
  constructor
  · exact kin.bare.lands lands.bare lands'.bare (congrArg Landing.state ends)
      (congrArg Landing.pending ends)
  · exact layout.trans (kin.layout.trans layout'.symm)
  · rwa [layout]
  · rwa [layout']
  · rw [layout]
    exact kin.upkept action

theorem replies (kin : Kin a b entries entries') (action : Action) :
    (a.act action).1.bare = (b.act action).1.bare := by
  have wait : (a.act action).2.wait = (b.act action).2.wait := (kin.act action).wait
  cases action with
  | boot | newGame | restart | process id => exact congrArg (fun wait => Reply.shown ⟨[], wait⟩) wait
  | resume event =>
    show (Reply.ofResponse (a.respond event).1).bare = (Reply.ofResponse (b.respond event).1).bare
    by_cases takes : a.wait.Takes event
    · rw [respond_fit takes, respond_fit (kin.wait ▸ takes)]
      exact congrArg (fun wait => Reply.shown ⟨[], wait⟩) wait
    · rw [respond_unfit_eq takes, respond_unfit_eq (kin.wait ▸ takes), kin.wait]
  | save slot => rw [save_replies kin.left, save_replies kin.right, kin.layout]
  | load slot =>
    have found := kin.found (.load slot)
    rw [← (consult_works kin.left _).1, ← (consult_works kin.right _).1] at found
    rw [bare_load, bare_load, wait]
    obtain ⟨none, none'⟩ | ⟨s, t, t', some, some'⟩ := SaveRecord.same_state found
    · rw [none, none']
    · rw [some, some']
      rfl

theorem slots (kin : Kin a b entries entries') :
    (Outcome.listed a.slots.1).bare = (Outcome.listed b.slots.1).bare ∧
      Kin a.slots.2 b.slots.2 entries entries' := by
  obtain ⟨listed, works, layout⟩ := bare_slots kin.left
  obtain ⟨listed', works', layout'⟩ := bare_slots kin.right
  have lands := a.slots_lands
  have lands' := b.slots_lands
  refine ⟨?_, ⟨kin.bare.lands lands.bare lands'.bare kin.bare.state kin.bare.pending,
    layout.trans (kin.layout.trans layout'.symm), ?_, ?_, ?_⟩⟩
  · rw [listed, listed', ← kin.layout]
    refine congrArg Outcome.listed (List.map_congr_left fun slot _ => ?_)
    rw [kin.games.slot slot]
  · rwa [layout]
  · rwa [layout']
  · rw [layout]
    exact kin.games

theorem serve (kin : Kin a b entries entries') (demand : Demand) :
    (a.serve demand).1.bare = (b.serve demand).1.bare ∧
      ∃ texts texts', Kin (a.serve demand).2 (b.serve demand).2 texts texts' := by
  cases demand with
  | act action => exact ⟨congrArg Outcome.replied (kin.replies action), _, _, kin.act action⟩
  | slots => exact ⟨kin.slots.1, _, _, kin.slots.2⟩

theorem saved (kin : Kin a b entries entries') : a.saved = b.saved := by
  unfold Interpreter.saved
  rw [← kin.layout]
  refine List.map_congr_left fun key member => ?_
  have used := SaveLayout.mem_keys.mp member
  have left := (Saves.read_works kin.left used).1
  have right := (Saves.read_works kin.right (kin.layout ▸ used)).1
  rw [left, right]
  exact congrArg (key, ·) (kin.games key used)

theorem footprints (kin : Kin a b entries entries') {left right : List (UInt64 × Demand)}
    (demands : left.map Prod.snd = right.map Prod.snd) : a.footprints left = b.footprints right := by
  replace demands := timed_alike demands
  induction demands generalizing a b entries entries' with
  | nil => rfl
  | @cons first first' left right same _ ih =>
    obtain ⟨now, demand⟩ := first
    obtain ⟨now', demand'⟩ := first'
    cases same
    obtain ⟨outcome, _, _, after⟩ := (kin.atTime now now').serve demand
    have state : ((a.atTime now).serve demand).2.state = ((b.atTime now').serve demand).2.state :=
      after.bare.state
    simp only [Interpreter.footprints]
    rw [outcome, state, after.wait, after.saved, ih after]

end Kin

/-- Two games of stories that differ in words only, under settings that differ in timings only, over
stores that work and have the same texts, are asked the same, at any times. Every demand comes to the
same, up to what is shown and the times of saving: it is taken or refused alike, and leaves the same
state, the same wait and the same states saved under the same keys. -/
theorem plays_whatever_is_shown {content content' : Content} {config config' : Config} {store : σ}
    {store' : τ} (story : content.bare = content'.bare) (settings : config.instant = config'.instant)
    (works : Store.WorksAs config.saves.Uses store entries)
    (works' : Store.WorksAs config.saves.Uses store' entries) (start start' : UInt64)
    {left right : List (UInt64 × Demand)} (demands : left.map Prod.snd = right.map Prod.snd) :
    (Interpreter.new content config store start).footprints left =
      (Interpreter.new content' config' store' start').footprints right := by
  have layout : config.saves = config'.saves := by
    show config.instant.saves = config'.instant.saves
    rw [settings]
  have right : Store.WorksAs config'.saves.Uses store' entries := layout ▸ works'
  have fresh : freshState content = freshState content' := by
    rw [← freshState_bare content, story, freshState_bare]
  have kin : Kin (Interpreter.new content config store start)
      (Interpreter.new content' config' store' start') entries entries :=
    ⟨⟨story, settings, fresh, rfl⟩, layout, works, right, fun _ _ => rfl⟩
  exact kin.footprints demands

/-- A story in other words, by a host whom nobody knows. -/
def retold : Content where
  titles := ⟨"[Retold]", "", some "RETOLD", 2⟩
  nodes := Dict.ofList [
    ("fork", ((Node.choice "Will you, {player_name}?" [
      ⟨"[I will]", some "So be it.", some Content.fork.mood, some "mood"⟩,
      ⟨"", none, none, some "end"⟩]).onDay 2 1).spokenBy "deej"),
    ("mood", .branch ⟨.flag "mood", "fork", "end"⟩),
    ("end", .ending "")]
  cast := ⟨[], .empty⟩
  template := Content.fork.template

theorem plays_whatever_is_shown_retold :
    let settings : Config := { Config.standard with timing := .instant }
    let demands : List (UInt64 × Demand) := [(1, .act .boot), (2, .act (.resume (.playerName "A"))),
      (3, .act (.resume (.choose 3))), (4, .act (.resume (.choose 1))), (5, .act (.save 1)), (6, .slots),
      (7, .act (.resume (.choose 2))), (8, .act (.load 1))]
    let hurried := demands.map fun demand => (5, demand.2)
    let told := Interpreter.new .fork .standard (MemoryStore.mk .empty) 0
    let other := Interpreter.new retold settings (MemoryStore.mk .empty) 5
    told.content ≠ other.content ∧
    ((told.footprints demands).map Footprint.wait).take 5 =
      [.playerName, .choice 2, .choice 2, .choice 2, .choice 2] ∧
    told.footprints demands = other.footprints hurried := by
  intro settings demands hurried told other
  have story : Content.fork.bare = retold.bare := by decide +kernel
  have timings : Config.standard.instant = settings.instant := rfl
  have asked : demands.map Prod.snd = hurried.map Prod.snd := rfl
  have works := Store.worksAs_memory Config.standard.saves.Uses .empty
  exact ⟨by decide +kernel, by decide +kernel,
    plays_whatever_is_shown story timings works works 0 5 asked⟩

end Interpreter
end Storyline
