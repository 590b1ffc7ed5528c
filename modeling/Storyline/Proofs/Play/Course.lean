import Storyline.Proofs.Play.Walk

/-!
What every action comes to. An action first consults the saves, then takes a course that depends on
the state, on what is pending and on the game that was found, and at the end of its way settles the
autosave. All that is said later of actions is said of these three parts.
-/

namespace Storyline

inductive Course
  | stays
  | begins
  | offers
  | halts (s : GameState) (fault : Option ContentFault)
  | goes (s : GameState) (id : String)

/-- The end of a course: the state, what is pending in it, and how a way through the story ended if
one was gone. -/
structure Landing where
  state : GameState
  pending : Pending
  stop : Option Stop

namespace Landing

def fault (landing : Landing) : Option ContentFault := landing.stop.bind Stop.fault

def settle {σ : Type} [Store σ] (landing : Landing) (saves : Saves σ) : Saves σ :=
  match landing.stop with
  | some stop => stop.settle landing.state saves
  | none => saves

end Landing

def SaveRecord.course (game : SaveRecord) : Course := .goes game.state game.state.currentNode

def Choice.outcome (c : Choice) (s : GameState) : GameState :=
  ((c.effects.map Effects.apply).getD fun s => s) s

theorem Choice.outcome_keeps {P : GameState → Prop} {c : Choice} {s : GameState} (h : P s)
    (applied : ∀ e, c.effects = some e → P (e.apply s)) : P (c.outcome s) := by
  unfold outcome
  cases given : c.effects with
  | none => exact h
  | some e => exact applied e given

def Choice.course (c : Choice) (s : GameState) : Course :=
  match c.next with
  | some next => .goes (c.outcome s) next
  | none => .halts (c.outcome s) none

/-- Whether the event is of the kind that is waited for. -/
def Pending.Awaits : Pending → Event → Prop
  | playerName, .playerName _ | advance _, .advance | choice .., .choose _ | savedGame, .choose _
  | restart, .choose _ => True
  | _, _ => False

namespace Interpreter

variable {σ : Type}

def named (it : Interpreter σ) (name : String) : Course :=
  if name.isEmpty then .stays else .goes { it.state with playerName := name } it.state.currentNode

def courseOf (it : Interpreter σ) (game : Option SaveRecord) (event : Event) : Course :=
  match it.pending, event with
  | .playerName, .playerName name => it.named (Text.uppercase (Text.trim name))
  | .advance next, .advance =>
    match next with
    | some next => .goes it.state next
    | none => .halts it.state none
  | .choice id count, .choose index =>
    if inRange index count then
      match option? it.content id index with
      | some c => c.course it.state
      | none => .halts it.state (some (.missingChoice index id))
    else .stays
  | .savedGame, .choose index =>
    if index = 1 then (game.map SaveRecord.course).getD .begins
    else if index = 2 then .begins
    else .stays
  | .restart, .choose index => if inRange index 1 then .begins else .stays
  | _, _ => .stays

/-- The course that an action takes; `game` is the saved game that it found, if it looked for one. -/
def course (it : Interpreter σ) (game : Option SaveRecord) : Action → Course
  | .boot => if game.isSome then .offers else .begins
  | .newGame | .restart => .begins
  | .resume event => it.courseOf game event
  | .process id => .goes it.state id
  | .save _ => .stays
  | .load _ => (game.map SaveRecord.course).getD .stays

def land (it : Interpreter σ) : Course → Landing
  | .stays => ⟨it.state, it.pending, none⟩
  | .begins => ⟨freshState it.content, .playerName, none⟩
  | .offers => ⟨it.state, .savedGame, none⟩
  | .halts s fault => ⟨s, .halted, fault.map .lost⟩
  | .goes s id =>
    let way := it.content.walk s id it.config.hopLimit
    ⟨way.1, way.2.pending, some way.2⟩

theorem errorsIn_text (o : Option String) (f : String → String) (style : TextStyle) :
    errorsIn (o.map fun text => Directive.displayText (f text) style).toList = [] := by
  cases o <;> rfl

theorem intro_quiet (it : Interpreter σ) : errorsIn it.intro = [] := by
  have logo := errorsIn_text it.content.titles.logo id .logo
  have opening : errorsIn ([.clearChoices, .clearOutput] ++
      (it.content.titles.logo.map fun logo => Directive.displayText logo .logo).toList) = [] :=
    (errorsIn_append _ _).trans (congrArg ([] ++ ·) logo)
  exact (errorsIn_append _ _).trans (congrArg (· ++ []) opening)

theorem noteLoad_fields (it : Interpreter σ) (slot : UInt8) (saves : Saves σ)
    (result : Option (Except SaveError (Option SaveRecord))) :
    Lands it saves it.state it.pending ({ it with saves }.noteLoad slot result) := by
  rcases result with _ | _ | _ <;> exact ⟨rfl, rfl, rfl, rfl, rfl⟩

variable [Store σ]

/-- What an action does to the saves before it takes its course, and the game that it finds. -/
def consult (it : Interpreter σ) : Action → Option SaveRecord × Saves σ
  | .boot => (Saves.game? (some it.saves.loadAutosave.1), it.saves.loadAutosave.2)
  | .restart => (none, it.saves.clearAutosave.2)
  | .resume event =>
    if it.pending = .savedGame ∧ event = .choose 1 then
      (Saves.game? (some it.saves.loadAutosave.1), it.saves.loadAutosave.2)
    else (none, it.saves)
  | .save slot => (none, (it.saves.saveTo slot it.state).2)
  | .load slot => (Saves.game? (it.saves.loadFrom slot).1, (it.saves.loadFrom slot).2)
  | _ => (none, it.saves)

def landing (it : Interpreter σ) (action : Action) : Landing :=
  it.land (it.course (it.consult action).1 action)

/-- The errors are those of the way that was gone, and the game stands at its end. -/
structure Comes (it : Interpreter σ) (saves : Saves σ) (landing : Landing)
    (errors : List String) (it' : Interpreter σ) : Prop where
  errors : errors = ContentFault.messages landing.fault
  lands : Lands it (landing.settle saves) landing.state landing.pending it'

variable {before it : Interpreter σ} {saves : Saves σ} {state : GameState} {pending : Pending}

theorem goTo_comes (here : Lands before saves state pending it) (id : String) :
    Comes before saves (before.land (.goes state id)) (errorsIn (it.goTo id).1) (it.goTo id).2 := by
  obtain ⟨errors, there⟩ := it.enter_arrives id it.config.hopLimit
  rw [here.content, here.config, here.state] at errors there
  rw [here.saves] at there
  unfold goTo
  rw [here.config]
  exact ⟨errors, there.content.trans here.content, there.config.trans here.config, there.saves,
    there.state, there.pending⟩

theorem goToAfter_comes (here : Lands before saves state pending it) {first : List Directive}
    (quiet : errorsIn first = []) (id : String) :
    Comes before saves (before.land (.goes state id)) (errorsIn (it.goToAfter first id).1)
      (it.goToAfter first id).2 := by
  obtain ⟨errors, there⟩ := goTo_comes here id
  refine ⟨?_, there⟩
  have joined : errorsIn (it.goToAfter first id).1 = errorsIn first ++ errorsIn (it.goTo id).1 :=
    errorsIn_append first _
  rw [joined, quiet]
  exact errors

theorem startNewGame_comes (here : Lands before saves state pending it) :
    Comes before saves (before.land .begins) (errorsIn it.startNewGame.1) it.startNewGame.2 :=
  ⟨intro_quiet _, here.content, here.config, here.saves, congrArg freshState here.content, rfl⟩

theorem resumeGame_comes (here : Lands before saves state pending it) (game : SaveRecord) :
    Comes before saves (before.land game.course) (errorsIn (it.resumeGame game).1)
      (it.resumeGame game).2 := by
  have taken : Lands before saves game.state pending
      ({ it with state := game.state }.note (.gameLoaded game.timestamp game.state.currentNode)) :=
    ⟨here.content, here.config, here.saves, rfl, here.pending⟩
  exact goToAfter_comes taken rfl game.state.currentNode

theorem loadAutosave_lands (it : Interpreter σ) :
    it.loadAutosave.1 = Saves.game? (some it.saves.loadAutosave.1) ∧
      Lands it it.saves.loadAutosave.2 it.state it.pending it.loadAutosave.2 := by
  obtain ⟨content, config, saves, state, pending⟩ := noteFailure_fields
    { it with saves := it.saves.loadAutosave.2 } .loadAutosave it.saves.loadAutosave.1
  exact ⟨rfl, content, config, saves, state, pending⟩

theorem boot_comes (it : Interpreter σ) :
    Comes it (it.consult .boot).2 (it.landing .boot) (errorsIn it.boot.1) it.boot.2 := by
  obtain ⟨found, here⟩ := it.loadAutosave_lands
  unfold boot landing course consult
  rw [← found]
  cases loaded : it.loadAutosave with
  | mk game it' =>
    rw [loaded] at here
    cases game with
    | some game => exact ⟨rfl, here.content, here.config, here.saves, here.state, rfl⟩
    | none => exact startNewGame_comes here

theorem continueSavedGame_comes (it : Interpreter σ) :
    Comes it it.saves.loadAutosave.2
      (it.land (((Saves.game? (some it.saves.loadAutosave.1)).map SaveRecord.course).getD .begins))
      (errorsIn it.continueSavedGame.1) it.continueSavedGame.2 := by
  obtain ⟨found, here⟩ := it.loadAutosave_lands
  unfold continueSavedGame
  rw [← found]
  cases loaded : it.loadAutosave with
  | mk game it' =>
    rw [loaded] at here
    cases game with
    | some game => exact resumeGame_comes here game
    | none =>
      have noted : Lands it it.saves.loadAutosave.2 it.state it.pending (it'.note .autosaveGone) :=
        ⟨here.content, here.config, here.saves, here.state, here.pending⟩
      exact startNewGame_comes noted

theorem choose_comes (it : Interpreter σ) (id : String) (index : Nat) :
    Comes it it.saves
      (it.land (match option? it.content id index with
        | some c => c.course it.state
        | none => .halts it.state (some (.missingChoice index id))))
      (errorsIn (it.choose id index).1) (it.choose id index).2 := by
  unfold choose
  cases option? it.content id index with
  | none => exact ⟨rfl, rfl, rfl, rfl, rfl, rfl⟩
  | some c =>
    have quiet : errorsIn (c.response.map fun text =>
        Directive.displayText (Text.substitute it.state text) .response).toList = [] :=
      errorsIn_text c.response _ .response
    simp only [Choice.course]
    cases c.next with
    | none => exact ⟨quiet, rfl, rfl, rfl, rfl, rfl⟩
    | some next =>
      have here : Lands it it.saves (c.outcome it.state) it.pending
          { it.note (.chosen id index c.text) with state := c.outcome it.state } :=
        ⟨rfl, rfl, rfl, rfl, rfl⟩
      exact goToAfter_comes here ((errorsIn_append _ _).trans (congrArg (· ++ []) quiet)) next

theorem respond_taken {event : Event} {result : List Directive × Interpreter σ}
    (taken : it.resume event = .ok result) {landing : Landing}
    (h : Comes it saves landing (errorsIn result.1) result.2) :
    Comes it saves landing (Reply.ofResponse (it.respond event).1).errors (it.respond event).2 := by
  unfold respond
  rw [taken]
  exact h

theorem respond_refused {event : Event} {reason : Rejection}
    (refused : it.resume event = .error reason) :
    Comes it it.saves (it.land .stays) (Reply.ofResponse (it.respond event).1).errors
      (it.respond event).2 := by
  unfold respond
  rw [refused]
  exact ⟨rfl, rfl, rfl, rfl, rfl, rfl⟩

theorem consult_resume {event : Event} (h : ¬(it.pending = .savedGame ∧ event = .choose 1)) :
    it.consult (.resume event) = (none, it.saves) := if_neg h

theorem consult_calm (waits : it.pending = pending) (calm : pending ≠ .savedGame) (event : Event) :
    it.consult (.resume event) = (none, it.saves) :=
  consult_resume fun both => calm (waits.symm.trans both.1)

theorem respond_unfit {event : Event} (waits : it.pending = pending)
    (unfit : ¬pending.Awaits event) :
    Comes it (it.consult (.resume event)).2 (it.landing (.resume event))
      (Reply.ofResponse (it.respond event).1).errors (it.respond event).2 := by
  have calm : ¬(it.pending = .savedGame ∧ event = .choose 1) := by
    rintro ⟨saved, rfl⟩
    cases waits.symm.trans saved
    exact unfit True.intro
  have refused : ∃ reason, it.resume event = .error reason := by
    unfold resume
    rw [waits]
    cases pending <;> cases event <;> first | exact (unfit True.intro).elim | exact ⟨_, rfl⟩
  have leads : it.courseOf none event = .stays := by
    unfold courseOf
    rw [waits]
    cases pending <;> cases event <;> first | exact (unfit True.intro).elim | rfl
  have ends : it.landing (.resume event) = it.land .stays := by
    unfold landing
    rw [consult_resume calm]
    exact congrArg it.land leads
  obtain ⟨reason, refused⟩ := refused
  rw [ends, consult_resume calm]
  exact respond_refused refused

theorem respond_playerName (waits : it.pending = .playerName) (name : String) :
    Comes it (it.consult (.resume (.playerName name))).2 (it.landing (.resume (.playerName name)))
      (Reply.ofResponse (it.respond (.playerName name)).1).errors
      (it.respond (.playerName name)).2 := by
  have taken : it.resume (.playerName name) = it.takeName name := by
    unfold resume
    rw [waits]
  have leads : it.course none (.resume (.playerName name)) =
      it.named (Text.uppercase (Text.trim name)) := by
    unfold course courseOf
    rw [waits]
  unfold landing
  rw [consult_calm waits nofun, leads]
  unfold takeName at taken
  -- The table of capitals is of no concern here.
  generalize Text.uppercase (Text.trim name) = capitals at taken ⊢
  unfold named
  by_cases empty : capitals.isEmpty = true
  · rw [if_pos empty] at taken ⊢
    exact respond_refused taken
  · rw [if_neg empty] at taken ⊢
    have named : Lands it it.saves { it.state with playerName := capitals } it.pending
        ({ it with state := { it.state with playerName := capitals } }.note
          (.playerNamed capitals)) := ⟨rfl, rfl, rfl, rfl, rfl⟩
    have quiet : errorsIn [.clearOutput] = [] := rfl
    exact respond_taken taken (goToAfter_comes named quiet it.state.currentNode)

theorem respond_advance {next : Option String} (waits : it.pending = .advance next) :
    Comes it (it.consult (.resume .advance)).2 (it.landing (.resume .advance))
      (Reply.ofResponse (it.respond .advance).1).errors (it.respond .advance).2 := by
  have same : Lands it it.saves it.state it.pending it := ⟨rfl, rfl, rfl, rfl, rfl⟩
  have taken : it.resume .advance = .ok (it.advance next) := by
    unfold resume
    rw [waits]
  unfold landing
  rw [consult_calm waits nofun]
  unfold course courseOf
  rw [waits]
  cases next with
  | some next =>
    have quiet : errorsIn [.continueAvailable false] = [] := rfl
    exact respond_taken taken (goToAfter_comes same quiet next)
  | none => exact respond_taken taken ⟨rfl, rfl, rfl, rfl, rfl, rfl⟩

theorem respond_choice {id : String} {count : Nat} (waits : it.pending = .choice id count)
    (index : Nat) :
    Comes it (it.consult (.resume (.choose index))).2 (it.landing (.resume (.choose index)))
      (Reply.ofResponse (it.respond (.choose index)).1).errors (it.respond (.choose index)).2 := by
  have taken : it.resume (.choose index) =
      if inRange index count then .ok (it.choose id index)
      else .error (.invalidChoice index count) := by
    unfold resume
    rw [waits]
  unfold landing
  rw [consult_calm waits nofun]
  unfold course courseOf
  rw [waits]
  by_cases fits : inRange index count = true
  · rw [if_pos fits] at taken
    have chosen := respond_taken taken (it.choose_comes id index)
    simp only [if_pos fits]
    exact chosen
  · rw [if_neg fits] at taken
    have refused := respond_refused taken
    simp only [if_neg fits]
    exact refused

theorem respond_savedGame (waits : it.pending = .savedGame) (index : Nat) :
    Comes it (it.consult (.resume (.choose index))).2 (it.landing (.resume (.choose index)))
      (Reply.ofResponse (it.respond (.choose index)).1).errors (it.respond (.choose index)).2 := by
  have same : Lands it it.saves it.state it.pending it := ⟨rfl, rfl, rfl, rfl, rfl⟩
  have taken : it.resume (.choose index) =
      if index = 1 then .ok it.continueSavedGame
      else if index = 2 then .ok it.startNewGame
      else .error (.invalidChoice index 2) := by
    unfold resume
    rw [waits]
  unfold landing
  by_cases first : index = 1
  · subst first
    have consults : it.consult (.resume (.choose 1)) =
        (Saves.game? (some it.saves.loadAutosave.1), it.saves.loadAutosave.2) :=
      if_pos ⟨waits, rfl⟩
    rw [consults]
    unfold course courseOf
    rw [waits]
    exact respond_taken taken it.continueSavedGame_comes
  · rw [consult_resume (by rintro ⟨_, same⟩; cases same; exact first rfl)]
    unfold course courseOf
    rw [waits]
    rw [if_neg first] at taken
    simp only [if_neg first]
    by_cases second : index = 2
    · rw [if_pos second] at taken ⊢
      exact respond_taken taken (startNewGame_comes same)
    · rw [if_neg second] at taken ⊢
      exact respond_refused taken

theorem respond_restart (waits : it.pending = .restart) (index : Nat) :
    Comes it (it.consult (.resume (.choose index))).2 (it.landing (.resume (.choose index)))
      (Reply.ofResponse (it.respond (.choose index)).1).errors (it.respond (.choose index)).2 := by
  have same : Lands it it.saves it.state it.pending it := ⟨rfl, rfl, rfl, rfl, rfl⟩
  have taken : it.resume (.choose index) =
      if inRange index 1 then .ok it.startNewGame else .error (.invalidChoice index 1) := by
    unfold resume
    rw [waits]
  unfold landing
  rw [consult_calm waits nofun]
  unfold course courseOf
  rw [waits]
  by_cases fits : inRange index 1 = true
  · rw [if_pos fits] at taken
    have begun := respond_taken taken (startNewGame_comes same)
    simp only [if_pos fits]
    exact begun
  · rw [if_neg fits] at taken
    have refused := respond_refused taken
    simp only [if_neg fits]
    exact refused

theorem respond_comes (it : Interpreter σ) (event : Event) :
    Comes it (it.consult (.resume event)).2 (it.landing (.resume event))
      (Reply.ofResponse (it.respond event).1).errors (it.respond event).2 := by
  cases waits : it.pending with
  | playerName =>
    cases event with
    | playerName name => exact respond_playerName waits name
    | _ => exact respond_unfit waits not_false
  | advance next =>
    cases event with
    | advance => exact respond_advance waits
    | _ => exact respond_unfit waits not_false
  | choice id count =>
    cases event with
    | choose index => exact respond_choice waits index
    | _ => exact respond_unfit waits not_false
  | savedGame =>
    cases event with
    | choose index => exact respond_savedGame waits index
    | _ => exact respond_unfit waits not_false
  | restart =>
    cases event with
    | choose index => exact respond_restart waits index
    | _ => exact respond_unfit waits not_false
  | halted =>
    cases event <;> exact respond_unfit waits not_false

theorem saveTo_comes (it : Interpreter σ) (slot : UInt8) :
    Comes it (it.saves.saveTo slot it.state).2 (it.land .stays) [] (it.saveTo slot).2 := by
  unfold saveTo
  rcases it.saves.saveTo slot it.state with ⟨_ | _ | _, saves⟩ <;> exact ⟨rfl, rfl, rfl, rfl, rfl, rfl⟩

theorem loadFrom_comes (it : Interpreter σ) (slot : UInt8) :
    Comes it (it.saves.loadFrom slot).2 (it.landing (.load slot))
      (it.act (.load slot)).1.errors (it.act (.load slot)).2 := by
  unfold landing course consult act loadFrom
  have here := noteLoad_fields it slot (it.saves.loadFrom slot).2 (it.saves.loadFrom slot).1
  cases found : Saves.game? (it.saves.loadFrom slot).1 with
  | none =>
    simp only [found]
    exact ⟨rfl, here⟩
  | some game =>
    simp only [found]
    exact resumeGame_comes here game

/-- What every action comes to. -/
theorem act_comes (it : Interpreter σ) (action : Action) :
    Comes it (it.consult action).2 (it.landing action) (it.act action).1.errors (it.act action).2 := by
  have same : Lands it it.saves it.state it.pending it := ⟨rfl, rfl, rfl, rfl, rfl⟩
  cases action with
  | boot => exact it.boot_comes
  | newGame => exact startNewGame_comes same
  | restart => exact startNewGame_comes it.clearAutosave_fields
  | resume event => exact it.respond_comes event
  | process id => exact goTo_comes same id
  | save slot => exact it.saveTo_comes slot
  | load slot => exact it.loadFrom_comes slot

theorem content_run (it : Interpreter σ) (turns : List Turn) :
    (it.run turns).content = it.content := by
  refine run_keeps (I := fun it' => it'.content = it.content) ?_ rfl
  intro it' turn _ same
  exact ((it'.atTime turn.now).act_comes turn.action).lands.content.trans same

theorem config_run (it : Interpreter σ) (turns : List Turn) :
    (it.run turns).config = it.config := by
  refine run_keeps (I := fun it' => it'.config = it.config) ?_ rfl
  intro it' turn _ same
  exact ((it'.atTime turn.now).act_comes turn.action).lands.config.trans same

end Interpreter
end Storyline
