import Storyline.Proofs.Play.Course
import Storyline.Proofs.Play.Entering

/-!
What every action shows. Something is shown of the action itself, and then the trail to which it
leads, if it leads to a node. Together with the course of an action this is all that it answers.
-/

namespace Storyline

/-- What is shown of a choice that was made, before anything that follows it. -/
def Choice.reaction (c : Choice) (timing : Timing) (s : GameState) : List Directive :=
  .clearChoices :: (c.response.map fun text =>
      Directive.displayText (Text.substitute s text) .response).toList
    ++ match c.next with
      | some _ => [.delay timing.line, .divider]
      | none => []

def SaveRecord.recalled (game : SaveRecord) (content : Content) (config : Config) : Output where
  directives := [.clearChoices, .clearOutput, .updateHeader (content.header game.state)] ++
    content.shown config.timing game.state game.state.currentNode config.hopLimit
  wait := (content.walk game.state game.state.currentNode config.hopLimit).2.pending.wait

namespace Interpreter

variable {σ : Type}

def resumption (it : Interpreter σ) (game : SaveRecord) : List Directive :=
  [.clearChoices, .clearOutput, .updateHeader (it.content.header game.state)]

/-- What is shown of an event itself; `game` is the autosave, if it can be read. -/
def preambleOf (it : Interpreter σ) (game : Option SaveRecord) (event : Event) : List Directive :=
  match it.pending, event with
  | .playerName, .playerName name =>
    if (Text.uppercase (Text.trim name)).isEmpty then [] else [.clearOutput]
  | .advance _, .advance => [.continueAvailable false]
  | .choice id count, .choose index =>
    if inRange index count then
      match option? it.content id index with
      | some c => c.reaction it.config.timing it.state
      | none => [.clearChoices]
    else []
  | .savedGame, .choose index =>
    if index = 1 then (game.map it.resumption).getD it.intro
    else if index = 2 then it.intro
    else []
  | .restart, .choose index => if inRange index 1 then it.intro else []
  | _, _ => []

/-- What is shown of an action itself; `game` is the saved game that it found, if it looked for
one. -/
def preamble (it : Interpreter σ) (game : Option SaveRecord) : Action → List Directive
  | .boot => (game.map fun game => (it.offer game).1).getD it.intro
  | .newGame | .restart => it.intro
  | .resume event => it.preambleOf game event
  | .process _ | .save _ => []
  | .load _ => (game.map it.resumption).getD []

def sequel (it : Interpreter σ) : Course → List Directive
  | .goes s id => it.content.shown it.config.timing s id it.config.hopLimit
  | .halts _ (some fault) => [.error fault.message]
  | _ => []

def telling (it : Interpreter σ) (game : Option SaveRecord) (action : Action) : List Directive :=
  it.preamble game action ++ it.sequel (it.course game action)

theorem preambleOf_stays {it : Interpreter σ} {game : Option SaveRecord} {event : Event}
    (stays : it.courseOf game event = .stays) : it.preambleOf game event = [] := by
  unfold courseOf at stays
  unfold preambleOf
  cases waits : it.pending with
  | playerName =>
    rw [waits] at stays
    cases event with
    | playerName name =>
      simp only [named] at stays ⊢
      generalize Text.uppercase (Text.trim name) = capitals at stays ⊢
      split at stays
      · next empty => exact if_pos empty
      · cases stays
    | _ => rfl
  | advance next =>
    rw [waits] at stays
    cases event with
    | advance => cases next <;> cases stays
    | _ => rfl
  | choice id count =>
    rw [waits] at stays
    cases event with
    | choose index =>
      simp only [Choice.course] at stays ⊢
      split at stays
      · split at stays
        · split at stays <;> cases stays
        · cases stays
      · next unfit => exact if_neg unfit
    | _ => rfl
  | savedGame =>
    rw [waits] at stays
    cases event with
    | choose index =>
      simp only at stays ⊢
      split at stays
      · cases game <;> cases stays
      · next other =>
        rw [if_neg other]
        split at stays
        · cases stays
        · next neither => exact if_neg neither
    | _ => rfl
  | restart =>
    rw [waits] at stays
    cases event with
    | choose index =>
      simp only at stays ⊢
      split at stays
      · cases stays
      · next unfit => exact if_neg unfit
    | _ => rfl
  | halted => rfl

theorem telling_stays {it : Interpreter σ} {game : Option SaveRecord} {action : Action}
    (stays : it.course game action = .stays) : it.telling game action = [] := by
  have quiet : it.preamble game action = [] := by
    cases action with
    | boot => cases game <;> cases stays
    | newGame => cases stays
    | restart => cases stays
    | process id => cases stays
    | save slot => rfl
    | load slot =>
      cases game with
      | none => rfl
      | some game => cases stays
    | resume event => exact preambleOf_stays stays
  unfold telling
  rw [quiet, stays]
  rfl

variable {before it : Interpreter σ} {saves : Saves σ} {state : GameState} {pending : Pending}

theorem startNewGame_shows (here : Lands before saves state pending it) :
    it.startNewGame.1 = before.intro := by
  unfold startNewGame intro
  simp only [here.content, here.config]

variable [Store σ]

theorem goToAfter_shows (here : Lands before saves state pending it) (first : List Directive)
    (id : String) :
    (it.goToAfter first id).1 = first ++ before.sequel (.goes state id) := by
  have shown := it.enter_shows id it.config.hopLimit
  rw [here.content, here.config, here.state] at shown
  unfold goToAfter goTo
  rw [here.config]
  exact congrArg (first ++ ·) shown

theorem resumeGame_shows (here : Lands before saves state pending it) (game : SaveRecord) :
    (it.resumeGame game).1 = before.resumption game ++ before.sequel game.course := by
  have taken : Lands before saves game.state pending
      ({ it with state := game.state }.note (.gameLoaded game.timestamp game.state.currentNode)) :=
    ⟨here.content, here.config, here.saves, rfl, here.pending⟩
  unfold resumption
  rw [← header_of_lands taken]
  exact goToAfter_shows taken _ _

theorem boot_shows (it : Interpreter σ) : it.boot.1 = it.telling (it.consult .boot).1 .boot := by
  obtain ⟨found, here⟩ := it.loadAutosave_lands
  unfold boot telling preamble course consult
  rw [← found]
  cases loaded : it.loadAutosave with
  | mk game it' =>
    rw [loaded] at here
    cases game with
    | some game => rfl
    | none => exact (startNewGame_shows here).trans (List.append_nil _).symm

theorem continueSavedGame_shows (it : Interpreter σ) :
    let game := Saves.game? (some it.saves.loadAutosave.1)
    it.continueSavedGame.1 = (game.map it.resumption).getD it.intro ++
      it.sequel ((game.map SaveRecord.course).getD .begins) := by
  obtain ⟨found, here⟩ := it.loadAutosave_lands
  unfold continueSavedGame
  rw [← found]
  cases loaded : it.loadAutosave with
  | mk game it' =>
    rw [loaded] at here
    cases game with
    | some game => exact resumeGame_shows here game
    | none =>
      have noted : Lands it it.saves.loadAutosave.2 it.state it.pending (it'.note .autosaveGone) :=
        ⟨here.content, here.config, here.saves, here.state, here.pending⟩
      exact (startNewGame_shows noted).trans (List.append_nil _).symm

theorem choose_shows (it : Interpreter σ) (id : String) (index : Nat) :
    (it.choose id index).1 = match option? it.content id index with
      | some c => c.reaction it.config.timing it.state ++ it.sequel (c.course it.state)
      | none => [.clearChoices, .error (ContentFault.missingChoice index id).message] := by
  unfold choose
  cases option? it.content id index with
  | none => rfl
  | some c =>
    simp only [Choice.reaction, Choice.course]
    cases c.next with
    | none =>
      simp only [sequel, List.append_nil]
      rfl
    | some next =>
      have here : Lands it it.saves (c.outcome it.state) it.pending
          { it.note (.chosen id index c.text) with state := c.outcome it.state } :=
        ⟨rfl, rfl, rfl, rfl, rfl⟩
      exact goToAfter_shows here _ next

theorem taken_shows {event : Event} {result : List Directive × Interpreter σ}
    (taken : it.resume event = .ok result) :
    (Reply.ofResponse (it.respond event).1).directives = result.1 := by
  unfold respond
  rw [taken]
  rfl

theorem refused_shows {event : Event} {reason : Rejection} (refused : it.resume event = .error reason) :
    (Reply.ofResponse (it.respond event).1).directives = [] := by
  unfold respond
  rw [refused]
  rfl

theorem takeName_shows (it : Interpreter σ) {name : String}
    (taken : it.resume (.playerName name) = it.takeName name) :
    (Reply.ofResponse (it.respond (.playerName name)).1).directives =
      (if (Text.uppercase (Text.trim name)).isEmpty then [] else [.clearOutput]) ++
        it.sequel (it.named (Text.uppercase (Text.trim name))) := by
  unfold takeName at taken
  -- The table of capitals is of no concern here.
  generalize Text.uppercase (Text.trim name) = capitals at taken ⊢
  unfold named
  by_cases empty : capitals.isEmpty = true
  · rw [if_pos empty] at taken ⊢
    rw [if_pos empty]
    exact refused_shows taken
  · rw [if_neg empty] at taken ⊢
    rw [if_neg empty]
    have named : Lands it it.saves { it.state with playerName := capitals } it.pending
        ({ it with state := { it.state with playerName := capitals } }.note
          (.playerNamed capitals)) := ⟨rfl, rfl, rfl, rfl, rfl⟩
    exact (taken_shows taken).trans (goToAfter_shows named _ _)

theorem respond_shows (it : Interpreter σ) (event : Event) :
    (Reply.ofResponse (it.respond event).1).directives =
      it.telling (it.consult (.resume event)).1 (.resume event) := by
  have same : Lands it it.saves it.state it.pending it := ⟨rfl, rfl, rfl, rfl, rfl⟩
  unfold telling preamble preambleOf course courseOf
  cases waits : it.pending with
  | playerName =>
    cases event with
    | playerName name => exact it.takeName_shows (by unfold resume; rw [waits])
    | _ => exact refused_shows (by unfold resume; rw [waits])
  | advance next =>
    cases event with
    | advance =>
      have taken : it.resume .advance = .ok (it.advance next) := by unfold resume; rw [waits]
      rw [taken_shows taken]
      cases next with
      | none => rfl
      | some next => exact goToAfter_shows same _ next
    | _ => exact refused_shows (by unfold resume; rw [waits])
  | choice id count =>
    cases event with
    | choose index =>
      have taken : it.resume (.choose index) = if inRange index count then .ok (it.choose id index)
          else .error (.invalidChoice index count) := by unfold resume; rw [waits]
      simp only
      by_cases fits : inRange index count = true
      · rw [if_pos fits] at taken
        rw [taken_shows taken, choose_shows, if_pos fits, if_pos fits]
        cases option? it.content id index <;> rfl
      · rw [if_neg fits] at taken
        rw [if_neg fits, if_neg fits]
        exact refused_shows taken
    | _ => exact refused_shows (by unfold resume; rw [waits])
  | savedGame =>
    cases event with
    | choose index =>
      have taken : it.resume (.choose index) = if index = 1 then .ok it.continueSavedGame
          else if index = 2 then .ok it.startNewGame
          else .error (.invalidChoice index 2) := by unfold resume; rw [waits]
      simp only
      by_cases first : index = 1
      · subst first
        have consults : it.consult (.resume (.choose 1)) =
            (Saves.game? (some it.saves.loadAutosave.1), it.saves.loadAutosave.2) :=
          if_pos ⟨waits, rfl⟩
        rw [taken_shows taken, consults]
        exact it.continueSavedGame_shows
      · rw [if_neg first] at taken
        rw [if_neg first, if_neg first]
        by_cases second : index = 2
        · rw [if_pos second] at taken
          rw [taken_shows taken, if_pos second, if_pos second]
          exact (startNewGame_shows same).trans (List.append_nil _).symm
        · rw [if_neg second] at taken
          rw [if_neg second, if_neg second]
          exact refused_shows taken
    | _ => exact refused_shows (by unfold resume; rw [waits])
  | restart =>
    cases event with
    | choose index =>
      have taken : it.resume (.choose index) = if inRange index 1 then .ok it.startNewGame
          else .error (.invalidChoice index 1) := by unfold resume; rw [waits]
      simp only
      by_cases fits : inRange index 1 = true
      · rw [if_pos fits] at taken
        rw [taken_shows taken, if_pos fits, if_pos fits]
        exact (startNewGame_shows same).trans (List.append_nil _).symm
      · rw [if_neg fits] at taken
        rw [if_neg fits, if_neg fits]
        exact refused_shows taken
    | _ => exact refused_shows (by unfold resume; rw [waits])
  | halted => cases event <;> exact refused_shows (by unfold resume; rw [waits])

/-- What is loaded depends on the game that is found only, not on the one that is left for it. -/
theorem load_replies (it : Interpreter σ) (slot : UInt8) :
    (it.act (.load slot)).1 = .loaded
      ((it.consult (.load slot)).1.map fun game => game.recalled it.content it.config) := by
  unfold consult act loadFrom
  have here := noteLoad_fields it slot (it.saves.loadFrom slot).2 (it.saves.loadFrom slot).1
  cases found : Saves.game? (it.saves.loadFrom slot).1 with
  | none => simp only [found, Option.map_none]
  | some game =>
    simp only [found, Option.map_some]
    have shown := resumeGame_shows here game
    have waits := congrArg Pending.wait (resumeGame_comes here game).lands.pending
    refine congrArg (fun out => Reply.loaded (some out)) ?_
    exact congr (congrArg Output.mk shown) waits

theorem load_shows (it : Interpreter σ) (slot : UInt8) :
    (it.act (.load slot)).1.directives = it.telling (it.consult (.load slot)).1 (.load slot) := by
  rw [it.load_replies slot]
  unfold telling preamble course
  cases (it.consult (.load slot)).1 with
  | none => rfl
  | some game => rfl

theorem act_shows (it : Interpreter σ) (action : Action) :
    (it.act action).1.directives = it.telling (it.consult action).1 action := by
  cases action with
  | boot => exact it.boot_shows
  | newGame => exact (List.append_nil _).symm
  | restart =>
    exact (startNewGame_shows it.clearAutosave_fields).trans (List.append_nil _).symm
  | resume event => exact it.respond_shows event
  | process id => exact it.enter_shows id it.config.hopLimit
  | save slot => rfl
  | load slot => exact it.load_shows slot

end Interpreter
end Storyline
