import Storyline.Interpreter.Entry
import Storyline.Text.Blank

/-!
What can be asked of an interpreter: to begin, to go on after an event, to save and to load.

Each operation answers directives and the interpreter after it. An event that does not fit what is
pending is refused, and then nothing changes.
-/

namespace Storyline

inductive Rejection
  | unexpectedEvent (event : String) (expected : Wait)
  | invalidChoice (index count : Nat)
  | emptyPlayerName
  deriving DecidableEq

def Rejection.message : Rejection → String
  | unexpectedEvent event expected => s!"Got {event} while waiting for {expected.message}"
  | invalidChoice index count => s!"Choice {index} is out of range 1..={count}"
  | emptyPlayerName => "Player name must not be empty"

namespace Interpreter

variable {σ : Type} [Store σ]

def intro (it : Interpreter σ) : List Directive :=
  let titles := it.content.titles
  let timing := it.config.timing
  [.clearChoices, .clearOutput]
  ++ (titles.logo.map fun logo => Directive.displayText logo .logo).toList
  ++ [.delay timing.introPause,
    .displayText s!"\n\nWelcome to {titles.title}.\n" .body,
    .delay timing.introLine,
    .displayText (titles.tagline ++ "\n") .body,
    .delay timing.introPause]

def startNewGame (it : Interpreter σ) : List Directive × Interpreter σ :=
  let it := { it with state := freshState it.content }
  (it.intro, (it.note (.newGame it.state.currentNode)).suspend .playerName)

def resumeGame (it : Interpreter σ) (game : SaveRecord) : List Directive × Interpreter σ :=
  let it := { it with state := game.state }.note (.gameLoaded game.timestamp game.state.currentNode)
  it.goToAfter [.clearChoices, .clearOutput, .updateHeader it.header] it.state.currentNode

def savedGameOptions : List String := ["Continue saved game", "Start new game"]

def offer (it : Interpreter σ) (game : SaveRecord) : List Directive × Interpreter σ :=
  let s := game.state
  ([.clearOutput, .displayText "SAVED GAME FOUND\n\n" .highlight,
      .displayText
        (s!"Day {s.day.toNat}, Episode {s.episode.toNat}\nPlayer: {s.playerName}\n\n") .body,
      .presentChoices (ChoiceItem.numbered savedGameOptions)],
    it.suspend .savedGame)

/-- Begins with the autosave if there is one, and with a new game if not. -/
def boot (it : Interpreter σ) : List Directive × Interpreter σ :=
  match it.loadAutosave with
  | (some game, it) => it.offer game
  | (none, it) => it.startNewGame

/-- Goes on with the autosave, or begins a new game if it is gone. -/
def continueSavedGame (it : Interpreter σ) : List Directive × Interpreter σ :=
  match it.loadAutosave with
  | (some game, it) => it.resumeGame game
  | (none, it) => (it.note .autosaveGone).startNewGame

def restart (it : Interpreter σ) : List Directive × Interpreter σ := it.clearAutosave.startNewGame

/-- Takes the player's name, in capitals and without blanks around it, and begins the story. -/
def takeName (it : Interpreter σ) (name : String) :
    Except Rejection (List Directive × Interpreter σ) :=
  let name := Text.uppercase (Text.trim name)
  if name.isEmpty then .error .emptyPlayerName
  else
    let it := { it with state := { it.state with playerName := name } }.note (.playerNamed name)
    .ok (it.goToAfter [.clearOutput] it.state.currentNode)

def advance (it : Interpreter σ) (next : Option String) : List Directive × Interpreter σ :=
  match next with
  | some next => it.goToAfter [.continueAvailable false] next
  | none =>
    ([.continueAvailable false], (it.note (.nothingNext it.state.currentNode)).suspend .halted)

/-- An option of a choice node, counted from 1. -/
def option? (content : Content) (id : String) (index : Nat) : Option Choice :=
  match (content.node? id).map Node.kind with
  | some (.choice choices) => choices[index - 1]?
  | _ => none

/-- Makes a choice: its response is shown, its effects are made, and the story goes on. -/
def choose (it : Interpreter σ) (id : String) (index : Nat) : List Directive × Interpreter σ :=
  match option? it.content id index with
  | none =>
    let (shown, it) := it.fault (.missingChoice index id)
    (.clearChoices :: shown, it)
  | some choice =>
    let it := it.note (.chosen id index choice.text)
    let response := (choice.response.map fun text =>
      Directive.displayText (Text.substitute it.state text) .response).toList
    let it := { it with state := ((choice.effects.map Effects.apply).getD fun s => s) it.state }
    match choice.next with
    | some next =>
      it.goToAfter (.clearChoices :: response ++ [.delay it.config.timing.line, .divider]) next
    | none => (.clearChoices :: response, it.suspend .halted)

def inRange (index count : Nat) : Bool := 1 ≤ index && index ≤ count

def resume (it : Interpreter σ) (event : Event) :
    Except Rejection (List Directive × Interpreter σ) :=
  match it.pending, event with
  | .playerName, .playerName name => it.takeName name
  | .advance next, .advance => .ok (it.advance next)
  | .choice id count, .choose index =>
    if inRange index count then .ok (it.choose id index) else .error (.invalidChoice index count)
  | .savedGame, .choose index =>
    if index = 1 then .ok it.continueSavedGame
    else if index = 2 then .ok it.startNewGame
    else .error (.invalidChoice index 2)
  | .restart, .choose index =>
    if inRange index 1 then .ok it.startNewGame else .error (.invalidChoice index 1)
  | pending, event => .error (.unexpectedEvent event.name pending.wait)

def saveTo (it : Interpreter σ) (slot : UInt8) : Bool × Interpreter σ :=
  let (result, saves) := it.saves.saveTo slot it.state
  let it := { it with saves := saves }
  match result with
  | none => (false, it.note (.noSlotToSave slot))
  | some (.error e) => (false, it.note (.saveFailed .save e))
  | some (.ok _) => (true, it.note (.savedTo slot))

def noteLoad (it : Interpreter σ) (slot : UInt8)
    (result : Option (Except SaveError (Option SaveRecord))) : Interpreter σ :=
  match result with
  | none => it.note (.noSlotToLoad slot)
  | some result => it.noteFailure .load result

def loadFrom (it : Interpreter σ) (slot : UInt8) :
    Option (List Directive) × Interpreter σ :=
  let (result, saves) := it.saves.loadFrom slot
  let it := { it with saves := saves }.noteLoad slot result
  match Saves.game? result with
  | some game =>
    let (shown, it) := it.resumeGame game
    (some shown, it)
  | none => (none, it)

def slots (it : Interpreter σ) : List (UInt8 × Option SlotInfo) × Interpreter σ :=
  let (results, saves) := it.saves.loadAll
  let it := results.foldl (fun it r => it.noteLoad r.1 r.2) { it with saves := saves }
  (results.map fun r => (r.1, (Saves.game? r.2).map SaveRecord.info), it)

end Interpreter
end Storyline
