import Storyline.Journal
import Storyline.Output
import Storyline.Status
import Storyline.Wording

/-!
The interpreter: a game under way, suspended on something that the player has to do.

It is a value. The parts here tell what it waits for and shows, and change one part each.
-/

namespace Storyline

/-- What an interpreter needs to go on from where it is suspended. -/
inductive Pending
  | playerName
  | advance (next : Option String)
  | choice (node : String) (count : Nat)
  | savedGame
  | restart
  | halted
  deriving DecidableEq

/-- What the player sees of what is pending. -/
def Pending.wait : Pending → Wait
  | playerName => .playerName
  | advance _ => .advance
  | choice _ count => .choice count
  | savedGame => .savedGame
  | restart => .restart
  | halted => .halted

structure Interpreter (σ : Type) where
  content : Content
  config : Config
  saves : Saves σ
  state : GameState
  pending : Pending
  /-- What happened so far, the last first. -/
  journal : List Note

namespace Interpreter

variable {σ : Type}

def freshState (content : Content) : GameState := .ofTemplate content.template content.cast

def new (content : Content) (config : Config) (store : σ) (now : UInt64) : Interpreter σ where
  content := content
  config := config
  saves := ⟨store, config.saves, now⟩
  state := freshState content
  pending := .halted
  journal := []

def wait (it : Interpreter σ) : Wait := it.pending.wait

/-- The header for the state as it is. Without a roster it shows the whole cast. -/
def header (it : Interpreter σ) : Header where
  day := it.state.day
  episode := it.state.episode
  activePlayers :=
    if it.state.activePlayers.isEmpty then it.content.titles.castSize.toNat
    else it.state.activePlayers.length

def status (it : Interpreter σ) : StatusReport := .ofState it.state it.content.cast

def note (it : Interpreter σ) (n : Note) : Interpreter σ := { it with journal := n :: it.journal }

def suspend (it : Interpreter σ) (pending : Pending) : Interpreter σ := { it with pending := pending }

def fault (it : Interpreter σ) (f : ContentFault) : List Directive × Interpreter σ :=
  ([.error f.message], (it.note (.contentFault f)).suspend .halted)

def moveTo (it : Interpreter σ) (id : String) (node : Node) : Interpreter σ :=
  { it with state := { it.state with
      currentNode := id
      day := node.day.getD it.state.day
      episode := node.episode.getD it.state.episode } }

def nodeText (it : Interpreter σ) (node : Node) : String :=
  Wording.nodeText it.state it.content.cast node.text node.speaker

def answer (result : List Directive × Interpreter σ) : Output × Interpreter σ :=
  (⟨result.1, result.2.wait⟩, result.2)

variable [Store σ]

def noteFailure {α : Type} (it : Interpreter σ) (operation : SaveOperation)
    (result : Except SaveError α) : Interpreter σ :=
  match result with
  | .ok _ => it
  | .error e => it.note (.saveFailed operation e)

def autoSave (it : Interpreter σ) : Interpreter σ :=
  let (result, saves) := it.saves.autoSave it.state
  { it with saves := saves }.noteFailure .autosave result

def clearAutosave (it : Interpreter σ) : Interpreter σ :=
  let (result, saves) := it.saves.clearAutosave
  { it with saves := saves }.noteFailure .clearAutosave result

def loadAutosave (it : Interpreter σ) : Option SaveRecord × Interpreter σ :=
  let (result, saves) := it.saves.loadAutosave
  (Saves.game? (some result), { it with saves := saves }.noteFailure .loadAutosave result)

end Interpreter
end Storyline
