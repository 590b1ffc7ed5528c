import Storyline.Interpreter.Basic
import Storyline.Rules

/-!
Entering a node, and the branches that lead on from it.

Branches never suspend. Narratives, choices and endings always do, and so does a fault in the
content that stops the way to them.
-/

namespace Storyline.Interpreter

variable {σ : Type} [Store σ]

def showNarrative (it : Interpreter σ) (node : Node) (next : Option String) :
    List Directive × Interpreter σ :=
  ([.clearChoices, .displayText (it.nodeText node) .body, .continueAvailable true],
    it.suspend (.advance next))

def showChoices (it : Interpreter σ) (node : Node) (choices : List Choice) :
    List Directive × Interpreter σ :=
  ([.clearChoices, .displayText (it.nodeText node) .body, .delay it.config.timing.choice,
      .presentChoices (ChoiceItem.numbered (choices.map (·.text)))],
    it.suspend (.choice it.state.currentNode choices.length))

def playAgain : String := "Play Again"

/-- Shows an ending, after which there is no autosave to go on with. -/
def showEnding (it : Interpreter σ) (node : Node) : List Directive × Interpreter σ :=
  ([.clearChoices, .endingCue, .delay it.config.timing.endingCue,
      .displayText (Wording.endingText it.state node.text) .ending,
      .delay it.config.timing.ending, .presentChoices (ChoiceItem.numbered [playAgain])],
    (it.clearAutosave.note (.ended it.state.currentNode)).suspend .restart)

/-- The node that a branch leads to. Without a bound it leads where the condition does not hold. -/
def route (it : Interpreter σ) (id : String) (condition : Condition) : String × Interpreter σ :=
  let (target, it) := match condition.target it.state with
    | .ok target => (target, it)
    | .error e => (condition.ifFalse, it.note (.boundMissing id e.message))
  (target, it.note (.routed target))

/-- Arrives at a node: the state moves there, and is saved if the player will stop. -/
def arrive (it : Interpreter σ) (id : String) (node : Node) : Interpreter σ :=
  let it := (it.note (.entered node.kind.name id)).moveTo id node
  if node.isCheckpoint then it.autoSave else it

/-- Goes to a node and on until the game is suspended, over at most `hops` branches. -/
def enter (it : Interpreter σ) (id : String) (hops : Nat) : List Directive × Interpreter σ :=
  match it.content.node? id with
  | none => it.fault (.missingNode id)
  | some node =>
    let it := it.arrive id node
    let header := Directive.updateHeader it.header
    match node.kind with
    | .narrative next =>
      let (shown, it) := it.showNarrative node next
      (header :: shown, it)
    | .choice choices =>
      let (shown, it) := it.showChoices node choices
      (header :: shown, it)
    | .ending =>
      let (shown, it) := it.showEnding node
      (header :: shown, it)
    | .branch condition =>
      match hops with
      | 0 =>
        let (shown, it) := it.fault (.branchCycle id)
        (header :: shown, it)
      | hops + 1 =>
        let (target, it) := it.route id condition
        let (shown, it) := it.enter target hops
        (header :: shown, it)

def goTo (it : Interpreter σ) (id : String) : List Directive × Interpreter σ :=
  it.enter id it.config.hopLimit

def goToAfter (it : Interpreter σ) (first : List Directive) (id : String) :
    List Directive × Interpreter σ :=
  let (shown, it) := it.goTo id
  (first ++ shown, it)

end Storyline.Interpreter
