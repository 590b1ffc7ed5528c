import Storyline.Loading
import Storyline.Saves.Slots

/-!
The journal: what happened while a story was loaded and played, for whoever debugs it.

Notes are values with their wording in one place. Nothing ever looks into the journal to decide
what to do.
-/

namespace Storyline

inductive NoteLevel
  | error
  | warn
  | info
  | debug
  deriving DecidableEq

def NoteLevel.name : NoteLevel → String
  | error => "ERROR"
  | warn => "WARN"
  | info => "INFO"
  | debug => "DEBUG"

inductive SaveOperation
  | autosave
  | loadAutosave
  | clearAutosave
  | save
  | load
  deriving DecidableEq

def SaveOperation.name : SaveOperation → String
  | autosave => "autosave"
  | loadAutosave => "load autosave"
  | clearAutosave => "clear autosave"
  | save => "save"
  | load => "load"

inductive ContentFault
  | missingNode (id : String)
  | missingChoice (index : Nat) (id : String)
  | branchCycle (id : String)
  deriving DecidableEq

def ContentFault.message : ContentFault → String
  | missingNode id => s!"Game error: Node \"{id}\" not found."
  | missingChoice index id => s!"Game error: Choice {index} of \"{id}\" not found."
  | branchCycle id => s!"Game error: Branch cycle detected at \"{id}\"."

inductive Note
  | issue (i : Issue)
  | contentLoaded (nodes characters : Nat)
  | newGame (node : String)
  | playerNamed (name : String)
  | gameLoaded (timestamp : UInt64) (node : String)
  | autosaveGone
  | nothingNext (node : String)
  | chosen (node : String) (index : Nat) (label : String)
  | entered (kind node : String)
  | boundMissing (node message : String)
  | routed (target : String)
  | ended (node : String)
  | contentFault (fault : ContentFault)
  | saveFailed (operation : SaveOperation) (e : SaveError)
  | savedTo (slot : UInt8)
  | noSlotToSave (slot : UInt8)
  | noSlotToLoad (slot : UInt8)
  | inputRejected (message : String)
  | playerQuit (node : String)
  | inputUnreadable

namespace Note

def level : Note → NoteLevel
  | issue i => match i.level with
    | .error => .error
    | .warning => .warn
  | contentLoaded .. | nothingNext _ | chosen .. | entered .. | routed _ | inputRejected _ => .debug
  | newGame _ | playerNamed _ | gameLoaded .. | ended _ | savedTo _ | playerQuit _ => .info
  | autosaveGone | noSlotToSave _ | noSlotToLoad _ | inputUnreadable => .warn
  | boundMissing .. | contentFault _ | saveFailed .. => .error

def source : Note → String
  | issue _ | contentLoaded .. => "gauntlet::loader"
  | saveFailed .. | savedTo _ | noSlotToSave _ | noSlotToLoad _ => "gauntlet::storage::persistence"
  | inputRejected _ | playerQuit _ => "gauntlet::session"
  | inputUnreadable => "gauntlet::cli::terminal"
  | newGame _ | playerNamed _ | gameLoaded .. | autosaveGone | nothingNext _ | chosen ..
  | entered .. | boundMissing .. | routed _ | ended _ | contentFault _ => "gauntlet::runtime"

def message : Note → String
  | issue i => i.text
  | contentLoaded nodes characters => s!"loaded {nodes} nodes, {characters} characters"
  | newGame node => s!"new game at '{node}'"
  | playerNamed name => s!"player name set to {name}"
  | gameLoaded timestamp node => s!"loaded save from {timestamp.toNat} at '{node}'"
  | autosaveGone => "autosave vanished before it could be continued"
  | nothingNext node => s!"'{node}' has no next node; halting"
  | chosen node index label => s!"'{node}' choice {index}: {label}"
  | entered kind node => s!"entering {kind} node '{node}'"
  | boundMissing node message => s!"branch '{node}': {message}; taking if_false"
  | routed target => s!"branch routed to '{target}'"
  | ended node => s!"reached ending '{node}'"
  | contentFault fault => fault.message
  | saveFailed operation e => s!"Failed to {operation.name}: {e.message}"
  | savedTo slot => s!"saved to slot {slot.toNat}"
  | noSlotToSave slot => s!"save to nonexistent slot {slot.toNat}"
  | noSlotToLoad slot => s!"load from nonexistent slot {slot.toNat}"
  | inputRejected message => s!"rejected input: {message}"
  | playerQuit node => s!"player quit at '{node}'"
  | inputUnreadable => "stdin closed: " ++ SystemCause.notText.message

def line (n : Note) : String := s!"[{n.level.name}] {n.source}: {n.message}"

/-- What is noted when content is loaded: the errors for which it is refused, or else its warnings
and its size. -/
def ofLoading : Except LoadError Checked → List Note
  | .error (.unreadable _) => []
  | .error (.invalid report) => report.errors.map issue
  | .ok checked =>
    let content := checked.content
    checked.report.warnings.map issue
      ++ [contentLoaded content.nodes.size content.cast.characters.length]

end Note
end Storyline
