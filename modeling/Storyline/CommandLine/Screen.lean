import Storyline.Interpreter.Operations
import Storyline.CommandLine.Failure

/-!
What the program prints around a story, and instead of one.
-/

namespace Storyline.CommandLine

structure Page where
  code : UInt8
  output : String
  errorOutput : String
  deriving DecidableEq

def ofLines (lines : List String) : String := String.join (lines.map (· ++ "\n"))

def helpPage : Page := ⟨0, usage, ""⟩

def usagePage (e : UsageError) : Page :=
  ⟨1, usage, (e.message?.map fun message => s!"Error: {message}\n\n").getD ""⟩

def failureText (what reason : String) : String := ofLines ["Error: " ++ what, "Reason: " ++ reason]

def PlayFailure.text (e : PlayFailure) : String := failureText "Player mode failed" e.message

def checkText (path : String) (checked : Checked) : String :=
  let content := checked.content
  let nodes := content.nodes.size
  let characters := content.cast.characters.length
  ofLines ([path, s!"  {nodes} nodes, {characters} characters, start '{content.startNode}'",
      "  md5 " ++ checked.digest]
    ++ checked.report.issues.map (fun issue => "  " ++ issue.text)
    ++ [s!"{checked.report.errorCount} error(s), {checked.report.warningCount} warning(s)"])

def checkPage (path : String) (text : Except SystemCause String) : Page :=
  let checked : Except ContentFailure Checked := match text with
    | .error cause => .error (.unread path cause)
    | .ok text => (Content.check text).mapError fun e => .refused (.unreadable e)
  match checked with
  | .error e => ⟨1, "", failureText "Check failed" e.message⟩
  | .ok checked => ⟨if checked.report.hasErrors then 1 else 0, checkText path checked, ""⟩

def banner (title : String) (slotCount : UInt8) : String := ofLines [
  s!"=== {title} ===",
  "",
  "Controls:",
  "  Enter:      next",
  "  1-9:        select choice",
  s!"  :save N     save to slot N (1-{slotCount.toNat})",
  "  :load N     load slot N",
  "  :status     show relationships and alliances",
  "  :restart    start over",
  "  q:          quit",
  ""]

def slotLine (slot : UInt8) (info : Option SlotInfo) : String :=
  match info with
  | some i => s!"  {slot.toNat}. {i.playerName} - Day {i.day.toNat}, Episode {i.episode.toNat}"
  | none => s!"  {slot.toNat}. (empty)"

/-- The list of slots; nothing if all of them are empty. -/
def slotsText (slots : List (UInt8 × Option SlotInfo)) : String :=
  if slots.all fun s => s.2.isNone then ""
  else ofLines (["Save slots:"] ++ slots.map (fun s => slotLine s.1 s.2) ++ [""])

/-- What is shown before a story begins, and the interpreter after the slots were looked at. -/
def opening {σ : Type} [Store σ] (it : Interpreter σ) : String × Interpreter σ :=
  let (slots, it) := it.slots
  (banner it.content.titles.title it.config.saves.slotCount ++ slotsText slots, it)

def farewell : String := "Goodbye!\n"

def logText (debug : Bool) (notes : List Note) : String :=
  if debug then ofLines (notes.map Note.line) else ""

end Storyline.CommandLine
