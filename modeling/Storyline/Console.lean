import Storyline.CommandLine.FileTree
import Storyline.CommandLine.Screen
import Storyline.Session
import Storyline.Terminal.Script
import Storyline.Terminal.Typewriter

/-!
A story played at a real terminal: what the player types, real time, and real files.

Everything here only carries out what the library decides.
-/

namespace Storyline

structure Console where
  input : IO.FS.Stream
  output : IO.FS.Stream
  errors : IO.FS.Stream
  awaited : IO.Ref (Option (Task (Except IO.Error ByteArray)))
  closed : IO.Ref Bool
  debug : Bool

namespace Console

def start (debug : Bool) : IO Console := do
  return ⟨← IO.getStdin, ← IO.getStdout, ← IO.getStderr, ← IO.mkRef none, ← IO.mkRef false, debug⟩

def print (c : Console) (s : String) : IO Unit := do
  c.output.putStr s
  c.output.flush

def log (c : Console) (notes : List Note) : IO Unit :=
  c.errors.putStr (CommandLine.logText c.debug notes)

/-- The bytes of a line, of which some have been taken; none at the end of the input. -/
partial def lineBytes (input : IO.FS.Stream) (taken : ByteArray) : IO ByteArray := do
  let more ← input.read 1
  let taken := taken ++ more
  if more.isEmpty || more[0]? == some 10 then return taken
  else lineBytes input taken

def reading (c : Console) : IO (Task (Except IO.Error ByteArray)) := do
  match ← c.awaited.get with
  | some line => return line
  | none =>
    let line ← IO.asTask (lineBytes c.input .empty) .dedicated
    c.awaited.set (some line)
    return line

def nextLine (c : Console) : IO (Option String) := do
  if ← c.closed.get then return none
  let line ← IO.wait (← c.reading)
  c.awaited.set none
  match line.toOption.bind String.fromUTF8? with
  | some line =>
    if line.isEmpty then
      c.closed.set true
      return none
    else return some line
  | none =>
    c.log [.inputUnreadable]
    c.closed.set true
    return none

/-- Takes the lines that are there, and tells whether there were any or the input ended. -/
partial def takeLines (c : Console) : IO Bool := do
  if ← c.closed.get then return false
  if ← IO.hasFinished (← c.reading) then
    let _ ← c.nextLine
    let _ ← c.takeLines
    return true
  else return false

def pause (ms : Nat) : IO Unit := do
  let hour := 60 * 60 * 1000
  for _ in [0 : pauseLength ms / hour] do IO.sleep (UInt32.ofNat hour)
  IO.sleep (UInt32.ofNat (pauseLength ms % hour))

def reveal (c : Console) (timing : Timing) (signal : Terminal.Signal) :
    List Char → IO Terminal.Signal
  | [] => return signal
  | char :: rest => do
    if signal = .skipped then
      c.print (String.ofList (char :: rest))
      return signal
    else
      c.print char.toString
      if timing.typewriter = 0 then c.reveal timing signal rest
      else
        pause timing.typewriter
        c.reveal timing (if ← c.takeLines then signal.after .skip else signal) rest

def play (c : Console) (timing : Timing) (signal : Terminal.Signal) :
    Terminal.Beat → IO Terminal.Signal
  | .write s => do
    c.print s
    return signal
  | .reveal s => c.reveal timing signal s.toList
  | .rest ms => do
    pause ms
    return signal
  | .fresh => return signal.after .reset
  | .complain s => do
    c.errors.putStr s
    return signal

def display (c : Console) (timing : Timing) (view : Terminal.View) :
    List Shown → IO Terminal.View
  | [] => return view
  | shown :: rest => do
    let (beats, view) := Terminal.beats timing view shown
    let _ ← beats.foldlM (c.play timing) .normal
    c.display timing view rest

partial def ask (c : Console) (view : Terminal.View) (prompt : Prompt) : IO PlayerInput := do
  c.print (Terminal.promptText view prompt)
  match ← c.nextLine with
  | none => return .quit
  | some line =>
    match Terminal.reply prompt (Text.trim line) with
    | .input input => return input
    | .again help =>
      c.print help
      c.ask view prompt

end Console

namespace SystemCause

/-- What the number of a refusal means; some calls answer it with its sign turned. -/
def ofNumber? (number : UInt32) : Option SystemCause :=
  match if number < 0x80000000 then number else 0 - number with
  | 20 => some notFolder
  | 21 => some isFolder
  | 36 => some nameTooLong
  | _ => none

def ofError (e : IO.Error) : SystemCause :=
  let cause? := match e with
    | .noFileOrDirectory .. => some notFound
    | .alreadyExists .. => some alreadyThere
    | .inappropriateType _ number _ | .invalidArgument _ number _ => ofNumber? number
    | _ => none
  cause?.getD (other (toString e))

end SystemCause

namespace FileTree

def readText (path : String) : IO (Except SystemCause String) := do
  try
    let bytes ← IO.FS.readBinFile path
    return (String.fromUTF8? bytes).elim (.error .notText) .ok
  catch e => return .error (.ofError e)

def entry? (path : String) : IO (Option FileEntry) := do
  match ← readText path with
  | .ok text => return some (.text text)
  | .error .notText => return some .binary
  | .error .isFolder => return some .folder
  | .error _ => return none

/-- What is along the path of a folder, and under some names in the folder. What every system has
is not looked at. -/
def survey (folder : String) (names : List String) : IO FileTree := do
  let here := parts (← IO.currentDir).toString
  let bare := bare here.reverse.tail
  let files := names.map fun name => name :: bare.placeOf folder
  (bare.along (start folder) (parts folder) ++ files).foldlM (fun t place => do
    if bare.files.contains (pathOf place) then return t
    match ← entry? (pathOf place) with
    | some entry => return { t with files := t.files.insert (pathOf place) entry }
    | none => return t) bare

def sync (before after : FileTree) : IO Unit := do
  for (path, entry) in after.files.entries do
    unless before.files.find? path == some entry do
      match entry with
      | .text text => IO.FS.writeFile path text
      | .folder => IO.FS.createDir path
      | .binary => pure ()
  for (path, _) in before.files.entries do
    unless after.files.contains path do IO.FS.removeFile path

end FileTree

def SaveLayout.fileNames (layout : SaveLayout) : List String :=
  ((layout.autosaveKey :: layout.slots.filterMap layout.slotKey?).filter FileStore.isKey).map
    FileStore.fileName

end Storyline
