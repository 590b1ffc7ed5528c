import Storyline.CommandLine.FileTree
import Storyline.CommandLine.Screen
import Storyline.Session
import Storyline.Terminal.Timed

/-!
A whole run of the program on a clock of its own: from the arguments, the files and all that will
be typed to all that is printed and the files after it.
-/

namespace Storyline.CommandLine

structure Typed where
  bytes : List UInt8

namespace Typed

/-- The bytes of the lines, `line` being the one under way with its last byte first. -/
def splitLines (line : List UInt8) : List UInt8 → List (List UInt8)
  | [] => if line.isEmpty then [] else [line.reverse]
  | b :: rest => if b = 10 then line.reverse :: splitLines [] rest else splitLines (b :: line) rest

/-- The lines up to the first that is no text, and whether there is one. -/
def decode : List (List UInt8) → List String × Bool
  | [] => ([], false)
  | line :: rest =>
    match String.fromUTF8? ⟨line.toArray⟩ with
    | none => ([], true)
    | some text =>
      let (lines, broken) := decode rest
      (text :: lines, broken)

def lines (typed : Typed) : List String := (decode (splitLines [] typed.bytes)).1

def notes (typed : Typed) : List Note :=
  if (decode (splitLines [] typed.bytes)).2 then [.inputUnreadable] else []

/-- A keyboard with all lines typed at the beginning. -/
def keyboard (typed : Typed) : Terminal.Keyboard := .ofLines (typed.lines.map fun line => (0, line))

def entry (typed : Typed) : FileEntry :=
  match String.fromUTF8? ⟨typed.bytes.toArray⟩ with
  | some text => .text text
  | none => .binary

end Typed

/-- Reads a file. What is typed can be read like a file too, but after that nothing is left of
it. -/
def readFile (files : FileTree) (path : String) : StateM Typed (Except SystemCause String) :=
  fun typed => ((files.withInput typed.entry).read path,
    if files.leadsToInput path then ⟨[]⟩ else typed)

abbrev Play := Session FileStore Terminal.Timed

namespace Play

/-- What a part of a play adds to what is printed where errors go: the notes, if they are asked
for, and then the complaints of the terminal. -/
def complaints (debug : Bool) (before after : Play) : String :=
  let notes := after.interpreter.journal
  let errors := after.renderer.errors
  logText debug (notes.take (notes.length - before.interpreter.journal.length)).reverse
    ++ String.join (errors.take (errors.length - before.renderer.errors.length)).reverse

def turns (debug : Bool) : Nat → Play → String → String × Play
  | 0, play, so => (so, play)
  | n + 1, play, so =>
    let (progress, next) := play.turn
    let so := so ++ complaints debug play next
    match progress with
    | .running => turns debug n next so
    | .ended _ => (so, next)

def run (debug : Bool) (n : Nat) (play : Play) : String × Play :=
  let (_, next) := play.begin
  turns debug n next (complaints debug play next)

end Play

def runPlay (options : PlayOptions) (debug : Bool) (files : FileTree) (typed : Typed)
    (now : UInt64) : Page × FileTree :=
  let ((notes, gathered), typed) := (options.gather (readFile files)).run typed
  match gathered with
  | .error e => (⟨1, "", logText debug notes ++ e.text⟩, files)
  | .ok (content, config) =>
    let fresh := Interpreter.new content config (files.store options.saveFolder) now
    let (shown, it) := opening fresh
    let keyboard := typed.keyboard
    let (errors, play) := Play.run debug (keyboard.arrivals.length + 1)
      ⟨it, .new config.timing keyboard⟩
    (⟨0, shown ++ play.renderer.output ++ farewell,
        logText debug (notes ++ typed.notes ++ it.journal.reverse) ++ errors⟩,
      files.withStore options.saveFolder play.interpreter.saves.store)

def run (arguments : List String) (debug : Bool) (files : FileTree) (typed : Typed)
    (now : UInt64) : Page × FileTree :=
  match Command.ofArguments arguments with
  | .error e => (usagePage e, files)
  | .ok .help => (helpPage, files)
  | .ok (.check path) => (checkPage path ((readFile files path).run typed).1, files)
  | .ok (.play options) => runPlay options debug files typed now

end Storyline.CommandLine
