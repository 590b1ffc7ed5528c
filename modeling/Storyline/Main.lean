import Std.Time.DateTime.Timestamp
import Storyline.Console

/-!
The program.
-/

namespace Storyline

/-- Milliseconds since 1970. -/
def clock : IO UInt64 := do
  return UInt64.ofNat (← Std.Time.Timestamp.now).toMillisecondsSinceUnixEpoch.val.toNat

/-- The session at a terminal, from the point where the player is asked. -/
partial def Console.turns (c : Console) (folder : String) (files : FileTree)
    (it : Interpreter FileStore) (view : Terminal.View) : IO Unit := do
  let input ← c.ask view it.wait.prompt
  let it := { it with saves := { it.saves with now := ← clock }, journal := [] }
  let (reaction, next) := it.react input
  c.log next.journal.reverse
  let after := files.withStore folder next.saves.store
  FileTree.sync files after
  let display := c.display it.config.timing view
  match reaction with
  | .quit => return
  | .play directives => c.turns folder after next (← display (directives.map .directive))
  | .notice text => c.turns folder after next (← display [.notice text])
  | .status report => c.turns folder after next (← display [.status report])

def Console.session (c : Console) (folder : String) (files : FileTree)
    (it : Interpreter FileStore) : IO Unit := do
  let (shown, it) := CommandLine.opening it
  c.print shown
  let (directives, next) := it.boot
  c.log next.journal.reverse
  let after := files.withStore folder next.saves.store
  FileTree.sync files after
  c.turns folder after next (← c.display it.config.timing .blank (directives.map .directive))
  c.print CommandLine.farewell

def Console.finish (c : Console) (page : CommandLine.Page) : IO UInt32 := do
  c.errors.putStr page.errorOutput
  c.print page.output
  return page.code.toUInt32

def Console.run (c : Console) (options : CommandLine.PlayOptions) : IO UInt32 := do
  let (notes, gathered) ← options.gather FileTree.readText
  c.log notes
  match gathered with
  | .error e => c.finish ⟨1, "", e.text⟩
  | .ok (content, config) =>
    let folder := options.saveFolder
    let files ← FileTree.survey folder config.saves.fileNames
    c.session folder files (.new content config (files.store folder) (← clock))
    return 0

end Storyline

open Storyline in
def main (arguments : List String) : IO UInt32 := do
  let debug := (← IO.getEnv CommandLine.debugVariable).isSome
  let console ← Console.start debug
  match CommandLine.Command.ofArguments arguments with
  | .error e => console.finish (CommandLine.usagePage e)
  | .ok .help => console.finish CommandLine.helpPage
  | .ok (.check path) =>
    console.finish (CommandLine.checkPage path (← FileTree.readText path))
  | .ok (.play options) => console.run options
