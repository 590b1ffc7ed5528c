import Storyline.Config
import Storyline.Session.Renderer
import Storyline.Text.Blank
import Storyline.Text.Markup

/-!
What a terminal does to show something, and what it makes of a line that the player types.

Neither depends on time. Showing is a list of beats, which somebody with a clock and a keyboard
has to play. A line is a command exactly if its words are one: the word alone, or the word and a slot.
-/

namespace Storyline.Terminal

/-- What is known of the screen. -/
structure View where
  /-- The header printed last since the screen was cleared. -/
  header : Option Header
  continueAvailable : Bool
  choices : Nat
  deriving DecidableEq

namespace View

def blank : View := ⟨none, false, 0⟩

/-- Takes a header, and tells whether it has to be printed. -/
def takeHeader (v : View) (h : Header) : Bool × View :=
  if v.header = some h then (false, v) else (true, { v with header := some h })

def cleared (v : View) : View := { v with header := none, choices := 0 }

end View

def headerLine (h : Header) : String :=
  s!"== {h.dayLabel} | {h.episodeLabel} | {h.playersLabel} =="

def clearScreen : String := "\x1b[2J\x1b[H"

inductive Look
  | plain
  | bold
  | dim
  | italic
  | red
  | yellow
  | magenta
  | cyan
  deriving DecidableEq

def Look.code : Look → String
  | plain => ""
  | bold => "\x1b[1m"
  | dim => "\x1b[2m"
  | italic => "\x1b[3m"
  | red => "\x1b[31m"
  | yellow => "\x1b[1;33m"
  | magenta => "\x1b[1;35m"
  | cyan => "\x1b[36m"

def resetCode : String := "\x1b[0m"

inductive Beat
  | write (s : String)
  | reveal (s : String)
  | rest (ms : Nat)
  /-- A new text begins; what was skipped before does not count any more. -/
  | fresh
  | complain (s : String)
  deriving DecidableEq

def lineWith (look : Look) (text : String) : String := look.code ++ text ++ resetCode ++ "\n"

def baseLook : TextStyle → Look
  | .highlight => .bold
  | .response => .italic
  | .ending => .magenta
  | .body | .logo => .plain

def spanLook (base : Look) : Text.Span → Look × String
  | .text piece => (base, piece)
  | .speaker tag => (.yellow, tag)
  | .emphasis inner => (.italic, inner)
  | .lineBreak => (.plain, "\n")

/-- A span, between the codes of its look unless that is plain. -/
def spanBeats (base : Look) (span : Text.Span) : List Beat :=
  let (look, piece) := spanLook base span
  if look = .plain then [.reveal piece] else [.write look.code, .reveal piece, .write resetCode]

/-- A logo comes line by line, a text span by span. -/
def textBeats (timing : Timing) (text : String) (style : TextStyle) : List Beat :=
  match style with
  | .logo => (Text.lines text).flatMap fun line =>
      [.write (lineWith .cyan line), .rest timing.logoLine]
  | style =>
    .fresh :: (Text.spans text).flatMap (spanBeats (baseLook style)) ++ [.write "\n"]

def choiceLine (c : ChoiceItem) : Beat :=
  .write s!"  {Look.bold.code}{c.index}.{resetCode} {c.label}\n"

def gap : Beat := .write "\n"

def directiveBeats (timing : Timing) (view : View) : Directive → List Beat × View
  | .clearOutput => ([.write clearScreen], view.cleared)
  | .updateHeader header =>
    let (changed, view) := view.takeHeader header
    (if changed then [.write (lineWith .dim (headerLine header)), gap] else [], view)
  | .displayText text style => (textBeats timing text style, view)
  | .presentChoices choices =>
    (gap :: choices.map choiceLine ++ [gap], { view with choices := choices.length })
  | .clearChoices => ([], { view with choices := 0 })
  | .continueAvailable on => ([], { view with continueAvailable := on })
  | .divider =>
    ([gap, .write (lineWith .dim (String.ofList (List.replicate 40 '-'))), gap], view)
  | .endingCue => ([gap, .write (lineWith .magenta "*  *  *"), gap], view)
  | .delay ms => ([.rest ms], view)
  | .error message => ([.complain (lineWith .red message)], view)

def beats (timing : Timing) (view : View) : Shown → List Beat × View
  | .directive d => directiveBeats timing view d
  | .notice text => ([.write s!"[{text}]\n"], view)
  | .status report => ([gap, .write report.text, gap], view)

def promptText (view : View) : Prompt → String
  | .name => "Enter your name: "
  | .advance => if view.continueAvailable then "[Enter] " else "> "
  | .choice count => s!"Select (1-{count}): "

def commandHelp : String := "Commands: :save N, :load N, :status, :restart, q"

/-- The value of decimal digits; nothing for any other text or for none. -/
def digitsValue? (digits : List Char) : Option Nat :=
  if !digits.isEmpty && digits.all Char.isDigit then
    some (digits.foldl (fun n d => n * 10 + (d.toNat - '0'.toNat)) 0)
  else none

/-- A number up to a limit, with a plus sign in front of it or without. -/
def number? (limit : Nat) (word : String) : Option Nat :=
  let digits := match word.toList with
    | '+' :: rest => rest
    | all => all
  (digitsValue? digits).filter (· ≤ limit)

def slot? (word : String) : Option UInt8 := (number? 255 word).map UInt8.ofNat

def commandOfWords? : List String → Option PlayerInput
  | ["q"] => some .quit
  | [":quit"] => some .quit
  | [":status"] => some .status
  | [":restart"] => some .restart
  | [":save", word] => (slot? word).map .save
  | [":load", word] => (slot? word).map .load
  | _ => none

def command? (line : String) : Option PlayerInput := commandOfWords? (Text.words line)

inductive Reply
  | input (i : PlayerInput)
  | again (help : String)
  deriving DecidableEq

def pick? (count : Nat) (line : String) : Option Nat :=
  (number? (2 ^ 64 - 1) line).filter fun index => 1 ≤ index && index ≤ count

/-- What becomes of a line without blanks around it. A command goes before anything else. -/
def reply (prompt : Prompt) (line : String) : Reply :=
  match prompt with
  | .name => .input ((command? line).getD (.event (.playerName line)))
  | .advance =>
    if line.isEmpty then .input (.event .advance)
    else
      match command? line with
      | some input => .input input
      | none => .again s!"Press Enter to continue. {commandHelp}\n"
  | .choice count =>
    match command? line with
    | some input => .input input
    | none =>
      match pick? count line with
      | some index => .input (.event (.choose index))
      | none => .again s!"Invalid choice. Enter 1-{count}. {commandHelp}\n"

end Storyline.Terminal
