/-!
What goes between a player and a story: the events by which the player moves it on, and what the
interpreter answers, which is directives to show in order and then what it waits for.

Directives are data. Nothing in them changes the game.
-/

namespace Storyline

inductive Event
  | advance
  /-- Picks an option, counted from 1. -/
  | choose (index : Nat)
  | playerName (name : String)
  deriving DecidableEq

def Event.name : Event → String
  | advance => "advance"
  | choose _ => "choose"
  | playerName _ => "player_name"

inductive TextStyle
  | body
  | logo
  | highlight
  | response
  | ending
  deriving DecidableEq

structure Header where
  day : UInt32
  episode : UInt32
  activePlayers : Nat
  deriving DecidableEq

namespace Header

def dayLabel (h : Header) : String := s!"DAY {h.day.toNat}"

def episodeLabel (h : Header) : String := s!"EPISODE {h.episode.toNat}"

def playersLabel (h : Header) : String :=
  s!"{h.activePlayers} PLAYER" ++ if h.activePlayers = 1 then "" else "S"

end Header

structure ChoiceItem where
  index : Nat
  label : String
  deriving DecidableEq

/-- Options numbered from 1 in their order. -/
def ChoiceItem.numbered (labels : List String) : List ChoiceItem :=
  (labels.zipIdx 1).map fun l => ⟨l.2, l.1⟩

inductive Directive
  | clearOutput
  | updateHeader (header : Header)
  | displayText (text : String) (style : TextStyle)
  | presentChoices (choices : List ChoiceItem)
  | clearChoices
  | continueAvailable (on : Bool)
  | divider
  | endingCue
  | delay (ms : Nat)
  | error (message : String)
  deriving DecidableEq

inductive Wait
  | playerName
  | advance
  | choice (count : Nat)
  /-- 1 to go on with the saved game, 2 to start over. -/
  | savedGame
  /-- 1 to play again. -/
  | restart
  /-- Nothing, until the player restarts or loads. -/
  | halted
  deriving DecidableEq

def Wait.message : Wait → String
  | playerName => "PlayerName"
  | advance => "Advance"
  | choice count => s!"Choice \x7b count: {count} \x7d"
  | savedGame => "SavedGame"
  | restart => "Restart"
  | halted => "Halted"

structure Output where
  directives : List Directive
  wait : Wait
  deriving DecidableEq

namespace Output

def texts (out : Output) : List String :=
  out.directives.filterMap fun
    | .displayText text _ => some text
    | _ => none

/-- The options presented last. -/
def choices? (out : Output) : Option (List ChoiceItem) :=
  out.directives.reverse.findSome? fun
    | .presentChoices choices => some choices
    | _ => none

def errors (out : Output) : List String :=
  out.directives.filterMap fun
    | .error message => some message
    | _ => none

def push (out : Output) (d : Directive) : Output := { out with directives := out.directives ++ [d] }

end Output
end Storyline
