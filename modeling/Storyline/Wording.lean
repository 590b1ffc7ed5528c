import Storyline.Story
import Storyline.Text.Uppercase

/-!
The wording of texts: placeholders filled in, and the name of the speaker of a node in front.

A text is gone through once, from left to right, and what stands for a placeholder is put in its
place. So what is put in is never looked at again.
-/

namespace Storyline.Text

inductive Placeholder
  | playerName
  | player
  | challengeWins
  | eliminationWins
  deriving DecidableEq

namespace Placeholder

def all : List Placeholder := [playerName, player, challengeWins, eliminationWins]

def token : Placeholder → List Char
  | playerName => ['[', 'P', 'L', 'A', 'Y', 'E', 'R', '_', 'N', 'A', 'M', 'E', ']']
  | player => ['[', 'P', 'L', 'A', 'Y', 'E', 'R', ']']
  | challengeWins =>
    ['[', 'C', 'H', 'A', 'L', 'L', 'E', 'N', 'G', 'E', '_', 'W', 'I', 'N', 'S', ']']
  | eliminationWins =>
    ['[', 'E', 'L', 'I', 'M', 'I', 'N', 'A', 'T', 'I', 'O', 'N', '_', 'W', 'I', 'N', 'S', ']']

def defaultName : String := "Player"

def value (p : Placeholder) (s : GameState) : String :=
  match p with
  | playerName | player => s.player?.getD defaultName
  | challengeWins => toString s.challengeWins.toNat
  | eliminationWins => toString s.eliminationWins.toNat

def table (s : GameState) : List (Placeholder × String) := all.map fun p => (p, p.value s)

end Placeholder

/-- A text with every placeholder of a table filled in. A bracket that opens none stays, and so does
all that is outside of brackets. -/
def fillIn (table : List (Placeholder × String)) (text : List Char) : List Char :=
  match text with
  | [] => []
  | '[' :: rest =>
    match table.find? fun e => e.1.token.isPrefixOf ('[' :: rest) with
    | some (p, value) => value.toList ++ fillIn table (rest.drop (p.token.length - 1))
    | none => '[' :: fillIn table rest
  | c :: rest => c :: fillIn table rest
termination_by text.length
decreasing_by all_goals simp only [List.length_cons, List.length_drop]; omega

def substitute (s : GameState) (text : String) : String :=
  String.ofList (fillIn (Placeholder.table s) text.toList)

end Storyline.Text

namespace Storyline.Wording

def defaultPlayerSpeaker : String := "You"

/-- The name of a speaker: the player; then the cast; then the aliases; then the id itself. -/
def speakerName (s : GameState) (cast : Cast) (id : String) : String :=
  if id = "player" then s.player?.getD defaultPlayerSpeaker
  else
    match cast.find? id with
    | some c => c.name
    | none => (cast.aliases.find? id).getD id

def nodeText (s : GameState) (cast : Cast) (text : String) (speaker : Option String) : String :=
  let body := Text.substitute s text
  match speaker with
  | some id => s!"[{Text.uppercase (speakerName s cast id)}]: " ++ body
  | none => body

/-- The text of an ending, which never has a speaker. -/
def endingText (s : GameState) (text : String) : String := Text.substitute s text

end Storyline.Wording
