import Storyline.Story
import Storyline.Text.Uppercase

/-!
The status report: how the player stands with everyone who is still in the game.
-/

namespace Storyline

inductive Tier
  | ally
  | friend
  | neutral
  | rival
  | enemy
  deriving DecidableEq

namespace Tier

/-- The step of a value: from 50 up, from 25 up, and the same below zero. -/
def ofValue (value : Int32) : Tier :=
  if 50 ≤ value then ally
  else if 25 ≤ value then friend
  else if -24 ≤ value then neutral
  else if -49 ≤ value then rival
  else enemy

def name : Tier → String
  | ally => "Ally"
  | friend => "Friend"
  | neutral => "Neutral"
  | rival => "Rival"
  | enemy => "Enemy"

end Tier

structure Standing where
  character : String
  name : String
  value : Int32
  tier : Tier
  deriving DecidableEq

structure StatusReport where
  playerName : String
  challengeWins : UInt32
  eliminationWins : UInt32
  relationships : List Standing
  alliances : List String
  eliminated : List String
  deriving DecidableEq

def splitUnderscores (part : List Char) : List Char → List (List Char)
  | [] => [part]
  | c :: rest =>
    if c = '_' then part :: splitUnderscores [] rest else splitUnderscores (part ++ [c]) rest

/-- An alliance as it is shown: its parts with a capital each, and spaces between them. -/
def allianceName (alliance : String) : String :=
  String.intercalate " "
    ((splitUnderscores [] alliance.toList).map fun part => Text.capitalize (String.ofList part))

/-- A character as shown: by name, or by its id with a capital if the cast does not have it. -/
def Cast.displayName (cast : Cast) (id : String) : String :=
  match cast.find? id with
  | some c => c.name
  | none => Text.capitalize id

namespace StatusReport

/-- The report on a state. Those who are eliminated are listed apart. -/
def ofState (s : GameState) (cast : Cast) : StatusReport where
  playerName := s.playerName
  challengeWins := s.challengeWins
  eliminationWins := s.eliminationWins
  relationships := (s.relationships.entries.filter fun e => !s.isEliminated e.1).map fun e =>
    ⟨e.1, cast.displayName e.1, e.2, .ofValue e.2⟩
  alliances := s.alliances.map allianceName
  eliminated := s.eliminatedPlayers.map cast.displayName

def padRight (width : Nat) (s : String) : String :=
  s ++ String.ofList (List.replicate (width - s.length) ' ')

def padLeft (width : Nat) (s : String) : String :=
  String.ofList (List.replicate (width - s.length) ' ') ++ s

def signed (n : Int) : String := (if n < 0 then "-" else "+") ++ toString n.natAbs

def section? (heading : String) (lines : List String) : List String :=
  if lines.isEmpty then [] else heading :: lines.map ("  - " ++ ·)

def lines (r : StatusReport) : List String :=
  ["PLAYER", "  " ++ r.playerName, s!"  Challenge Wins: {r.challengeWins.toNat}",
    s!"  Elimination Wins: {r.eliminationWins.toNat}", "RELATIONSHIPS"]
  ++ r.relationships.map (fun l =>
    "  " ++ padRight 12 l.name ++ " " ++ padLeft 4 (signed l.value.toInt) ++ "  " ++ l.tier.name)
  ++ section? "ALLIANCES" r.alliances
  ++ section? "ELIMINATED" r.eliminated

def text (r : StatusReport) : String := String.join (r.lines.map (· ++ "\n"))

end StatusReport
end Storyline
