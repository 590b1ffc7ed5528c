import Storyline.Json.Basic

/-!
The game state: all that changes while a story is played.

Relationships, flags and vote details are dictionaries, so equal states are written alike. The
operations change one aspect each and leave all others as they are.
-/

namespace Storyline

/-- An entry of the vote history. Whatever a vote records beyond the common parts is in `details`. -/
structure VoteRecord where
  day : Option UInt32
  episode : Option UInt32
  votedFor : Option String
  details : Dict Value

structure GameState where
  playerName : String
  currentNode : String
  day : UInt32
  episode : UInt32
  relationships : Dict Int32
  flags : Dict Value
  alliances : List String
  challengeWins : UInt32
  eliminationWins : UInt32
  voteHistory : List VoteRecord
  eliminatedPlayers : List String
  activePlayers : List String

def clampRelationship (value : Int) : Int32 := Int32.ofInt (max (-100) (min value 100))

def addName (names : List String) (name : String) : List String :=
  if names.contains name then names else names ++ [name]

/-- Adds to a counter, which stays at its largest value once it gets there. -/
def addCapped (a b : UInt32) : UInt32 := UInt32.ofNat (min (a.toNat + b.toNat) (2 ^ 32 - 1))

namespace GameState

def blank : GameState where
  playerName := ""
  currentNode := ""
  day := 0
  episode := 0
  relationships := .empty
  flags := .empty
  alliances := []
  challengeWins := 0
  eliminationWins := 0
  voteHistory := []
  eliminatedPlayers := []
  activePlayers := []

instance : Inhabited GameState := ⟨blank⟩

def player? (s : GameState) : Option String :=
  if s.playerName.isEmpty then none else some s.playerName

/-- How a character feels about the player; zero for one without an entry. -/
def relationship (s : GameState) (character : String) : Int32 :=
  (s.relationships.find? character).getD 0

def tracks (s : GameState) (character : String) : Bool := s.relationships.contains character

/-- Adds to the relationship to a tracked character, within its range. -/
def adjustRelationship (s : GameState) (character : String) (delta : Int32) : GameState :=
  match s.relationships.find? character with
  | some value =>
    let moved := clampRelationship (value.toInt + delta.toInt)
    { s with relationships := s.relationships.insert character moved }
  | none => s

def setFlag (s : GameState) (name : String) (value : Value) : GameState :=
  { s with flags := s.flags.insert name value }

def hasAlliance (s : GameState) (alliance : String) : Bool := s.alliances.contains alliance

def addAlliance (s : GameState) (alliance : String) : GameState :=
  { s with alliances := addName s.alliances alliance }

def isEliminated (s : GameState) (character : String) : Bool :=
  s.eliminatedPlayers.contains character

end GameState
end Storyline
