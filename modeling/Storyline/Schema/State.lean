import Storyline.Json.Reader
import Storyline.State

/-!
The game state and its parts as JSON.

Fields are written in a fixed order. The parts of a vote that are not there are left out.
-/

namespace Storyline

open Json

/-- A field that is left out where there is no value. -/
def given {α : Type} (name : String) (write : α → Json) : Option α → List (String × Json)
  | some a => [(name, write a)]
  | none => []

def Json.Reader.map {α β : Type} (f : α → β) (reader : Reader α) : Reader β :=
  fun p r => (reader p r).map f

def texts : Reader (List String) := .list .text

namespace VoteRecord

def blank : VoteRecord := ⟨none, none, none, .empty⟩

/-- The common parts first, then the details in the order of their names. -/
def toJson (v : VoteRecord) : Json :=
  .object (given "day" .ofUInt32 v.day ++ given "episode" .ofUInt32 v.episode
    ++ given "voted_for" .string v.votedFor ++ v.details.entries.map fun e => (e.1, e.2.json))

def fields : List (Member VoteRecord) :=
  [.optional "day" (.option .uint32) fun v x => { v with day := x },
    .optional "episode" (.option .uint32) fun v x => { v with episode := x },
    .optional "voted_for" (.option .text) fun v x => { v with votedFor := x }]

def reader : Reader VoteRecord := fun p r => do
  let (v, kept) ← Record.readOpen "struct VoteRecord" fields blank p r
  let details ← Reader.valueFields .again kept
  return { v with details := Dict.ofList details }

end VoteRecord

namespace GameState

/-- The fields in the order in which they are written. -/
def toFields (s : GameState) : List (String × Json) :=
  [("player_name", .string s.playerName),
    ("current_node", .string s.currentNode),
    ("day", .ofUInt32 s.day),
    ("episode", .ofUInt32 s.episode),
    ("relationships", .ofDict .ofInt32 s.relationships),
    ("flags", .ofDict Value.json s.flags),
    ("alliances", .ofTexts s.alliances),
    ("challenge_wins", .ofUInt32 s.challengeWins),
    ("elimination_wins", .ofUInt32 s.eliminationWins),
    ("vote_history", .array (s.voteHistory.map VoteRecord.toJson)),
    ("eliminated_players", .ofTexts s.eliminatedPlayers),
    ("active_players", .ofTexts s.activePlayers)]

def toJson (s : GameState) : Json := .object s.toFields

/-- The fields in the order in which they are read, given what is asked of the node. -/
def fieldsWith (currentNode : Member GameState) : List (Member GameState) :=
  [.optional "player_name" .text fun s x => { s with playerName := x },
    currentNode,
    .optional "day" .uint32 fun s x => { s with day := x },
    .optional "episode" .uint32 fun s x => { s with episode := x },
    .optional "relationships" (.dict .int32) fun s x => { s with relationships := x },
    .optional "flags" (.dict Reader.value) fun s x => { s with flags := x },
    .optional "alliances" texts fun s x => { s with alliances := x },
    .optional "challenge_wins" .uint32 fun s x => { s with challengeWins := x },
    .optional "elimination_wins" .uint32 fun s x => { s with eliminationWins := x },
    .optional "vote_history" (.list VoteRecord.reader) fun s x => { s with voteHistory := x },
    .optional "eliminated_players" texts fun s x => { s with eliminatedPlayers := x },
    .optional "active_players" texts fun s x => { s with activePlayers := x }]

def fields : List (Member GameState) :=
  fieldsWith (.mandatory "current_node" .text fun s x => { s with currentNode := x })

def reader : Reader GameState := Record.read "struct GameState" fields blank

/-- The state that new games are made from; all of its fields may be left out. -/
def templateReader : Reader GameState :=
  Record.read "struct GameStateTemplate"
    (fieldsWith (.optional "current_node" .text fun s x => { s with currentNode := x })) blank

end GameState
end Storyline
