import Storyline.Schema.State
import Storyline.Story

/-!
Story content as JSON.

Kinds of nodes and of conditions are told by their `type`. Parts that are empty or not there are
left out when an effect, a choice or a node is written; a whole story shows all of its parts.
-/

namespace Storyline

open Json

namespace Condition

def typeNames : List String := ["flag_check", "relationship_check", "alliance_check"]

def typeName (c : Condition) : String :=
  match c.test with
  | .flag _ => "flag_check"
  | .relationship .. => "relationship_check"
  | .alliance _ => "alliance_check"

def toJson (c : Condition) : Json :=
  let test : List (String × Json) := match c.test with
    | .flag name => [("flag", .string name)]
    | .relationship character above below =>
      ("character", .string character) :: given "above" .ofInt32 above
        ++ given "below" .ofInt32 below
    | .alliance name => [("alliance", .string name)]
  .object (("type", .string c.typeName) :: test
    ++ [("if_true", .string c.ifTrue), ("if_false", .string c.ifFalse)])

/-- The ends of any condition, read after its test. -/
def endFields : List (Member Condition) :=
  [.mandatory "if_true" .text fun c x => { c with ifTrue := x },
    .mandatory "if_false" .text fun c x => { c with ifFalse := x }]

def withAbove (c : Condition) (above : Option Int32) : Condition :=
  match c.test with
  | .relationship character _ below => { c with test := .relationship character above below }
  | _ => c

def withBelow (c : Condition) (below : Option Int32) : Condition :=
  match c.test with
  | .relationship character above _ => { c with test := .relationship character above below }
  | _ => c

def withCharacter (c : Condition) (character : String) : Condition :=
  match c.test with
  | .relationship _ above below => { c with test := .relationship character above below }
  | _ => c

def kindReader : Nat → Reader Condition
  | 0 =>
    Record.read "struct variant Condition::FlagCheck"
      (.mandatory "flag" .text (fun c x => { c with test := .flag x }) :: endFields)
      ⟨.flag "", "", ""⟩
  | 1 =>
    Record.read "struct variant Condition::RelationshipCheck"
      (.mandatory "character" .text withCharacter
        :: .optional "above" (.option .int32) withAbove
        :: .optional "below" (.option .int32) withBelow :: endFields)
      ⟨.relationship "" none none, "", ""⟩
  | _ =>
    Record.read "struct variant Condition::AllianceCheck"
      (.mandatory "alliance" .text (fun c x => { c with test := .alliance x }) :: endFields)
      ⟨.alliance "", "", ""⟩

def reader : Reader Condition :=
  Tagged.read "internally tagged enum Condition" "type" typeNames kindReader

end Condition

/-- A dictionary, left out where it is empty. -/
def givenDict {α : Type} (name : String) (write : α → Json) (d : Dict α) : List (String × Json) :=
  if d.isEmpty then [] else [(name, .ofDict write d)]

def givenList {α : Type} (name : String) (write : α → Json) (l : List α) : List (String × Json) :=
  if l.isEmpty then [] else [(name, .array (l.map write))]

namespace Effects

def toJson (e : Effects) : Json :=
  .object (givenDict "relationships" .ofInt32 e.relationships
    ++ givenDict "flags" Value.json e.flags
    ++ givenList "alliances" .string e.alliances
    ++ given "challenge_wins" .ofUInt32 e.challengeWins
    ++ given "elimination_wins" .ofUInt32 e.eliminationWins
    ++ givenList "vote_history" VoteRecord.toJson e.votes
    ++ given "eliminated" .ofTexts e.eliminated
    ++ given "active_players" .ofTexts e.activePlayers)

def fields : List (Member Effects) :=
  [.optional "relationships" (.dict .int32) fun e x => { e with relationships := x },
    .optional "flags" (.dict Reader.value) fun e x => { e with flags := x },
    .optional "alliances" texts fun e x => { e with alliances := x },
    .optional "challenge_wins" (.option .uint32) fun e x => { e with challengeWins := x },
    .optional "elimination_wins" (.option .uint32) fun e x => { e with eliminationWins := x },
    .optional "vote_history" (.list VoteRecord.reader) fun e x => { e with votes := x },
    .optional "eliminated" (.option texts) fun e x => { e with eliminated := x },
    .optional "active_players" (.option texts) fun e x => { e with activePlayers := x }]

def reader : Reader Effects := Record.read "struct Effects" fields .none

end Effects

namespace Choice

def toJson (c : Choice) : Json :=
  .object (("text", .string c.text) :: given "response_text" .string c.response
    ++ given "effects" Effects.toJson c.effects ++ given "next" .string c.next)

def fields : List (Member Choice) :=
  [.mandatory "text" .text fun c x => { c with text := x },
    .optional "response_text" (.option .text) fun c x => { c with response := x },
    .optional "effects" (.option Effects.reader) fun c x => { c with effects := x },
    .optional "next" (.option .text) fun c x => { c with next := x }]

def reader : Reader Choice := Record.read "struct Choice" fields ⟨"", none, none, none⟩

end Choice

namespace NodeKind

def typeNames : List String := ["narrative", "choice", "branch", "ending"]

def toFields : NodeKind → List (String × Json)
  | narrative next => given "next" .string next
  | choice choices => [("choices", .array (choices.map Choice.toJson))]
  | branch condition => [("condition", condition.toJson)]
  | ending => []

/-- The reader of each kind, by its place among the names. An ending has no fields of its own. -/
def kindReader : Nat → Reader NodeKind
  | 0 =>
    Record.read "struct variant NodeKind::Narrative"
      [.optional "next" (.option .text) fun _ x => narrative x] (narrative none)
  | 1 =>
    Record.read "struct variant NodeKind::Choice"
      [.mandatory "choices" (.list Choice.reader) fun _ x => choice x] (choice [])
  | 2 =>
    Record.read "struct variant NodeKind::Branch"
      [.mandatory "condition" Condition.reader fun _ x => branch x] ending
  | _ => Record.read "unit variant NodeKind::Ending" [] ending

def reader : Reader NodeKind :=
  Tagged.read "internally tagged enum NodeKind" "type" typeNames kindReader

end NodeKind

namespace Node

def toJson (n : Node) : Json :=
  .object (given "day" .ofUInt32 n.day ++ given "episode" .ofUInt32 n.episode
    ++ given "speaker" .string n.speaker ++ ("text", .string n.text)
    :: ("type", .string n.kind.name) :: n.kind.toFields)

def fields : List (Member Node) :=
  [.optional "day" (.option .uint32) fun n x => { n with day := x },
    .optional "episode" (.option .uint32) fun n x => { n with episode := x },
    .optional "speaker" (.option .text) fun n x => { n with speaker := x },
    .optional "text" .text fun n x => { n with text := x }]

/-- A node; the fields that are not common to all nodes make its kind. -/
def reader : Reader Node := fun p r => do
  let (n, kept) ← Record.readOpen "struct Node" fields (plain "" .ending) p r
  let kind ← NodeKind.reader .again (.object kept .closed)
  return { n with kind := kind }

end Node

namespace Character

def toJson (c : Character) : Json :=
  .object [("id", .string c.id), ("name", .string c.name),
    ("starting_disposition", .ofInt32 c.disposition)]

def fields : List (Member Character) :=
  [.mandatory "id" .text fun c x => { c with id := x },
    .mandatory "name" .text fun c x => { c with name := x },
    .optional "starting_disposition" .int32 fun c x => { c with disposition := x }]

def reader : Reader Character := Record.read "struct Character" fields ⟨"", "", 0⟩

end Character

namespace Cast

def toJson (c : Cast) : Json :=
  .object [("npcs", .array (c.characters.map Character.toJson)),
    ("aliases", .ofDict .string c.aliases)]

def fields : List (Member Cast) :=
  [.optional "npcs" (.list Character.reader) fun c x => { c with characters := x },
    .optional "aliases" (.dict .text) fun c x => { c with aliases := x }]

/-- A cast. Without aliases of its own it knows the usual ones. -/
def reader : Reader Cast := Record.read "struct CharacterRegistry" fields .standard

end Cast

namespace Titles

/-- The titles as JSON; a logo that is not there is null. -/
def toJson (t : Titles) : Json :=
  .object [("title", .string t.title), ("tagline", .string t.tagline),
    ("logo", (t.logo.map .string).getD .null), ("cast_size", .ofUInt64 t.castSize)]

def fields : List (Member Titles) :=
  [.optional "title" .text fun t x => { t with title := x },
    .optional "tagline" .text fun t x => { t with tagline := x },
    .optional "logo" (.option .text) fun t x => { t with logo := x },
    .optional "cast_size" (.map UInt64.ofNat .count) fun t x => { t with castSize := x }]

def reader : Reader Titles := Record.read "struct ContentMeta" fields .standard

end Titles

namespace Content

def toJson (c : Content) : Json :=
  .object [("meta", c.titles.toJson), ("nodes", .ofDict Node.toJson c.nodes),
    ("characters", c.cast.toJson), ("game_state_template", c.template.toJson)]

def fields : List (Member Content) :=
  [.optional "meta" Titles.reader fun c x => { c with titles := x },
    .mandatory "nodes" (.dict Node.reader) fun c x => { c with nodes := x },
    .optional "characters" Cast.reader fun c x => { c with cast := x },
    .mandatory "game_state_template" GameState.templateReader fun c x => { c with template := x }]

def reader : Reader Content :=
  Record.read "struct ContentGraph" fields ⟨.standard, .empty, .standard, .blank⟩

end Content
end Storyline
