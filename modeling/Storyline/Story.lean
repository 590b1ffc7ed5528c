import Storyline.State

/-!
Story content: nodes, the cast, and the state that a new game begins with.

A node is told apart by its kind, and each kind has only the parts that it needs. Content is read
once and never changes.
-/

namespace Storyline

inductive Test
  | flag (name : String)
  /-- Whether a relationship lies above one bound or below another. -/
  | relationship (character : String) (above below : Option Int32)
  | alliance (name : String)

structure Condition where
  test : Test
  ifTrue : String
  ifFalse : String

structure Effects where
  /-- What is added to the relationships to characters. -/
  relationships : Dict Int32
  flags : Dict Value
  alliances : List String
  challengeWins : Option UInt32
  eliminationWins : Option UInt32
  votes : List VoteRecord
  /-- Takes the place of the list of those who are out. -/
  eliminated : Option (List String)
  activePlayers : Option (List String)

def Effects.none : Effects where
  relationships := .empty
  flags := .empty
  alliances := []
  challengeWins := Option.none
  eliminationWins := Option.none
  votes := []
  eliminated := Option.none
  activePlayers := Option.none

structure Choice where
  text : String
  response : Option String
  effects : Option Effects
  next : Option String

inductive NodeKind
  | narrative (next : Option String)
  | choice (choices : List Choice)
  | branch (condition : Condition)
  | ending

def NodeKind.name : NodeKind → String
  | narrative _ => "narrative"
  | choice _ => "choice"
  | branch _ => "branch"
  | ending => "ending"

structure Node where
  day : Option UInt32
  episode : Option UInt32
  speaker : Option String
  text : String
  kind : NodeKind

namespace Node

def plain (text : String) (kind : NodeKind) : Node := ⟨none, none, none, text, kind⟩

def narrative (text : String) (next : Option String) : Node := plain text (.narrative next)

def choice (text : String) (choices : List Choice) : Node := plain text (.choice choices)

def branch (condition : Condition) : Node := plain "" (.branch condition)

def ending (text : String) : Node := plain text .ending

def spokenBy (node : Node) (speaker : String) : Node := { node with speaker := some speaker }

def onDay (node : Node) (day episode : UInt32) : Node :=
  { node with day := some day, episode := some episode }

/-- The nodes at which the player stops on the way are the ones that are saved. -/
def isCheckpoint (node : Node) : Bool :=
  match node.kind with
  | .narrative _ | .choice _ => true
  | .branch _ | .ending => false

def isEnding (node : Node) : Bool :=
  match node.kind with
  | .ending => true
  | _ => false

def targets (node : Node) : List String :=
  match node.kind with
  | .narrative next => next.toList
  | .choice choices => choices.filterMap (·.next)
  | .branch condition => [condition.ifTrue, condition.ifFalse]
  | .ending => []

end Node

structure Character where
  id : String
  name : String
  disposition : Int32

/-- The cast, and the names of speakers who are not part of it. -/
structure Cast where
  characters : List Character
  aliases : Dict String

namespace Cast

def standardAliases : Dict String := Dict.empty.insert "deej" "DJ 'Deej' Slavin"

def standard : Cast := ⟨[], standardAliases⟩

/-- The first character with an id. -/
def find? (cast : Cast) (id : String) : Option Character :=
  cast.characters.find? fun c => c.id == id

end Cast

structure Titles where
  title : String
  tagline : String
  logo : Option String
  /-- The number of players to show while no roster is kept. -/
  castSize : UInt64

def Titles.standard : Titles where
  title := "Challenge 2 Survive"
  tagline := "A text-based reality competition."
  logo := none
  castSize := 8

structure Content where
  titles : Titles
  nodes : Dict Node
  cast : Cast
  template : GameState

namespace Content

def node? (content : Content) (id : String) : Option Node := content.nodes.find? id

def hasNode (content : Content) (id : String) : Bool := content.nodes.contains id

def startNode (content : Content) : String := content.template.currentNode

end Content

/-- The state of a new game. The template says which relationships are kept; a character of the
cast starts with its disposition. -/
def GameState.ofTemplate (template : GameState) (cast : Cast) : GameState :=
  { template with
    relationships := template.relationships.mapValues fun id value =>
      clampRelationship (((cast.find? id).map (·.disposition)).getD value).toInt
    alliances := template.alliances.foldl addName [] }

end Storyline
