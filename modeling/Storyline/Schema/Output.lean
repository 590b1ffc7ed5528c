import Storyline.Output
import Storyline.Schema.State
import Storyline.Status

/-!
Events, directives, outputs and status reports as JSON.

An alternative without parts is its name; any other is an object of one field with its name.
-/

namespace Storyline

open Json

/-- An alternative with its parts under its name. -/
def underName (name : String) (parts : List (String × Json)) : Json :=
  .object [(name, .object parts)]

/-- A record with one field, as an alternative of another type. -/
def oneField {α β : Type} (title name : String) (reader : Reader α) (blank : α) (make : α → β) :
    Alternative β :=
  .record (.map make (Record.read title [.mandatory name reader fun _ x => x] blank))

namespace Event

def toJson : Event → Json
  | advance => .string "Advance"
  | choose index => underName "Choose" [("index", .ofNat index)]
  | playerName name => underName "PlayerName" [("name", .string name)]

def reader : Reader Event := Alternative.read
  [("Advance", .plain advance),
    ("Choose", oneField "struct variant Event::Choose" "index" .count 0 choose),
    ("PlayerName", oneField "struct variant Event::PlayerName" "name" .text "" playerName)]

end Event

namespace Wait

def toJson : Wait → Json
  | playerName => .string "PlayerName"
  | advance => .string "Advance"
  | choice count => underName "Choice" [("count", .ofNat count)]
  | savedGame => .string "SavedGame"
  | restart => .string "Restart"
  | halted => .string "Halted"

def reader : Reader Wait := Alternative.read
  [("PlayerName", .plain playerName),
    ("Advance", .plain advance),
    ("Choice", oneField "struct variant Wait::Choice" "count" .count 0 choice),
    ("SavedGame", .plain savedGame),
    ("Restart", .plain restart),
    ("Halted", .plain halted)]

end Wait

namespace TextStyle

def name : TextStyle → String
  | body => "Body"
  | logo => "Logo"
  | highlight => "Highlight"
  | response => "Response"
  | ending => "Ending"

def reader : Reader TextStyle :=
  Alternative.read ([body, logo, highlight, response, ending].map fun s => (s.name, .plain s))

end TextStyle

namespace Header

def toJson (h : Header) : Json :=
  .object [("day", .ofUInt32 h.day), ("episode", .ofUInt32 h.episode),
    ("active_players", .ofNat h.activePlayers)]

def reader : Reader Header := Record.read "struct Header"
  [.mandatory "day" .uint32 fun h x => { h with day := x },
    .mandatory "episode" .uint32 fun h x => { h with episode := x },
    .mandatory "active_players" .count fun h x => { h with activePlayers := x }]
  ⟨0, 0, 0⟩

end Header

namespace ChoiceItem

def toJson (c : ChoiceItem) : Json :=
  .object [("index", .ofNat c.index), ("label", .string c.label)]

def reader : Reader ChoiceItem := Record.read "struct ChoiceItem"
  [.mandatory "index" .count fun c x => { c with index := x },
    .mandatory "label" .text fun c x => { c with label := x }]
  ⟨0, ""⟩

end ChoiceItem

namespace Directive

def toJson : Directive → Json
  | clearOutput => .string "ClearOutput"
  | updateHeader header => .object [("UpdateHeader", header.toJson)]
  | displayText text style =>
    underName "DisplayText" [("text", .string text), ("style", .string style.name)]
  | presentChoices choices =>
    underName "PresentChoices" [("choices", .array (choices.map ChoiceItem.toJson))]
  | clearChoices => .string "ClearChoices"
  | continueAvailable on => .object [("ContinueAvailable", .bool on)]
  | divider => .string "Divider"
  | endingCue => .string "EndingCue"
  | delay ms => underName "Delay" [("ms", .ofNat ms)]
  | error message => underName "Error" [("message", .string message)]

def reader : Reader Directive := Alternative.read
  [("ClearOutput", .plain clearOutput),
    ("UpdateHeader", .payload (.map updateHeader Header.reader)),
    ("DisplayText", .record (.map (fun t => displayText t.1 t.2)
      (Record.read "struct variant Directive::DisplayText"
        [.mandatory "text" .text fun t x => (x, t.2),
          .mandatory "style" TextStyle.reader fun t x => (t.1, x)]
        ("", .body)))),
    ("PresentChoices", oneField "struct variant Directive::PresentChoices" "choices"
      (.list ChoiceItem.reader) [] presentChoices),
    ("ClearChoices", .plain clearChoices),
    ("ContinueAvailable", .payload (.map continueAvailable .bool)),
    ("Divider", .plain divider),
    ("EndingCue", .plain endingCue),
    ("Delay", oneField "struct variant Directive::Delay" "ms" .millis 0 delay),
    ("Error", oneField "struct variant Directive::Error" "message" .text "" error)]

end Directive

namespace Output

def toJson (out : Output) : Json :=
  .object [("directives", .array (out.directives.map Directive.toJson)),
    ("wait", out.wait.toJson)]

def reader : Reader Output := Record.read "struct Output"
  [.mandatory "directives" (.list Directive.reader) fun o x => { o with directives := x },
    .mandatory "wait" Wait.reader fun o x => { o with wait := x }]
  ⟨[], .halted⟩

end Output

namespace Tier

def reader : Reader Tier :=
  Alternative.read ([ally, friend, neutral, rival, enemy].map fun t => (t.name, .plain t))

end Tier

namespace Standing

def toJson (s : Standing) : Json :=
  .object [("character", .string s.character), ("name", .string s.name),
    ("value", .ofInt32 s.value), ("tier", .string s.tier.name)]

def reader : Reader Standing := Record.read "struct RelationshipLine"
  [.mandatory "character" .text fun s x => { s with character := x },
    .mandatory "name" .text fun s x => { s with name := x },
    .mandatory "value" .int32 fun s x => { s with value := x },
    .mandatory "tier" Tier.reader fun s x => { s with tier := x }]
  ⟨"", "", 0, .neutral⟩

end Standing

namespace StatusReport

def toJson (r : StatusReport) : Json :=
  .object [("player_name", .string r.playerName),
    ("challenge_wins", .ofUInt32 r.challengeWins),
    ("elimination_wins", .ofUInt32 r.eliminationWins),
    ("relationships", .array (r.relationships.map Standing.toJson)),
    ("alliances", .ofTexts r.alliances),
    ("eliminated", .ofTexts r.eliminated)]

def reader : Reader StatusReport := Record.read "struct StatusReport"
  [.mandatory "player_name" .text fun r x => { r with playerName := x },
    .mandatory "challenge_wins" .uint32 fun r x => { r with challengeWins := x },
    .mandatory "elimination_wins" .uint32 fun r x => { r with eliminationWins := x },
    .mandatory "relationships" (.list Standing.reader) fun r x => { r with relationships := x },
    .mandatory "alliances" texts fun r x => { r with alliances := x },
    .mandatory "eliminated" texts fun r x => { r with eliminated := x }]
  ⟨"", 0, 0, [], [], []⟩

end StatusReport
end Storyline
