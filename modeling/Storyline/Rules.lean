import Storyline.Story

/-!
The rules of play: when the condition of a branch holds, and what the effects of a choice change.

Nothing here shows or stores anything. Evaluating a condition reads the state only.
-/

namespace Storyline

/-- Null, false, zero and the empty text do not count as true; all else does. -/
def Value.isTruthy (v : Value) : Bool :=
  match v.json with
  | .null => false
  | .bool b => b
  | .number (.whole n) => n.value != 0
  | .number (.real x) => !x.isZero
  | .string s => !s.isEmpty
  | .array _ | .object _ => true

structure MissingBound where
  character : String
  deriving DecidableEq

def MissingBound.message (e : MissingBound) : String :=
  s!"relationship_check on '{e.character}' has neither 'above' nor 'below'"

/-- Whether a test holds. Of two bounds the upper side, `above`, is the one that counts. -/
def Test.holds (test : Test) (s : GameState) : Except MissingBound Bool :=
  match test with
  | .flag name => .ok (((s.flags.find? name).map Value.isTruthy).getD false)
  | .relationship character above below =>
    match above, below with
    | some bound, _ => .ok (bound < s.relationship character)
    | none, some bound => .ok (s.relationship character < bound)
    | none, none => .error ⟨character⟩
  | .alliance name => .ok (s.hasAlliance name)

namespace Condition

def holds (c : Condition) (s : GameState) : Except MissingBound Bool := c.test.holds s

def target (c : Condition) (s : GameState) : Except MissingBound String :=
  (c.holds s).map fun h => if h then c.ifTrue else c.ifFalse

end Condition

/-- Makes the changes of a choice. Relationships move within their range and only where they are
kept; flags are set one by one; alliances are joined once; wins are added; votes are appended; a
roster that is given takes the place of the old one. -/
def Effects.apply (e : Effects) (s : GameState) : GameState :=
  let s := e.relationships.entries.foldl (fun s d => s.adjustRelationship d.1 d.2) s
  let s := e.flags.entries.foldl (fun s f => s.setFlag f.1 f.2) s
  let s := e.alliances.foldl GameState.addAlliance s
  { s with
    challengeWins := (e.challengeWins.map (addCapped s.challengeWins)).getD s.challengeWins
    eliminationWins := (e.eliminationWins.map (addCapped s.eliminationWins)).getD s.eliminationWins
    voteHistory := s.voteHistory ++ e.votes
    eliminatedPlayers := e.eliminated.getD s.eliminatedPlayers
    activePlayers := e.activePlayers.getD s.activePlayers }

end Storyline
