import Storyline.Rules
import Storyline.Validation.Issue
import Storyline.Validation.Reach

/-!
The checks of story content: references, conditions, choices, and the flow of the story.

A check looks at one node at a time, in whatever order the nodes are listed; the report puts the
issues into an order of its own.
-/

namespace Storyline.Content

def errorAt (category : IssueCategory) (id message : String) : Issue :=
  ⟨.error, category, some id, message⟩

def warningAt (category : IssueCategory) (id message : String) : Issue :=
  ⟨.warning, category, some id, message⟩

def transitions (node : Node) : List (String × String) :=
  match node.kind with
  | .narrative next => next.toList.map fun n => ("next", n)
  | .choice choices =>
    (choices.zipIdx 1).filterMap fun c => c.1.next.map fun n => (s!"choice {c.2} next", n)
  | .branch condition => [("if_true", condition.ifTrue), ("if_false", condition.ifFalse)]
  | .ending => []

def startIssues (content : Content) : List Issue :=
  if content.hasNode content.startNode then []
  else [⟨.error, .references, none, s!"start node '{content.startNode}' does not exist"⟩]

def referenceIssues (content : Content) (id : String) (node : Node) : List Issue :=
  ((transitions node).filter fun t => !content.hasNode t.2).map fun t =>
    errorAt .references id s!"{t.1} target '{t.2}' does not exist"

/-- A relationship has to be compared with exactly one bound, and should be one that is kept. -/
def conditionIssues (content : Content) (id : String) (node : Node) : List Issue :=
  match node.kind with
  | .branch ⟨.relationship character above below, _, _⟩ =>
    (match above, below with
      | none, none => [errorAt .conditions id (MissingBound.message ⟨character⟩)]
      | some _, some _ => [warningAt .conditions id
          s!"relationship_check on '{character}' has both bounds; 'below' is ignored"]
      | _, _ => [])
    ++ if content.template.tracks character then []
      else [warningAt .conditions id
        s!"relationship_check on untracked character '{character}' always reads 0"]
  | _ => []

def maxKeyedChoices : Nat := 9

def choiceIssues (id : String) (node : Node) : List Issue :=
  match node.kind with
  | .choice choices =>
    if choices.isEmpty then [errorAt .choices id "choice node has no choices"]
    else if maxKeyedChoices < choices.length then
      [warningAt .choices id
        s!"{choices.length} choices; only the first {maxKeyedChoices} can be picked by number key"]
    else []
  | _ => []

/-- Every node should be reached, and some ending. This is looked at only if there is a start. -/
def flowIssues (content : Content) (nodes : List (String × Node)) (reached : List String) :
    List Issue :=
  if content.hasNode content.startNode then
    (nodes.filter fun e => !reached.contains e.1).map (fun e =>
      warningAt .flow e.1 "node is unreachable from the start node")
    ++ if (reached.filterMap content.node?).any Node.isEnding then []
      else [⟨.warning, .flow, none, "no ending node is reachable from the start node"⟩]
  else []

/-- The issues found when the nodes are listed as given and the reached ids too. -/
def issuesOver (content : Content) (nodes : List (String × Node)) (reached : List String) :
    List Issue :=
  content.startIssues
    ++ nodes.flatMap (fun e => content.referenceIssues e.1 e.2)
    ++ nodes.flatMap (fun e => content.conditionIssues e.1 e.2)
    ++ nodes.flatMap (fun e => choiceIssues e.1 e.2)
    ++ content.flowIssues nodes reached

def validate (content : Content) : Report :=
  .ofFound (content.issuesOver content.nodes.entries (content.reachable content.startNode))

end Storyline.Content
