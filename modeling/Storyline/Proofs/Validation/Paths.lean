import Mathlib.Data.List.Chain
import Mathlib.Logic.Function.Iterate
import Storyline.Proofs.Validation.Issues
import Storyline.Proofs.Validation.Reachability

/-!
What the search finds. It comes to an end, after no more turns than there are transitions and one
for the start, and has then found those ids to which a path leads. Cycles and ids that are looked at
more than once cost turns, but none is taken twice; ids of no node end a path. What the check of the
flow says is what the search has not found.
-/

namespace Storyline.Content

variable {content : Content} {start id : String} {path seen stack : List String}

def turn (content : Content) : List String × List String → List String × List String
  | (seen, []) => (seen, [])
  | (seen, id :: stack) =>
    if seen.contains id then (seen, stack)
    else (id :: seen, content.following (id :: seen) id ++ stack)

def links (content : Content) : List String := content.nodes.entries.flatMap fun e => e.2.targets

theorem turn_known (known : seen.contains id = true) :
    content.turn (seen, id :: stack) = (seen, stack) := if_pos known

theorem turn_fresh (fresh : ¬seen.contains id = true) :
    content.turn (seen, id :: stack)
      = (id :: seen, content.following (id :: seen) id ++ stack) := if_neg fresh

/-- Each turn takes an id from the stack and follows at most the transitions that are given up for
it, so both together bound the turns. -/
theorem turns_reachFrom (content : Content) (seen stack : List String) :
    ∃ turns ≤ (content.unfollowed seen).length + stack.length,
      content.turn^[turns] (seen, stack) = (content.reachFrom seen stack, []) := by
  fun_induction reachFrom content seen stack with
  | case1 seen => exact ⟨0, Nat.zero_le _, rfl⟩
  | case2 seen id stack known ih =>
    obtain ⟨turns, few, ends⟩ := ih
    refine ⟨turns + 1, Nat.succ_le_succ few, ?_⟩
    rw [Function.iterate_succ_apply, turn_known known, ends]
  | case3 seen id stack fresh ih =>
    obtain ⟨turns, few, ends⟩ := ih
    have spent := content.following_spends (eq_false_of_ne_true fresh)
    refine ⟨turns + 1, ?_, ?_⟩
    · rw [List.length_append] at few
      rw [List.length_cons]
      omega
    · rw [Function.iterate_succ_apply, turn_fresh fresh, ends]

def LeadsTo (content : Content) (id target : String) : Prop :=
  ∃ node, content.node? id = some node ∧ target ∈ node.targets

/-- A finite path, given by the ids on it. Each of them but the last is that of a node, and the next
one is a target of this node. -/
structure IsPath (content : Content) (start id : String) (path : List String) : Prop where
  first : path.head? = some start
  last : path.getLast? = some id
  leads : path.IsChain content.LeadsTo

namespace IsPath

theorem stay (content : Content) (start : String) : content.IsPath start start [start] :=
  ⟨rfl, rfl, .singleton start⟩

theorem go (h : content.IsPath start id path) {target : String} (leads : content.LeadsTo id target) :
    content.IsPath start target (path ++ [target]) where
  first := by rw [List.head?_append, h.first]; rfl
  last := List.getLast?_concat
  leads := by
    refine h.leads.append (.singleton target) fun last isLast next isNext => ?_
    cases h.last.symm.trans isLast
    cases isNext
    exact leads

theorem carried {p : String → Prop} (h : content.IsPath start id path) (there : p start)
    (carries : ∀ ⦃id target⦄, content.LeadsTo id target → p id → p target) : p id := by
  have first (nonempty : path ≠ []) : path.head nonempty = start :=
    (List.head_eq_iff_head?_eq_some nonempty).mpr h.first
  exact h.leads.induction p path carries (fun nonempty => (first nonempty).symm ▸ there) id
    (List.mem_of_getLast? h.last)

end IsPath

theorem mem_reachable_iff : id ∈ content.reachable start ↔ ∃ path, content.IsPath start id path := by
  constructor
  · refine forall_reachable (p := fun id => ∃ path, content.IsPath start id path)
      ⟨[start], .stay content start⟩ ?_ id
    rintro other node ⟨path, leads⟩ found target follows
    exact ⟨path ++ [target], leads.go ⟨node, found, follows⟩⟩
  · rintro ⟨path, leads⟩
    refine leads.carried (content.start_mem_reachable start) ?_
    rintro other target ⟨node, found, follows⟩ reached
    exact content.closed_reachable start other reached node found target follows

/-- The search ends, within as many turns as there are transitions and one more, and it has found the
ids to which a path leads from where it set out. In a story that starts somewhere the check of the
flow warns of the nodes that are not found from there, of the lack of an ending if none is found, and
of nothing else. -/
theorem finds_ends_of_paths (content : Content) (start : String) :
    (∃ turns ≤ content.links.length + 1,
      content.turn^[turns] ([], [start]) = (content.reachable start, [])) ∧
    (∀ id, id ∈ content.reachable start ↔ ∃ path, content.IsPath start id path) ∧
    (content.hasNode content.startNode = true →
      let warnings := content.flowIssues content.nodes.entries (content.reachable content.startNode)
      (∀ id, warningAt .flow id "node is unreachable from the start node" ∈ warnings ↔
        content.hasNode id = true ∧ id ∉ content.reachable content.startNode) ∧
      (⟨.warning, .flow, none, "no ending node is reachable from the start node"⟩ ∈ warnings ↔
        ∀ id ∈ content.reachable content.startNode, ∀ node, content.node? id = some node →
          node.isEnding = false) ∧
      ∀ i ∈ warnings, (∃ id, i = warningAt .flow id "node is unreachable from the start node") ∨
        i = ⟨.warning, .flow, none, "no ending node is reachable from the start node"⟩) := by
  refine ⟨content.turns_reachFrom [] [start], fun _ => mem_reachable_iff, fun there =>
    ⟨fun id => unreached_mem_flowIssues there, endless_mem_flowIssues there, fun i issue => ?_⟩⟩
  rcases (mem_flowIssues there).mp issue with ⟨id, -, -, same⟩ | ⟨-, same⟩
  · exact .inl ⟨id, same⟩
  · exact .inr same

/-- A story with a node that leads back to itself, a cycle, and a door to nowhere; what ends it lies
beyond a wall. -/
def maze : Content where
  titles := .standard
  nodes := Dict.ofList [
    ("hall", .choice "Which way?" [⟨"Stay", none, none, some "hall"⟩, ⟨"On", none, none, some "arch"⟩]),
    ("arch", .branch ⟨.flag "lamp", "pit", "hall"⟩),
    ("yard", .ending "Air.")]
  cast := .standard
  template := { GameState.blank with currentNode := "hall" }

theorem finds_ends_of_paths_maze :
    maze.hasNode "hall" = true ∧ maze.hasNode "pit" = false ∧ "pit" ∈ maze.reachable "hall" ∧
      warningAt .flow "yard" "node is unreachable from the start node" ∈
        maze.flowIssues maze.nodes.entries (maze.reachable "hall") := by
  obtain ⟨-, paths, flow⟩ := finds_ends_of_paths maze "hall"
  have start : maze.hasNode maze.startNode = true := by decide +kernel
  have hall : maze.LeadsTo "hall" "arch" := ⟨_, rfl, by decide +kernel⟩
  have arch : maze.LeadsTo "arch" "pit" := ⟨_, rfl, by decide +kernel⟩
  have way : maze.IsPath "hall" "pit" ["hall", "arch", "pit"] :=
    ((IsPath.stay maze "hall").go hall).go arch
  have apart : "yard" ∉ maze.reachable "hall" := by
    intro reached
    have known : "yard" ∈ ["hall", "arch", "pit"] :=
      reachable_subset (by decide +kernel) List.mem_cons_self reached
    simp at known
  exact ⟨start, by decide +kernel, (paths "pit").mpr ⟨_, way⟩,
    ((flow start).1 "yard").mpr ⟨by decide +kernel, apart⟩⟩

end Storyline.Content
