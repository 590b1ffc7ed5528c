import Storyline.Proofs.Play.Walk
import Storyline.Validation.Checks

/-!
What content without errors in its report is: a start to begin at, a node at the end of every
transition, a bound in every comparison and an option in every choice. On such content no way through
the story is lost but in a cycle of branches.
-/

namespace Storyline

def Condition.Bounded (c : Condition) : Prop :=
  match c.test with
  | .relationship _ above below => above.isSome ∨ below.isSome
  | _ => True

theorem Condition.Bounded.target {c : Condition} (h : c.Bounded) (s : GameState) :
    ∃ target, c.target s = .ok target ∧ (target = c.ifTrue ∨ target = c.ifFalse) := by
  have holds : ∃ b, c.holds s = .ok b := by
    unfold Bounded at h
    unfold Condition.holds Test.holds
    cases test : c.test with
    | flag name => exact ⟨_, rfl⟩
    | alliance name => exact ⟨_, rfl⟩
    | relationship character above below =>
      rw [test] at h
      cases above with
      | some bound => exact ⟨_, rfl⟩
      | none =>
        cases below with
        | some bound => exact ⟨_, rfl⟩
        | none => cases h <;> contradiction
  obtain ⟨b, holds⟩ := holds
  unfold Condition.target
  rw [holds]
  cases b with
  | true => exact ⟨_, rfl, .inl rfl⟩
  | false => exact ⟨_, rfl, .inr rfl⟩

theorem Condition.next_cases (c : Condition) (s : GameState) :
    c.next s = c.ifTrue ∨ c.next s = c.ifFalse := by
  unfold next target
  cases c.holds s with
  | error e => exact .inr rfl
  | ok b =>
    cases b with
    | true => exact .inl rfl
    | false => exact .inr rfl

namespace Node

variable {node : Node}

theorem next_mem_targets {next : String} (kind : node.kind = .narrative (some next)) :
    next ∈ node.targets := by
  unfold targets
  rw [kind]
  exact List.mem_singleton.mpr rfl

theorem chosen_mem_targets {choices : List Choice} (kind : node.kind = .choice choices) {c : Choice}
    (member : c ∈ choices) {next : String} (leads : c.next = some next) : next ∈ node.targets := by
  unfold targets
  rw [kind]
  exact List.mem_filterMap.mpr ⟨c, member, leads⟩

theorem branch_mem_targets {condition : Condition} (kind : node.kind = .branch condition)
    (s : GameState) : condition.next s ∈ node.targets := by
  unfold targets
  rw [kind]
  rcases condition.next_cases s with same | same
  · rw [same]
    exact List.mem_cons_self
  · rw [same]
    exact List.mem_cons_of_mem _ List.mem_cons_self

end Node

/-- Content that can be played to the end wherever one goes. -/
structure Content.Playable (content : Content) : Prop where
  start : content.hasNode content.startNode = true
  targets : ∀ id node, content.node? id = some node →
    ∀ target ∈ node.targets, content.hasNode target = true
  bounds : ∀ id node condition, content.node? id = some node → node.kind = .branch condition →
    condition.Bounded
  options : ∀ id node choices, content.node? id = some node → node.kind = .choice choices →
    choices ≠ []

namespace Content

theorem entry_of_node {content : Content} {id : String} {node : Node}
    (found : content.node? id = some node) : (id, node) ∈ content.nodes.entries := by
  obtain ⟨entry, listed, same⟩ := Option.map_eq_some_iff.mp found
  have member := List.mem_of_find?_eq_some listed
  have key := List.find?_some listed
  rw [beq_iff_eq] at key
  rw [← key, ← same]
  exact member

theorem node_of_hasNode {content : Content} {id : String} (h : content.hasNode id = true) :
    ∃ node, content.node? id = some node := Option.isSome_iff_exists.mp h

theorem hasNode_of_node {content : Content} {id : String} {node : Node}
    (found : content.node? id = some node) : content.hasNode id = true :=
  Option.isSome_iff_exists.mpr ⟨node, found⟩

theorem map_transitions (node : Node) : (transitions node).map Prod.snd = node.targets := by
  unfold transitions Node.targets
  cases node.kind with
  | narrative next => cases next <;> rfl
  | choice choices =>
    have numbered (n : Nat) : ((choices.zipIdx n).filterMap fun c => c.1.next.map fun target =>
        (s!"choice {c.2} next", target)).map Prod.snd = choices.filterMap (·.next) := by
      induction choices generalizing n with
      | nil => rfl
      | cons c choices ih =>
        rw [List.zipIdx_cons, List.filterMap_cons, List.filterMap_cons]
        cases c.next with
        | none => exact ih (n + 1)
        | some target => exact congrArg (target :: ·) (ih (n + 1))
    exact numbered 1
  | branch condition => rfl
  | ending => rfl

theorem mem_transitions (node : Node) {target : String} (h : target ∈ node.targets) :
    ∃ name, (name, target) ∈ transitions node := by
  rw [← map_transitions] at h
  obtain ⟨⟨name, _⟩, listed, rfl⟩ := List.mem_map.mp h
  exact ⟨name, listed⟩

theorem reference_of_target {content : Content} {node : Node} {target : String} (id : String)
    (member : target ∈ node.targets) (lost : content.hasNode target = false) :
    ∃ i ∈ content.referenceIssues id node,
      i.level = .error ∧ i.category = .references ∧ i.node = some id := by
  obtain ⟨name, listed⟩ := mem_transitions node member
  exact ⟨errorAt .references id s!"{name} target '{target}' does not exist",
    List.mem_map.mpr ⟨(name, target), List.mem_filter.mpr ⟨listed, by rw [lost]; rfl⟩, rfl⟩,
    rfl, rfl, rfl⟩

def faults (content : Content) : List Issue :=
  content.startIssues ++ content.nodes.entries.flatMap fun e =>
    content.referenceIssues e.1 e.2 ++ content.conditionIssues e.1 e.2 ++ choiceIssues e.1 e.2

theorem level_flow {content : Content} {nodes : List (String × Node)} {reached : List String}
    {i : Issue} (h : i ∈ content.flowIssues nodes reached) : i.level = .warning := by
  unfold flowIssues at h
  split at h
  · rcases List.mem_append.mp h with unreached | endless
    · obtain ⟨_, _, rfl⟩ := List.mem_map.mp unreached
      rfl
    · split at endless
      · cases endless
      · cases List.mem_singleton.mp endless
        rfl
  · cases h

theorem mem_issuesOver {content : Content} {reached : List String} {i : Issue} :
    i ∈ content.issuesOver content.nodes.entries reached ↔
      i ∈ content.faults ∨ i ∈ content.flowIssues content.nodes.entries reached := by
  unfold issuesOver faults
  simp only [List.mem_append, List.mem_flatMap]
  constructor
  · rintro ((((start | ⟨e, member, h⟩) | ⟨e, member, h⟩) | ⟨e, member, h⟩) | flow)
    · exact .inl (.inl start)
    · exact .inl (.inr ⟨e, member, .inl (.inl h)⟩)
    · exact .inl (.inr ⟨e, member, .inl (.inr h)⟩)
    · exact .inl (.inr ⟨e, member, .inr h⟩)
    · exact .inr flow
  · rintro ((start | ⟨e, member, (h | h) | h⟩) | flow)
    · exact .inl (.inl (.inl (.inl start)))
    · exact .inl (.inl (.inl (.inr ⟨e, member, h⟩)))
    · exact .inl (.inl (.inr ⟨e, member, h⟩))
    · exact .inl (.inr ⟨e, member, h⟩)
    · exact .inr flow

/-- A report is without errors if none is found at the start or at a node; no order of issues
matters, and nothing that is said of the flow of the story. -/
theorem clean_iff {content : Content} :
    content.validate.hasErrors = false ↔ ∀ i ∈ content.faults, i.level ≠ .error := by
  unfold validate Report.hasErrors
  rw [Report.errorCount_ofFound, decide_eq_false_iff_not, Nat.not_lt, Nat.le_zero,
    List.countP_eq_zero]
  simp only [decide_eq_true_eq, mem_issuesOver]
  constructor
  · intro clean i member
    exact clean i (.inl member)
  · rintro clean i (fault | flow)
    · exact clean i fault
    · rw [level_flow flow]
      exact nofun

theorem no_error_at {content : Content} (clean : content.validate.hasErrors = false) {id : String}
    {node : Node} (found : content.node? id = some node) {i : Issue}
    (h : i ∈ content.referenceIssues id node ++ content.conditionIssues id node ++
      choiceIssues id node) : i.level ≠ .error :=
  clean_iff.mp clean i
    (List.mem_append_right _ (List.mem_flatMap.mpr ⟨(id, node), entry_of_node found, h⟩))

theorem start_of_clean {content : Content} (clean : content.validate.hasErrors = false) :
    content.hasNode content.startNode = true := by
  refine eq_true_of_ne_false ?_
  intro missing
  obtain ⟨i, issue, wrong⟩ : ∃ i ∈ content.startIssues, i.level = .error := by
    unfold startIssues
    rw [missing]
    exact ⟨_, List.mem_cons_self, rfl⟩
  exact clean_iff.mp clean i (List.mem_append_left _ issue) wrong

theorem targets_of_clean {content : Content} (clean : content.validate.hasErrors = false)
    {id : String} {node : Node} (found : content.node? id = some node) {target : String}
    (member : target ∈ node.targets) : content.hasNode target = true := by
  refine eq_true_of_ne_false ?_
  intro missing
  obtain ⟨i, issue, wrong, -⟩ := reference_of_target id member missing
  exact no_error_at clean found (List.mem_append_left _ (List.mem_append_left _ issue)) wrong

theorem bounded_of_clean {content : Content} (clean : content.validate.hasErrors = false)
    {id : String} {node : Node} (found : content.node? id = some node) {condition : Condition}
    (kind : node.kind = .branch condition) : condition.Bounded := by
  unfold Condition.Bounded
  cases test : condition.test with
  | flag name => trivial
  | alliance name => trivial
  | relationship character above below =>
    cases above with
    | some bound => exact .inl rfl
    | none =>
      cases below with
      | some bound => exact .inr rfl
      | none =>
        obtain ⟨_, ifTrue, ifFalse⟩ := condition
        cases test
        have issue : errorAt .conditions id (MissingBound.message ⟨character⟩) ∈
            content.conditionIssues id node := by
          unfold conditionIssues
          simp only [kind]
          exact List.mem_append_left _ List.mem_cons_self
        exact absurd rfl
          (no_error_at clean found (List.mem_append_left _ (List.mem_append_right _ issue)))

theorem options_of_clean {content : Content} (clean : content.validate.hasErrors = false)
    {id : String} {node : Node} (found : content.node? id = some node) {choices : List Choice}
    (kind : node.kind = .choice choices) : choices ≠ [] := by
  intro empty
  have issue : errorAt .choices id "choice node has no choices" ∈ choiceIssues id node := by
    unfold choiceIssues
    simp only [kind, empty]
    exact List.mem_cons_self
  exact no_error_at clean found (List.mem_append_right _ issue) rfl

/-- The verdict of the checks: a report without errors means that the content is playable. -/
theorem playable_of_validate {content : Content} (clean : content.validate.hasErrors = false) :
    content.Playable where
  start := start_of_clean clean
  targets := fun _ _ found _ member => targets_of_clean clean found member
  bounds := fun _ _ _ found kind => bounded_of_clean clean found kind
  options := fun _ _ _ found kind => options_of_clean clean found kind

/-- A story of one choice: who stays is asked again, in a mood of its own. -/
def fork : Content where
  titles := .standard
  nodes := Dict.ofList [
    ("fork", (Node.choice "Stay?" [⟨"Yes", none, some mood, some "mood"⟩,
      ⟨"No", none, none, some "end"⟩]).onDay 2 1),
    ("mood", .branch ⟨.flag "mood", "fork", "end"⟩),
    ("end", .ending "Over.")]
  cast := .standard
  template := { GameState.blank with currentNode := "fork" }
where
  mood : Effects := { Effects.none with
    flags := Dict.empty.insert "mood" (.number (.real ⟨false, 1022 * 2 ^ 52, by decide⟩)) }

theorem clean_fork : fork.validate.hasErrors = false := clean_iff.mpr (by decide +kernel)

def tale : Content where
  titles := .standard
  nodes := Dict.ofList [
    ("start", .choice "Pick" [⟨"Go", none, none, some "tale"⟩, ⟨"Stop", none, none, none⟩]),
    ("tale", .narrative "A tale." (some "end")),
    ("end", .ending "Bye.")]
  cast := .standard
  template := { GameState.blank with currentNode := "start" }

theorem clean_tale : tale.validate.hasErrors = false := clean_iff.mpr (by decide +kernel)

namespace Playable

variable {content : Content} {id : String} {node : Node}

theorem next (h : content.Playable) (found : content.node? id = some node) {next : String}
    (kind : node.kind = .narrative (some next)) : content.hasNode next = true :=
  h.targets id node found next (Node.next_mem_targets kind)

theorem chosen (h : content.Playable) (found : content.node? id = some node) {choices : List Choice}
    (kind : node.kind = .choice choices) {c : Choice} (member : c ∈ choices) {next : String}
    (leads : c.next = some next) : content.hasNode next = true :=
  h.targets id node found next (Node.chosen_mem_targets kind member leads)

theorem branch (h : content.Playable) (found : content.node? id = some node) {condition : Condition}
    (kind : node.kind = .branch condition) (s : GameState) :
    content.hasNode (condition.next s) = true :=
  h.targets id node found _ (Node.branch_mem_targets kind s)

/-- Every way through playable content ends at a node, and is lost only in a cycle of branches. -/
theorem walk (h : content.Playable) (s : GameState) (there : content.hasNode id = true) (hops : Nat) :
    content.hasNode (content.walk s id hops).1.currentNode = true ∧
      ∀ fault, (content.walk s id hops).2.fault = some fault → ∃ id', fault = .branchCycle id' := by
  fun_induction Content.walk content s id hops with
  | case1 hops s id missing =>
    obtain ⟨node, found⟩ := node_of_hasNode there
    rw [missing] at found
    cases found
  | case2 hops s id node found next kind => exact ⟨there, fun _ lost => by cases lost⟩
  | case3 hops s id node found choices kind => exact ⟨there, fun _ lost => by cases lost⟩
  | case4 hops s id node found kind => exact ⟨there, fun _ lost => by cases lost⟩
  | case5 s id node found condition kind =>
    refine ⟨there, ?_⟩
    intro fault same
    exact ⟨id, (Option.some.inj same).symm⟩
  | case6 s id node found condition kind hops ih => exact ih (h.branch found kind _)

end Playable
end Content
end Storyline
