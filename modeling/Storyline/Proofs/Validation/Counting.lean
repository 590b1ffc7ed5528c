import Mathlib.Algebra.GroupWithZero.Nat
import Storyline.Loading
import Storyline.Proofs.Validation.Issues

/-!
How many errors a report counts. Each check counts the faults of its own kind, so that the report counts
the transitions that lead nowhere, the comparisons without a bound and the choices without an option,
and none of them twice; content is loaded if it counts nothing.
-/

namespace Storyline

namespace Node

/-- Whether a relationship is compared, and with no bound. -/
def isUnbounded (node : Node) : Bool :=
  match node.kind with
  | .branch ⟨.relationship _ none none, _, _⟩ => true
  | _ => false

def isOptionless (node : Node) : Bool :=
  match node.kind with
  | .choice [] => true
  | _ => false

end Node

namespace Content

variable {content : Content}

def missing (content : Content) (id : String) : Nat := if !content.hasNode id then 1 else 0

/-- How many transitions of a node lead nowhere. -/
def dangling (content : Content) (node : Node) : Nat :=
  match node.kind with
  | .narrative next => next.elim 0 content.missing
  | .choice choices => (choices.map fun c => c.next.elim 0 content.missing).sum
  | .branch condition => content.missing condition.ifTrue + content.missing condition.ifFalse
  | .ending => 0

def errorsAmong (issues : List Issue) : Nat := issues.countP fun i => i.level = .error

@[simp] theorem errorsAmong_append (issues others : List Issue) :
    errorsAmong (issues ++ others) = errorsAmong issues + errorsAmong others :=
  List.countP_append

theorem errorsAmong_flatMap {α : Type} (l : List α) (found : α → List Issue) :
    errorsAmong (l.flatMap found) = (l.map fun a => errorsAmong (found a)).sum :=
  List.countP_flatMap

/-- A check that finds at most one error at a node counts the nodes at which it does. -/
theorem errorsAmong_flatMap_ite {α : Type} {l : List α} {found : α → List Issue} {p : α → Bool}
    (one : ∀ a, errorsAmong (found a) = if p a then 1 else 0) :
    errorsAmong (l.flatMap found) = l.countP p := by
  rw [errorsAmong_flatMap]
  induction l with
  | nil => rfl
  | cons a l ih => rw [List.map_cons, List.sum_cons, ih, one, List.countP_cons, Nat.add_comm]

theorem dangling_eq (node : Node) :
    content.dangling node = node.targets.countP fun target => !content.hasNode target := by
  unfold dangling Node.targets
  cases node.kind with
  | narrative next =>
    cases next with
    | none => rfl
    | some target => simp [missing, List.countP_cons]
  | choice choices =>
    induction choices with
    | nil => rfl
    | cons c choices ih =>
      simp only [List.map_cons, List.sum_cons, ih, List.filterMap_cons]
      cases c.next with
      | none => exact Nat.zero_add _
      | some target => simp [missing, List.countP_cons, Nat.add_comm]
  | branch condition => simp [missing, List.countP_cons, Nat.add_comm]
  | ending => rfl

theorem errors_start : errorsAmong content.startIssues = content.missing content.startNode := by
  unfold startIssues missing
  cases content.hasNode content.startNode <;> rfl

theorem errors_references (id : String) (node : Node) :
    errorsAmong (content.referenceIssues id node) = content.dangling node := by
  have all : errorsAmong (content.referenceIssues id node) =
      (content.referenceIssues id node).length :=
    List.countP_eq_length.mpr fun i found => by
      obtain ⟨t, _, rfl⟩ := List.mem_map.mp found
      rfl
  rw [all, dangling_eq, ← map_transitions, List.countP_map, referenceIssues, List.length_map,
    ← List.countP_eq_length_filter]
  rfl

theorem errors_conditions (id : String) (node : Node) :
    errorsAmong (content.conditionIssues id node) = if node.isUnbounded then 1 else 0 := by
  unfold conditionIssues Node.isUnbounded
  cases node.kind with
  | branch condition =>
    obtain ⟨test, ifTrue, ifFalse⟩ := condition
    cases test with
    | relationship character above below =>
      have kept : errorsAmong (if content.template.tracks character then []
          else [warningAt .conditions id
            s!"relationship_check on untracked character '{character}' always reads 0"]) = 0 := by
        split <;> rfl
      rw [errorsAmong_append, kept]
      cases above with
      | none => cases below <;> rfl
      | some bound => cases below <;> rfl
    | flag name => rfl
    | alliance name => rfl
  | narrative next => rfl
  | choice choices => rfl
  | ending => rfl

theorem errors_choices (id : String) (node : Node) :
    errorsAmong (choiceIssues id node) = if node.isOptionless then 1 else 0 := by
  unfold choiceIssues Node.isOptionless
  cases node.kind with
  | choice choices =>
    cases choices with
    | nil => rfl
    | cons c choices =>
      simp only [List.isEmpty_cons]
      split
      · contradiction
      · split <;> rfl
  | narrative next => rfl
  | branch condition => rfl
  | ending => rfl

theorem errors_flow (nodes : List (String × Node)) (reached : List String) :
    errorsAmong (content.flowIssues nodes reached) = 0 :=
  List.countP_eq_zero.mpr fun i found => by simp [level_flow found]

/-- The count of a report, check by check; nothing that is said of the flow of the story counts. -/
theorem errorCount_validate : content.validate.errorCount =
    content.missing content.startNode
      + (content.nodes.entries.map fun e => content.dangling e.2).sum
      + content.nodes.entries.countP (fun e => e.2.isUnbounded)
      + content.nodes.entries.countP (fun e => e.2.isOptionless) := by
  unfold validate
  rw [Report.errorCount_ofFound]
  change errorsAmong (content.issuesOver _ _) = _
  unfold issuesOver
  simp only [errorsAmong_append]
  rw [errors_start, errors_flow, errorsAmong_flatMap,
    errorsAmong_flatMap_ite fun e => errors_conditions e.1 e.2,
    errorsAmong_flatMap_ite fun e => errors_choices e.1 e.2]
  simp only [errors_references, Nat.add_zero]

theorem counts_validate :
    content.validate.errorCount = content.validate.errors.length ∧
      content.validate.warningCount = content.validate.warnings.length := by
  unfold Report.errors Report.warnings
  rw [← List.countP_eq_length_filter, ← List.countP_eq_length_filter]
  exact Report.counts_ofFound _

theorem lost_of_reference {id : String} {node : Node} {i : Issue}
    (h : i ∈ content.referenceIssues id node) :
    ∃ target ∈ node.targets, content.hasNode target = false := by
  obtain ⟨t, member, rfl⟩ := List.mem_map.mp h
  obtain ⟨listed, lost⟩ := List.mem_filter.mp member
  refine ⟨t.2, ?_, by simpa using lost⟩
  rw [← map_transitions]
  exact List.mem_map_of_mem listed

theorem reference_error_iff {id : String} {node : Node} (found : content.node? id = some node) :
    (∃ i ∈ content.validate.issues,
        i.level = .error ∧ i.category = .references ∧ i.node = some id) ↔
      ∃ target ∈ node.targets, content.hasNode target = false := by
  constructor
  · rintro ⟨i, listed, -, about, there⟩
    rcases reference_of_validate listed about with start | ⟨e, member, issue⟩
    · cases (start_stands start).2.symm.trans there
    · cases (reference_stands issue).2.symm.trans there
      cases (Dict.find?_of_mem member).symm.trans found
      exact lost_of_reference issue
  · rintro ⟨target, member, lost⟩
    obtain ⟨i, issue, wrong⟩ := reference_of_target id member lost
    refine ⟨i, mem_validate.mpr (.inl ?_), wrong⟩
    exact List.mem_append_right _ (List.mem_flatMap.mpr ⟨(id, node), entry_of_node found,
      List.mem_append_left _ (List.mem_append_left _ issue)⟩)

theorem check_iff {text : String} {checked : Checked} : check text = .ok checked ↔
    ofText text = .ok checked.content ∧ checked.report = checked.content.validate ∧
      checked.digest = Digest.ofText text := by
  unfold check
  constructor
  · intro checks
    obtain ⟨content, read, same⟩ := Json.bind_ok checks
    cases same
    exact ⟨read, rfl, rfl⟩
  · obtain ⟨content, report, digest⟩ := checked
    rintro ⟨read, whole, named⟩
    dsimp only at read whole named
    rw [read, whole, named]
    rfl

theorem load_iff {text : String} {checked : Checked} : load text = .ok checked ↔
    check text = .ok checked ∧ checked.report.errorCount = 0 := by
  unfold load
  cases check text with
  | error e => exact ⟨nofun, fun ⟨checks, _⟩ => nomatch checks⟩
  | ok found =>
    dsimp only
    split
    · next errors =>
      refine ⟨nofun, ?_⟩
      rintro ⟨⟨⟩, none⟩
      simp [Report.hasErrors, none] at errors
    · next fine =>
      constructor
      · rintro ⟨⟩
        exact ⟨rfl, by simpa [Report.hasErrors] using fine⟩
      · rintro ⟨⟨⟩, -⟩
        rfl

/-- What a report counts is what content cannot be played for: a start that does not exist, each
transition that leads nowhere, each comparison without a bound and each choice without an option. It
counts what it lists, blames a node for a target that does not exist, and content is loaded just if it
is read and nothing counts against it. -/
theorem counts_what_cannot_be_played (content : Content) :
    content.validate.errorCount = content.missing content.startNode
        + (content.nodes.entries.map fun e => content.dangling e.2).sum
        + content.nodes.entries.countP (fun e => e.2.isUnbounded)
        + content.nodes.entries.countP (fun e => e.2.isOptionless) ∧
      content.validate.errorCount = content.validate.errors.length ∧
      content.validate.warningCount = content.validate.warnings.length ∧
      (∀ id node, content.node? id = some node →
        ((∃ i ∈ content.validate.issues,
            i.level = .error ∧ i.category = .references ∧ i.node = some id) ↔
          ∃ target ∈ node.targets, content.hasNode target = false)) ∧
      (∀ text, (∃ checked, load text = .ok checked ∧ checked.content = content) ↔
        ofText text = .ok content ∧ content.validate.errorCount = 0) ∧
      ∀ text checked, load text = .ok checked ↔
        check text = .ok checked ∧ checked.report.errorCount = 0 := by
  refine ⟨errorCount_validate, counts_validate.1, counts_validate.2,
    fun _ _ found => reference_error_iff found, fun text => ?_, fun _ _ => load_iff⟩
  simp only [load_iff, check_iff]
  constructor
  · rintro ⟨checked, ⟨⟨read, report, -⟩, none⟩, rfl⟩
    exact ⟨read, report ▸ none⟩
  · rintro ⟨read, none⟩
    exact ⟨⟨content, content.validate, Digest.ofText text⟩, ⟨⟨read, rfl, rfl⟩, none⟩, rfl⟩

/-- A story in which everything is wrong that counts. -/
def ruin : Content where
  titles := .standard
  nodes := Dict.ofList [
    ("cell", .choice "Where to?" []),
    ("gate", .branch ⟨.relationship "ann" none none, "cell", "yard"⟩),
    ("hall", .choice "Which way?" [⟨"Up", none, none, some "yard"⟩, ⟨"On", none, none, some "gate"⟩])]
  cast := .standard
  template := { GameState.blank with currentNode := "start" }

theorem counts_what_cannot_be_played_ruin :
    ruin.validate.errorCount = 5 ∧
      ∃ i ∈ ruin.validate.issues,
        i.level = .error ∧ i.category = .references ∧ i.node = some "hall" := by
  obtain ⟨count, -, -, blames, -⟩ := counts_what_cannot_be_played ruin
  have hall : ruin.node? "hall" = some (.choice "Which way?"
    [⟨"Up", none, none, some "yard"⟩, ⟨"On", none, none, some "gate"⟩]) := by decide +kernel
  refine ⟨count.trans (by decide +kernel), (blames "hall" _ hall).mpr ⟨"yard", ?_, ?_⟩⟩
  · decide +kernel
  · decide +kernel

end Content
end Storyline
