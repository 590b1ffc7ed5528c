import Storyline.Proofs.Saves.Keeping
import Storyline.Proofs.Validation.Playable

/-!
What the issues of a report say of the content. Each category comes from one check, so an issue leads
back to what it was found in: a character that is not kept, a node that is not reached, or that no
ending is.
-/

namespace Storyline.Content

variable {content : Content} {i : Issue} {id : String} {node : Node}

/-- The order of a report matters to none of its issues. -/
theorem mem_validate : i ∈ content.validate.issues ↔ i ∈ content.faults ∨
    i ∈ content.flowIssues content.nodes.entries (content.reachable content.startNode) := by
  unfold validate
  rw [Report.issues_ofFound, List.mem_mergeSort, mem_issuesOver]

theorem start_stands (h : i ∈ content.startIssues) : i.category = .references ∧ i.node = none := by
  unfold startIssues at h
  split at h
  · cases h
  · cases List.mem_singleton.mp h
    exact ⟨rfl, rfl⟩

theorem reference_stands (h : i ∈ content.referenceIssues id node) :
    i.category = .references ∧ i.node = some id := by
  obtain ⟨t, _, rfl⟩ := List.mem_map.mp h
  exact ⟨rfl, rfl⟩

theorem condition_stands (h : i ∈ content.conditionIssues id node) :
    i.category = .conditions ∧ i.node = some id := by
  unfold conditionIssues at h
  split at h
  · rcases List.mem_append.mp h with bounds | untracked
    · split at bounds
      · cases List.mem_singleton.mp bounds
        exact ⟨rfl, rfl⟩
      · cases List.mem_singleton.mp bounds
        exact ⟨rfl, rfl⟩
      · cases bounds
    · split at untracked
      · cases untracked
      · cases List.mem_singleton.mp untracked
        exact ⟨rfl, rfl⟩
  · cases h

theorem choice_stands (h : i ∈ choiceIssues id node) :
    i.category = .choices ∧ i.node = some id := by
  unfold choiceIssues at h
  split at h
  · split at h
    · cases List.mem_singleton.mp h
      exact ⟨rfl, rfl⟩
    · split at h
      · cases List.mem_singleton.mp h
        exact ⟨rfl, rfl⟩
      · cases h
  · cases h

theorem category_flow {nodes : List (String × Node)} {reached : List String}
    (h : i ∈ content.flowIssues nodes reached) : i.category = .flow := by
  unfold flowIssues at h
  split at h
  · rcases List.mem_append.mp h with unreached | endless
    · obtain ⟨_, _, rfl⟩ := List.mem_map.mp unreached
      rfl
    · split at endless
      · cases endless
      · cases List.mem_singleton.mp endless
        rfl
  · cases h

/-- What an issue was found in, told by its category. -/
theorem found_of_validate (h : i ∈ content.validate.issues) :
    match i.category with
    | .references => i ∈ content.startIssues ∨
        ∃ e ∈ content.nodes.entries, i ∈ content.referenceIssues e.1 e.2
    | .conditions => ∃ e ∈ content.nodes.entries, i ∈ content.conditionIssues e.1 e.2
    | .choices => ∃ e ∈ content.nodes.entries, i ∈ choiceIssues e.1 e.2
    | .flow => i ∈ content.flowIssues content.nodes.entries
        (content.reachable content.startNode) := by
  rcases mem_validate.mp h with fault | flow
  · rcases List.mem_append.mp fault with start | there
    · rw [(start_stands start).1]
      exact .inl start
    · obtain ⟨e, member, issue⟩ := List.mem_flatMap.mp there
      rcases List.mem_append.mp issue with issue | choices
      · rcases List.mem_append.mp issue with references | conditions
        · rw [(reference_stands references).1]
          exact .inr ⟨e, member, references⟩
        · rw [(condition_stands conditions).1]
          exact ⟨e, member, conditions⟩
      · rw [(choice_stands choices).1]
        exact ⟨e, member, choices⟩
  · rw [category_flow flow]
    exact flow

theorem flow_of_validate (h : i ∈ content.validate.issues) (about : i.category = .flow) :
    i ∈ content.flowIssues content.nodes.entries (content.reachable content.startNode) := by
  simpa only [about] using found_of_validate h

theorem condition_of_validate (h : i ∈ content.validate.issues) (about : i.category = .conditions) :
    ∃ e ∈ content.nodes.entries, i ∈ content.conditionIssues e.1 e.2 := by
  simpa only [about] using found_of_validate h

theorem reference_of_validate (h : i ∈ content.validate.issues) (about : i.category = .references) :
    i ∈ content.startIssues ∨
      ∃ e ∈ content.nodes.entries, i ∈ content.referenceIssues e.1 e.2 := by
  simpa only [about] using found_of_validate h

def untrackedMessage (character : String) : String :=
  s!"relationship_check on untracked character '{character}' always reads 0"

theorem untrackedMessage_inj {a b : String} (h : untrackedMessage a = untrackedMessage b) : a = b := by
  have letters := congrArg String.toList h
  unfold untrackedMessage at letters
  simp only [toString, String.toList_append] at letters
  exact String.toList_inj.mp (List.append_cancel_left (List.append_cancel_right letters))

theorem untracked_of_validate {character : String}
    (h : warningAt .conditions id (untrackedMessage character) ∈ content.validate.issues) :
    content.template.tracks character = false := by
  obtain ⟨e, _, issue⟩ := condition_of_validate h rfl
  unfold conditionIssues at issue
  split at issue
  · next asked above below _ _ _ =>
    rcases List.mem_append.mp issue with bounds | untracked
    · split at bounds
      · cases List.mem_singleton.mp bounds
      · -- both messages are about a relationship, and differ in the first letter after that
        have same := congrArg Issue.message (List.mem_singleton.mp bounds)
        have letter : (untrackedMessage character).toList[22]? = some 'u' := by
          have start : ("relationship_check on untracked character '" : String).toList[22]? =
              some 'u' := by decide +kernel
          exact letter_of_start (letter_of_start start _) _
        have letter' : (untrackedMessage character).toList[22]? = some '\'' := by
          have start : ("relationship_check on '" : String).toList[22]? = some '\'' := by
            decide +kernel
          refine Eq.trans (congrArg (·.toList[22]?) same) ?_
          exact letter_of_start (letter_of_start start _) _
        cases letter.symm.trans letter'
      · cases bounds
    · split at untracked
      · cases untracked
      · next kept =>
        have same := congrArg Issue.message (List.mem_singleton.mp untracked)
        rw [untrackedMessage_inj same]
        simpa using kept
  · cases issue

theorem mem_flowIssues (start : content.hasNode content.startNode = true) :
    i ∈ content.flowIssues content.nodes.entries (content.reachable content.startNode) ↔
      (∃ id, content.hasNode id = true ∧ id ∉ content.reachable content.startNode ∧
        i = warningAt .flow id "node is unreachable from the start node") ∨
      (∀ id ∈ content.reachable content.startNode, ∀ node, content.node? id = some node →
          node.isEnding = false) ∧
        i = ⟨.warning, .flow, none, "no ending node is reachable from the start node"⟩ := by
  unfold flowIssues
  rw [if_pos start, List.mem_append]
  refine or_congr ?_ ?_
  · constructor
    · intro unreached
      obtain ⟨e, member, rfl⟩ := List.mem_map.mp unreached
      obtain ⟨listed, outside⟩ := List.mem_filter.mp member
      have named : e.1 ∈ content.nodes.keys := List.mem_map_of_mem listed
      exact ⟨e.1, Dict.mem_keys.mp named, by simpa using outside, rfl⟩
    · rintro ⟨id, there, outside, rfl⟩
      obtain ⟨node, found⟩ := node_of_hasNode there
      have member : (id, node) ∈ content.nodes.entries.filter fun e =>
          !(content.reachable content.startNode).contains e.1 :=
        List.mem_filter.mpr ⟨entry_of_node found, by simpa using outside⟩
      exact List.mem_map.mpr ⟨(id, node), member, rfl⟩
  · have ends : ((content.reachable content.startNode).filterMap content.node?).any Node.isEnding =
        true ↔ ∃ id ∈ content.reachable content.startNode, ∃ node,
          content.node? id = some node ∧ node.isEnding = true := by
      rw [List.any_eq_true]
      constructor
      · rintro ⟨node, member, ending⟩
        obtain ⟨id, reached, found⟩ := List.mem_filterMap.mp member
        exact ⟨id, reached, node, found, ending⟩
      · rintro ⟨id, reached, node, found, ending⟩
        exact ⟨node, List.mem_filterMap.mpr ⟨id, reached, found⟩, ending⟩
    split
    · next ended =>
      obtain ⟨id, reached, node, found, ending⟩ := ends.mp ended
      refine ⟨nofun, fun ⟨endless, _⟩ => ?_⟩
      exact absurd ending (Bool.eq_false_iff.mp (endless id reached node found))
    · next unended =>
      rw [List.mem_singleton, iff_and_self]
      exact fun _ id reached node found => eq_false_of_ne_true fun ending =>
        unended (ends.mpr ⟨id, reached, node, found, ending⟩)

theorem unreached_mem_flowIssues (start : content.hasNode content.startNode = true) :
    warningAt .flow id "node is unreachable from the start node" ∈
        content.flowIssues content.nodes.entries (content.reachable content.startNode) ↔
      content.hasNode id = true ∧ id ∉ content.reachable content.startNode := by
  rw [mem_flowIssues start]
  refine ⟨?_, fun ⟨there, outside⟩ => .inl ⟨id, there, outside, rfl⟩⟩
  rintro (⟨other, there, outside, same⟩ | ⟨-, same⟩)
  · cases congrArg Issue.node same
    exact ⟨there, outside⟩
  · cases congrArg Issue.node same

theorem endless_mem_flowIssues (start : content.hasNode content.startNode = true) :
    ⟨.warning, .flow, none, "no ending node is reachable from the start node"⟩ ∈
        content.flowIssues content.nodes.entries (content.reachable content.startNode) ↔
      ∀ id ∈ content.reachable content.startNode, ∀ node, content.node? id = some node →
        node.isEnding = false := by
  rw [mem_flowIssues start]
  refine ⟨?_, fun endless => .inr ⟨endless, rfl⟩⟩
  rintro (⟨other, -, -, same⟩ | ⟨endless, -⟩)
  · cases congrArg Issue.node same
  · exact endless

theorem flowIssues_of_lost (lost : content.hasNode content.startNode = false)
    (nodes : List (String × Node)) (reached : List String) :
    content.flowIssues nodes reached = [] := by
  unfold flowIssues
  rw [lost]
  rfl

/-- A report says of the flow what its check does. -/
theorem flow_of_validate_iff (about : i.category = .flow) : i ∈ content.validate.issues ↔
    content.hasNode content.startNode = true ∧
      i ∈ content.flowIssues content.nodes.entries (content.reachable content.startNode) := by
  constructor
  · intro h
    have issue := flow_of_validate h about
    cases start : content.hasNode content.startNode with
    | true => exact ⟨rfl, issue⟩
    | false =>
      rw [flowIssues_of_lost start] at issue
      cases issue
  · exact fun ⟨_, issue⟩ => mem_validate.mpr (.inr issue)

theorem unreached_iff :
    warningAt .flow id "node is unreachable from the start node" ∈ content.validate.issues ↔
      content.hasNode content.startNode = true ∧ content.hasNode id = true ∧
        id ∉ content.reachable content.startNode :=
  (flow_of_validate_iff rfl).trans (and_congr_right unreached_mem_flowIssues)

theorem endless_iff :
    ⟨.warning, .flow, none, "no ending node is reachable from the start node"⟩ ∈
      content.validate.issues ↔ content.hasNode content.startNode = true ∧
        ∀ id ∈ content.reachable content.startNode, ∀ node, content.node? id = some node →
          node.isEnding = false :=
  (flow_of_validate_iff rfl).trans (and_congr_right endless_mem_flowIssues)

end Storyline.Content
