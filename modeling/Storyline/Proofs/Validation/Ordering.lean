import Mathlib.Data.List.Sort
import Storyline.Proofs.Validation.Counting

/-!
The order of reports. What is found comes in the order in which the nodes happen to be listed, and a
report sorts it by a key that several issues may share. Those that share it come from one visit to one
node, so the report is the same whatever the order was.
-/

namespace Storyline

section

variable {α : Type}

/-- A stable sort leaves alone what is sorted already, also if it stands scattered in the list. -/
theorem filter_mergeSort {le : α → α → Bool} (trans : ∀ a b c, le a b → le b c → le a c)
    (total : ∀ a b, le a b || le b a) {p : α → Bool} {l : List α}
    (sorted : (l.filter p).Pairwise fun a b => le a b) :
    (l.mergeSort le).filter p = l.filter p := by
  have inside : (l.filter p).Sublist ((l.mergeSort le).filter p) := by
    have kept := (List.sublist_mergeSort trans total sorted List.filter_sublist).filter p
    simpa only [List.filter_filter, Bool.and_self] using kept
  exact (inside.eq_of_length ((List.mergeSort_perm l le).filter p).length_eq.symm).symm

variable {cmp : α → α → Ordering} [Std.TransCmp cmp] {l l' : List α}

theorem mem_of_classes
    (same : ∀ a, l.filter (fun b => cmp a b = .eq) = l'.filter fun b => cmp a b = .eq) {a : α}
    (listed : a ∈ l) : a ∈ l' := by
  have here : a ∈ l.filter fun b => cmp a b = .eq :=
    List.mem_filter.mpr ⟨listed, decide_eq_true Std.ReflCmp.compare_self⟩
  rw [same a] at here
  exact (List.mem_filter.mp here).1

/-- Two sorted lists are the same if they have the same in each class of what the order does not tell
apart. -/
theorem sorted_eq_of_classes
    (sorted : l.Pairwise fun a b => (cmp a b).isLE) (sorted' : l'.Pairwise fun a b => (cmp a b).isLE)
    (same : ∀ a, l.filter (fun b => cmp a b = .eq) = l'.filter fun b => cmp a b = .eq) : l = l' := by
  induction l generalizing l' with
  | nil =>
    refine (List.eq_nil_iff_forall_not_mem.mpr fun b listed => ?_).symm
    exact List.not_mem_nil (mem_of_classes (fun a => (same a).symm) listed)
  | cons a l ih =>
    cases l' with
    | nil => exact absurd (mem_of_classes same List.mem_cons_self) List.not_mem_nil
    | cons b l' =>
      have ⟨first, rest⟩ := List.pairwise_cons.mp sorted
      have ⟨first', rest'⟩ := List.pairwise_cons.mp sorted'
      have self (c : α) : cmp c c = .eq := Std.ReflCmp.compare_self
      -- each head is in the other list, so neither may come before the other
      have below : (cmp a b).isLE := by
        have there : b ∈ a :: l := mem_of_classes (fun c => (same c).symm) List.mem_cons_self
        rcases List.mem_cons.mp there with rfl | later
        · exact (self b).symm ▸ rfl
        · exact first b later
      have above : (cmp b a).isLE := by
        rcases List.mem_cons.mp (mem_of_classes same List.mem_cons_self) with rfl | later
        · exact (self a).symm ▸ rfl
        · exact first' a later
      have tied := Std.OrientedCmp.isLE_antisymm below above
      have heads := same a
      simp only [List.filter_cons, self, tied, decide_true, if_true] at heads
      cases (List.cons.inj heads).1
      refine congrArg (a :: ·) (ih rest rest' fun c => ?_)
      have tails := same c
      simp only [List.filter_cons] at tails
      split at tails
      · exact (List.cons.inj tails).2
      · exact tails

end

namespace Issue

/-- An issue may stand before another: the worse first, then by the name of the category, then what is
about the whole, then by the id of the node. -/
inductive Precedes (a b : Issue) : Prop
  | worse : a.level = .error → b.level = .warning → Precedes a b
  | category : a.level = b.level → a.category.name < b.category.name → Precedes a b
  | whole : a.level = b.level → a.category = b.category → a.node = none → Precedes a b
  | node (x y : String) : a.level = b.level → a.category = b.category → a.node = some x →
      b.node = some y → x ≤ y → Precedes a b

theorem orderNodes_eq : orderNodes = compare := by
  funext a b
  cases a with
  | none => cases b <;> rfl
  | some x => cases b <;> rfl

theorem order_eq_compareLex : order = compareLex (compareOn fun i : Issue => i.level.rank)
    (compareLex (compareOn fun i => i.category.name) (compareOn Issue.node)) := by
  funext a b
  unfold order
  rw [orderNodes_eq]
  rfl

instance : Std.TransCmp order := by
  rw [order_eq_compareLex]
  infer_instance

theorem rank_inj {a b : IssueLevel} (h : a.rank = b.rank) : a = b := by
  revert h
  cases a <;> cases b <;> decide

theorem name_inj {a b : IssueCategory} (h : a.name = b.name) : a = b := by
  revert h
  cases a <;> cases b <;> decide

theorem order_eq_iff {a b : Issue} :
    order a b = .eq ↔ a.level = b.level ∧ a.category = b.category ∧ a.node = b.node := by
  unfold order
  rw [Ordering.then_eq_eq, Ordering.then_eq_eq, orderNodes_eq, Std.compare_eq_iff_eq,
    Std.compare_eq_iff_eq, Std.compare_eq_iff_eq]
  exact and_congr ⟨rank_inj, congrArg _⟩ (and_congr_left' ⟨name_inj, congrArg _⟩)

theorem order_isLE_trans (a b c : Issue) (first : (order a b).isLE) (second : (order b c).isLE) :
    (order a c).isLE := Std.TransCmp.isLE_trans first second

theorem order_isLE_total (a b : Issue) : (order a b).isLE || (order b a).isLE := by
  rw [@Std.OrientedCmp.eq_swap _ order _ a b]
  cases order b a <;> rfl

theorem levels_of_rank {a b : IssueLevel} (h : compare a.rank b.rank = .lt) :
    a = .error ∧ b = .warning := by
  revert h
  cases a <;> cases b <;> decide

theorem compare_lt_iff {x y : String} : compare x y = .lt ↔ x < y := compareOfLessAndEq_eq_lt

theorem le_of_compare {x y : String} (h : (compare x y).isLE) : x ≤ y := by
  refine String.not_lt.mp fun above => ?_
  rw [Std.OrientedCmp.gt_of_lt (compare_lt_iff.mpr above)] at h
  cases h

theorem precedes_of_isLE {a b : Issue} (h : (order a b).isLE) : a.Precedes b := by
  unfold order at h
  rcases Ordering.isLE_then_iff_or.mp h with worse | ⟨level, h⟩
  · exact .worse (levels_of_rank worse).1 (levels_of_rank worse).2
  · have level := rank_inj (Std.compare_eq_iff_eq.mp level)
    rcases Ordering.isLE_then_iff_or.mp h with earlier | ⟨category, h⟩
    · exact .category level (compare_lt_iff.mp earlier)
    · have category := name_inj (Std.compare_eq_iff_eq.mp category)
      cases place : a.node with
      | none => exact .whole level category place
      | some x =>
        cases place' : b.node with
        | none =>
          rw [place, place'] at h
          cases h
        | some y =>
          rw [place, place'] at h
          exact .node x y level category place place' (le_of_compare h)

def isAbout (category : IssueCategory) (place : Option String) (i : Issue) : Bool :=
  i.category = category ∧ i.node = place

theorem filter_isAbout {issues : List Issue} {category : IssueCategory} {place : Option String}
    (stand : ∀ i ∈ issues, i.category = category ∧ i.node = place)
    (category' : IssueCategory) (place' : Option String) :
    issues.filter (isAbout category' place') =
      if category = category' ∧ place = place' then issues else [] := by
  split
  · next same =>
    refine List.filter_eq_self.mpr fun i listed => decide_eq_true ?_
    rwa [(stand i listed).1, (stand i listed).2]
  · next other =>
    refine List.filter_eq_nil_iff.mpr fun i listed here => other ?_
    have here := of_decide_eq_true here
    rwa [(stand i listed).1, (stand i listed).2] at here

end Issue

namespace Content

variable {content : Content} {nodes : List (String × Node)} {reached : List String}

def visit (content : Content) (check : String → Node → List Issue) (id : String) : List Issue :=
  (content.node? id).elim [] (check id)

def unreachedIssues (reached : List String) (id : String) (_ : Node) : List Issue :=
  if reached.contains id then []
  else [warningAt .flow id "node is unreachable from the start node"]

def endlessIssues (content : Content) (reached : List String) : List Issue :=
  if (reached.filterMap content.node?).any Node.isEnding then []
  else [⟨.warning, .flow, none, "no ending node is reachable from the start node"⟩]

/-- What the check of a category finds about a node, or about the whole, in its own order. The nodes
need not be listed to tell this. -/
def found (content : Content) : IssueCategory → Option String → List Issue
  | .references, none => content.startIssues
  | .references, some id => content.visit content.referenceIssues id
  | .conditions, some id => content.visit content.conditionIssues id
  | .choices, some id => content.visit choiceIssues id
  | .flow, none =>
    if content.hasNode content.startNode then
      content.endlessIssues (content.reachable content.startNode)
    else []
  | .flow, some id =>
    if content.hasNode content.startNode then
      content.visit (unreachedIssues (content.reachable content.startNode)) id
    else []
  | .conditions, none | .choices, none => []

/-- The nodes listed in some order, and the ids that are reached in another. -/
structure Lists (content : Content) (nodes : List (String × Node)) (reached : List String) : Prop where
  nodes : nodes.Perm content.nodes.entries
  reached : ∀ id, id ∈ reached ↔ id ∈ content.reachable content.startNode

theorem filter_nodes (listed : nodes.Perm content.nodes.entries) (id : String) :
    nodes.filter (fun e => e.1 == id) = ((content.node? id).map fun node => (id, node)).toList := by
  have one := listed.filter fun e => e.1 == id
  rw [Dict.filter_key] at one
  change (nodes.filter fun e => e.1 == id).Perm
    ((content.node? id).map fun node => (id, node)).toList at one
  cases there : content.node? id with
  | none =>
    rw [there] at one
    exact List.perm_nil.mp one
  | some node =>
    rw [there] at one
    exact List.perm_singleton.mp one

theorem flatMap_of_id (check : String → Node → List Issue) (nodes : List (String × Node))
    (id : String) : nodes.flatMap (fun e => if e.1 = id then check e.1 e.2 else []) =
      (nodes.filter fun e => e.1 == id).flatMap fun e => check e.1 e.2 := by
  induction nodes with
  | nil => rfl
  | cons e nodes ih =>
    rw [List.flatMap_cons, ih, List.filter_cons]
    by_cases here : e.1 = id
    · rw [if_pos here, if_pos (beq_iff_eq.mpr here)]
      rfl
    · rw [if_neg here, if_neg fun same => here (beq_iff_eq.mp same)]
      rfl

theorem filter_visits (check : String → Node → List Issue) {category : IssueCategory}
    (stand : ∀ id node, ∀ i ∈ check id node, i.category = category ∧ i.node = some id)
    (listed : nodes.Perm content.nodes.entries) (category' : IssueCategory) (place : Option String) :
    (nodes.flatMap fun e => check e.1 e.2).filter (Issue.isAbout category' place) =
      if category = category' then place.elim [] (content.visit check) else [] := by
  have each (e : String × Node) : (check e.1 e.2).filter (Issue.isAbout category' place) =
      if category = category' ∧ some e.1 = place then check e.1 e.2 else [] :=
    Issue.filter_isAbout (stand e.1 e.2) category' place
  rw [List.filter_flatMap]
  simp only [each]
  by_cases same : category = category'
  · cases place with
    | none => simp
    | some id =>
      simp only [same, true_and, if_true, Option.some.injEq, flatMap_of_id, filter_nodes listed,
        Option.elim_some, visit]
      cases content.node? id with
      | none => rfl
      | some node => exact List.append_nil _
  · simp [same]

theorem unreached_stands (reached : List String) (id : String) (node : Node) :
    ∀ i ∈ unreachedIssues reached id node, i.category = .flow ∧ i.node = some id := by
  unfold unreachedIssues
  split
  · exact fun _ absent => (List.not_mem_nil absent).elim
  · exact List.forall_mem_singleton.mpr ⟨rfl, rfl⟩

theorem endless_stands (reached : List String) :
    ∀ i ∈ content.endlessIssues reached, i.category = .flow ∧ i.node = none := by
  unfold endlessIssues
  split
  · exact fun _ absent => (List.not_mem_nil absent).elim
  · exact List.forall_mem_singleton.mpr ⟨rfl, rfl⟩

theorem flowIssues_eq (start : content.hasNode content.startNode = true)
    (nodes : List (String × Node)) (reached : List String) :
    content.flowIssues nodes reached =
      nodes.flatMap (fun e => unreachedIssues reached e.1 e.2) ++ content.endlessIssues reached := by
  unfold flowIssues
  rw [if_pos start]
  refine congrArg (· ++ _) ?_
  induction nodes with
  | nil => rfl
  | cons e nodes ih =>
    rw [List.flatMap_cons, ← ih, List.filter_cons]
    unfold unreachedIssues
    cases reached.contains e.1 <;> rfl

/-- Of the ids that are reached only this matters, which they are. -/
theorem flowIssues_congr (listed : content.Lists nodes reached) :
    content.flowIssues nodes reached =
      content.flowIssues nodes (content.reachable content.startNode) := by
  have known (id : String) : reached.contains id =
      (content.reachable content.startNode).contains id := by
    rw [Bool.eq_iff_iff, List.contains_iff_mem, List.contains_iff_mem]
    exact listed.reached id
  have ends : (reached.filterMap content.node?).any Node.isEnding =
      ((content.reachable content.startNode).filterMap content.node?).any Node.isEnding := by
    rw [Bool.eq_iff_iff, List.any_eq_true, List.any_eq_true]
    simp only [List.mem_filterMap, listed.reached]
  unfold flowIssues
  simp only [known, ends]

/-- What is found in one category about one node, or about the whole, is found in an order that does
not depend on how the nodes are listed. -/
theorem filter_issuesOver (listed : content.Lists nodes reached) (category : IssueCategory)
    (place : Option String) :
    (content.issuesOver nodes reached).filter (Issue.isAbout category place) =
      content.found category place := by
  unfold issuesOver
  rw [flowIssues_congr listed]
  simp only [List.filter_append]
  rw [Issue.filter_isAbout fun _ => start_stands,
    filter_visits content.referenceIssues (fun _ _ _ => reference_stands) listed.nodes,
    filter_visits content.conditionIssues (fun _ _ _ => condition_stands) listed.nodes,
    filter_visits choiceIssues (fun _ _ _ => choice_stands) listed.nodes]
  cases start : content.hasNode content.startNode with
  | true =>
    rw [flowIssues_eq start, List.filter_append, Issue.filter_isAbout (endless_stands _),
      filter_visits (unreachedIssues _) (unreached_stands _) listed.nodes]
    cases category <;> cases place <;> simp [found, start]
  | false =>
    rw [flowIssues_of_lost start]
    cases category <;> cases place <;> simp [found, start]

theorem found_stands {category : IssueCategory} {place : Option String} {i : Issue}
    (h : i ∈ content.found category place) : i.category = category ∧ i.node = place := by
  rw [← filter_issuesOver ⟨.refl content.nodes.entries, fun _ => Iff.rfl⟩] at h
  exact of_decide_eq_true (List.mem_filter.mp h).2

/-- No check finds an error after a warning about one node. -/
def Graded (issues : List Issue) : Prop :=
  issues.Pairwise fun a b => a.level = .error ∨ b.level = .warning

theorem graded_visit {check : String → Node → List Issue} {id : String}
    (each : ∀ node, Graded (check id node)) : Graded (content.visit check id) := by
  unfold visit
  cases content.node? id with
  | none => exact .nil
  | some node => exact each node

theorem graded_references (id : String) (node : Node) :
    Graded (content.referenceIssues id node) := by
  refine List.pairwise_iff_forall_sublist.mpr fun {a b} pair => .inl ?_
  obtain ⟨t, _, rfl⟩ := List.mem_map.mp (pair.subset List.mem_cons_self)
  rfl

theorem graded_conditions (id : String) (node : Node) :
    Graded (content.conditionIssues id node) := by
  unfold conditionIssues Graded
  split
  · refine List.pairwise_append.mpr ⟨?_, ?_, fun a _ b untracked => .inr ?_⟩
    · split
      · exact List.pairwise_singleton _ _
      · exact List.pairwise_singleton _ _
      · exact .nil
    · split
      · exact .nil
      · exact List.pairwise_singleton _ _
    · split at untracked
      · cases untracked
      · cases List.mem_singleton.mp untracked
        rfl
  · exact .nil

theorem graded_choices (id : String) (node : Node) : Graded (choiceIssues id node) := by
  unfold choiceIssues
  split
  · split
    · exact List.pairwise_singleton _ _
    · split
      · exact List.pairwise_singleton _ _
      · exact .nil
  · exact .nil

theorem graded_unreached (reached : List String) (id : String) (node : Node) :
    Graded (unreachedIssues reached id node) := by
  unfold unreachedIssues
  split
  · exact .nil
  · exact List.pairwise_singleton _ _

theorem graded_found (category : IssueCategory) (place : Option String) :
    Graded (content.found category place) := by
  unfold found
  split
  · unfold startIssues
    split
    · exact .nil
    · exact List.pairwise_singleton _ _
  · exact graded_visit (graded_references _)
  · exact graded_visit (graded_conditions _)
  · exact graded_visit (graded_choices _)
  · split
    · unfold endlessIssues
      split
      · exact .nil
      · exact List.pairwise_singleton _ _
    · exact .nil
  · split
    · exact graded_visit (graded_unreached _ _)
    · exact .nil
  · exact .nil
  · exact .nil

theorem sorted_found (category : IssueCategory) (place : Option String) :
    (content.found category place).Pairwise fun a b => (Issue.order a b).isLE := by
  refine (graded_found category place).imp_of_mem fun {a b} here there graded => ?_
  obtain ⟨category, place⟩ := found_stands here
  obtain ⟨category', place'⟩ := found_stands there
  unfold Issue.order
  rw [category, place, category', place', Issue.orderNodes_eq, Std.compare_self,
    Std.compare_self]
  rcases graded with error | warning
  · rw [error]
    cases b.level <;> rfl
  · rw [warning]
    cases a.level <;> rfl

/-- What a report says in one category about one node, or about the whole, is what the check finds
there, in the order in which it finds it. -/
theorem filter_issues (listed : content.Lists nodes reached) (category : IssueCategory)
    (place : Option String) :
    (Report.ofFound (content.issuesOver nodes reached)).issues.filter
      (Issue.isAbout category place) = content.found category place := by
  have sorted := content.sorted_found category place
  rw [← filter_issuesOver listed] at sorted
  rw [Report.issues_ofFound, filter_mergeSort Issue.order_isLE_trans Issue.order_isLE_total sorted,
    filter_issuesOver listed]

theorem sorted_issues (found : List Issue) :
    (Report.ofFound found).issues.Pairwise fun a b => (Issue.order a b).isLE := by
  rw [Report.issues_ofFound]
  exact List.pairwise_mergeSort Issue.order_isLE_trans Issue.order_isLE_total found

theorem filter_order (issues : List Issue) (a : Issue) :
    issues.filter (fun b => Issue.order a b = .eq) =
      (issues.filter (Issue.isAbout a.category a.node)).filter fun b => a.level = b.level := by
  rw [List.filter_filter]
  refine List.filter_congr fun b _ => ?_
  simp only [Issue.isAbout, Issue.order_eq_iff, Bool.decide_and, eq_comm (a := b.category),
    eq_comm (a := b.node)]

theorem ofFound_eq_of_lists {nodes' : List (String × Node)} {reached' : List String}
    (listed : content.Lists nodes reached) (listed' : content.Lists nodes' reached') :
    Report.ofFound (content.issuesOver nodes reached) =
      Report.ofFound (content.issuesOver nodes' reached') := by
  refine Report.ofFound_congr (sorted_eq_of_classes (sorted_issues _) (sorted_issues _) fun a => ?_)
  rw [filter_order, filter_order, filter_issues listed, filter_issues listed']

/-- Whatever the order in which the nodes are listed, and the ids that are reached, the report is the
same, in its list and in its counts. Its issues come with the errors first, then by category, then by
node, what is about the whole before all nodes; and several issues in one category about one node come
as the check finds them. -/
theorem reports_in_one_order {nodes' : List (String × Node)} {reached' : List String}
    (listed : content.Lists nodes reached) (listed' : content.Lists nodes' reached') :
    let report := Report.ofFound (content.issuesOver nodes reached)
    report = Report.ofFound (content.issuesOver nodes' reached') ∧
    report = content.validate ∧
    report.issues.Pairwise Issue.Precedes ∧
    ∀ category place,
      report.issues.filter (Issue.isAbout category place) = content.found category place :=
  ⟨ofFound_eq_of_lists listed listed', ofFound_eq_of_lists listed ⟨.refl _, fun _ => Iff.rfl⟩,
    (sorted_issues _).imp Issue.precedes_of_isLE, filter_issues listed⟩

/-- A story with an error and a warning at one node, and several nodes that are not reached. -/
def attic : Content where
  titles := .standard
  nodes := Dict.ofList [
    ("beam", .branch ⟨.relationship "owl" none none, "loft", "nest"⟩),
    ("loft", .narrative "Dust." (some "hatch")),
    ("nest", .choice "Feathers." [])]
  cast := .standard
  template := { GameState.blank with currentNode := "loft" }

theorem reports_in_one_order_attic :
    let nodes := attic.nodes.entries.reverse
    let report := Report.ofFound (attic.issuesOver nodes (attic.reachable "loft").reverse)
    nodes.map (·.1) = ["nest", "loft", "beam"] ∧ report = attic.validate ∧
      (report.issues.filter (Issue.isAbout .conditions (some "beam"))).map (·.level) =
        [.error, .warning] := by
  intro nodes report
  have turned : attic.Lists nodes (attic.reachable "loft").reverse :=
    ⟨List.reverse_perm _, fun _ => List.mem_reverse⟩
  have listed : attic.Lists attic.nodes.entries (attic.reachable "loft") :=
    ⟨.refl _, fun _ => Iff.rfl⟩
  obtain ⟨-, same, -, about⟩ := reports_in_one_order turned listed
  refine ⟨by decide +kernel, same, ?_⟩
  rw [about]
  decide +kernel

end Content
end Storyline
