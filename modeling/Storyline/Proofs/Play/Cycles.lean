import Mathlib.Data.Finset.Card
import Storyline.Proofs.Play.Faults
import Storyline.Proofs.Play.Visits

/-!
Cycles of branches. A game counts the branches that it follows and does not look whether it has been at
one before. In a story that has no more branches than may be followed the count tells the same: it is
exceeded just where the conditions lead back to a branch.
-/

namespace Storyline

namespace Content

variable {content : Content} {s : GameState} {id b : String} {i j n hops : Nat}

/-- Where so many branches lead from an id, one after the other, in a state that does not change. -/
def follow (content : Content) (s : GameState) (id : String) : Nat → Option String
  | 0 => some id
  | n + 1 => (content.follow s id n).bind (content.successor? s)

def branches (content : Content) : List String :=
  (content.nodes.entries.filter fun e => e.2.kind.isBranch).map Prod.fst

theorem follow_add (i k : Nat) : content.follow s id (i + k) =
    (content.follow s id i).bind fun b => content.follow s b k := by
  induction k with
  | zero => exact (Option.bind_fun_some _).symm
  | succ k ih =>
    rw [← Nat.add_assoc, follow, ih, Option.bind_assoc]
    rfl

theorem follow_before (le : i ≤ n) (goes : (content.follow s id n).isSome = true) :
    (content.follow s id i).isSome = true := by
  obtain ⟨k, rfl⟩ := Nat.exists_eq_add_of_le le
  rw [follow_add] at goes
  exact Option.isSome_of_isSome_bind goes

theorem follow_succ (there : content.follow s id n = some b) :
    (content.follow s id (n + 1)).isSome = content.isBranch b := by
  rw [follow, there, Option.bind_some, isBranch_eq content s]

theorem mem_branches (branch : content.isBranch id = true) : id ∈ content.branches := by
  obtain ⟨node, found, kind⟩ := (Option.any_eq_true _ _).mp branch
  exact List.mem_map.mpr ⟨(id, node), List.mem_filter.mpr ⟨entry_of_node found, kind⟩, rfl⟩

theorem passes_of_follow (goes : (content.follow s id (n + 1)).isSome = true) (le : i ≤ n) :
    ∃ b, content.follow s id i = some b ∧ content.isBranch b = true := by
  obtain ⟨b, there⟩ := Option.isSome_iff_exists.mp (follow_before (Nat.le_succ_of_le le) goes)
  exact ⟨b, there, (follow_succ there).symm.trans (follow_before (Nat.succ_le_succ le) goes)⟩

/-- A way over more branches than there are comes to one of them again. -/
theorem revisits_of_follow (few : content.branches.length ≤ n)
    (goes : (content.follow s id (n + 1)).isSome = true) :
    ∃ i j b, i < j ∧ content.follow s id i = some b ∧ content.follow s id j = some b ∧
      content.isBranch b = true := by
  have passes : ∀ k ∈ Finset.range (n + 1),
      ∃ b, content.follow s id k = some b ∧ content.isBranch b = true := fun k inside =>
    passes_of_follow goes (Nat.le_of_lt_succ (Finset.mem_range.mp inside))
  have fewer : ((content.branches.map some).toFinset).card < (Finset.range (n + 1)).card := by
    refine Nat.lt_of_le_of_lt (List.toFinset_card_le _) ?_
    rw [List.length_map, Finset.card_range]
    exact Nat.lt_succ_of_le few
  obtain ⟨i, inside, j, _, different, same⟩ :=
    Finset.exists_ne_map_eq_of_card_lt_of_maps_to (f := content.follow s id) fewer <| by
      intro k inside
      obtain ⟨b, there, branch⟩ := passes k inside
      rw [there]
      exact List.mem_toFinset.mpr (List.mem_map_of_mem (mem_branches branch))
  obtain ⟨b, there, branch⟩ := passes i inside
  rcases Nat.lt_or_gt_of_ne different with before | after
  · exact ⟨i, j, b, before, there, same.symm.trans there, branch⟩
  · exact ⟨j, i, b, after, same.symm.trans there, there, branch⟩

theorem follow_of_revisit (before : i < j) (first : content.follow s id i = some b)
    (again : content.follow s id j = some b) (n : Nat) :
    (content.follow s id n).isSome = true := by
  induction n using Nat.strong_induction_on with
  | _ n ih =>
    rcases Nat.le_total n j with early | late
    · exact follow_before early (Option.isSome_iff_exists.mpr ⟨b, again⟩)
    · -- what comes `k` steps after the second visit comes `k` steps after the first
      obtain ⟨k, rfl⟩ := Nat.exists_eq_add_of_le late
      have same : content.follow s id (j + k) = content.follow s id (i + k) := by
        rw [follow_add, follow_add, first, again]
      rw [same]
      exact ih (i + k) (Nat.add_lt_add_right before k)

theorem follow_isSome_iff_revisits (few : content.branches.length ≤ n) :
    (content.follow s id (n + 1)).isSome = true ↔
      ∃ i j b, i < j ∧ content.follow s id i = some b ∧ content.follow s id j = some b ∧
        content.isBranch b = true :=
  ⟨revisits_of_follow few, fun ⟨_, _, _, before, first, again, _⟩ =>
    follow_of_revisit before first again (n + 1)⟩

theorem follow_one {next : String} (leads : content.successor? s id = some next) (n : Nat) :
    content.follow s id (n + 1) = content.follow s next n := by
  rw [Nat.add_comm, follow_add, follow, follow, Option.bind_some, leads, Option.bind_some]

/-- A trail is the way as far as it goes over so many branches. -/
theorem trail_eq_follow (content : Content) (s : GameState) (id : String) (hops : Nat) :
    content.trail s id hops = (List.range (hops + 1)).filterMap (content.follow s id) := by
  induction hops generalizing id with
  | zero => rfl
  | succ hops ih =>
    rw [List.range_succ_eq_map, List.filterMap_cons_some (show content.follow s id 0 = some id from rfl),
      List.filterMap_map]
    cases leads : content.successor? s id with
    | none =>
      rw [trail_stops leads]
      refine congrArg (id :: ·) (List.filterMap_eq_nil_iff.mpr fun n _ => ?_).symm
      rw [Function.comp_apply, Nat.succ_eq_one_add, follow_add, follow, follow, Option.bind_some, leads,
        Option.bind_none]
    | some next =>
      rw [trail_succ leads, ih]
      exact congrArg (id :: ·) (List.filterMap_congr fun n _ => (follow_one leads n).symm)

theorem isBranch_getLastD_trail (content : Content) (s : GameState) (id : String) (hops : Nat) :
    content.isBranch ((content.trail s id hops).getLastD id) =
      (content.follow s id (hops + 1)).isSome := by
  induction hops generalizing id with
  | zero => exact isBranch_eq content s id
  | succ hops ih =>
    cases leads : content.successor? s id with
    | none =>
      rw [trail_stops leads, Nat.add_comm, follow_add, follow, follow, Option.bind_some, leads,
        List.getLastD_cons, List.getLastD_nil, isBranch_eq content s, leads]
      rfl
    | some next => rw [getLastD_trail_succ leads, ih, follow_one leads]

theorem map_entered (content : Content) (ids : List String) :
    (content.entered ids).map Prod.fst = ids.filter content.hasNode := by
  unfold entered
  induction ids with
  | nil => rfl
  | cons id ids ih =>
    cases found : content.node? id with
    | none =>
      have missing : content.hasNode id = false := by
        rw [hasNode, Dict.contains]
        exact congrArg Option.isSome found
      rw [List.filterMap_cons, found, List.filter_cons, missing]
      exact ih
    | some node =>
      rw [List.filterMap_cons, found, List.filter_cons, hasNode_of_node found]
      exact congrArg (id :: ·) ih

end Content

namespace Interpreter

variable {σ : Type} [Store σ]

theorem goTo_reports (it : Interpreter σ) (id : String) :
    (∃ b, (ContentFault.branchCycle b).message ∈ (answer (it.goTo id)).1.errors) ↔
      (it.content.follow it.state id (it.config.hopLimit + 1)).isSome = true := by
  obtain ⟨errors, _⟩ := it.enter_arrives id it.config.hopLimit
  rw [Content.walk_eq_trail] at errors
  rw [← Content.isBranch_getLastD_trail]
  generalize (it.content.trail it.state id it.config.hopLimit).getLastD id = last at errors ⊢
  have errors : (answer (it.goTo id)).1.errors =
      ContentFault.messages (it.content.stopAt last).fault := errors
  rw [errors]
  simp only [ContentFault.mem_messages, Content.fault_stopAt, Content.meets_single]
  constructor
  · rintro ⟨b, fault, ⟨rfl, _⟩ | ⟨_, _, branch⟩, same⟩
    · cases ContentFault.initial_of_message same
    · exact branch
  · exact fun branch => ⟨last, _, .inr ⟨rfl, trivial, branch⟩, rfl⟩

/-- Going to a node, in any state of a game on any story and with any limit. In a story with no more
branches than the limit allows, a cycle is reported just if the conditions lead over some branch twice.
The nodes that are entered are those of the way up to the limit, with at most one branch more than
that. In any story a cycle is reported just if the way has such a branch; so none is where the way
leaves the branches after as many as are allowed. -/
theorem reports_revisits (it : Interpreter σ) (id : String) :
    let content := it.content
    let limit := it.config.hopLimit
    let way := content.follow it.state id
    let entered := ((List.range (limit + 1)).filterMap way).filter content.hasNode
    let reported := ∃ b, (ContentFault.branchCycle b).message ∈ (answer (it.goTo id)).1.errors
    (content.branches.length ≤ limit → (reported ↔
      ∃ i j b, i < j ∧ way i = some b ∧ way j = some b ∧ content.isBranch b = true)) ∧
    (it.goTo id).2.visited = entered.reverse ++ it.visited ∧
    entered.countP content.isBranch ≤ limit + 1 ∧
    (reported ↔ ∀ n ≤ limit, ∃ b, way n = some b ∧ content.isBranch b = true) ∧
    ∀ b, way limit = some b → content.isBranch b = false → ¬reported := by
  intro content limit way entered reported
  have exceeds : reported ↔ (way (limit + 1)).isSome = true := it.goTo_reports id
  refine ⟨fun few => exceeds.trans (Content.follow_isSome_iff_revisits few), ?_, ?_, ?_, ?_⟩
  · have visits := it.enter_visits id limit
    unfold Visits at visits
    rw [Content.map_entered, Content.trail_eq_follow] at visits
    exact visits
  · calc entered.countP content.isBranch
        ≤ entered.length := List.countP_le_length
      _ ≤ ((List.range (limit + 1)).filterMap way).length := List.length_filter_le _ _
      _ ≤ (List.range (limit + 1)).length := List.length_filterMap_le _ _
      _ = limit + 1 := List.length_range
  · refine exceeds.trans ⟨fun goes n le => Content.passes_of_follow goes le, fun passes => ?_⟩
    obtain ⟨b, there, branch⟩ := passes limit (Nat.le_refl limit)
    exact (Content.follow_succ there).trans branch
  · intro b there leaves reports
    have branch := (Content.follow_succ there).symm.trans (exceeds.mp reports)
    exact Bool.false_ne_true (leaves.symm.trans branch)

end Interpreter

/-- Two doors that lead to each other, as long as nobody has the key. -/
def Content.doors : Content where
  titles := .standard
  nodes := Dict.ofList [
    ("left", .branch ⟨.flag "key", "out", "right"⟩),
    ("right", .branch ⟨.flag "key", "out", "left"⟩),
    ("out", .ending "Out.")]
  cast := .standard
  template := { GameState.blank with currentNode := "left" }

namespace Interpreter

/-- Without the key the way is a cycle. With it one branch is followed, and it may be the only one. -/
theorem reports_revisits_doors :
    let it := Interpreter.new .doors .standard (MemoryStore.mk .empty) 0
    let narrow := Interpreter.new .doors { Config.standard with hopLimit := 1 } (MemoryStore.mk .empty) 0
    let keyed := { narrow with state := narrow.state.setFlag "key" (.bool true) }
    Content.doors.branches.length ≤ 64 ∧
      (∃ b, (ContentFault.branchCycle b).message ∈ (answer (it.goTo "left")).1.errors) ∧
      ¬∃ b, (ContentFault.branchCycle b).message ∈ (answer (keyed.goTo "left")).1.errors := by
  intro it narrow keyed
  have few : Content.doors.branches.length ≤ 64 := by decide +kernel
  obtain ⟨exact, _⟩ := it.reports_revisits "left"
  obtain ⟨_, _, _, _, leaves⟩ := keyed.reports_revisits "left"
  refine ⟨few, (exact few).mpr ⟨0, 2, "left", ?_⟩, leaves "out" ?_ ?_⟩
  · decide +kernel
  · decide +kernel
  · decide +kernel

end Interpreter
end Storyline
