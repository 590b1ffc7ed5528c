import Storyline.Validation.Reach

/-!
What can be reached. The search finds where it sets out from and whatever follows from what it finds,
and nothing that any other such list of ids leaves out.
-/

namespace Storyline.Content

/-- What follows from the ids of a list is among them too. -/
def Closed (content : Content) (ids : List String) : Prop :=
  ∀ id ∈ ids, ∀ node, content.node? id = some node → ∀ target ∈ node.targets, target ∈ ids

instance (content : Content) (ids : List String) : Decidable (content.Closed ids) :=
  inferInstanceAs (Decidable (∀ id ∈ ids, ∀ node ∈ content.node? id, ∀ target ∈ node.targets,
    target ∈ ids))

/-- What follows from the ids that were seen was seen too, or is still to be looked at. -/
def Explored (content : Content) (seen stack : List String) : Prop :=
  ∀ id ∈ seen, ∀ node, content.node? id = some node → ∀ target ∈ node.targets,
    target ∈ seen ∨ target ∈ stack

variable {content : Content} {seen stack ids : List String} {id : String} {node : Node}

theorem mem_following {target : String} : target ∈ content.following seen id ↔
    ∃ node, content.node? id = some node ∧ target ∈ node.targets ∧ target ∉ seen := by
  unfold following
  cases content.node? id with
  | none => simp only [List.not_mem_nil, reduceCtorEq, false_and, exists_false]
  | some node =>
    simp only [List.mem_reverse, List.mem_filter, Bool.not_eq_true', List.contains_eq_mem,
      decide_eq_false_iff_not, Option.some.injEq, exists_eq_left']

namespace Explored

theorem skip (h : content.Explored seen (id :: stack)) (known : id ∈ seen) :
    content.Explored seen stack := by
  intro other member node found target follows
  rcases h other member node found target follows with seen | there
  · exact .inl seen
  · rcases List.mem_cons.mp there with rfl | later
    · exact .inl known
    · exact .inr later

theorem look (h : content.Explored seen (id :: stack)) :
    content.Explored (id :: seen) (content.following (id :: seen) id ++ stack) := by
  intro other member node found target follows
  by_cases known : target ∈ id :: seen
  · exact .inl known
  · rcases List.mem_cons.mp member with rfl | before
    · exact .inr (List.mem_append_left stack (mem_following.mpr ⟨node, found, follows, known⟩))
    · rcases h other before node found target follows with seen | there
      · exact absurd (List.mem_cons_of_mem id seen) known
      · rcases List.mem_cons.mp there with rfl | later
        · exact .inl List.mem_cons_self
        · exact .inr (List.mem_append_right _ later)

end Explored

theorem subset_reachFrom (content : Content) (seen stack : List String) :
    seen ⊆ content.reachFrom seen stack ∧ stack ⊆ content.reachFrom seen stack := by
  fun_induction reachFrom content seen stack with
  | case1 seen => exact ⟨List.Subset.refl seen, List.nil_subset seen⟩
  | case2 seen id stack known ih =>
    have known : id ∈ seen := List.contains_iff_mem.mp known
    exact ⟨ih.1, List.cons_subset.mpr ⟨ih.1 known, ih.2⟩⟩
  | case3 seen id stack fresh ih =>
    obtain ⟨here, before⟩ := List.cons_subset.mp ih.1
    exact ⟨before, List.cons_subset.mpr ⟨here, (List.append_subset.mp ih.2).2⟩⟩

theorem explored_reachFrom (h : content.Explored seen stack) :
    content.Explored (content.reachFrom seen stack) [] := by
  fun_induction reachFrom content seen stack with
  | case1 seen => exact h
  | case2 seen id stack known ih => exact ih (h.skip (List.contains_iff_mem.mp known))
  | case3 seen id stack fresh ih => exact ih h.look

/-- What holds of the ids at hand, and of the targets of every node whose id it holds of, holds of all
that the search finds. -/
theorem forall_reachFrom {p : String → Prop}
    (carries : ∀ id node, p id → content.node? id = some node → ∀ target ∈ node.targets, p target)
    (before : ∀ id ∈ seen, p id) (next : ∀ id ∈ stack, p id) :
    ∀ id ∈ content.reachFrom seen stack, p id := by
  fun_induction reachFrom content seen stack with
  | case1 seen => exact before
  | case2 seen id stack known ih => exact ih before (List.forall_mem_cons.mp next).2
  | case3 seen id stack fresh ih =>
    obtain ⟨here, later⟩ := List.forall_mem_cons.mp next
    refine ih (List.forall_mem_cons.mpr ⟨here, before⟩) fun target member => ?_
    rcases List.mem_append.mp member with follows | old
    · obtain ⟨node, found, listed, _⟩ := mem_following.mp follows
      exact carries id node here found target listed
    · exact later target old

theorem start_mem_reachable (content : Content) (start : String) :
    start ∈ content.reachable start := (content.subset_reachFrom [] [start]).2 List.mem_cons_self

theorem closed_reachable (content : Content) (start : String) :
    content.Closed (content.reachable start) := by
  have nothing : content.Explored [] [start] := fun _ absent => (List.not_mem_nil absent).elim
  intro id member node found target follows
  exact (explored_reachFrom nothing id member node found target follows).resolve_right
    List.not_mem_nil

theorem forall_reachable {p : String → Prop} (start : p id)
    (carries : ∀ id node, p id → content.node? id = some node → ∀ target ∈ node.targets, p target) :
    ∀ other ∈ content.reachable id, p other :=
  forall_reachFrom carries (fun _ absent => (List.not_mem_nil absent).elim)
    (List.forall_mem_singleton.mpr start)

theorem reachable_subset (closed : content.Closed ids) (start : id ∈ ids) :
    content.reachable id ⊆ ids :=
  forall_reachable start fun id node member found => closed id member node found

end Storyline.Content
