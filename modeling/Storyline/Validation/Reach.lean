import Storyline.Story

/-!
The ids that a story can get to from a node, following every transition.

Ids of nodes that do not exist are among them, but nothing follows from those.
-/

namespace Storyline.Content

/-- What looking at an id adds to what is still to be looked at: the targets of its node that have
not been seen, the last one first. -/
def following (content : Content) (seen : List String) (id : String) : List String :=
  match content.node? id with
  | none => []
  | some node => (node.targets.filter fun target => !seen.contains target).reverse

/-- The transitions of a node that are still to be followed: all of them until it is seen. -/
def openLinks (seen : List String) (e : String × Node) : List String :=
  if seen.contains e.1 then [] else e.2.targets

def unfollowed (content : Content) (seen : List String) : List String :=
  content.nodes.entries.flatMap (openLinks seen)

theorem length_openLinks_cons_le (id : String) (seen : List String) (e : String × Node) :
    (openLinks (id :: seen) e).length ≤ (openLinks seen e).length := by
  unfold openLinks
  by_cases known : seen.contains e.1 = true
  · have still : (id :: seen).contains e.1 = true := by
      rw [List.contains_cons, known, Bool.or_true]
    rw [if_pos still]
    exact Nat.zero_le _
  · rw [if_neg known]
    split
    · exact Nat.zero_le _
    · exact Nat.le_refl _

theorem openLinks_here (id : String) (seen : List String) (node : Node) :
    openLinks (id :: seen) (id, node) = [] := by
  simp [openLinks]

theorem length_flatMap_openLinks_cons_le (id : String) (seen : List String)
    (entries : List (String × Node)) :
    (entries.flatMap (openLinks (id :: seen))).length
      ≤ (entries.flatMap (openLinks seen)).length := by
  induction entries with
  | nil => exact Nat.le_refl 0
  | cons e entries ih =>
    simp only [List.flatMap_cons, List.length_append]
    exact Nat.add_le_add (length_openLinks_cons_le id seen e) ih

theorem length_flatMap_openLinks_seen {id : String} {node : Node} {seen : List String}
    (fresh : seen.contains id = false) {entries : List (String × Node)}
    (listed : (id, node) ∈ entries) :
    node.targets.length + (entries.flatMap (openLinks (id :: seen))).length
      ≤ (entries.flatMap (openLinks seen)).length := by
  induction entries with
  | nil => cases listed
  | cons e entries ih =>
    simp only [List.flatMap_cons, List.length_append]
    rcases List.mem_cons.1 listed with rfl | later
    · have before : openLinks seen (id, node) = node.targets := by
        unfold openLinks
        rw [fresh]
        rfl
      rw [openLinks_here, before, List.length_nil, Nat.zero_add]
      exact Nat.add_le_add_left (length_flatMap_openLinks_cons_le id seen entries) _
    · have rest := ih later
      have here := length_openLinks_cons_le id seen e
      omega

/-- Looking at an id that was not seen adds no more than it takes away from what is still to be
followed, however often one target comes up. -/
theorem following_spends (content : Content) {id : String} {seen : List String}
    (fresh : seen.contains id = false) :
    (content.following (id :: seen) id).length + (content.unfollowed (id :: seen)).length
      ≤ (content.unfollowed seen).length := by
  unfold following
  split
  · rw [List.length_nil, Nat.zero_add]
    exact length_flatMap_openLinks_cons_le id seen content.nodes.entries
  · next node found =>
    obtain ⟨e, listed, rfl⟩ := Option.map_eq_some_iff.1 found
    have same : e.1 = id := by simpa using List.find?_some listed
    have there : (id, e.2) ∈ content.nodes.entries := same ▸ List.mem_of_find?_eq_some listed
    have fewer := List.length_filter_le (fun t => !(id :: seen).contains t) e.2.targets
    have less : e.2.targets.length + (content.unfollowed (id :: seen)).length
        ≤ (content.unfollowed seen).length := length_flatMap_openLinks_seen fresh there
    rw [List.length_reverse]
    omega

/-- Goes on from the ids in `stack`, the first of which is looked at next; `seen` are the ids found
so far. An id may come up more than once before it is looked at. -/
def reachFrom (content : Content) (seen : List String) : List String → List String
  | [] => seen
  | id :: stack =>
    if _ : seen.contains id then content.reachFrom seen stack
    else content.reachFrom (id :: seen) (content.following (id :: seen) id ++ stack)
termination_by stack => (content.unfollowed seen).length + stack.length
decreasing_by
  · simp only [List.length_cons]; omega
  · next fresh =>
    have spent := content.following_spends (eq_false_of_ne_true fresh)
    simp only [List.length_cons, List.length_append]
    omega

def reachable (content : Content) (start : String) : List String := content.reachFrom [] [start]

end Storyline.Content
