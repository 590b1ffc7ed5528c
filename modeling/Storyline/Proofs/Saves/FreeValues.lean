import Storyline.Proofs.Rules.Effects

/-!
Values that a story is free to choose: those of flags and those of the details of votes. What is
asked of all of them in some content is true of all of them in every state that its rules make.
-/

namespace Storyline

variable {F : Value → Prop} {D : String → Value → Prop}

def VoteRecord.Holds (D : String → Value → Prop) (v : VoteRecord) : Prop :=
  ∀ e ∈ v.details.entries, D e.1 e.2

/-- Every flag of a state is as `F` asks, and every detail of its votes as `D` asks. -/
structure GameState.Holds (F : Value → Prop) (D : String → Value → Prop) (s : GameState) : Prop where
  flags : ∀ e ∈ s.flags.entries, F e.2
  votes : ∀ v ∈ s.voteHistory, v.Holds D

structure Effects.Holds (F : Value → Prop) (D : String → Value → Prop) (e : Effects) : Prop where
  flags : ∀ f ∈ e.flags.entries, F f.2
  votes : ∀ v ∈ e.votes, v.Holds D

def NodeKind.effects : NodeKind → List Effects
  | .choice choices => choices.filterMap (·.effects)
  | _ => []

/-- The same for all that a story can put into a state. -/
structure Content.Holds (F : Value → Prop) (D : String → Value → Prop) (content : Content) :
    Prop where
  template : content.template.Holds F D
  effects : ∀ n ∈ content.nodes.entries, ∀ e ∈ n.2.kind.effects, e.Holds F D

section Decidable

variable [DecidablePred F] [∀ name v, Decidable (D name v)]

instance (v : VoteRecord) : Decidable (v.Holds D) :=
  inferInstanceAs (Decidable (∀ e ∈ v.details.entries, D e.1 e.2))

instance (s : GameState) : Decidable (s.Holds F D) :=
  decidable_of_iff ((∀ e ∈ s.flags.entries, F e.2) ∧ ∀ v ∈ s.voteHistory, v.Holds D)
    ⟨fun h => ⟨h.1, h.2⟩, fun h => ⟨h.flags, h.votes⟩⟩

instance (e : Effects) : Decidable (e.Holds F D) :=
  decidable_of_iff ((∀ f ∈ e.flags.entries, F f.2) ∧ ∀ v ∈ e.votes, v.Holds D)
    ⟨fun h => ⟨h.1, h.2⟩, fun h => ⟨h.flags, h.votes⟩⟩

instance (content : Content) : Decidable (content.Holds F D) :=
  decidable_of_iff (content.template.Holds F D ∧
      ∀ n ∈ content.nodes.entries, ∀ e ∈ n.2.kind.effects, e.Holds F D)
    ⟨fun h => ⟨h.1, h.2⟩, fun h => ⟨h.template, h.effects⟩⟩

end Decidable

namespace GameState

theorem Holds.imp {F' : Value → Prop} {D' : String → Value → Prop} {s : GameState}
    (h : s.Holds F D) (hF : ∀ v, F v → F' v) (hD : ∀ k v, D k v → D' k v) : s.Holds F' D' :=
  ⟨fun e member => hF e.2 (h.flags e member),
    fun v member e inner => hD e.1 e.2 (h.votes v member e inner)⟩

theorem Holds.of_eq {s t : GameState} (h : s.Holds F D) (flags : t.flags = s.flags)
    (votes : t.voteHistory = s.voteHistory) : t.Holds F D :=
  ⟨by rw [flags]; exact h.flags, by rw [votes]; exact h.votes⟩

theorem holds_ofTemplate {template : GameState} (h : template.Holds F D) (cast : Cast) :
    (ofTemplate template cast).Holds F D := ⟨h.flags, h.votes⟩

end GameState

/-- Effects put nothing into a state but what they hold. -/
theorem Effects.Holds.apply {e : Effects} {s : GameState} (he : e.Holds F D) (hs : s.Holds F D) :
    (e.apply s).Holds F D := by
  rw [e.apply_eq]
  constructor
  · intro f member
    rcases Dict.mem_override member with old | new
    · exact hs.flags f old
    · exact he.flags f new
  · intro v member
    rcases List.mem_append.mp member with old | new
    · exact hs.votes v old
    · exact he.votes v new

theorem Effects.Holds.imp {F' : Value → Prop} {D' : String → Value → Prop} {e : Effects}
    (h : e.Holds F D) (hF : ∀ v, F v → F' v) (hD : ∀ k v, D k v → D' k v) : e.Holds F' D' :=
  ⟨fun f member => hF f.2 (h.flags f member),
    fun v member d inner => hD d.1 d.2 (h.votes v member d inner)⟩

theorem Content.Holds.imp {F' : Value → Prop} {D' : String → Value → Prop} {content : Content}
    (h : content.Holds F D) (hF : ∀ v, F v → F' v) (hD : ∀ k v, D k v → D' k v) :
    content.Holds F' D' :=
  ⟨h.template.imp hF hD, fun n member e inner => (h.effects n member e inner).imp hF hD⟩

theorem Content.Holds.of_node {content : Content} (h : content.Holds F D) {id : String} {node : Node}
    (found : content.node? id = some node) {choices : List Choice} (kind : node.kind = .choice choices)
    {c : Choice} (member : c ∈ choices) {e : Effects} (given : c.effects = some e) : e.Holds F D := by
  obtain ⟨n, at_id, rfl⟩ := Option.map_eq_some_iff.mp found
  apply h.effects n (List.mem_of_find?_eq_some at_id)
  simp only [NodeKind.effects, kind, List.mem_filterMap]
  exact ⟨c, member, given⟩

end Storyline
