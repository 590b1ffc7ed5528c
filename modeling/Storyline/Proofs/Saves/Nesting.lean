import Storyline.Loading
import Storyline.Proofs.Json.Filling
import Storyline.Proofs.Saves.RoundTrip

/-!
Content that was read and games that were read have free values that can be saved. A record allows
more levels to a flag or a detail than a story has left where it sets them, so what a story does
never makes a state that a record has no room for.
-/

namespace Storyline

open Json

namespace VoteRecord

theorem valueFields_named {p : Pass} {raws : List (Quoted × Raw)} {found : List (String × Value)}
    (h : Reader.valueFields p raws = .ok found) :
    ∀ e ∈ found, ∃ f ∈ raws, lift f.1.decode = .ok e.1 := by
  induction raws generalizing found with
  | nil =>
    cases h
    exact fun _ absent => (List.not_mem_nil absent).elim
  | cons f raws ih =>
    obtain ⟨key, decoded, h⟩ := bind_ok h
    obtain ⟨v, _, h⟩ := bind_ok h
    obtain ⟨rest, others, h⟩ := bind_ok h
    cases h
    refine List.forall_mem_cons.mpr ⟨⟨f, List.mem_cons_self, decoded⟩, ?_⟩
    intro e member
    obtain ⟨g, inside, same⟩ := ih others e member
    exact ⟨g, List.mem_cons_of_mem f inside, same⟩

theorem ensures_reader (n : Nat) : VoteRecord.reader.Ensures (n + 1) (·.Holds (IsDetail n)) := by
  intro p r v bound h
  obtain ⟨⟨common, kept⟩, opened, h⟩ := bind_ok h
  obtain ⟨found, details, h⟩ := bind_ok h
  cases h
  have keeps : ∀ m ∈ fields, m.Keeps n fun _ => True := fun _ _ _ _ _ _ _ _ _ => trivial
  obtain ⟨_, parts⟩ := Record.ensures_readOpen _ trivial keeps p r _ bound opened
  intro e member
  have inside := Dict.mem_ofList member
  obtain ⟨f, at_field, decoded⟩ := valueFields_named details e inside
  obtain ⟨_, key, same, unknown⟩ := parts f at_field
  have name : key = e.1 := Except.ok.inj (same.symm.trans decoded)
  refine ⟨fun m common => name ▸ unknown m common, ?_⟩
  exact valueFields_within (p := .again) (fun g inner => (parts g inner).1) details e inside

end VoteRecord

namespace GameState

variable {n : Nat}

theorem keeps_fieldsWith {currentNode : Member GameState}
    (node : currentNode.Keeps (n + 2) (·.Holds (Value.IsWithin (n + 1)) (VoteRecord.IsDetail n))) :
    ∀ m ∈ fieldsWith currentNode,
      m.Keeps (n + 2) (·.Holds (Value.IsWithin (n + 1)) (VoteRecord.IsDetail n)) := by
  have flags := (ensures_value (n + 1)).dict
  have votes := (VoteRecord.ensures_reader n).list
  intro m member
  simp only [fieldsWith, List.mem_cons, List.not_mem_nil, or_false] at member
  rcases member with rfl | rfl | rfl | rfl | rfl | rfl | rfl | rfl | rfl | rfl | rfl | rfl
  · exact Member.keeps_optional (.any _ _) (fun _ _ h _ => h.of_eq rfl rfl) _
  · exact node
  · exact Member.keeps_optional (.any _ _) (fun _ _ h _ => h.of_eq rfl rfl) _
  · exact Member.keeps_optional (.any _ _) (fun _ _ h _ => h.of_eq rfl rfl) _
  · exact Member.keeps_optional (.any _ _) (fun _ _ h _ => h.of_eq rfl rfl) _
  · exact Member.keeps_optional flags (fun _ _ h new => ⟨new, h.votes⟩) _
  · exact Member.keeps_optional (.any _ _) (fun _ _ h _ => h.of_eq rfl rfl) _
  · exact Member.keeps_optional (.any _ _) (fun _ _ h _ => h.of_eq rfl rfl) _
  · exact Member.keeps_optional (.any _ _) (fun _ _ h _ => h.of_eq rfl rfl) _
  · exact Member.keeps_optional votes (fun _ _ h new => ⟨h.flags, new⟩) _
  · exact Member.keeps_optional (.any _ _) (fun _ _ h _ => h.of_eq rfl rfl) _
  · exact Member.keeps_optional (.any _ _) (fun _ _ h _ => h.of_eq rfl rfl) _

theorem holds_blank {F : Value → Prop} {D : String → Value → Prop} : blank.Holds F D :=
  ⟨fun _ member => (nomatch member), fun _ member => (nomatch member)⟩

theorem ensures_reader (n : Nat) :
    GameState.reader.Ensures (n + 3) (·.Holds (Value.IsWithin (n + 1)) (VoteRecord.IsDetail n)) :=
  Record.ensures_read _ holds_blank
    (keeps_fieldsWith (Member.keeps_mandatory (.any _ _) (fun _ _ h _ => h.of_eq rfl rfl) _))

theorem ensures_templateReader (n : Nat) : GameState.templateReader.Ensures (n + 3)
    (·.Holds (Value.IsWithin (n + 1)) (VoteRecord.IsDetail n)) :=
  Record.ensures_read _ holds_blank
    (keeps_fieldsWith (Member.keeps_optional (.any _ _) (fun _ _ h _ => h.of_eq rfl rfl) _))

end GameState

namespace Effects

variable {n : Nat}

theorem ensures_reader (n : Nat) :
    Effects.reader.Ensures (n + 3) (·.Holds (Value.IsWithin (n + 1)) (VoteRecord.IsDetail n)) := by
  have flags := (ensures_value (n + 1)).dict
  have votes := (VoteRecord.ensures_reader n).list
  refine Record.ensures_read _ ⟨fun _ member => (nomatch member), fun _ member => (nomatch member)⟩ ?_
  intro m member
  simp only [fields, List.mem_cons, List.not_mem_nil, or_false] at member
  rcases member with rfl | rfl | rfl | rfl | rfl | rfl | rfl | rfl
  · exact Member.keeps_optional (.any _ _) (fun _ _ h _ => ⟨h.flags, h.votes⟩) _
  · exact Member.keeps_optional flags (fun _ _ h new => ⟨new, h.votes⟩) _
  · exact Member.keeps_optional (.any _ _) (fun _ _ h _ => ⟨h.flags, h.votes⟩) _
  · exact Member.keeps_optional (.any _ _) (fun _ _ h _ => ⟨h.flags, h.votes⟩) _
  · exact Member.keeps_optional (.any _ _) (fun _ _ h _ => ⟨h.flags, h.votes⟩) _
  · exact Member.keeps_optional votes (fun _ _ h new => ⟨h.flags, new⟩) _
  · exact Member.keeps_optional (.any _ _) (fun _ _ h _ => ⟨h.flags, h.votes⟩) _
  · exact Member.keeps_optional (.any _ _) (fun _ _ h _ => ⟨h.flags, h.votes⟩) _

end Effects

theorem Choice.ensures_reader (n : Nat) : Choice.reader.Ensures (n + 4) fun c =>
    ∀ e, c.effects = some e → e.Holds (Value.IsWithin (n + 1)) (VoteRecord.IsDetail n) := by
  have effects := (Effects.ensures_reader n).option
  refine Record.ensures_read _ (fun _ given => nomatch given) ?_
  intro m member
  simp only [fields, List.mem_cons, List.not_mem_nil, or_false] at member
  rcases member with rfl | rfl | rfl | rfl
  · exact Member.keeps_mandatory (.any _ _) (fun _ _ h _ e => h e) _
  · exact Member.keeps_optional (.any _ _) (fun _ _ h _ e => h e) _
  · exact Member.keeps_optional effects (fun _ _ _ new => new) _
  · exact Member.keeps_optional (.any _ _) (fun _ _ h _ e => h e) _

theorem NodeKind.ensures_kindReader (n i : Nat) : (NodeKind.kindReader i).Ensures (n + 6) fun kind =>
    ∀ e ∈ kind.effects, e.Holds (Value.IsWithin (n + 1)) (VoteRecord.IsDetail n) := by
  have choices := (Choice.ensures_reader n).list
  unfold kindReader
  split
  · refine Record.ensures_read _ (fun _ member => nomatch member) ?_
    refine List.forall_mem_singleton.mpr ?_
    exact Member.keeps_optional (.any _ _) (fun _ _ _ _ _ member => nomatch member) _
  · refine Record.ensures_read _ (fun _ member => nomatch member) ?_
    refine List.forall_mem_singleton.mpr (Member.keeps_mandatory choices ?_ _)
    intro _ made _ each e member
    obtain ⟨c, inside, given⟩ := List.mem_filterMap.mp member
    exact each c inside e given
  · refine Record.ensures_read _ (fun _ member => nomatch member) ?_
    refine List.forall_mem_singleton.mpr ?_
    exact Member.keeps_mandatory (.any _ _) (fun _ _ _ _ _ member => nomatch member) _
  · exact Record.ensures_read _ (fun _ member => nomatch member) fun _ member => nomatch member

theorem Node.ensures_reader (n : Nat) : Node.reader.Ensures (n + 6) fun node =>
    ∀ e ∈ node.kind.effects, e.Holds (Value.IsWithin (n + 1)) (VoteRecord.IsDetail n) := by
  intro p r node bound h
  obtain ⟨⟨common, kept⟩, opened, h⟩ := bind_ok h
  obtain ⟨kind, read, h⟩ := bind_ok h
  cases h
  have keeps : ∀ m ∈ fields, m.Keeps (n + 5) fun _ => True :=
    fun _ _ _ _ _ _ _ _ _ => trivial
  obtain ⟨_, parts⟩ := Record.ensures_readOpen _ trivial keeps p r _ bound opened
  have within : (Raw.object kept .closed).Within (n + 6) :=
    .object .closed fun f member => (parts f member).1
  exact Tagged.ensures_read _ _ _ (NodeKind.ensures_kindReader n) .again _ kind within read

namespace Content

/-- The template has some levels more than the effects of a choice, which lie deeper in the text. -/
theorem ensures_reader : Content.reader.Ensures 127 fun c =>
    c.template.Holds (Value.IsWithin 124) (VoteRecord.IsDetail 123) ∧
    ∀ n ∈ c.nodes.entries, ∀ e ∈ n.2.kind.effects,
      e.Holds (Value.IsWithin 120) (VoteRecord.IsDetail 119) := by
  have nodes := (Node.ensures_reader 119).dict
  have template := GameState.ensures_templateReader 123
  refine Record.ensures_read _ ⟨GameState.holds_blank, fun _ member => nomatch member⟩ ?_
  intro m member
  simp only [fields, List.mem_cons, List.not_mem_nil, or_false] at member
  rcases member with rfl | rfl | rfl | rfl
  · exact Member.keeps_optional (.any _ _) (fun _ _ h _ => ⟨h.1, h.2⟩) _
  · exact Member.keeps_mandatory nodes (fun _ _ h new => ⟨h.1, new⟩) _
  · exact Member.keeps_optional (.any _ _) (fun _ _ h _ => ⟨h.1, h.2⟩) _
  · exact Member.keeps_mandatory template (fun _ _ h new => ⟨new, h.2⟩) _

variable {text : String} {content : Content}

theorem read_ofText (h : ofText text = .ok content) :
    Content.reader .start (scan text).root = .ok content := by
  obtain ⟨made, done, h⟩ := bind_ok h
  split at h
  · cases h
  · exact (Except.ok.inj h) ▸ done

/-- All that a story that was read can put into a state can be saved. -/
theorem storable_ofText (h : ofText text = .ok content) : content.Storable := by
  obtain ⟨start, each⟩ := ensures_reader .start _ content (Nat.le_refl 127) (read_ofText h)
  refine ⟨start.imp (fun v fits => fits.mono (by decide)) ?_, ?_⟩
  · exact fun k v fits => ⟨fits.1, fits.2.mono (by decide)⟩
  · intro n member e inner
    refine (each n member e inner).imp (fun v fits => fits.mono (by decide)) ?_
    exact fun k v fits => ⟨fits.1, fits.2.mono (by decide)⟩

end Content

namespace SaveRecord

theorem read_decode {text : String} {r : SaveRecord} (h : decode text = .ok r) :
    ∃ kept, Record.readOpen "struct SaveRecord" [timestampMember] 0 .start (scan text).root =
        .ok (r.timestamp, kept) ∧
      GameState.reader .again (.object kept .closed) = .ok r.state := by
  obtain ⟨made, read, h⟩ := bind_ok h
  have same : made = r := by
    split at h
    · cases h
    · exact Except.ok.inj h
  subst same
  obtain ⟨⟨timestamp, kept⟩, opened, read⟩ := bind_ok read
  obtain ⟨state, inner, read⟩ := bind_ok read
  cases read
  exact ⟨kept, opened, inner⟩

theorem storable_decode {text : String} {r : SaveRecord} (h : decode text = .ok r) :
    r.state.Storable := by
  obtain ⟨kept, opened, read⟩ := read_decode h
  have keeps : ∀ m ∈ [timestampMember], m.Keeps 126 fun _ => True :=
    fun _ _ _ _ _ _ _ _ _ => trivial
  obtain ⟨_, parts⟩ := Record.ensures_readOpen _ trivial keeps .start _ _ (Nat.le_refl 127) opened
  have within : (Raw.object kept .closed).Within 127 :=
    .object .closed fun f member => (parts f member).1
  exact GameState.ensures_reader 124 .again _ r.state within read

end SaveRecord
end Storyline
