import Mathlib.Data.List.Nodup
import Storyline.Proofs.Saves.Nesting
import Storyline.Proofs.Saves.Requests
import Storyline.Saves.Slots

/-!
The node and the name of a game, its relationships and its alliances are read back as they were
written, whatever becomes of its free values: flags and details may make a record unreadable, but they
never change these parts. A store that was given nothing but games at such nodes, or under such names,
therefore gives back no others.
-/

namespace Storyline

open Json

namespace GameState

/-- A part of a state that is written as a text, and that no field changes but the one of its name. -/
structure Textual (name : String) (part : GameState → String) : Prop where
  written : ∀ s : GameState, (name, Json.string (part s)) ∈ s.toFields
  read : ∀ m ∈ fields, ∀ (p : Pass) (r : Raw) (s s' : GameState), m.read p r s = .ok s' →
    (m.name = name ∧ Reader.text p r = .ok (part s')) ∨ (m.name ≠ name ∧ part s' = part s)

theorem textual_playerName : Textual "player_name" playerName where
  written _ := List.mem_cons_self
  read := by
    intro m member p r s s' h
    simp only [fields, fieldsWith, List.mem_cons, List.not_mem_nil, or_false] at member
    rcases member with rfl | rfl | rfl | rfl | rfl | rfl | rfl | rfl | rfl | rfl | rfl | rfl <;>
      obtain ⟨a, read, rfl⟩ := map_ok h
    · exact .inl ⟨rfl, read⟩
    all_goals exact .inr ⟨by decide, rfl⟩

theorem textual_currentNode : Textual "current_node" currentNode where
  written _ := List.mem_cons_of_mem _ List.mem_cons_self
  read := by
    intro m member p r s s' h
    simp only [fields, fieldsWith, List.mem_cons, List.not_mem_nil, or_false] at member
    rcases member with rfl | rfl | rfl | rfl | rfl | rfl | rfl | rfl | rfl | rfl | rfl | rfl <;>
      obtain ⟨a, read, rfl⟩ := map_ok h
    · exact .inr ⟨by decide, rfl⟩
    · exact .inl ⟨rfl, read⟩
    all_goals exact .inr ⟨by decide, rfl⟩

theorem names_toFields (s : GameState) : s.toFields.map Prod.fst = fields.map Member.name := rfl

/-- A part of a state that is read as it was written, and that no field changes but the one of its
name. -/
structure Legible {α : Type} (name : String) (write : α → Json) (part : GameState → α) : Prop where
  written : ∀ s : GameState, (name, write (part s)) ∈ s.toFields
  read : ∀ m ∈ fields, ∀ (r : Raw) (s s' : GameState), m.read .again r s = .ok s' →
    (m.name = name ∧ ∀ a, Shows (write a) r → part s' = a) ∨ (m.name ≠ name ∧ part s' = part s)

theorem Textual.legible {name : String} {part : GameState → String} (textual : Textual name part) :
    Legible name .string part where
  written := textual.written
  read := by
    intro m member r s s' h
    refine (textual.read m member .again r s s' h).imp_left (And.imp_right fun read a shown => ?_)
    exact Except.ok.inj (read.symm.trans (recovers_text 0 a .again r trivial shown))

theorem legible_relationships : Legible "relationships" (.ofDict .ofInt32) relationships where
  written s := by simp [toFields]
  read := by
    intro m member r s s' h
    simp only [fields, fieldsWith, List.mem_cons, List.not_mem_nil, or_false] at member
    rcases member with rfl | rfl | rfl | rfl | rfl | rfl | rfl | rfl | rfl | rfl | rfl | rfl <;>
      obtain ⟨a, read, rfl⟩ := map_ok h
    case inr.inr.inr.inr.inl =>
      refine .inl ⟨rfl, fun b shown => ?_⟩
      have back := recovers_dict (d := b) (fun e _ => recovers_int32 0 e.2) .again r trivial shown
      exact Except.ok.inj (read.symm.trans back)
    all_goals exact .inr ⟨by decide, rfl⟩

theorem legible_alliances : Legible "alliances" .ofTexts alliances where
  written s := by simp [toFields]
  read := by
    intro m member r s s' h
    simp only [fields, fieldsWith, List.mem_cons, List.not_mem_nil, or_false] at member
    rcases member with rfl | rfl | rfl | rfl | rfl | rfl | rfl | rfl | rfl | rfl | rfl | rfl <;>
      obtain ⟨a, read, rfl⟩ := map_ok h
    case inr.inr.inr.inr.inr.inr.inl =>
      refine .inl ⟨rfl, fun b shown => ?_⟩
      exact Except.ok.inj (read.symm.trans (recovers_texts 0 b .again r trivial shown))
    all_goals exact .inr ⟨by decide, rfl⟩

namespace Legible

variable {α : Type} {name : String} {write : α → Json} {part : GameState → α}

theorem alone (legible : Legible name write part) {s : GameState} {e : String × Json}
    (member : e ∈ s.toFields) (named : e.1 = name) : e.2 = write (part s) := by
  have distinct : (s.toFields.map Prod.fst).Nodup := by
    rw [names_toFields]
    decide
  exact congrArg Prod.snd (List.inj_on_of_nodup_map distinct member (legible.written s) named)

theorem known (legible : Legible name write part) : ∃ m ∈ fields, m.name = name := by
  have written := List.mem_map_of_mem (f := Prod.fst) (legible.written blank)
  rw [names_toFields] at written
  exact List.mem_map.mp written

theorem filled (legible : Legible name write part) {raws : List (Quoted × Raw)} {value : α}
    (named : ∀ f ∈ raws, lift f.1.decode = .ok name → Shows (write value) f.2)
    (there : ∃ f ∈ raws, lift f.1.decode = .ok name) {done : Filled GameState}
    (filled : Record.fillAll fields .ignored .again ⟨blank, [], []⟩ raws = .ok done) :
    part done.record = value := by
  have once : name ∈ done.seen → part done.record = value := by
    refine Record.fillAll_keeps (I := fun so => name ∈ so.seen → part so.record = value)
      ?_ (fun absent => (List.not_mem_nil absent).elim) filled
    intro so field so' member before filling seen
    cases filling with
    | known m record known key _ read =>
      rcases legible.read m known _ _ _ read with ⟨same, back⟩ | ⟨other, unchanged⟩
      · rw [same] at key
        exact back value (named field member key)
      · rcases List.mem_cons.mp seen with same | earlier
        · exact absurd same.symm other
        · exact unchanged.trans (before earlier)
    | ignored key _ _ => exact before seen
  obtain ⟨f, member, decoded⟩ := there
  rcases Record.fillAll_reads filled f member with ⟨m, _, key, seen⟩ | ⟨key, other, unknown, _⟩
  · rw [decoded] at key
    exact once (Except.ok.inj key ▸ seen)
  · obtain ⟨m, known, same⟩ := legible.known
    rw [decoded] at other
    exact absurd (same.trans (Except.ok.inj other)) (unknown m known)

end Legible

end GameState

namespace SaveRecord

variable {r r' : SaveRecord}

/-- Whatever record can be read, a legible part of its state is as it was written. -/
theorem part_decode_encode {α : Type} {name : String} {write : α → Json} {part : GameState → α}
    (legible : GameState.Legible name write part) (h : decode r.encode = .ok r') :
    part r'.state = part r.state := by
  obtain ⟨kept, opened, read⟩ := read_decode h
  obtain ⟨raw, shown, scanned⟩ := scan_text r.toJson
  have root : (scan r.encode).root = raw := congrArg Document.root scanned
  have strange : ∀ m ∈ [timestampMember], m.name ≠ name := by
    have unknown := unknown_field r.state _ (legible.written r.state)
    simpa using unknown
  rw [root] at opened
  cases shown with
  | object raws =>
    obtain ⟨q, entered, opened⟩ := bind_ok opened
    obtain ⟨so, filled, opened⟩ := bind_ok opened
    obtain ⟨_, _, opened⟩ := bind_ok opened
    obtain ⟨_, _, opened⟩ := bind_ok opened
    have same : so.kept = kept := congrArg Prod.snd (Except.ok.inj opened)
    subst same
    have named : ∀ f ∈ so.kept, lift f.1.decode = .ok name →
        Shows (write (part r.state)) f.2 := by
      intro f member key
      obtain ⟨inside, _, other, decoded, stranger⟩ := Record.kept_fillAll rfl filled f member
      obtain ⟨e, field, spelled, value⟩ := exists_shown raws f inside
      have same : e.1 = name := Except.ok.inj (spelled.symm.trans key)
      rcases List.mem_append.mp field with ours | stamp
      · rwa [legible.alone ours same] at value
      · rw [List.mem_singleton.mp stamp] at same
        exact absurd same (strange timestampMember List.mem_cons_self)
    have there : ∃ f ∈ so.kept, lift f.1.decode = .ok name := by
      obtain ⟨f, inside, key⟩ :=
        shown_exists raws _ (List.mem_append_left _ (legible.written r.state))
      rcases Record.fillAll_reads filled f inside with ⟨m, known, other, _⟩ | ⟨_, _, _, stays⟩
      · rw [key] at other
        exact absurd (Except.ok.inj other).symm (strange m known)
      · exact ⟨f, stays rfl, key⟩
    obtain ⟨_, again, read⟩ := bind_ok read
    cases again
    obtain ⟨done, filled, read⟩ := bind_ok read
    obtain ⟨_, _, read⟩ := bind_ok read
    obtain ⟨_, _, read⟩ := bind_ok read
    have same : done.record = r'.state := Except.ok.inj read
    rw [← same]
    exact legible.filled named there filled

theorem currentNode_decode_encode (h : decode r.encode = .ok r') :
    r'.state.currentNode = r.state.currentNode :=
  part_decode_encode GameState.textual_currentNode.legible h

theorem playerName_decode_encode (h : decode r.encode = .ok r') :
    r'.state.playerName = r.state.playerName :=
  part_decode_encode GameState.textual_playerName.legible h

def Wrote (P : GameState → Prop) (text : String) : Prop :=
  ∃ r : SaveRecord, P r.state ∧ text = r.encode

/-- What holds of a state that was saved holds of the one that is read back. -/
def Outlasts (P : GameState → Prop) : Prop :=
  ∀ r r' : SaveRecord, decode r.encode = .ok r' → P r.state → P r'.state

end SaveRecord

namespace Saves

variable {σ : Type} [Store σ] {P : GameState → Prop} {start : σ} {s : Saves σ}

theorem read_trusted (outlasts : SaveRecord.Outlasts P) (honest : Store.Honest start)
    (trusted : Store.Trusted (SaveRecord.Wrote P) start s.store) (key : String) :
    Store.Trusted (SaveRecord.Wrote P) start (s.read key).2.store ∧
      ∀ r, game? (some (s.read key).1) = some r → P r.state := by
  refine ⟨trusted.get key, ?_⟩
  intro r found
  simp only [read] at found
  cases got : (Store.get key s.store).1 with
  | error e =>
    rw [got] at found
    cases found
  | ok held =>
    rw [got] at found
    cases held with
    | none => cases found
    | some text =>
      obtain ⟨written, good, rfl⟩ := trusted.found honest got
      cases read : SaveRecord.decode written.encode with
      | error e =>
        simp only [read] at found
        cases found
      | ok r' =>
        simp only [read] at found
        cases found
        exact outlasts written r read good

theorem write_trusted (trusted : Store.Trusted (SaveRecord.Wrote P) start s.store) (key : String)
    {state : GameState} (good : P state) :
    Store.Trusted (SaveRecord.Wrote P) start (s.write key state).2.store :=
  trusted.set key ⟨_, good, rfl⟩

end Saves
end Storyline
