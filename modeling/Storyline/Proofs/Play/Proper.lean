import Storyline.Proofs.Play.Lasting
import Storyline.Proofs.Rules.Effects
import Storyline.Proofs.Validation.Issues

/-!
What every state of a game keeps to. Its relationships stay within their range and are those of the
template, no more and no fewer, and nobody is in an alliance twice. The numbers of the content are not
asked to be small, nor its alliances to be different.
-/

namespace Storyline

namespace GameState

structure Proper (template s : GameState) : Prop where
  range : ∀ e ∈ s.relationships.entries, -100 ≤ e.2.toInt ∧ e.2.toInt ≤ 100
  kept : s.relationships.keys = template.relationships.keys
  once : s.alliances.Nodup

variable {template s : GameState}

theorem proper_ofTemplate (template : GameState) (cast : Cast) :
    Proper template (.ofTemplate template cast) where
  range := List.forall_mem_map.mpr fun _ _ => clampRelationship_bounds _
  kept := Dict.keys_mapValues _ _
  once := nodup_addNames List.nodup_nil template.alliances

namespace Proper

theorem of_eq {s' : GameState} (h : Proper template s)
    (relationships : s'.relationships = s.relationships) (alliances : s'.alliances = s.alliances) :
    Proper template s' where
  range := relationships ▸ h.range
  kept := relationships ▸ h.kept
  once := alliances ▸ h.once

theorem apply (h : Proper template s) (e : Effects) : Proper template (e.apply s) := by
  rw [e.apply_eq]
  constructor
  · refine List.forall_mem_map.mpr fun entry member => ?_
    simp only
    cases e.relationships.find? entry.1 with
    | none => exact h.range entry member
    | some delta => exact clampRelationship_bounds _
  · exact (Dict.keys_mapValues _ _).trans h.kept
  · exact nodup_addNames h.once e.alliances

theorem untracked (h : Proper template s) {character : String}
    (absent : template.tracks character = false) : s.relationship character = 0 := by
  have missing : s.relationships.find? character = none := by
    by_contra there
    have listed : character ∈ s.relationships.keys :=
      Dict.mem_keys.mpr (Option.isSome_iff_ne_none.mpr there)
    rw [h.kept, Dict.mem_keys] at listed
    exact Bool.false_ne_true (absent.symm.trans listed)
  unfold relationship
  rw [missing]
  rfl

end Proper

theorem outlasts_proper (template : GameState) : SaveRecord.Outlasts (Proper template) := by
  intro r r' read h
  exact h.of_eq (SaveRecord.part_decode_encode legible_relationships read)
    (SaveRecord.part_decode_encode legible_alliances read)

end GameState

theorem Content.retains_proper (content : Content) (template : GameState) :
    content.Retains (GameState.Proper template) where
  named _ _ h := h.of_eq rfl rfl
  entered _ _ _ _ h := h.of_eq rfl rfl
  chosen _ _ _ _ _ h := Choice.outcome_keeps h fun e _ => h.apply e

theorem Content.lasts_proper (content : Content) :
    content.Lasts (fun _ => True) (GameState.Proper content.template) where
  fresh := GameState.proper_ofTemplate content.template content.cast
  outlasts := GameState.outlasts_proper content.template
  course := by
    rintro σ it game action rfl _ h found _
    refine Interpreter.land_retains (it.content.retains_proper _) h (fun _ => ?_) fun _ => found
    exact GameState.proper_ofTemplate it.content.template it.content.cast

namespace Interpreter

variable {σ : Type} [Store σ] {start : σ}

/-- Whatever is done in a game, and whatever the store fails to do, every relationship is within its
range and one of the template's, each of which is there, and no alliance is joined twice. A character
that is not kept counts as zero, and with it every one that is reported as such. -/
theorem stays_proper (content : Content) (config : Config) (honest : Store.Honest start)
    (now : UInt64) (turns : List Turn) :
    let it := (Interpreter.new content config start now).run turns
    (∀ e ∈ it.state.relationships.entries, -100 ≤ e.2.toInt ∧ e.2.toInt ≤ 100) ∧
    it.state.relationships.keys = content.template.relationships.keys ∧
    (∀ character, content.template.tracks character = false →
      it.state.relationship character = 0) ∧
    (∀ id character, Content.warningAt .conditions id (Content.untrackedMessage character) ∈
      content.validate.issues → it.state.relationship character = 0) ∧
    it.state.alliances.Nodup := by
  intro it
  have fresh := abides_new content.lasts_proper config start now
  have proper : GameState.Proper content.template it.state :=
    (fresh.run content.lasts_proper honest fun _ _ => trivial).state
  refine ⟨proper.range, proper.kept, fun _ absent => proper.untracked absent, ?_, proper.once⟩
  intro id character warned
  exact proper.untracked (Content.untracked_of_validate warned)

end Interpreter

/-- A quarrel that goes as far as numbers go, with someone whom nobody keeps count of. -/
def Content.feud : Content where
  titles := .standard
  nodes := Dict.ofList [
    ("feud", .choice "Who?" [⟨"All", none, some quarrel, some "ask"⟩]),
    ("ask", .branch ⟨.relationship "dan" (some 0) none, "feud", "end"⟩),
    ("end", .narrative "Over." none)]
  cast := ⟨[⟨"bob", "Bob", Int32.minValue⟩, ⟨"dan", "Dan", 50⟩], .empty⟩
  template := { GameState.blank with
    currentNode := "feud"
    relationships := Dict.ofList [("ann", 500), ("bob", 7)]
    alliances := ["A", "B", "A"] }
where
  quarrel : Effects := { Effects.none with
    relationships := Dict.ofList [("ann", Int32.minValue), ("bob", Int32.maxValue), ("dan", 5)]
    alliances := ["C", "B", "C"] }

theorem Interpreter.stays_proper_feud :
    let it := (Interpreter.new .feud .standard (MemoryStore.mk .empty) 0).run
      [⟨1, .boot⟩, ⟨2, .resume (.playerName "A")⟩, ⟨3, .resume (.choose 1)⟩, ⟨4, .save 1⟩,
        ⟨5, .load 1⟩]
    (∀ e ∈ it.state.relationships.entries, -100 ≤ e.2.toInt ∧ e.2.toInt ≤ 100) ∧
    it.state.relationships.keys = ["ann", "bob"] ∧ it.state.relationship "dan" = 0 ∧
    it.state.alliances.Nodup := by
  have proper := stays_proper .feud .standard Store.honest_memory 0
    [⟨1, .boot⟩, ⟨2, .resume (.playerName "A")⟩, ⟨3, .resume (.choose 1)⟩, ⟨4, .save 1⟩,
      ⟨5, .load 1⟩]
  have keys : Content.feud.template.relationships.keys = ["ann", "bob"] := by decide +kernel
  have warned : Content.warningAt .conditions "ask" (Content.untrackedMessage "dan") ∈
      Content.feud.validate.issues := Content.mem_validate.mpr (.inl (by decide +kernel))
  -- The game itself is not run to see this.
  generalize (Interpreter.new .feud .standard (MemoryStore.mk .empty) 0).run _ = it at proper ⊢
  obtain ⟨range, kept, _, untracked, once⟩ := proper
  exact ⟨range, kept.trans keys, untracked "ask" "dan" warned, once⟩

end Storyline
