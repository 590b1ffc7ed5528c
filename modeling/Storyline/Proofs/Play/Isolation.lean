import Storyline.Proofs.Play.Reload
import Storyline.Proofs.Equality
import Storyline.Schema.Config

/-!
Slots are on their own. Two slots never have one key, so as long as the autosave does not have the key
of a slot, only saving to it changes what is loaded from it. Nothing keeps settings from giving both
one key; then the autosave takes the place of the game in the slot.
-/

namespace Storyline

namespace Interpreter

variable {σ : Type} [Store σ] {it : Interpreter σ} {content : Content} {config : Config}
  {entries : Dict String} {slot : UInt8}

theorem Serves.held_textsAfter (h : Serves content config entries it) {turns : List Turn}
    (own : config.saves.slotKey? slot ≠ some config.saves.autosaveKey)
    (spared : ∀ turn ∈ turns, turn.action ≠ .save slot) :
    config.saves.gameIn (it.textsAfter entries turns) slot = config.saves.gameIn entries slot := by
  unfold SaveLayout.gameIn
  cases known : config.saves.slotKey? slot with
  | none => rfl
  | some key => simp only [Option.bind_some, h.slot_textsAfter known own spared]

/-- Over a store that works, what is loaded from a slot whose key is not that of the autosave is
changed by saving to that slot only. Any run without that is followed by the same answer, from the
game itself and from any that is begun over its store then, and by the same place in the story if
there is a game in the slot. -/
theorem slot_isolated (content : Content) (config : Config) {store : σ}
    (works : Store.Works config.saves.Uses store) (start : UInt64) {slot : UInt8}
    (own : config.saves.slotKey? slot ≠ some config.saves.autosaveKey) (before after : List Turn)
    (spared : ∀ turn ∈ after, turn.action ≠ .save slot) (now later : UInt64) :
    let it := (Interpreter.new content config store start).run before
    let loaded := it.take ⟨now, .load slot⟩
    let reloaded := (it.run after).take ⟨later, .load slot⟩
    reloaded.1 = loaded.1 ∧
      (∀ out, loaded.1 = .loaded (some out) →
        reloaded.2.state = loaded.2.state ∧ reloaded.2.pending = loaded.2.pending) ∧
      ∀ begun, ((Interpreter.new content config (it.run after).saves.store begun).take
        ⟨later, .load slot⟩).1 = loaded.1 := by
  intro it loaded reloaded
  obtain ⟨_, works⟩ := works
  have here : Serves content config _ it := (serves_new content works start).run before
  have there := here.run after
  have kept := here.held_textsAfter own spared
  obtain ⟨answer, place⟩ := (here.atTime now).load slot
  obtain ⟨answer', place'⟩ := (there.atTime later).load slot
  rw [kept] at answer' place'
  refine ⟨answer'.trans answer.symm, ?_, ?_⟩
  · intro out answered
    obtain ⟨game, held, _⟩ := Option.map_eq_some_iff.mp (Reply.loaded.inj (answer.symm.trans answered))
    obtain ⟨state, pending⟩ := place game held
    obtain ⟨state', pending'⟩ := place' game held
    exact ⟨state'.trans state.symm, pending'.trans pending.symm⟩
  · intro begun
    have fresh := serves_new content there.works begun
    have renewed := ((fresh.atTime later).load slot).1
    rw [kept] at renewed
    exact renewed.trans answer.symm

theorem saved_tale (config : Config) (known : config.saves.slotKey? 1 = some "c2s_save_1") :
    let first := Interpreter.new .tale config (MemoryStore.mk .empty) 0
    ∃ out, ((first.run [⟨1, .boot⟩, ⟨2, .resume (.playerName "a")⟩, ⟨3, .save 1⟩]).take
      ⟨4, .load 1⟩).1 = .loaded (some out) := by
  intro first
  have works : Store.Works config.saves.Uses (MemoryStore.mk .empty) := Store.works_memory _ _
  obtain ⟨_, fresh⟩ :=
    steady_of_works Content.savable_tale config works (Store.faithful_memory _) 0
  have steady := fresh.run Content.savable_tale [⟨1, .boot⟩, ⟨2, .resume (.playerName "a")⟩]
  have saved := (save_enters Content.savable_tale steady 1 known 3 4).1
  rwa [← run_append] at saved

theorem slot_isolated_tale :
    let it := (Interpreter.new .tale .standard (MemoryStore.mk .empty) 0).run
      [⟨1, .boot⟩, ⟨2, .resume (.playerName "a")⟩, ⟨3, .save 1⟩]
    let after : List Turn := [⟨5, .resume (.choose 1)⟩, ⟨6, .save 2⟩, ⟨7, .resume .advance⟩,
      ⟨8, .restart⟩]
    (it.run after).wait = .playerName ∧
      ∃ out, (it.take ⟨4, .load 1⟩).1 = .loaded (some out) ∧
        ((it.run after).take ⟨9, .load 1⟩).1 = .loaded (some out) := by
  intro it after
  have spared : ∀ turn ∈ after, turn.action ≠ .save 1 := by
    simp only [after, List.forall_mem_cons]
    exact ⟨nofun, fun same => absurd (Action.save.inj same) (by decide), nofun, nofun, nofun⟩
  obtain ⟨answer, _⟩ := slot_isolated .tale .standard (Store.works_memory _ .empty) 0
    (SaveLayout.apart_standard 1)
    [⟨1, .boot⟩, ⟨2, .resume (.playerName "a")⟩, ⟨3, .save 1⟩] after spared 4 9
  obtain ⟨out, loaded⟩ := saved_tale .standard (by decide +kernel)
  exact ⟨by decide +kernel, out, loaded, answer.trans loaded⟩

/-- Settings under which the autosave has the key of the first slot. -/
def clashing : Config :=
  { Config.standard with saves := { SaveLayout.standard with autosaveKey := "c2s_save_1" } }

/-- Such settings are read without an objection, and then the end of the story empties the slot. -/
theorem slot_emptied_clashing :
    let it := (Interpreter.new .tale clashing (MemoryStore.mk .empty) 0).run
      [⟨1, .boot⟩, ⟨2, .resume (.playerName "a")⟩, ⟨3, .save 1⟩]
    let ended := it.run [⟨5, .resume (.choose 1)⟩, ⟨6, .resume .advance⟩]
    Json.readText Config.reader clashing.toJson.text = .ok clashing ∧
      (∃ out, (it.take ⟨4, .load 1⟩).1 = .loaded (some out)) ∧
      (ended.take ⟨7, .load 1⟩).1 = .loaded none := by
  intro it ended
  refine ⟨?_, saved_tale clashing (by decide +kernel), ?_⟩
  · rw [Json.readText_scanned]
    decide +kernel
  · have empty : ((ended.atTime 7).consult (.load 1)).1 = none := by decide +kernel
    rw [take, load_replies, empty]
    rfl

end Interpreter
end Storyline
