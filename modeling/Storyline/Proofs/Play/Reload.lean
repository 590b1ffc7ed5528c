import Storyline.Proofs.Play.Showing
import Storyline.Proofs.Play.Upkeep

/-!
Loading a slot leads back to the game as it was when it was saved there. What is saved is the state
alone; what was pending is found again by entering the node of the state, and whatever happens in
between does not touch the slot unless it is saved to.
-/

namespace Storyline

namespace Interpreter

variable {σ : Type} [Store σ] {content : Content} {config : Config} {entries : Dict String}
  {it : Interpreter σ} {slot : UInt8} {key : String}

theorem save_lands (steady : Steady content config entries it)
    (known : config.saves.slotKey? slot = some key) :
    (it.act (.save slot)).2.state = it.state ∧ (it.act (.save slot)).2.pending = it.pending ∧
      (it.upkept entries (.save slot)).find? key = some (SaveRecord.encode ⟨it.state, it.saves.now⟩) := by
  have lands := steady.act_lands (.save slot)
  refine ⟨lands.state, lands.pending, ?_⟩
  have texts : it.upkept entries (.save slot) =
      entries.insert key (SaveRecord.encode ⟨it.state, it.saves.now⟩) := by
    simp only [upkept, landingIn, course, land, Landing.upkeep, consulted, steady.layout, known]
  rw [texts]
  exact Dict.find?_insert_self entries key _

theorem slot_run (steady : Steady content config entries it) (apart : config.saves.Apart)
    (known : config.saves.slotKey? slot = some key) {turns : List Turn}
    (spared : ∀ turn ∈ turns, turn.action ≠ .save slot) :
    (it.textsAfter entries turns).find? key = entries.find? key :=
  steady.serves.slot_textsAfter known (apart slot) spared

theorem Serves.consult_load (h : Serves content config entries it) (slot : UInt8) :
    (it.consult (.load slot)).1 = config.saves.gameIn entries slot := by
  have works : Store.WorksAs it.saves.layout.Uses it.saves.store entries := h.layout ▸ h.works
  rw [(consult_works works (.load slot)).1]
  simp only [found, h.layout]
  rfl

theorem Serves.load (h : Serves content config entries it) (slot : UInt8) :
    let held := config.saves.gameIn entries slot
    (it.act (.load slot)).1 = .loaded (held.map fun game => game.recalled content config) ∧
      ∀ game, held = some game →
        let way := content.walk game.state game.state.currentNode config.hopLimit
        (it.act (.load slot)).2.state = way.1 ∧ (it.act (.load slot)).2.pending = way.2.pending := by
  intro held
  have there : (it.consult (.load slot)).1 = held := h.consult_load slot
  refine ⟨?_, ?_⟩
  · rw [it.load_replies, there, h.content, h.config]
  · intro game same way
    have lands := (it.act_comes (.load slot)).lands
    unfold landing at lands
    rw [there, same] at lands
    simp only [course, Option.map_some, Option.getD_some, SaveRecord.course, land, h.content,
      h.config] at lands
    exact ⟨lands.state, lands.pending⟩

theorem load_enters (steady : Steady content config entries it)
    (known : config.saves.slotKey? slot = some key) {game : SaveRecord}
    (held : entries.find? key = some game.encode) (savable : game.state.Savable) :
    let way := content.walk game.state game.state.currentNode config.hopLimit
    (∃ out, (it.act (.load slot)).1 = .loaded (some out)) ∧
      (it.act (.load slot)).2.state = way.1 ∧ (it.act (.load slot)).2.pending = way.2.pending := by
  have there : config.saves.gameIn entries slot = some game := by
    simp only [SaveLayout.gameIn, known, Option.bind_some, held]
    exact SaveRecord.ofText?_encode savable
  obtain ⟨answer, lands⟩ := steady.serves.load slot
  rw [there] at answer
  exact ⟨⟨_, answer⟩, lands game there⟩

theorem load_lands (steady : Steady content config entries it)
    (known : config.saves.slotKey? slot = some key) {game : SaveRecord}
    (held : entries.find? key = some game.encode) (savable : game.state.Savable) {stop : Stop}
    (rests : content.Rests game.state stop) :
    (∃ out, (it.act (.load slot)).1 = .loaded (some out)) ∧
      (it.act (.load slot)).2.state = game.state ∧
      (it.act (.load slot)).2.pending = stop.pending := by
  have enters := load_enters steady known held savable
  simp only [rests config.hopLimit] at enters
  exact enters

/-- A game that is loaded as soon as it is saved goes the way from its node, whatever it waited
for. -/
theorem save_enters (story : content.Savable) (steady : Steady content config entries it)
    (slot : UInt8) (known : config.saves.slotKey? slot = some key) (now later : UInt64) :
    let way := content.walk it.state it.state.currentNode config.hopLimit
    let loaded := (it.run [⟨now, .save slot⟩]).take ⟨later, .load slot⟩
    (∃ out, loaded.1 = .loaded (some out)) ∧
      loaded.2.state = way.1 ∧ loaded.2.pending = way.2.pending := by
  intro way loaded
  have timed := steady.atTime now
  obtain ⟨_, _, held⟩ := save_lands timed known
  have ready := (timed.act story (.save slot)).atTime later
  exact load_enters ready known held steady.savable

/-- A game that waits at a node is saved in a slot, and anything is done then but saving there again.
When the slot is loaded, the game is as it was when it was saved, and from then on is not told apart
from it. -/
theorem loads_as_saved {text : String} (parsed : Content.ofText text = .ok content)
    (numbers : content.Faithful) (config : Config) (apart : config.saves.Apart) {store : σ}
    (works : Store.Works config.saves.Uses store)
    (saved : Store.Faithful config.saves.Uses store) (start : UInt64) (before after : List Turn)
    (waits : ((Interpreter.new content config store start).run before).wait.AtNode)
    (slot : UInt8) (exists_slot : 1 ≤ slot ∧ slot ≤ config.saves.slotCount)
    (spared : ∀ turn ∈ after, turn.action ≠ .save slot) (now later : UInt64) :
    let it := (Interpreter.new content config store start).run before
    let kept := (it.take ⟨now, .save slot⟩).2
    let loaded := (kept.run after).take ⟨later, .load slot⟩
    (∃ out, loaded.1 = .loaded (some out)) ∧
      loaded.2.state = it.state ∧ loaded.2.wait = it.wait ∧
      ∀ left right : List (UInt64 × Event), left.map Prod.snd = right.map Prod.snd →
        loaded.2.hear left = kept.hear right := by
  intro it kept loaded
  have story := Content.savable_ofText parsed numbers
  obtain ⟨_, fresh⟩ := steady_of_works story config works saved start
  have steady : Steady content config _ it := fresh.run story before
  have known : config.saves.slotKey? slot =
      some (config.saves.slotPrefix ++ toString slot.toNat) := if_pos exists_slot
  have timed := steady.atTime now
  obtain ⟨state, pending, held⟩ := save_lands timed known
  have keeps : Steady content config _ kept := timed.act story (.save slot)
  have still := keeps.run story after
  have held := (slot_run keeps apart known spared).trans held
  have node : it.pending.AtNode := Pending.atNode_wait waits
  obtain ⟨stop, waiting, rests⟩ := steady.suspended node
  have rests : content.Rests it.state stop := steady.content ▸ rests
  have ready := still.atTime later
  obtain ⟨shown, state', pending'⟩ := load_lands ready known held steady.savable rests
  have stands : loaded.2.pending = it.pending := pending'.trans waiting
  have reloaded : Steady content config _ loaded.2 := ready.act story (.load slot)
  refine ⟨shown, state', congrArg Pending.wait stands, ?_⟩
  intro left right events
  exact reloaded.hear keeps (state'.trans state.symm) (stands.trans pending.symm)
    (pending.symm ▸ node) events

theorem loads_as_saved_fork :
    let it := (Interpreter.new .fork .standard (MemoryStore.mk .empty) 0).run
      [⟨1, .newGame⟩, ⟨2, .resume (.playerName "A")⟩]
    let kept := (it.take ⟨3, .save 1⟩).2
    let loaded := (kept.run [⟨4, .resume (.choose 1)⟩, ⟨5, .resume (.choose 2)⟩]).take ⟨6, .load 1⟩
    it.wait = .choice 2 ∧ (∃ out, loaded.1 = .loaded (some out)) ∧ loaded.2.state = it.state ∧
      loaded.2.wait = .choice 2 := by
  have waits : ((Interpreter.new .fork .standard (MemoryStore.mk .empty) 0).run
      [⟨1, .newGame⟩, ⟨2, .resume (.playerName "A")⟩]).wait = .choice 2 := by decide +kernel
  have spared : ∀ turn ∈ [Turn.mk 4 (.resume (.choose 1)), ⟨5, .resume (.choose 2)⟩],
      turn.action ≠ .save 1 := by
    simp only [List.forall_mem_cons]
    exact ⟨nofun, nofun, nofun⟩
  obtain ⟨shown, state, wait, _⟩ := loads_as_saved Content.parsed_fork Content.faithful_fork .standard
    SaveLayout.apart_standard (Store.works_memory _ _) (Store.faithful_memory _) 0
    [⟨1, .newGame⟩, ⟨2, .resume (.playerName "A")⟩]
    [⟨4, .resume (.choose 1)⟩, ⟨5, .resume (.choose 2)⟩] (by rw [waits]; trivial) 1 (by decide)
    spared 3 6
  exact ⟨waits, shown, state, wait.trans waits⟩

end Interpreter
end Storyline
