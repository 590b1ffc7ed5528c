import Storyline.Proofs.Play.Reload
import Storyline.Proofs.Play.Soundness

/-!
When a game has a name. The prompt takes no empty name, so the story is not entered through it
without one. A slot takes any state, also one that has no name yet, and loading it enters the story
all the same; as long as none is saved, nothing else gets past the prompt.
-/

namespace Storyline

theorem Content.walk_playerName (content : Content) (s : GameState) (id : String) (hops : Nat) :
    (content.walk s id hops).1.playerName = s.playerName :=
  walk_keeps (P := fun s' => s'.playerName = s.playerName) (fun _ _ _ _ same => same) rfl id hops

/-- What a session asks of a game: it never sends it to a node by itself. -/
def Action.OfSession : Action → Prop
  | process _ => False
  | _ => True

def GameState.IsNamed (s : GameState) : Prop := s.playerName ≠ ""

theorem GameState.outlasts_name : SaveRecord.Outlasts IsNamed := by
  intro r r' read named
  unfold IsNamed
  rw [SaveRecord.playerName_decode_encode read]
  exact named

namespace Interpreter

variable {σ : Type} {it : Interpreter σ}

theorem land_stop {course : Course} {stop : Stop} (stops : (it.land course).stop = some stop) :
    (it.land course).pending = stop.pending := by
  cases course with
  | halts s fault =>
    cases fault with
    | none => cases stops
    | some fault =>
      cases stops
      rfl
  | goes s id =>
    cases stops
    rfl
  | _ => cases stops

theorem named_land (named : it.pending.AtNode → it.state.IsNamed) {game : Option SaveRecord}
    (found : ∀ r, game = some r → r.state.IsNamed) {action : Action} (session : action.OfSession)
    (waits : (it.land (it.course game action)).pending.AtNode) :
    (it.land (it.course game action)).state.IsNamed := by
  have leads := it.course_leads game action
  generalize it.course game action = course at leads waits ⊢
  have walked (s : GameState) (id : String) (h : s.IsNamed) : (it.land (.goes s id)).state.IsNamed := by
    unfold GameState.IsNamed land
    rw [Content.walk_playerName]
    exact h
  -- Every way but the one from a saved game sets out from a state that has a name, or is given one.
  cases leads with
  | stays => exact named waits
  | loads _ r _ there => exact walked _ _ (found r there)
  | names _ name _ given => exact walked _ _ given
  | advances next asked => exact walked _ _ (named (asked ▸ trivial))
  | picks id count index c next asked =>
    refine walked _ _ ?_
    unfold GameState.IsNamed
    rw [c.outcome_playerName]
    exact named (asked ▸ trivial)
  | sends id => exact session.elim
  | _ => exact waits.elim

variable [Store σ]

/-- Whether each game that is saved in a run has a name. -/
def SavesNamed : Interpreter σ → List Turn → Prop :=
  Throughout fun it turn => ∀ slot, turn.action = .save slot → it.state.IsNamed

/-- A game that has a name where it is at a node, over a store with named games only. -/
structure Introduced (start : σ) (it : Interpreter σ) : Prop where
  named : it.pending.AtNode → it.state.IsNamed
  trusted : Store.Trusted (SaveRecord.Wrote GameState.IsNamed) start it.saves.store

variable {start : σ}

theorem Introduced.act (h : it.Introduced start) (honest : Store.Honest start) {action : Action}
    (session : action.OfSession) (saves : ∀ slot, action = .save slot → it.state.IsNamed) :
    (it.act action).2.Introduced start := by
  obtain ⟨trusted, found⟩ := consult_trusted GameState.outlasts_name honest h.trusted saves
  have named : (it.landing action).pending.AtNode → (it.landing action).state.IsNamed :=
    named_land h.named found session
  have lands := (it.act_comes action).lands
  constructor
  · intro waits
    rw [lands.pending] at waits
    rw [lands.state]
    exact named waits
  · rw [lands.saves]
    refine Landing.settle_trusted trusted fun c stops => named ?_
    have pending : (it.landing action).pending = c.pending := land_stop stops
    rw [pending]
    exact c.pending_atCheckpoint.atNode

theorem Introduced.run (h : it.Introduced start) (honest : Store.Honest start) {turns : List Turn}
    (session : ∀ turn ∈ turns, turn.action.OfSession) (saves : it.SavesNamed turns) :
    (it.run turns).Introduced start := by
  refine run_throughout ?_ saves h
  intro it turn member named h
  have timed : (it.atTime turn.now).Introduced start := ⟨h.named, h.trusted⟩
  exact timed.act honest (session turn member) named

/-- In a session over a store that is empty at first, a game that is at a node has a name, however it
came there and whatever the store fails to do, if none is saved before it has one. -/
theorem named_at_nodes (content : Content) (config : Config) (honest : Store.Honest start)
    (now : UInt64) {turns : List Turn} (session : ∀ turn ∈ turns, turn.action.OfSession)
    (saves : (Interpreter.new content config start now).SavesNamed turns) :
    let it := (Interpreter.new content config start now).run turns
    it.wait.AtNode → it.state.playerName ≠ "" := by
  intro it waits
  have fresh : (Interpreter.new content config start now).Introduced start := ⟨nofun, .refl⟩
  exact (fresh.run honest session saves).named (Pending.atNode_wait waits)

theorem named_at_nodes_tale :
    let first := Interpreter.new .tale .standard (MemoryStore.mk .empty) 0
    let turns : List Turn := [⟨1, .boot⟩, ⟨2, .resume (.playerName "a")⟩, ⟨3, .save 1⟩,
      ⟨4, .resume (.choose 1)⟩]
    first.SavesNamed turns ∧ (first.run turns).wait = .advance ∧
      (first.run turns).state.playerName ≠ "" := by
  intro first turns
  have session : ∀ turn ∈ turns, turn.action.OfSession := by
    simp only [turns, List.forall_mem_cons]
    exact ⟨trivial, trivial, trivial, trivial, nofun⟩
  have named : (first.run [⟨1, .boot⟩, ⟨2, .resume (.playerName "a")⟩]).state.playerName ≠ "" := by
    decide +kernel
  have saves : first.SavesNamed turns := ⟨nofun, nofun, fun _ _ => named, nofun, trivial⟩
  have waits : (first.run turns).wait = .advance := by decide +kernel
  refine ⟨saves, waits, ?_⟩
  exact named_at_nodes .tale .standard Store.honest_memory 0 session saves (waits ▸ trivial)

/-- A game without a name that is saved and loaded goes on into the story without one. -/
theorem nameless_enters {content : Content} {config : Config} {entries : Dict String}
    {key : String} (story : content.Savable) (steady : Steady content config entries it)
    (slot : UInt8) (known : config.saves.slotKey? slot = some key) (nameless : it.state.playerName = "")
    (now later : UInt64) :
    let again := (it.run [⟨now, .save slot⟩]).take ⟨later, .load slot⟩
    again.2.state.playerName = "" ∧
      again.2.wait = (content.walk it.state it.state.currentNode config.hopLimit).2.pending.wait := by
  intro again
  obtain ⟨_, state, pending⟩ := save_enters story steady slot known now later
  refine ⟨?_, congrArg Pending.wait pending⟩
  rw [state, Content.walk_playerName]
  exact nameless

/-- A game that is saved at the prompt and loaded again waits for a choice without a name. -/
theorem nameless_after_load :
    let begun := (Interpreter.new .tale .standard (MemoryStore.mk .empty) 0).run [⟨1, .boot⟩]
    Content.tale.template.playerName = "" ∧ begun.wait = .playerName ∧
      ((begun.run [⟨2, .save 1⟩]).take ⟨3, .load 1⟩).2.wait = .choice 2 ∧
      ((begun.run [⟨2, .save 1⟩]).take ⟨3, .load 1⟩).2.state.playerName = "" := by
  intro begun
  have works : Store.Works SaveLayout.standard.Uses (MemoryStore.mk .empty) :=
    Store.works_memory _ _
  obtain ⟨_, fresh⟩ :=
    steady_of_works Content.savable_tale .standard works (Store.faithful_memory _) 0
  have steady : Steady .tale .standard _ begun := fresh.run Content.savable_tale [⟨1, .boot⟩]
  have nameless : begun.state.playerName = "" := by decide +kernel
  have ends : (Content.tale.walk begun.state begun.state.currentNode
      Config.standard.hopLimit).2.pending.wait = .choice 2 := by decide +kernel
  have asked : begun.wait = .playerName := by decide +kernel
  obtain ⟨still, waits⟩ :=
    nameless_enters Content.savable_tale steady 1 rfl nameless 2 3
  exact ⟨rfl, asked, waits.trans ends, still⟩

end Interpreter
end Storyline
