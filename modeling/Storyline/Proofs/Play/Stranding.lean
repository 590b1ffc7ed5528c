import Storyline.Proofs.Play.Isolation
import Storyline.Proofs.Play.Soundness

/-!
Saved games that do not fit the story. A game that goes on takes the state that was saved before the
node of it is looked for; where there is no such node, it has halted in a state that is nowhere in the
story. Every other action leaves a game at a node, also one that names a node which does not exist.
-/

namespace Storyline

namespace Content

variable {content : Content} {id : String} {s : GameState}

theorem retains_node (content : Content) :
    content.Retains fun s => content.hasNode s.currentNode = true where
  named _ _ here := here
  entered _ _ _ found _ := hasNode_of_node found
  chosen s _ _ c _ here := by
    rw [c.outcome_currentNode]
    exact here

theorem hasNode_walk (here : content.hasNode s.currentNode = true) (id : String) (hops : Nat) :
    content.hasNode (content.walk s id hops).1.currentNode = true :=
  walk_keeps content.retains_node.entered here id hops

theorem walk_missing (missing : content.hasNode id = false) (s : GameState) (hops : Nat) :
    content.walk s id hops = (s, .lost (.missingNode id)) := by
  have nothing : content.node? id = none := by
    cases found : content.node? id with
    | none => rfl
    | some node =>
      rw [hasNode_of_node found] at missing
      cases missing
  unfold walk
  rw [nothing]

end Content

namespace Interpreter

variable {σ : Type} {it : Interpreter σ} {content : Content}

theorem node_land (here : it.content.hasNode it.state.currentNode = true)
    (start : it.content.hasNode it.content.startNode = true) {game : Option SaveRecord}
    {action : Action} (fits : action.Recalls it.pending → ∀ r, game = some r →
      it.content.hasNode r.state.currentNode = true) :
    it.content.hasNode (it.land (it.course game action)).state.currentNode = true :=
  land_retains it.content.retains_node here (fun _ => start) fits

/-- Where a saved game leads that is gone on with: to a node if it was saved at one, and else to where
it was saved, with nothing more to do. -/
theorem land_recalled (it : Interpreter σ) (r : SaveRecord) :
    (it.content.hasNode (it.land r.course).state.currentNode = true ↔
      it.content.hasNode r.state.currentNode = true) ∧
    (it.content.hasNode r.state.currentNode = false →
      it.land r.course = ⟨r.state, .halted, some (.lost (.missingNode r.state.currentNode))⟩) := by
  have stranded (missing : it.content.hasNode r.state.currentNode = false) :
      it.land r.course = ⟨r.state, .halted, some (.lost (.missingNode r.state.currentNode))⟩ := by
    simp only [SaveRecord.course, land, Content.walk_missing missing]
    rfl
  refine ⟨⟨?_, fun there => Content.hasNode_walk there _ _⟩, stranded⟩
  intro ends
  cases there : it.content.hasNode r.state.currentNode with
  | true => rfl
  | false =>
    rw [stranded there, there] at ends
    cases ends

variable [Store σ]

/-- Whether each saved game that is gone on with in a run is at a node of the story. -/
def RecallsFit : Interpreter σ → List Turn → Prop :=
  Throughout fun it turn => turn.action.Recalls it.pending →
    ∀ r, ((it.atTime turn.now).consult turn.action).1 = some r →
      it.content.hasNode r.state.currentNode = true

structure Within (content : Content) (it : Interpreter σ) : Prop where
  story : it.content = content
  here : content.hasNode it.state.currentNode = true

theorem Within.run (h : it.Within content) (start : content.hasNode content.startNode = true)
    {turns : List Turn} (fit : it.RecallsFit turns) : (it.run turns).Within content := by
  refine run_throughout ?_ fit h
  rintro it turn _ fits ⟨rfl, here⟩
  have lands := ((it.atTime turn.now).act_comes turn.action).lands
  have timed : (it.atTime turn.now).content.hasNode (it.atTime turn.now).state.currentNode = true :=
    here
  have ends := node_land timed start fits
  refine ⟨lands.content, ?_⟩
  rw [take, lands.state]
  exact ends

theorem take_comes (it : Interpreter σ) {now : UInt64} {action : Action} {game : Option SaveRecord}
    {course : Course} (found : ((it.atTime now).consult action).1 = game)
    (leads : it.course game action = course) :
    let after := it.take ⟨now, action⟩
    after.2.state = (it.land course).state ∧ after.2.pending = (it.land course).pending ∧
      after.1.errors = ContentFault.messages (it.land course).fault := by
  intro after
  have comes := (it.atTime now).act_comes action
  have ends : (it.atTime now).landing action = it.land course := by
    unfold landing
    rw [found]
    exact congrArg it.land leads
  rw [ends] at comes
  exact ⟨comes.lands.state, comes.lands.pending, comes.errors⟩

theorem take_recalls {now : UInt64} (action : Action) (recalls : action.Recalls it.pending)
    {r : SaveRecord} (found : ((it.atTime now).consult action).1 = some r) :
    let after := it.take ⟨now, action⟩
    (it.content.hasNode after.2.state.currentNode = true ↔
      it.content.hasNode r.state.currentNode = true) ∧
    (it.content.hasNode r.state.currentNode = false →
      after.2.state = r.state ∧ after.2.pending = .halted ∧
      after.1.errors = [(ContentFault.missingNode r.state.currentNode).message]) := by
  intro after
  obtain ⟨state, pending, errors⟩ := it.take_comes found (course_recalls recalls r)
  obtain ⟨ends, strands⟩ := it.land_recalled r
  refine ⟨?_, ?_⟩
  · rw [state]
    exact ends
  · intro missing
    rw [state, pending, errors, strands missing]
    exact ⟨rfl, rfl, rfl⟩

/-- What becomes of saved games on content that is checked without errors, over any store. As long as
those that are gone on with are at nodes of the story, the game is at one. Loading a slot in which no
game is found changes nothing, and a game that was offered and is gone is begun anew. But a game that
is at no node is gone on with all the same: its state takes the place of the one before, and the game
has halted there with the error that the node is missing. -/
theorem recalls_or_strands (clean : content.validate.hasErrors = false) (config : Config) (store : σ)
    (start : UInt64) (turns : List Turn) :
    let first := Interpreter.new content config store start
    let it := first.run turns
    (first.RecallsFit turns → content.hasNode it.state.currentNode = true) ∧
    ∀ (now : UInt64) (action : Action),
      let game := ((it.atTime now).consult action).1
      let after := it.take ⟨now, action⟩
      (∀ slot, action = .load slot → game = none →
        after.2.state = it.state ∧ after.2.pending = it.pending) ∧
      (it.pending = .savedGame → action = .resume (.choose 1) → game = none →
        after.2.state = freshState content ∧ after.2.pending = .playerName) ∧
      (action.Recalls it.pending → ∀ r, game = some r →
        (content.hasNode after.2.state.currentNode = true ↔
          content.hasNode r.state.currentNode = true) ∧
        (content.hasNode r.state.currentNode = false →
          after.2.state = r.state ∧ after.2.pending = .halted ∧
          after.1.errors = [(ContentFault.missingNode r.state.currentNode).message])) := by
  intro first it
  have node := (Content.playable_of_validate clean).start
  have story : it.content = content := content_run first turns
  have fresh : first.Within content := ⟨rfl, node⟩
  refine ⟨fun fit => (fresh.run node fit).here, ?_⟩
  intro now action game after
  refine ⟨?_, ?_, ?_⟩
  · intro slot loads none
    obtain ⟨state, pending, _⟩ := it.take_comes none (by rw [loads])
    exact ⟨state, pending⟩
  · intro waits continues none
    have begins : it.course Option.none action = .begins := by
      unfold course courseOf
      rw [continues, waits]
      rfl
    obtain ⟨state, pending, _⟩ := it.take_comes none begins
    exact ⟨state.trans (congrArg freshState story), pending⟩
  · intro recalls r found
    rw [← story]
    exact take_recalls action recalls found

def keptAt (id : String) : MemoryStore :=
  ⟨Dict.empty.insert "c2s_save_1" (SaveRecord.encode ⟨visitor id, 3⟩)⟩
where
  visitor (id : String) : GameState := { GameState.blank with playerName := "ANN", currentNode := id }

theorem consult_keptAt (id : String) {turns : List Turn}
    (spared : ∀ turn ∈ turns, turn.action ≠ .save 1) (now : UInt64) :
    let it := (Interpreter.new .tale .standard (keptAt id) 0).run turns
    ((it.atTime now).consult (.load 1)).1 = some ⟨keptAt.visitor id, 3⟩ := by
  intro it
  have savable : (keptAt.visitor id).Savable :=
    ⟨GameState.holds_blank.of_eq rfl rfl, GameState.holds_blank.of_eq rfl rfl⟩
  have works : Store.WorksAs Config.standard.saves.Uses (keptAt id) (keptAt id).entries :=
    Store.worksAs_memory _ _
  have fresh := serves_new .tale works 0
  have serves := (fresh.run turns).atTime now
  rw [serves.consult_load, fresh.held_textsAfter (SaveLayout.apart_standard 1) spared]
  have key : SaveLayout.standard.slotKey? 1 = some "c2s_save_1" := by decide +kernel
  have text : (keptAt id).entries.find? "c2s_save_1" =
      some (SaveRecord.encode ⟨keptAt.visitor id, 3⟩) := Dict.find?_insert_self _ _ _
  simp only [SaveLayout.gameIn, Config.standard, key, Option.bind_some, text]
  exact SaveRecord.ofText?_encode savable

theorem recalls_or_strands_tale :
    let it := (Interpreter.new .tale .standard (keptAt "tale") 0).run
      [⟨1, .boot⟩, ⟨2, .resume (.playerName "a")⟩]
    Content.tale.hasNode it.state.currentNode = true ∧
      Content.tale.hasNode (it.take ⟨3, .load 1⟩).2.state.currentNode = true := by
  have spared : ∀ turn ∈ [Turn.mk 1 .boot, ⟨2, .resume (.playerName "a")⟩],
      turn.action ≠ .save 1 := by
    simp only [List.forall_mem_cons]
    exact ⟨nofun, nofun, nofun⟩
  have calm : ((Interpreter.new .tale .standard (keptAt "tale") 0).run [⟨1, .boot⟩]).pending ≠
      .savedGame := by decide +kernel
  obtain ⟨node, turn⟩ := recalls_or_strands Content.clean_tale .standard (keptAt "tale") 0
    [⟨1, .boot⟩, ⟨2, .resume (.playerName "a")⟩]
  obtain ⟨_, _, recalls⟩ := turn 3 (.load 1)
  obtain ⟨fits, _⟩ := recalls trivial _ (consult_keptAt "tale" spared 3)
  exact ⟨node ⟨nofun, fun recalls => absurd recalls.1 calm, trivial⟩, fits.mpr (by decide +kernel)⟩

/-- A game at a node that the story does not have takes the place of one that is played. -/
theorem stranded_after_load :
    let it := (Interpreter.new .tale .standard (keptAt "gone") 0).run
      [⟨1, .boot⟩, ⟨2, .resume (.playerName "a")⟩]
    Content.tale.validate.hasErrors = false ∧ it.wait = .choice 2 ∧ it.state.playerName = "A" ∧
      Content.tale.hasNode it.state.currentNode = true ∧
      Content.tale.hasNode (it.take ⟨3, .load 1⟩).2.state.currentNode = false ∧
      (it.take ⟨3, .load 1⟩).2.state.playerName = "ANN" := by
  have spared : ∀ turn ∈ [Turn.mk 1 .boot, ⟨2, .resume (.playerName "a")⟩],
      turn.action ≠ .save 1 := by
    simp only [List.forall_mem_cons]
    exact ⟨nofun, nofun, nofun⟩
  have missing : Content.tale.hasNode "gone" = false := by decide +kernel
  obtain ⟨_, strands⟩ :=
    take_recalls (.load 1) trivial (consult_keptAt "gone" spared 3)
  obtain ⟨state, _⟩ := strands (by rw [content_run]; exact missing)
  dsimp only
  rw [state]
  exact ⟨Content.clean_tale, by decide +kernel, by decide +kernel, by decide +kernel, missing, rfl⟩

end Interpreter
end Storyline
