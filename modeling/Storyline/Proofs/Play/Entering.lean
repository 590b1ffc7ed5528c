import Storyline.Proofs.Play.Trail

/-!
Entering a node. What is shown is told by the trail: a header for each node that is entered, and then
the end of it. So is the state afterwards, and the one thing that is done to the store.
-/

namespace Storyline

def headersIn (directives : List Directive) : List Header :=
  directives.filterMap fun
    | .updateHeader header => some header
    | _ => none

theorem headersIn_append (left right : List Directive) :
    headersIn (left ++ right) = headersIn left ++ headersIn right := List.filterMap_append

theorem headersIn_updates (headers : List Header) :
    headersIn (headers.map .updateHeader) = headers := by
  unfold headersIn
  rw [List.filterMap_map]
  exact List.filterMap_some

namespace Content

variable {content : Content} {timing : Timing} {s : GameState} {id : String} {node : Node}

theorem headers_cons (rest : List (String × Node)) :
    content.headers s ((id, node) :: rest) =
      content.header (s.entering id node) :: content.headers (s.entering id node) rest := by
  unfold headers
  simp only [List.length_cons, List.range_succ_eq_map, List.map_cons, List.map_map,
    List.take_succ_cons, GameState.through_cons]
  rfl

/-- The wording of texts does not depend on the node, the day or the episode. -/
theorem display_entering (here : String) :
    content.display timing (s.entering id node) here = content.display timing s here := rfl

theorem shown_missing (missing : content.node? id = none) (hops : Nat) :
    content.shown timing s id hops = content.display timing s id := by
  unfold shown
  rw [trail_stops (successor?_missing missing), entered_missing missing]
  rfl

theorem shown_single (found : content.node? id = some node) {hops : Nat}
    (single : content.trail s id hops = [id]) :
    content.shown timing s id hops =
      .updateHeader (content.header (s.entering id node)) :: content.display timing s id := by
  unfold shown
  rw [single, entered_cons found, headers_cons]
  rfl

theorem shown_branch {condition : Condition} (found : content.node? id = some node)
    (kind : node.kind = .branch condition) (hops : Nat) :
    content.shown timing s id (hops + 1) = .updateHeader (content.header (s.entering id node)) ::
      content.shown timing (s.entering id node) (condition.next s) hops := by
  have leads := successor?_branch (s := s) found kind
  unfold shown
  rw [getLastD_trail_succ leads, trail_succ leads, entered_cons found, headers_cons, trail_entering,
    display_entering]
  rfl

theorem headersIn_display (content : Content) (timing : Timing) (s : GameState) (id : String) :
    headersIn (content.display timing s id) = [] := by
  unfold display
  cases content.node? id with
  | none => rfl
  | some node => cases kind : node.kind <;> simp only [kind] <;> rfl

theorem headersIn_shown (content : Content) (timing : Timing) (s : GameState) (id : String)
    (hops : Nat) :
    headersIn (content.shown timing s id hops) =
      content.headers s (content.entered (content.trail s id hops)) := by
  unfold shown
  rw [headersIn_append, headersIn_updates, headersIn_display, List.append_nil]

end Content

namespace Interpreter

variable {σ : Type} {it it' : Interpreter σ} {saves : Saves σ} {state : GameState}
  {pending : Pending} {id : String} {node : Node}

theorem header_of_lands (here : Lands it saves state pending it') :
    it'.header = it.content.header state := by
  unfold header Content.header
  rw [here.content, here.state]

theorem nodeText_of_lands (here : Lands it saves (it.state.entering id node) pending it') :
    it'.nodeText node = Wording.nodeText it.state it.content.cast node.text node.speaker := by
  unfold nodeText
  rw [here.content, here.state]
  rfl

theorem endingText_of_lands (here : Lands it saves (it.state.entering id node) pending it') :
    Wording.endingText it'.state node.text = Wording.endingText it.state node.text := by
  rw [here.state]
  rfl

variable [Store σ]

theorem enter_shows (it : Interpreter σ) (id : String) (hops : Nat) :
    (it.enter id hops).1 = it.content.shown it.config.timing it.state id hops := by
  fun_induction enter it id hops with
  | case1 hops it id missing =>
    rw [Content.shown_missing missing]
    unfold Content.display
    rw [missing]
    rfl
  | case2 hops it id node found at_node header next kind shown it' shows =>
    cases shows
    have stops : node.isCheckpoint = true := by simp only [Node.isCheckpoint, kind]
    have here := it.arrive_checkpoint id stops
    rw [Content.shown_single found (Content.trail_single found (by rw [kind]; rfl) hops)]
    unfold Content.display
    simp only [found, kind]
    rw [← header_of_lands here, ← nodeText_of_lands here]
  | case3 hops it id node found at_node header choices kind shown it' shows =>
    cases shows
    have stops : node.isCheckpoint = true := by simp only [Node.isCheckpoint, kind]
    have here := it.arrive_checkpoint id stops
    rw [Content.shown_single found (Content.trail_single found (by rw [kind]; rfl) hops)]
    unfold Content.display
    simp only [found, kind]
    rw [← header_of_lands here, ← nodeText_of_lands here, ← here.config]
  | case4 hops it id node found at_node header kind shown it' shows =>
    cases shows
    have passes : node.isCheckpoint = false := by simp only [Node.isCheckpoint, kind]
    have here := it.arrive_passing id passes
    rw [Content.shown_single found (Content.trail_single found (by rw [kind]; rfl) hops)]
    unfold Content.display
    simp only [found, kind]
    rw [← header_of_lands here, ← endingText_of_lands here, ← here.config]
  | case5 it id node found at_node header condition kind shown it' shows =>
    cases shows
    have passes : node.isCheckpoint = false := by simp only [Node.isCheckpoint, kind]
    have here := it.arrive_passing id passes
    rw [Content.shown_single found rfl]
    unfold Content.display
    simp only [found, kind]
    rw [← header_of_lands here]
  | case6 it id node found at_node header condition kind hops target it' routed shown it'' shows ih =>
    have passes : node.isCheckpoint = false := by simp only [Node.isCheckpoint, kind]
    have here := it.arrive_passing id passes
    obtain ⟨leads, there⟩ := at_node.route_next id condition
    rw [routed] at leads there
    have leads : target = condition.next it.state := leads.trans (by rw [here.state]; rfl)
    rw [shows, there.content, there.config, there.state, here.content, here.config, here.state,
      leads] at ih
    rw [Content.shown_branch found kind, ← ih, ← header_of_lands here]

/-- Going to a node, for any game. Its trail is found in the state before; of that state only the
node, the day and the episode change; each node that is entered has one header, which tells the day
and the episode there; and the last id of the trail decides how it ends and what the store is asked
for. -/
theorem goTo_follows_trail (it : Interpreter σ) (id : String) :
    let s := it.state
    let trail := it.content.trail s id it.config.hopLimit
    let entered := it.content.entered trail
    let last := trail.getLastD id
    let out := (answer (it.goTo id)).1
    let after := (answer (it.goTo id)).2
    let key := it.saves.layout.autosaveKey
    it.content.IsTrail s it.config.hopLimit id trail ∧
    after.state = { s with
      currentNode := (entered.map Prod.fst).getLastD s.currentNode
      day := (entered.filterMap (·.2.day)).getLastD s.day
      episode := (entered.filterMap (·.2.episode)).getLastD s.episode } ∧
    headersIn out.directives = (List.range entered.length).map (fun i =>
      it.content.header (s.through (entered.take (i + 1)))) ∧
    match (it.content.node? last).map Node.kind with
    | none =>
      out.errors = [(ContentFault.missingNode last).message] ∧ out.wait = .halted ∧
        after.saves.store = it.saves.store
    | some (.branch _) =>
      out.errors = [(ContentFault.branchCycle last).message] ∧ out.wait = .halted ∧
        after.saves.store = it.saves.store
    | some (.narrative _) =>
      out.errors = [] ∧ out.wait = .advance ∧
        after.saves.store =
          (Store.set key (SaveRecord.encode ⟨after.state, it.saves.now⟩) it.saves.store).2
    | some (.choice choices) =>
      out.errors = [] ∧ out.wait = .choice choices.length ∧
        after.saves.store =
          (Store.set key (SaveRecord.encode ⟨after.state, it.saves.now⟩) it.saves.store).2
    | some .ending =>
      out.errors = [] ∧ out.wait = .restart ∧
        after.saves.store = (Store.delete key it.saves.store).2 := by
  intro s trail entered last out after key
  obtain ⟨errors, lands⟩ := it.enter_arrives id it.config.hopLimit
  rw [Content.walk_eq_trail] at errors lands
  have shows := it.enter_shows id it.config.hopLimit
  have state : after.state = s.through entered := lands.state
  have wait : out.wait = (it.content.stopAt last).pending.wait := congrArg Pending.wait lands.pending
  have store : after.saves = (it.content.stopAt last).settle after.state it.saves :=
    lands.saves.trans (by rw [state])
  have errors : out.errors = ContentFault.messages (it.content.stopAt last).fault := errors
  refine ⟨it.content.isTrail_trail s id it.config.hopLimit, state, ?_, ?_⟩
  · exact (congrArg headersIn shows).trans (it.content.headersIn_shown _ s id it.config.hopLimit)
  · rw [errors, wait, store]
    unfold Content.stopAt
    cases found : it.content.node? last with
    | none => exact ⟨rfl, rfl, rfl⟩
    | some node =>
      simp only [Option.map_some]
      cases node.kind <;> exact ⟨rfl, rfl, rfl⟩

end Interpreter
end Storyline
