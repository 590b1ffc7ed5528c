import Storyline.Proofs.Play.Showing
import Storyline.Proofs.Play.Suspension

/-!
Choices as the player sees them. While a game waits at a node, what was shown last is that node with
all that can be picked there; and the number under which an option is shown is the one under which it
is made.
-/

namespace Storyline

namespace ChoiceItem

theorem index_numbered (labels : List String) :
    (numbered labels).map index = List.range' 1 labels.length := by
  unfold numbered
  rw [List.map_map]
  exact List.zipIdx_map_snd 1 labels

theorem length_numbered (labels : List String) : (numbered labels).length = labels.length := by
  simpa only [List.length_map, List.length_range'] using congrArg List.length (index_numbered labels)

theorem getElem?_numbered {labels : List String} {k : Nat} (first : 1 ≤ k) {label : String}
    (listed : labels[k - 1]? = some label) : (numbered labels)[k - 1]? = some ⟨k, label⟩ := by
  unfold numbered
  rw [List.getElem?_map, List.getElem?_zipIdx, listed]
  simp only [Option.map_some, Nat.add_sub_cancel' first]

end ChoiceItem

theorem Content.shown_arrives (content : Content) (timing : Timing) (s : GameState) (id : String)
    (hops : Nat) (arrives : (content.walk s id hops).2.fault = none) :
    let s' := (content.walk s id hops).1
    ∃ earlier, content.shown timing s id hops =
      earlier ++ .updateHeader (content.header s') :: content.display timing s' s'.currentNode := by
  fun_induction walk content s id hops with
  | case1 hops s id missing => cases arrives
  | case2 hops s id node found next kind =>
    exact ⟨[], shown_single found (trail_single found (by rw [kind]; rfl) hops)⟩
  | case3 hops s id node found choices kind =>
    exact ⟨[], shown_single found (trail_single found (by rw [kind]; rfl) hops)⟩
  | case4 hops s id node found kind =>
    exact ⟨[], shown_single found (trail_single found (by rw [kind]; rfl) hops)⟩
  | case5 s id node found condition kind => cases arrives
  | case6 s id node found condition kind hops ih =>
    obtain ⟨earlier, ends⟩ := ih arrives
    refine ⟨.updateHeader (content.header (s.entering id node)) :: earlier, ?_⟩
    rw [shown_branch found kind]
    exact congrArg (_ :: ·) ends

namespace Interpreter

variable {σ : Type} {it : Interpreter σ}

/-- Where a game waits at a node, what was shown ends with that node as it is now. -/
def Displays (it : Interpreter σ) (shown : List Directive) : Prop :=
  it.pending.AtNode → ∃ earlier, shown = earlier ++
    .updateHeader it.header :: it.content.display it.config.timing it.state it.state.currentNode

theorem displays_new (content : Content) (config : Config) (store : σ) (start : UInt64) :
    (Interpreter.new content config store start).Displays [] := fun waits => waits.elim

theorem Displays.choices {shown : List Directive} (h : it.Displays shown) (suspended : it.Suspended)
    {id : String} {count : Nat} (waits : it.pending = .choice id count) :
    id = it.state.currentNode ∧ ∃ earlier node choices,
      it.content.node? id = some node ∧ node.kind = .choice choices ∧ choices.length = count ∧
      shown = earlier ++ [.updateHeader it.header, .clearChoices,
        .displayText (it.nodeText node) .body, .delay it.config.timing.choice,
        .presentChoices (ChoiceItem.numbered (choices.map (·.text)))] := by
  obtain ⟨node, found, rfl, choices, kind, length⟩ := suspended.asked (c := .choice id count) waits
  obtain ⟨earlier, ends⟩ := h (waits ▸ trivial)
  unfold Content.display at ends
  simp only [found, kind] at ends
  exact ⟨rfl, earlier, node, choices, found, kind, length, ends⟩

/-- On a way nothing of a state changes but the node, the day and the episode. -/
theorem land_goes_state (it : Interpreter σ) (s : GameState) (id : String) :
    let s' := (it.land (.goes s id)).state
    s' = { s with currentNode := s'.currentNode, day := s'.day, episode := s'.episode } := by
  have way : (it.land (.goes s id)).state = s.through _ :=
    congrArg Prod.fst (it.content.walk_eq_trail s id it.config.hopLimit)
  simp only [way]
  rfl

variable [Store σ]

def emitted (it : Interpreter σ) : List Turn → List Directive
  | [] => []
  | turn :: turns => (it.take turn).1.directives ++ (it.take turn).2.emitted turns

/-- Every action leaves the node at which a game waits as the last that was shown. -/
theorem Displays.act {shown : List Directive} (h : it.Displays shown) (action : Action) :
    (it.act action).2.Displays (shown ++ (it.act action).1.directives) := by
  intro waits
  have lands := (it.act_comes action).lands
  have told := it.act_shows action
  rw [lands.pending] at waits
  unfold landing at lands waits
  rw [header_of_lands lands, lands.content, lands.config, lands.state, told]
  rcases course_of_waits waits with stays | ⟨s, id, goes⟩
  · rw [telling_stays stays, List.append_nil]
    rw [stays] at waits ⊢
    exact h waits
  · obtain ⟨earlier, ends⟩ := it.content.shown_arrives it.config.timing s id it.config.hopLimit
      (it.goes_arrives (goes ▸ waits))
    refine ⟨shown ++ (it.preamble (it.consult action).1 action ++ earlier), ?_⟩
    unfold telling
    rw [goes]
    simp only [sequel, ends, List.append_assoc]
    rfl

theorem Displays.run {shown : List Directive} (h : it.Displays shown) (turns : List Turn) :
    (it.run turns).Displays (shown ++ it.emitted turns) := by
  induction turns generalizing it shown with
  | nil =>
    unfold emitted
    rw [List.append_nil]
    exact h
  | cons turn turns ih =>
    have timed : (it.atTime turn.now).Displays shown := h
    have rest := ih (timed.act turn.action)
    unfold emitted
    rw [← List.append_assoc]
    exact rest

theorem respond_choose {id : String} {count index : Nat} (waits : it.pending = .choice id count)
    (fits : inRange index count = true) {c : Choice}
    (found : option? it.content id index = some c) :
    let landing := it.land (c.course it.state)
    ∃ out, (it.respond (.choose index)).1 = .ok out ∧
      out.directives = c.reaction it.config.timing it.state ++ it.sequel (c.course it.state) ∧
      Lands it (landing.settle it.saves) landing.state landing.pending
        (it.respond (.choose index)).2 := by
  have taken : it.resume (.choose index) = .ok (it.choose id index) := by
    unfold resume
    rw [waits]
    exact if_pos fits
  have shows := it.choose_shows id index
  have lands := (it.choose_comes id index).lands
  rw [found] at shows lands
  unfold respond
  rw [taken]
  exact ⟨_, rfl, shows, lands⟩

theorem goTo_in (it : Interpreter σ) (s : GameState) (id : String) :
    let landing := it.land (.goes s id)
    (Interpreter.goTo { it with state := s } id).1 = it.sequel (.goes s id) ∧
      Lands it (landing.settle it.saves) landing.state landing.pending
        (Interpreter.goTo { it with state := s } id).2 := by
  have here : Lands it it.saves s it.pending { it with state := s } := ⟨rfl, rfl, rfl, rfl, rfl⟩
  exact ⟨enter_shows { it with state := s } id it.config.hopLimit, (goTo_comes here id).lands⟩

/-- Where a game waits for a choice, the last that was shown is the node that asks for it, with as
many options as can be picked, numbered from 1. Picking a number makes the option that stands there:
its response is worded for the state before; its effects are made once; and then, after a pause and
a line, the game goes to the next node as it would from the state with the effects, or halts where
it is. -/
theorem picks_what_is_shown (content : Content) (config : Config) (store : σ) (start : UInt64)
    (turns : List Turn) {count : Nat}
    (waits : ((Interpreter.new content config store start).run turns).wait = .choice count)
    {k : Nat} (first : 1 ≤ k) (last : k ≤ count) (now : UInt64) :
    let it := ((Interpreter.new content config store start).run turns).atTime now
    let after := (it.respond (.choose k)).2
    ∃ earlier node choices items choice out,
      content.node? it.state.currentNode = some node ∧ node.kind = .choice choices ∧
      (Interpreter.new content config store start).emitted turns = earlier ++
        [.updateHeader it.header, .clearChoices, .displayText (it.nodeText node) .body,
          .delay config.timing.choice, .presentChoices items] ∧
      items.length = count ∧ items.map ChoiceItem.index = List.range' 1 count ∧
      items[k - 1]? = some ⟨k, choice.text⟩ ∧ choices[k - 1]? = some choice ∧
      (it.respond (.choose k)).1 = .ok out ∧
      let effected := ((choice.effects.map Effects.apply).getD fun s => s) it.state
      let response := (choice.response.map fun text =>
        Directive.displayText (Text.substitute it.state text) .response).toList
      match choice.next with
      | some next =>
        let there := Interpreter.goTo { it with state := effected } next
        out.directives =
          .clearChoices :: response ++ [.delay config.timing.line, .divider] ++ there.1 ∧
        there.1 = content.shown config.timing effected next config.hopLimit ∧
        after.state = there.2.state ∧ after.pending = there.2.pending ∧
        after.saves = there.2.saves ∧
        after.state = { effected with
          currentNode := after.state.currentNode
          day := after.state.day
          episode := after.state.episode }
      | none =>
        out.directives = .clearChoices :: response ∧ after.state = effected ∧
        after.state.currentNode = it.state.currentNode ∧ after.wait = .halted := by
  intro it after
  have story : it.content = content := content_run _ turns
  have settings : it.config = config := config_run _ turns
  have suspended : it.Suspended := suspended_run content config store start turns
  have displays : it.Displays ((Interpreter.new content config store start).emitted turns) :=
    (displays_new content config store start).run turns
  obtain ⟨id, pending⟩ : ∃ id, it.pending = .choice id count := Pending.choice_of_wait waits
  obtain ⟨rfl, earlier, node, choices, found, kind, rfl, ends⟩ := displays.choices suspended pending
  have fits : inRange k choices.length = true := (inRange_iff k choices.length).mpr ⟨first, last⟩
  obtain ⟨_, choice, option⟩ := suspended.option pending fits
  obtain ⟨out, taken, told, lands⟩ := respond_choose pending fits option
  have listed : choices[k - 1]? = some choice := (option?_choice found kind k).symm.trans option
  have labels := ChoiceItem.getElem?_numbered first
    ((List.getElem?_map ..).trans (congrArg (Option.map Choice.text) listed))
  have length := ChoiceItem.length_numbered (choices.map (·.text))
  have indexes := ChoiceItem.index_numbered (choices.map (·.text))
  rw [List.length_map] at length indexes
  rw [settings] at ends told
  refine ⟨earlier, node, choices, _, choice, out, by rw [← story]; exact found, kind, ends, length,
    indexes, labels, listed, taken, ?_⟩
  intro effected response
  have course := Choice.course.eq_def choice it.state
  unfold Choice.reaction at told
  cases leads : choice.next with
  | none =>
    rw [leads] at course told
    rw [course] at told lands
    simp only [sequel, List.append_nil] at told
    exact ⟨told, lands.state, (congrArg GameState.currentNode lands.state).trans
      (choice.outcome_currentNode it.state), congrArg Pending.wait lands.pending⟩
  | some next =>
    rw [leads] at course told
    rw [course] at told lands
    obtain ⟨shown, there⟩ := it.goTo_in effected next
    refine ⟨told.trans (congrArg (_ ++ ·) shown.symm), shown.trans ?_,
      lands.state.trans there.state.symm, lands.pending.trans there.pending.symm,
      lands.saves.trans there.saves.symm, ?_⟩
    · unfold sequel
      rw [story, settings]
    · rw [lands.state]
      exact it.land_goes_state effected next

theorem picks_what_is_shown_fork :
    let new := Interpreter.new .fork .standard (MemoryStore.mk .empty) 0
    let turns : List Turn :=
      [⟨1, .newGame⟩, ⟨2, .resume (.playerName "A")⟩, ⟨3, .resume (.choose 1)⟩]
    let it := (new.run turns).atTime 4
    it.wait = .choice 2 ∧ ∃ earlier items, ∃ choice : Choice, ∃ out,
      new.emitted turns = earlier ++ [.presentChoices items] ∧
      items.map ChoiceItem.index = [1, 2] ∧ items[1]? = some ⟨2, choice.text⟩ ∧
      (it.respond (.choose 2)).1 = .ok out := by
  intro new turns it
  have waits : (new.run turns).wait = .choice 2 := by decide +kernel
  obtain ⟨earlier, node, _, items, choice, out, _, _, ends, _, indexes, label, _, taken, _⟩ :=
    picks_what_is_shown .fork .standard (MemoryStore.mk .empty) 0 turns waits (k := 2) (by decide)
      (by decide) 4
  exact ⟨(atTime_wait _ 4).trans waits, earlier ++ [.updateHeader it.header, .clearChoices,
    .displayText (it.nodeText node) .body, .delay Config.standard.timing.choice], items, choice, out,
    ends.trans (by simp only [List.append_assoc]; rfl), indexes, label, taken⟩

end Interpreter
end Storyline
