import Storyline.Proofs.Play.Acceptance
import Storyline.Proofs.Play.Leads
import Storyline.Proofs.Play.Standing
import Storyline.Proofs.Play.Table
import Storyline.Proofs.Play.Trail

/-!
What a suspended game waits for. At a node it is what that node asks for, whatever was done before and
whatever the store failed to do; so an option that is picked is always there.
-/

namespace Storyline

theorem ContentFault.mem_messages {fault : Option ContentFault} {text : String} :
    text ∈ messages fault ↔ ∃ f, fault = some f ∧ text = f.message := by
  unfold messages
  rw [Option.mem_toList, Option.map_eq_some_iff]
  exact exists_congr fun f => and_congr_right fun _ => eq_comm

theorem ContentFault.missingChoice_of_messages {fault : Option ContentFault} {index : Nat}
    {id : String} (told : (missingChoice index id).message ∈ messages fault) :
    ∃ index' id', fault = some (missingChoice index' id') := by
  obtain ⟨f, found, same⟩ := mem_messages.mp told
  cases f with
  | missingChoice index' id' => exact ⟨index', id', found⟩
  | missingNode id' => cases initial_of_message same
  | branchCycle id' => cases initial_of_message same

namespace Content

variable {content : Content} {id : String}

theorem stopAt_fault (index : Nat) (id' : String) :
    (content.stopAt id).fault ≠ some (.missingChoice index id') := by
  unfold stopAt
  cases content.node? id with
  | none => exact nofun
  | some node =>
    simp only
    cases node.kind <;> exact nofun

end Content

namespace Interpreter

variable {σ : Type} {it : Interpreter σ}

theorem fault_goes (it : Interpreter σ) (s : GameState) (id : String) :
    (it.land (.goes s id)).fault =
      (it.content.stopAt ((it.content.trail s id it.config.hopLimit).getLastD id)).fault :=
  congrArg (·.2.fault) (it.content.walk_eq_trail s id it.config.hopLimit)

theorem goes_fault (it : Interpreter σ) (s : GameState) (id : String) (index : Nat)
    (id' : String) : (it.land (.goes s id)).fault ≠ some (.missingChoice index id') := by
  rw [fault_goes]
  exact Content.stopAt_fault index id'

/-- Where all options are there, a game never halts at once at a fault: only a way through the story
can run into one. -/
theorem course_halts (options : ∀ id count index, it.pending = .choice id count →
      inRange index count = true → ∃ choice, option? it.content id index = some choice)
    {game : Option SaveRecord} {action : Action} {s : GameState} {fault : Option ContentFault}
    (halts : it.course game action = .halts s fault) : fault = none := by
  have leads := it.course_leads game action
  rw [halts] at leads
  cases leads with
  | stops _ => rfl
  | ends _ _ _ _ _ _ _ _ => rfl
  | misses id count index waits fits missing =>
    obtain ⟨choice, found⟩ := options id count index waits fits
    rw [missing] at found
    cases found

theorem Suspended.course_halts (h : it.Suspended) {game : Option SaveRecord} {action : Action}
    {s : GameState} {fault : Option ContentFault} (halts : it.course game action = .halts s fault) :
    fault = none :=
  Interpreter.course_halts (fun _ _ _ waits fits => (h.option waits fits).2) halts

theorem Suspended.fault (h : it.Suspended) (game : Option SaveRecord) (action : Action)
    (index : Nat) (id : String) :
    (it.land (it.course game action)).fault ≠ some (.missingChoice index id) := by
  cases leads : it.course game action with
  | goes s id' => exact it.goes_fault s id' index id
  | halts s fault =>
    cases h.course_halts leads
    exact nofun
  | _ => exact nofun

variable [Store σ]

theorem suspended_run (content : Content) (config : Config) (store : σ) (start : UInt64)
    (turns : List Turn) : ((Interpreter.new content config store start).run turns).Suspended := by
  refine run_keeps (I := Suspended) ?_ (suspended_new content config store start)
  intro it turn _ h
  have timed : (it.atTime turn.now).Suspended := h
  exact timed.act turn.action

theorem act_output (it : Interpreter σ) (action : Action) {out : Output}
    (shown : (it.act action).1.output? = some out) : out.wait = (it.act action).2.wait := by
  cases action with
  | resume event =>
    have heard : (Reply.ofResponse (it.respond event).1).output? = some out := shown
    have after : (it.act (.resume event)).2 = (it.respond event).2 := rfl
    rw [after]
    unfold respond at heard ⊢
    cases taken : it.resume event with
    | ok result =>
      simp only [taken] at heard ⊢
      cases heard
      rfl
    | error reason =>
      simp only [taken] at heard
      cases heard
  | save slot => cases shown
  | load slot =>
    simp only [act] at shown ⊢
    cases looked : it.loadFrom slot with
    | mk directives it' =>
      rw [looked] at shown
      cases directives <;> cases shown
      rfl
  | _ =>
    cases shown
    rfl

/-- In every run over any store, what is pending at a node is what the node of the state asks for.
Every output names what is then waited for; no error ever says that an option is missing; and where
an option is picked and taken, it is there under its number. -/
theorem node_asks_for_pending (content : Content) (config : Config) (store : σ) (start : UInt64)
    (turns : List Turn) :
    let it := (Interpreter.new content config store start).run turns
    (match it.pending with
      | .advance next => ∃ node, content.node? it.state.currentNode = some node ∧
          node.kind = .narrative next
      | .choice id count => id = it.state.currentNode ∧ ∃ node choices,
          content.node? id = some node ∧ node.kind = .choice choices ∧ choices.length = count
      | .restart => ∃ node, content.node? it.state.currentNode = some node ∧ node.kind = .ending
      | .playerName | .savedGame | .halted => True) ∧
    ∀ turn : Turn,
      (∀ out, (it.take turn).1.output? = some out → out.wait = (it.take turn).2.wait) ∧
      (∀ index id, (ContentFault.missingChoice index id).message ∉ (it.take turn).1.errors) ∧
      ∀ id count index out, it.pending = .choice id count →
        ((it.atTime turn.now).respond (.choose index)).1 = .ok out →
          1 ≤ index ∧ ∃ choice, option? content id index = some choice := by
  intro it
  have suspended : it.Suspended := suspended_run content config store start turns
  have story : it.content = content := content_run _ turns
  refine ⟨?_, ?_⟩
  · rw [← story]
    cases waits : it.pending with
    | advance next => exact suspended.asked (c := .narrative next) waits
    | choice id count =>
      obtain ⟨node, found, rfl, choices, asks⟩ := suspended.asked (c := .choice id count) waits
      exact ⟨rfl, node, choices, found, asks⟩
    | restart => exact suspended.ended waits
    | _ => trivial
  · intro turn
    refine ⟨fun out shown => act_output (it.atTime turn.now) turn.action shown, ?_, ?_⟩
    · intro index id told
      have errors := ((it.atTime turn.now).act_comes turn.action).errors
      rw [take, errors] at told
      obtain ⟨index', id', missing⟩ := ContentFault.missingChoice_of_messages told
      have timed : (it.atTime turn.now).Suspended := suspended
      exact timed.fault _ turn.action index' id' missing
    · intro id count index out waits accepted
      have takes := respond_ok_iff.mp ⟨out, accepted⟩
      have range : 1 ≤ index ∧ index ≤ count := by
        rw [atTime_wait, wait, waits] at takes
        exact takes
      rw [← story]
      exact suspended.option waits ((inRange_iff index count).mpr range)

theorem node_asks_for_pending_fork :
    let it := (Interpreter.new .fork .standard (MemoryStore.mk .empty) 0).run
      [⟨1, .newGame⟩, ⟨2, .resume (.playerName "A")⟩, ⟨3, .resume (.choose 1)⟩]
    it.pending = .choice "fork" 2 ∧ it.state.currentNode = "fork" ∧
      (∃ out, ((it.atTime 4).respond (.choose 2)).1 = .ok out ∧
        out.wait = ((it.atTime 4).respond (.choose 2)).2.wait) ∧
      ∃ choice, option? .fork "fork" 2 = some choice := by
  intro it
  have waits : it.pending = .choice "fork" 2 := by decide +kernel
  have wait : (it.atTime 4).wait = .choice 2 := by
    rw [atTime_wait, wait, waits]
    rfl
  have takes : (it.atTime 4).wait.Takes (.choose 2) := by
    rw [wait]
    exact ⟨by decide, by decide⟩
  obtain ⟨out, accepted⟩ := respond_ok_iff.mpr takes
  obtain ⟨asked, answers⟩ := node_asks_for_pending .fork .standard (MemoryStore.mk .empty) 0
    [⟨1, .newGame⟩, ⟨2, .resume (.playerName "A")⟩, ⟨3, .resume (.choose 1)⟩]
  obtain ⟨outputs, _, options⟩ := answers ⟨4, .resume (.choose 2)⟩
  obtain ⟨_, there⟩ := options "fork" 2 2 out waits accepted
  have shown : (it.take ⟨4, .resume (.choose 2)⟩).1.output? = some out := by
    have reply : (it.take ⟨4, .resume (.choose 2)⟩).1 =
        Reply.ofResponse ((it.atTime 4).respond (.choose 2)).1 := rfl
    rw [reply, accepted]
    rfl
  have here : "fork" = it.state.currentNode := by
    rw [waits] at asked
    exact asked.1
  exact ⟨waits, here.symm, ⟨out, accepted, outputs out shown⟩, there⟩

end Interpreter
end Storyline
