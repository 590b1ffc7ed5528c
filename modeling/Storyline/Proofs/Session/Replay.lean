import Storyline.Proofs.Play.Agreement
import Storyline.Proofs.Session.Calls
import Storyline.Session

/-!
A session does no more than its interpreter would do by itself. For each input it makes one call to
the interpreter, or none, and shows what that answers or a single remark about it. The notes that it
takes for itself are not seen.
-/

namespace Storyline

def Shown.Aside : Shown → Prop
  | directive _ => False
  | notice _ | status _ => True

def PlayerInput.action? : PlayerInput → Option Action
  | event e => some (.resume e)
  | save slot => some (.save slot)
  | load slot => some (.load slot)
  | restart => some .restart
  | status | quit => none

def PlayerInput.remark (wait : Wait) : PlayerInput → Reply → String
  | save slot, .saved true => s!"Saved to slot {slot.toNat}."
  | save slot, _ => s!"Could not save to slot {slot.toNat}."
  | load slot, _ => s!"Slot {slot.toNat} is empty."
  | _, .rejected reason => if wait = .halted then stoppedNotice else reason.message
  | _, _ => stoppedNotice

/-- What is shown of an input to which this is the reply: the directives of the answer if there is
one, and a remark if not. -/
def PlayerInput.shown (input : PlayerInput) (wait : Wait) (reply : Reply) : List Shown :=
  match reply.output? with
  | some out => out.directives.map .directive
  | none => [.notice (input.remark wait reply)]

def Reaction.shown : Reaction → List Shown
  | play directives => directives.map .directive
  | notice text => [.notice text]
  | status report => [.status report]
  | quit => []

namespace Interpreter

variable {σ : Type} {a b it : Interpreter σ} {input : PlayerInput}

/-- Two games that differ in their journals only. -/
structure Twin (a b : Interpreter σ) : Prop extends Agree a b where
  saves : a.saves = b.saves

namespace Twin

theorem refl (it : Interpreter σ) : Twin it it := ⟨⟨rfl, rfl, rfl, rfl⟩, rfl⟩

theorem note (it : Interpreter σ) (n : Note) : Twin (it.note n) it := ⟨⟨rfl, rfl, rfl, rfl⟩, rfl⟩

theorem trans {c : Interpreter σ} (first : Twin a b) (second : Twin b c) : Twin a c where
  content := first.content.trans second.content
  config := first.config.trans second.config
  state := first.state.trans second.state
  pending := first.pending.trans second.pending
  saves := first.saves.trans second.saves

end Twin

variable [Store σ]

def heed (it : Interpreter σ) (input : PlayerInput) : Interpreter σ :=
  (input.action?.map fun action => (it.act action).2).getD it

def showing (it : Interpreter σ) (input : PlayerInput) : List Shown :=
  match input.action? with
  | some action => input.shown it.wait (it.act action).1
  | none => if input = .status then [.status it.status] else []

theorem showing_called {action : Action} (called : input.action? = some action) :
    it.showing input = input.shown it.wait (it.act action).1 := by
  unfold showing
  rw [called]

theorem heed_called {action : Action} (called : input.action? = some action) :
    it.heed input = (it.act action).2 := by
  unfold heed
  rw [called]
  rfl

theorem content_heed (it : Interpreter σ) (input : PlayerInput) :
    (it.heed input).content = it.content := by
  unfold heed
  cases input.action? with
  | none => rfl
  | some action => exact (it.act_comes action).lands.content

/-- The calls to the renderer for some inputs, and the last one, to which there is none. -/
def performance (it : Interpreter σ) : List PlayerInput → List RendererCall
  | [] => [.asked it.wait.prompt]
  | input :: rest =>
    .asked it.wait.prompt :: (it.showing input).map .displayed ++ (it.heed input).performance rest

theorem act_stays {action : Action} (stays : it.course (it.consult action).1 action = .stays) :
    (it.act action).2.state = it.state ∧ (it.act action).2.wait = it.wait := by
  have lands := (it.act_comes action).lands
  unfold landing at lands
  rw [stays] at lands
  exact ⟨lands.state, congrArg Pending.wait lands.pending⟩

theorem act_taken {e : Event} {result : List Directive × Interpreter σ}
    (taken : it.resume e = .ok result) :
    it.act (.resume e) = (.shown ⟨result.1, result.2.wait⟩, result.2) := by
  simp only [act, respond, taken]
  rfl

theorem act_refused {e : Event} (unfit : ¬it.wait.Takes e) :
    it.act (.resume e) = (.rejected (it.wait.refusal e), it) :=
  congrArg (Prod.map Reply.ofResponse fun it => it) (respond_unfit_eq unfit)

theorem act_silent {action : Action} (silent : (it.act action).1.output? = none) :
    (it.act action).2.state = it.state ∧ (it.act action).2.wait = it.wait := by
  cases action with
  | boot | newGame | restart | process id => cases silent
  | save slot => exact act_stays rfl
  | load slot =>
    rw [it.load_replies] at silent
    have nothing : (it.consult (.load slot)).1 = none := Option.map_eq_none_iff.mp silent
    apply act_stays
    rw [nothing]
    rfl
  | resume event =>
    rcases it.resume_takes event with ⟨_, result, taken⟩ | ⟨unfit, _⟩
    · rw [act_taken taken] at silent
      cases silent
    · rw [act_refused unfit]
      exact ⟨rfl, rfl⟩

/-- An input is answered by the story, or the session remarks on it once; then the story has no answer
to it, and the game stays where it is. -/
theorem shows_or_remarks (it : Interpreter σ) (goes : input ≠ .quit) :
    (∃ action out, input.action? = some action ∧ (it.act action).1.output? = some out ∧
      it.showing input = out.directives.map .directive) ∨
    ∃ aside, it.showing input = [aside] ∧ aside.Aside ∧
      (∀ action, input.action? = some action → (it.act action).1.output? = none) ∧
      (it.heed input).state = it.state ∧ (it.heed input).wait = it.wait := by
  cases called : input.action? with
  | none =>
    have asks : input = .status := by
      cases input with
      | status => rfl
      | quit => exact absurd rfl goes
      | _ => cases called
    subst asks
    exact .inr ⟨.status it.status, rfl, trivial, nofun, rfl, rfl⟩
  | some action =>
    rw [showing_called called, heed_called called]
    unfold PlayerInput.shown
    cases answered : (it.act action).1.output? with
    | some out => exact .inl ⟨action, out, rfl, answered, rfl⟩
    | none =>
      refine .inr ⟨_, rfl, trivial, ?_, act_silent answered⟩
      rintro _ ⟨⟩
      exact answered

theorem Agree.showing (same : Agree a b) (replies : ∀ action, (a.act action).1 = (b.act action).1)
    (input : PlayerInput) : a.showing input = b.showing input := by
  unfold Interpreter.showing Interpreter.status
  simp only [replies, same.wait, same.state, same.content]

namespace Twin

theorem consult (same : Twin a b) (action : Action) : a.consult action = b.consult action := by
  unfold Interpreter.consult
  simp only [same.saves, same.pending, same.state]

theorem saved (same : Twin a b) (slot : UInt8) : (a.saveTo slot).1 = (b.saveTo slot).1 := by
  unfold Interpreter.saveTo
  rw [same.saves, same.state]
  rcases b.saves.saveTo slot b.state with ⟨_ | _ | _, saves⟩ <;> rfl

theorem act (same : Twin a b) (action : Action) :
    (a.act action).1 = (b.act action).1 ∧ Twin (a.act action).2 (b.act action).2 := by
  have consults := same.consult action
  have reads : (a.consult action).1.map SaveRecord.state = (b.consult action).1.map SaveRecord.state :=
    congrArg (fun consulted => consulted.1.map SaveRecord.state) consults
  have landing := same.landing reads
  obtain ⟨alike, agree⟩ := same.toAgree.act reads
  refine ⟨?_, agree, ?_⟩
  · cases action with
    | save slot => exact congrArg Reply.saved (same.saved slot)
    | load slot => rw [a.load_replies, b.load_replies, consults, same.content, same.config]
    | resume event => exact congrArg Reply.ofResponse (same.responds reads agree.wait)
    | _ => exact alike
  · rw [(a.act_comes action).lands.saves, (b.act_comes action).lands.saves, landing, consults]

theorem heed (same : Twin a b) (input : PlayerInput) : Twin (a.heed input) (b.heed input) := by
  unfold Interpreter.heed
  cases input.action? with
  | none => exact same
  | some action => exact (same.act action).2

theorem showing (same : Twin a b) (input : PlayerInput) : a.showing input = b.showing input :=
  same.toAgree.showing (fun action => (same.act action).1) input

end Twin

/-- What a session makes of an input, but for the notes that it takes, is what the call for the input
makes of it. -/
theorem react_heeds (it : Interpreter σ) (goes : input ≠ .quit) :
    (it.react input).1 ≠ .quit ∧ (it.react input).1.shown = it.showing input ∧
      Twin (it.react input).2 (it.heed input) := by
  cases input with
  | event e =>
    rw [showing_called rfl, heed_called rfl]
    -- a halted game is not even asked, but it would refuse, and the remark is the one on a refusal then
    by_cases halted : it.wait = .halted
    · have unfit : ¬it.wait.Takes e := by
        rw [halted]
        exact not_false
      have reacts : it.react (.event e) = (.notice stoppedNotice, it) := if_pos halted
      rw [reacts, act_refused unfit]
      exact ⟨fun quits => Reaction.noConfusion quits,
        congrArg (fun text => [Shown.notice text]) (if_pos halted).symm, .refl it⟩
    · rcases it.resume_takes e with ⟨_, ⟨shown, it'⟩, taken⟩ | ⟨unfit, refused⟩
      · have reacts : it.react (.event e) = (.play shown, it') := by
          simp only [react, if_neg halted, taken]
        rw [reacts, act_taken taken]
        exact ⟨fun quits => Reaction.noConfusion quits, rfl, .refl it'⟩
      · have reacts : it.react (.event e) = (.notice (it.wait.refusal e).message,
            it.note (.inputRejected (it.wait.refusal e).message)) := by
          simp only [react, if_neg halted, refused]
        rw [reacts, act_refused unfit]
        exact ⟨fun quits => Reaction.noConfusion quits,
          congrArg (fun text => [Shown.notice text]) (if_neg halted).symm, .note it _⟩
  | save slot =>
    rw [showing_called rfl, heed_called rfl]
    simp only [react, act]
    rcases it.saveTo slot with ⟨_ | _, it'⟩ <;>
      exact ⟨fun quits => Reaction.noConfusion quits, rfl, .refl it'⟩
  | load slot =>
    rw [showing_called rfl, heed_called rfl]
    simp only [react, act]
    rcases it.loadFrom slot with ⟨_ | shown, it'⟩ <;>
      exact ⟨fun quits => Reaction.noConfusion quits, rfl, .refl it'⟩
  | status => exact ⟨fun quits => Reaction.noConfusion quits, rfl, .refl it⟩
  | restart => exact ⟨fun quits => Reaction.noConfusion quits, rfl, .refl _⟩
  | quit => exact absurd rfl goes

end Interpreter

namespace Session

open Interpreter

variable {σ : Type} {it direct : Interpreter σ} {s : Script} {input : PlayerInput}
  {rest : List PlayerInput}

theorem showReaction_made (it : Interpreter σ) (sound : s.Sound) {reaction : Reaction}
    (goes : reaction ≠ .quit) : showReaction it s reaction =
      (.running, ⟨it, s.made (reaction.shown.map .displayed) s.inputs⟩) := by
  cases reaction with
  | play directives => exact congrArg (after it) (Script.play_made sound directives)
  | notice text => exact congrArg (after it) (Script.display_made sound rfl)
  | status report => exact congrArg (after it) (Script.display_made sound rfl)
  | quit => exact absurd rfl goes

variable [Store σ]

theorem turn_goes (same : Twin it direct) (sound : s.Sound) (given : s.inputs = input :: rest)
    (goes : input ≠ .quit) :
    ∃ it', Twin it' (direct.heed input) ∧ turn ⟨it, s⟩ = (.running, ⟨it',
      s.made (.asked direct.wait.prompt :: (direct.showing input).map .displayed) rest⟩) := by
  obtain ⟨runs, shows, reacted⟩ := it.react_heeds goes
  refine ⟨(it.react input).2, reacted.trans (same.heed input), ?_⟩
  have asked : Renderer.ask it.wait.prompt s = (.ok input, s.made [.asked direct.wait.prompt] rest) := by
    rw [Script.ask_made sound, given, same.wait]
    rfl
  have shown := showReaction_made (it.react input).2
    (sound.made [.asked direct.wait.prompt] rest) runs
  rw [shows, same.showing, Script.made_append] at shown
  unfold turn
  rw [asked]
  exact shown

theorem turn_ends (same : Twin it direct) (sound : s.Sound) (quits : s.inputs.headD .quit = .quit) :
    ∃ it', Twin it' direct ∧ turn ⟨it, s⟩ = (.ended (.ok ()), ⟨it',
      s.made [.asked direct.wait.prompt] s.inputs.tail⟩) := by
  refine ⟨(it.react .quit).2, (Twin.note it _).trans same, ?_⟩
  unfold turn
  rw [Script.ask_made sound, quits, same.wait]
  rfl

theorem turns_replay {inputs : List PlayerInput} (given : s.inputs = inputs)
    (same : Twin it direct) (sound : s.Sound) {n : Nat} (enough : inputs.length < n) :
    let heard := inputs.takeWhile (· ≠ .quit)
    ∃ last, Twin last (heard.foldl heed direct) ∧ turns n ⟨it, s⟩ = (.ended (.ok ()), ⟨last,
      s.made (direct.performance heard) (inputs.drop (heard.length + 1))⟩) := by
  obtain _ | n := n
  · exact absurd enough (Nat.not_lt_zero _)
  unfold turns
  -- by induction on the inputs that are left: after a turn the two games are twins again, and the
  -- script is again one that some calls have made
  induction inputs generalizing it direct s n with
  | nil =>
    obtain ⟨last, twin, ends⟩ := turn_ends same sound (congrArg (·.headD .quit) given)
    refine ⟨last, twin, ?_⟩
    rw [ends, given]
    rfl
  | cons input rest ih =>
    by_cases quits : input = .quit
    · subst quits
      obtain ⟨last, twin, ends⟩ := turn_ends same sound (congrArg (·.headD .quit) given)
      refine ⟨last, twin, ?_⟩
      rw [ends, given]
      rfl
    · obtain ⟨it', same', goes⟩ := turn_goes same sound given quits
      have more : (input :: rest).takeWhile (· ≠ .quit) = input :: rest.takeWhile (· ≠ .quit) :=
        List.takeWhile_cons_of_pos (decide_eq_true quits)
      obtain _ | n := n
      · exact absurd (Nat.lt_of_succ_lt_succ enough) (Nat.not_lt_zero _)
      obtain ⟨last, twin, ends⟩ := ih rfl same' (sound.made _ rest) n (Nat.lt_of_succ_lt_succ enough)
      rw [Script.made_append] at ends
      rw [goes, more]
      exact ⟨last, twin, ends⟩

theorem run_replays (it : Interpreter σ) (inputs : List PlayerInput) {n : Nat}
    (enough : inputs.length < n) :
    let heard := inputs.takeWhile (· ≠ .quit)
    let calls := ((it.act .boot).1.directives.map .directive).map .displayed ++
      (it.act .boot).2.performance heard
    ∃ last, Twin last (heard.foldl heed (it.act .boot).2) ∧ run n ⟨it, Script.fresh inputs⟩ =
      (.ended (.ok ()), ⟨last, (Script.fresh inputs).made calls (inputs.drop (heard.length + 1))⟩) := by
  intro heard calls
  have sound : (Script.fresh inputs).Sound := fun _ => rfl
  have begins : begin ⟨it, Script.fresh inputs⟩ = (.running, ⟨(it.act .boot).2,
      (Script.fresh inputs).made (((it.act .boot).1.directives.map .directive).map .displayed)
        inputs⟩) :=
    congrArg (after _) (Script.play_made sound _)
  obtain ⟨last, twin, ends⟩ := turns_replay rfl (Twin.refl (it.act .boot).2) (sound.made _ inputs) enough
  rw [Script.made_append] at ends
  refine ⟨last, twin, ?_⟩
  unfold run
  rw [begins]
  exact ends

/-- A session over a renderer that never fails is its interpreter and a replay. It makes the calls
for what the beginning answers, and then for each input the one that asks for it and those for what
is shown of it, until the player quits. All but the pauses are recorded, in their order, each at the
time to which the pauses before it add up; none of these is longer than the longest that there is.
Each input either shows the directives that the call for it answers, or a single remark; then there
is no answer and the game stays where it is. At the end the state, the wait and the store are those
of the calls to the interpreter alone. -/
theorem replays_its_interpreter (content : Content) (config : Config) (store : σ) (start : UInt64)
    (inputs : List PlayerInput) {n : Nat} (enough : inputs.length < n) :
    let it := Interpreter.new content config store start
    let booted := it.act .boot
    let heard := inputs.takeWhile (· ≠ .quit)
    let calls := (booted.1.directives.map .directive).map .displayed ++ booted.2.performance heard
    let last := heard.foldl heed booted.2
    let played := run n ⟨it, Script.fresh inputs⟩
    let record := played.2.renderer.log.reverse
    played.1 = .ended (.ok ()) ∧
    record.map Prod.snd = calls.filter RendererCall.recorded ∧
    (∀ before call rest, calls = before ++ call :: rest → call.pause? = none →
      record[(before.filter RendererCall.recorded).length]? = some (lasting before, call) ∧
      ((∀ ms ∈ pausesIn before, ms ≤ longestPause) → lasting before = (pausesIn before).sum)) ∧
    (∀ (it : Interpreter σ) (input : PlayerInput), input ≠ .quit →
      (∃ action out, input.action? = some action ∧ (it.act action).1.output? = some out ∧
        it.showing input = out.directives.map .directive) ∨
      ∃ aside, it.showing input = [aside] ∧ aside.Aside ∧
        (∀ action, input.action? = some action → (it.act action).1.output? = none) ∧
        (it.heed input).state = it.state ∧ (it.heed input).wait = it.wait) ∧
    played.2.interpreter.state = last.state ∧ played.2.interpreter.wait = last.wait ∧
    played.2.interpreter.saves.store = last.saves.store ∧
    played.2.renderer.inputs = inputs.drop (heard.length + 1) := by
  intro it booted heard calls last played record
  obtain ⟨final, twin, ends⟩ := run_replays it inputs enough
  have ends : played = (.ended (.ok ()), ⟨final, (Script.fresh inputs).made calls
    (inputs.drop (heard.length + 1))⟩) := ends
  have recorded : record = stamped 0 calls := by
    have log : played.2.renderer.log = (stamped 0 calls).reverse ++ [] := by rw [ends]; rfl
    unfold record
    rw [log, List.append_nil, List.reverse_reverse]
  rw [ends, recorded]
  refine ⟨rfl, stamped_calls 0 calls, ?_, fun it input => it.shows_or_remarks, twin.state, twin.wait,
    congrArg Saves.store twin.saves, rfl⟩
  intro before call rest split made
  refine ⟨?_, lasting_of_le⟩
  rw [split, stamped_at 0 before rest made, Nat.zero_add]

theorem replays_its_interpreter_tale :
    let inputs : List PlayerInput := [.event (.playerName "A"), .save 1, .event (.choose 3),
      .event (.choose 1), .load 2, .quit, .status]
    inputs.length < 8 ∧
      (run 8 ⟨Interpreter.new .tale .standard (MemoryStore.mk .empty) 0, Script.fresh inputs⟩).1 =
        .ended (.ok ()) ∧
      (run 8 ⟨Interpreter.new .tale .standard (MemoryStore.mk .empty) 0,
        Script.fresh inputs⟩).2.interpreter.wait = .advance ∧
      (run 8 ⟨Interpreter.new .tale .standard (MemoryStore.mk .empty) 0,
        Script.fresh inputs⟩).2.renderer.inputs = [.status] := by
  intro inputs
  have enough : inputs.length < 8 := by decide
  obtain ⟨ends, _, _, _, _, wait, _, left⟩ :=
    replays_its_interpreter .tale .standard (MemoryStore.mk .empty) 0 inputs enough
  exact ⟨enough, ends, wait.trans (by decide +kernel), left⟩

/-- Settings with a pause that is longer than the longest by a millisecond. -/
def lingering : Config :=
  { Config.standard with
    timing := { Config.standard.timing with introPause := longestPause + 1 } }

/-- Under them the first text comes a millisecond before the time to which the delays before it add
up. -/
theorem cut_short_lingering :
    let it := Interpreter.new .tale lingering (MemoryStore.mk .empty) 0
    let calls := ((it.act .boot).1.directives.map .directive).map .displayed ++
      (it.act .boot).2.performance []
    let record := (run 1 ⟨it, Script.fresh []⟩).2.renderer.log.reverse
    ∃ call, calls[3]? = some call ∧ (pausesIn (calls.take 3)).sum = 946080000001 ∧
      record[2]? = some (946080000000, call) := by
  intro it calls record
  refine ⟨.displayed (.directive (.displayText "\n\nWelcome to Challenge 2 Survive.\n" .body)), ?_⟩
  decide +kernel

end Session
end Storyline
