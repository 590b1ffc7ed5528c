import Storyline.Proofs.Session.Exchanges

/-!
A session whose renderer may fail. It ends with the first call that fails, and its game is then where
the inputs that were taken have brought it: what an input does is done before any of it is shown.
-/

namespace Storyline.Session

open Interpreter Renderer

variable {σ ρ : Type} {it direct : Interpreter σ}

theorem after_error {result : Except RenderFault Unit × ρ} {fault : RenderFault}
    (failed : result.1 = .error fault) (it : Interpreter σ) :
    after it result = (.ended (.error fault), ⟨it, result.2⟩) := by
  obtain ⟨_, r⟩ := result
  cases failed
  rfl

theorem after_ok {result : Except RenderFault Unit × ρ} (done : result.1 = .ok ())
    (it : Interpreter σ) : after it result = (.running, ⟨it, result.2⟩) := by
  obtain ⟨_, r⟩ := result
  cases done
  rfl

theorem ended_of_fault {progress : Progress} {passed : List Exchange}
    (smooth : (∀ fault, progress ≠ .ended (.error fault)) → Exchange.Smooth passed)
    (broken : ∀ fault, progress = .ended (.error fault) → Exchange.BrokenBy fault passed)
    {x : Exchange} (member : x ∈ passed) {fault : RenderFault} (fails : x.fault? = some fault) :
    progress = .ended (.error fault) := by
  by_cases failed : ∃ other, progress = .ended (.error other)
  · obtain ⟨other, ended⟩ := failed
    rw [(broken other ended).only member fails]
    exact ended
  · have clean := smooth (fun other ended => failed ⟨other, ended⟩) x member
    rw [clean] at fails
    cases fails

variable [Renderer ρ]

theorem showReaction_shows (it : Interpreter σ) (r : ρ) {reaction : Reaction}
    (goes : reaction ≠ .quit) :
    ∃ passed result, Renderer.Shows (reaction.shown.map .displayed) r passed result ∧
      showReaction it r reaction = after it result := by
  cases reaction with
  | play directives =>
    obtain ⟨passed, shows⟩ := play_shows directives r
    exact ⟨passed, _, shows, rfl⟩
  | notice text =>
    obtain ⟨passed, shows⟩ := display_shows (.notice text) r
    exact ⟨passed, _, shows, rfl⟩
  | status report =>
    obtain ⟨passed, shows⟩ := display_shows (.status report) r
    exact ⟨passed, _, shows, rfl⟩
  | quit => exact absurd rfl goes

variable [Store σ]

/-- All that a turn can come to: there is no input, the player quits, or the input is heeded and then
shown as far as the renderer goes. -/
theorem turn_cases (same : Twin it direct) (r : ρ) :
    (∃ fault r', ask direct.wait.prompt r = (.error fault, r') ∧
      turn ⟨it, r⟩ = (.ended (.error fault), ⟨it, r'⟩)) ∨
    (∃ r' it', ask direct.wait.prompt r = (.ok .quit, r') ∧ Twin it' direct ∧
      turn ⟨it, r⟩ = (.ended (.ok ()), ⟨it', r'⟩)) ∨
    ∃ input r' it' passed result, input ≠ .quit ∧ ask direct.wait.prompt r = (.ok input, r') ∧
      Twin it' (direct.heed input) ∧
      Renderer.Shows ((direct.showing input).map .displayed) r' passed result ∧
      turn ⟨it, r⟩ = after it' result := by
  rcases answered : ask direct.wait.prompt r with ⟨fault | input, r'⟩
  · refine .inl ⟨fault, r', rfl, ?_⟩
    simp only [turn, same.wait, answered]
  · right
    have turns : turn ⟨it, r⟩ = showReaction (it.react input).2 r' (it.react input).1 := by
      simp only [turn, same.wait, answered]
    by_cases quits : input = .quit
    · subst quits
      exact .inl ⟨r', _, rfl, (Twin.note it _).trans same, turns⟩
    · obtain ⟨runs, shown, reacted⟩ := it.react_heeds quits
      obtain ⟨passed, result, shows, comes⟩ := showReaction_shows (it.react input).2 r' runs
      rw [shown, same.showing] at shows
      exact .inr ⟨input, r', _, passed, result, quits, rfl, reacted.trans (same.heed input), shows,
        turns.trans comes⟩

structure Passed (direct : Interpreter σ) (n : Nat) (s : Session σ ρ) (passed : List Exchange)
    (result : Progress × Session σ ρ) : Prop where
  passes : Passes s.renderer passed result.2.renderer
  hears : Exchange.taken passed = (s.hearings n).map Prod.snd
  begun : passed.map Exchange.call <+: direct.performance (Exchange.taken passed)
  twin : Twin result.2.interpreter ((Exchange.taken passed).foldl heed direct)
  smooth : (∀ fault, result.1 ≠ .ended (.error fault)) → Exchange.Smooth passed
  broken : ∀ fault, result.1 = .ended (.error fault) → Exchange.BrokenBy fault passed
  quits : result.1 = .ended (.ok ()) ↔ .quit ∈ Exchange.taken passed
  turns : result.1 = .running → (Exchange.taken passed).length = n

namespace Passed

variable {n : Nat} {r r' : ρ} {it' : Interpreter σ}

theorem none (same : Twin it direct) (r : ρ) :
    Passed direct 0 ⟨it, r⟩ [] (.running, ⟨it, r⟩) where
  passes := .nil r
  hears := rfl
  begun := List.nil_prefix
  twin := same
  smooth _ := Exchange.smooth_nil
  broken := by rintro _ ⟨⟩
  quits := by constructor <;> rintro ⟨⟩
  turns _ := rfl

theorem unheard {fault : RenderFault} (same : Twin it direct)
    (answered : ask direct.wait.prompt r = (.error fault, r')) :
    Passed direct (n + 1) ⟨it, r⟩ [.heard direct.wait.prompt (.error fault)]
      (.ended (.error fault), ⟨it, r'⟩) where
  passes := .heard answered (.nil r')
  hears := by
    simp only [hearings, same.wait, answered]
    rfl
  begun := List.cons_prefix_cons.mpr ⟨rfl, List.nil_prefix⟩
  twin := same
  smooth unbroken := absurd rfl (unbroken fault)
  broken := by
    rintro _ ⟨⟩
    exact Exchange.brokenBy_single rfl
  quits := by constructor <;> rintro ⟨⟩
  turns := by rintro ⟨⟩

theorem quit (same : Twin it direct) (twin : Twin it' direct)
    (answered : ask direct.wait.prompt r = (.ok .quit, r'))
    (ends : turn ⟨it, r⟩ = (.ended (.ok ()), ⟨it', r'⟩)) :
    Passed direct (n + 1) ⟨it, r⟩ [.heard direct.wait.prompt (.ok .quit)]
      (.ended (.ok ()), ⟨it', r'⟩) where
  passes := .heard answered (.nil r')
  hears := by
    simp only [hearings, same.wait, answered, ends]
    rfl
  begun := List.cons_prefix_cons.mpr ⟨rfl, List.nil_prefix⟩
  twin := twin
  smooth _ := Exchange.smooth_single rfl
  broken := by rintro _ ⟨⟩
  quits := ⟨fun _ => List.mem_singleton.mpr rfl, fun _ => rfl⟩
  turns := by rintro ⟨⟩

theorem cut {input : PlayerInput} {fault : RenderFault} {shown : List Exchange}
    {result : Except RenderFault Unit × ρ} (same : Twin it direct) (goes : input ≠ .quit)
    (answered : ask direct.wait.prompt r = (.ok input, r')) (twin : Twin it' (direct.heed input))
    (shows : Renderer.Shows ((direct.showing input).map .displayed) r' shown result)
    (failed : result.1 = .error fault)
    (ends : turn ⟨it, r⟩ = (.ended (.error fault), ⟨it', result.2⟩)) :
    Passed direct (n + 1) ⟨it, r⟩ (.heard direct.wait.prompt (.ok input) :: shown)
      (.ended (.error fault), ⟨it', result.2⟩) := by
  have taken : Exchange.taken (.heard direct.wait.prompt (.ok input) :: shown) = [input] :=
    congrArg (input :: ·) shows.deaf
  have first : Exchange.Smooth [.heard direct.wait.prompt (.ok input)] := Exchange.smooth_single rfl
  constructor
  · exact .heard answered shows.passes
  · rw [taken]
    simp only [hearings, same.wait, answered, ends, List.map_cons, List.map_nil]
  · rw [taken]
    exact List.cons_prefix_cons.mpr ⟨rfl, shows.begun.trans (List.prefix_append _ _)⟩
  · rw [taken]
    exact twin
  · exact fun unbroken => absurd rfl (unbroken fault)
  · rintro _ ⟨⟩
    exact first.brokenBy (shows.cut fault failed)
  · rw [taken]
    constructor
    · rintro ⟨⟩
    · exact fun member => absurd (List.mem_singleton.mp member).symm goes
  · rintro ⟨⟩

theorem cons {input : PlayerInput} {s : Session σ ρ} {shown more : List Exchange}
    {result : Progress × Session σ ρ} (same : Twin it direct) (goes : input ≠ .quit)
    (answered : ask direct.wait.prompt r = (.ok input, r'))
    (running : turn ⟨it, r⟩ = (.running, s)) (passes : Passes r' shown s.renderer)
    (deaf : Exchange.taken shown = []) (smooth : Exchange.Smooth shown)
    (whole : shown.map Exchange.call = (direct.showing input).map .displayed)
    (h : Passed (direct.heed input) n s more result) :
    Passed direct (n + 1) ⟨it, r⟩ (.heard direct.wait.prompt (.ok input) :: shown ++ more)
      result := by
  have taken : Exchange.taken (.heard direct.wait.prompt (.ok input) :: shown ++ more) =
      input :: Exchange.taken more := by
    rw [List.cons_append, Exchange.taken_heard, Exchange.taken_append, deaf, List.nil_append]
  have clean : Exchange.Smooth (.heard direct.wait.prompt (.ok input) :: shown) :=
    List.forall_mem_cons.mpr ⟨rfl, smooth⟩
  constructor
  · exact .heard answered (passes.append h.passes)
  · rw [taken, h.hears]
    simp only [hearings, same.wait, answered, running, List.map_cons]
  · rw [taken, List.map_append, List.map_cons, whole]
    exact (List.prefix_append_right_inj _).mpr h.begun
  · rw [taken]
    exact h.twin
  · exact fun unbroken => clean.append (h.smooth unbroken)
  · exact fun fault failed => clean.brokenBy (h.broken fault failed)
  · rw [taken, h.quits, List.mem_cons]
    exact ⟨.inr, fun member => member.resolve_left goes.symm⟩
  · rw [taken]
    exact fun running => congrArg Nat.succ (h.turns running)

end Passed

theorem turns_passed (same : Twin it direct) (n : Nat) (r : ρ) :
    ∃ passed, Passed direct n ⟨it, r⟩ passed (turns n ⟨it, r⟩) := by
  -- by induction on the turns; what a turn leaves behind is a twin of the game that heeds its input
  induction n generalizing it direct r with
  | zero => exact ⟨[], .none same r⟩
  | succ n ih =>
    unfold turns
    rcases turn_cases same r with ⟨fault, r', answered, ends⟩ | ⟨r', it', answered, twin, ends⟩ |
      ⟨input, r', it', shown, result, goes, answered, twin, shows, comes⟩
    · rw [ends]
      exact ⟨_, .unheard same answered⟩
    · rw [ends]
      exact ⟨_, .quit same twin answered ends⟩
    · cases done : result.1 with
      | error fault =>
        rw [after_error done] at comes
        rw [comes]
        exact ⟨_, .cut same goes answered twin shows done comes⟩
      | ok _ =>
        rw [after_ok done] at comes
        rw [comes]
        obtain ⟨smooth, whole⟩ := shows.whole done
        obtain ⟨more, passed⟩ := ih twin result.2
        exact ⟨_, passed.cons same goes answered comes shows.passes shows.deaf smooth whole⟩

/-- A session over a renderer that may fail at any call. It makes the calls that a session makes for
what the beginning answers and for the inputs that it hears, one after the other; with the first that
fails it ends at once, for that reason, and makes no other, so that it hears nothing more. Wherever it
ends, the state, the wait and the store are those of the beginning and of all inputs that were heard,
each of them heeded in full. It ends well just when the player quits, and goes on as long as there are
turns and inputs. -/
theorem breaks_between_inputs (content : Content) (config : Config) (store : σ) (start : UInt64)
    (renderer : ρ) (n : Nat) :
    let s : Session σ ρ := ⟨Interpreter.new content config store start, renderer⟩
    let booted := s.interpreter.act .boot
    let played := run n s
    let inputs := (heard n s).map Prod.snd
    let last := inputs.foldl heed booted.2
    ∃ passed : List Exchange,
      Passes renderer passed played.2.renderer ∧ Exchange.taken passed = inputs ∧
      passed.map Exchange.call <+:
        (booted.1.directives.map .directive).map .displayed ++ booted.2.performance inputs ∧
      (∀ x ∈ passed, ∀ fault, x.fault? = some fault → played.1 = .ended (.error fault)) ∧
      (∀ fault, played.1 = .ended (.error fault) → Exchange.BrokenBy fault passed) ∧
      played.2.interpreter.state = last.state ∧ played.2.interpreter.wait = last.wait ∧
      played.2.interpreter.saves.store = last.saves.store ∧
      (played.1 = .ended (.ok ()) ↔ .quit ∈ inputs) ∧
      (played.1 = .running → inputs.length = n) := by
  intro s booted played inputs last
  obtain ⟨shown, shows⟩ := play_shows booted.1.directives renderer
  have begins : begin s = after booted.2 (play booted.1.directives renderer) := rfl
  cases done : (play booted.1.directives renderer).1 with
  | error fault =>
    rw [after_error done] at begins
    have ends : played =
        (.ended (.error fault), ⟨booted.2, (play booted.1.directives renderer).2⟩) := by
      simp only [played, run, begins]
    have silent : inputs = [] := by
      simp only [inputs, heard, begins, List.map_nil]
    have broken := shows.cut fault done
    simp only [last, silent, ends]
    refine ⟨shown, shows.passes, shows.deaf, shows.begun.trans (List.prefix_append _ _), ?_, ?_,
      rfl, rfl, rfl, ?_, ?_⟩
    · intro x member other fails
      rw [broken.only member fails]
    · rintro _ ⟨⟩
      exact broken
    · constructor <;> rintro ⟨⟩
    · rintro ⟨⟩
  | ok _ =>
    rw [after_ok done] at begins
    have goes : played = turns n ⟨booted.2, (play booted.1.directives renderer).2⟩ := by
      simp only [played, run, begins]
    have heard : inputs =
        (hearings n ⟨booted.2, (play booted.1.directives renderer).2⟩).map Prod.snd := by
      simp only [inputs, heard, begins]
    obtain ⟨smooth, whole⟩ := shows.whole done
    obtain ⟨more, passed⟩ := turns_passed (Twin.refl booted.2) n (play booted.1.directives renderer).2
    have taken : Exchange.taken (shown ++ more) = inputs := by
      rw [Exchange.taken_append, shows.deaf, List.nil_append, passed.hears, heard]
    have later : Exchange.taken more = inputs := passed.hears.trans heard.symm
    rw [← goes] at passed
    have broken := fun fault failed => smooth.brokenBy (passed.broken fault failed)
    have clean := fun unbroken => smooth.append (passed.smooth unbroken)
    have twin := later ▸ passed.twin
    refine ⟨shown ++ more, shows.passes.append passed.passes, taken, ?_, ?_, broken, twin.state,
      twin.wait, congrArg Saves.store twin.saves, later ▸ passed.quits, later ▸ passed.turns⟩
    · rw [List.map_append, whole]
      exact (List.prefix_append_right_inj _).mpr (later ▸ passed.begun)
    · exact fun x member fault fails => ended_of_fault clean broken member fails

/-- A remark that cannot be shown ends the session after the save it tells of, with one input left. -/
example :
    let inputs : List PlayerInput := [.event (.playerName "A"), .save 1, .status]
    let fragile : Script := { Script.fresh inputs with
      breaks := fun call => call = .displayed (.notice "Saved to slot 1.") }
    let played := run 8 ⟨Interpreter.new .tale .standard (MemoryStore.mk .empty) 0, fragile⟩
    played.1 = .ended (.error ⟨"renderer gone"⟩) ∧ played.2.renderer.inputs = [.status] ∧
      played.2.interpreter.saves.store.entries.keys = ["c2s_autosave", "c2s_save_1"] :=
  ⟨rfl, rfl, by decide +kernel⟩

end Storyline.Session
