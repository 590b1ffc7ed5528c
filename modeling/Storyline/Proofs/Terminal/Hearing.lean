import Storyline.Proofs.Session.Exchanges
import Storyline.Proofs.Terminal.Lines
import Storyline.Proofs.Terminal.Turns

/-!
A session at a terminal. Whatever lines come and whenever they come, the game is only told what it
waits for, and each line is for one thing only.
-/

namespace Storyline.Terminal

open Session

variable {σ : Type}

/-- What is heard in some turns: events fit what was asked for, and the inputs are those that lines
were taken for, and the wish to quit if the lines ran out. -/
structure Heard (heard : List (Interpreter σ × PlayerInput)) (before after : List (Nat × String)) :
    Prop where
  fits : ∀ h ∈ heard, ∀ e, h.2 = .event e → h.1.wait.prompt.Fits e
  account : ∃ uses, Account before after uses ∧
    (heard.map Prod.snd = inputsOf uses ∨ heard.map Prod.snd = inputsOf uses ++ [.quit])

namespace Heard

variable {heard : List (Interpreter σ × PlayerInput)} {a b c : List (Nat × String)}
  {it : Interpreter σ} {input : PlayerInput} {uses : List ((Nat × String) × LineUse)}

theorem nil (a : List (Nat × String)) : Heard (σ := σ) [] a a :=
  ⟨nofun, [], .refl a, .inl rfl⟩

theorem quit (first : Account a b uses) (inputs : inputsOf uses = [.quit] ∨ inputsOf uses = []) :
    Heard [(it, .quit)] a b where
  fits := by
    rintro h member e event
    rw [List.mem_singleton.mp member] at event
    cases event
  account := by
    refine ⟨uses, first, ?_⟩
    rcases inputs with typed | none
    · exact .inl typed.symm
    · rw [none]
      exact .inr rfl

theorem cons (first : Account a b uses) (inputs : inputsOf uses = [input])
    (fits : ∀ e, input = .event e → it.wait.prompt.Fits e) (rest : Heard heard b c) :
    Heard ((it, input) :: heard) a c where
  fits := List.forall_mem_cons.mpr ⟨fits, rest.fits⟩
  account := by
    obtain ⟨more, second, same⟩ := rest.account
    refine ⟨uses ++ more, first.append second, ?_⟩
    rw [inputsOf_append, inputs, List.map_cons]
    exact same.imp (congrArg (input :: ·)) (congrArg (input :: ·))

theorem of_suffix (left : b <:+ a) (rest : Heard heard b c) : Heard heard a c where
  fits := rest.fits
  account := by
    obtain ⟨skipped, first, none⟩ := Account.of_suffix left
    obtain ⟨uses, second, same⟩ := rest.account
    refine ⟨skipped ++ uses, first.append second, ?_⟩
    rw [inputsOf_append, none, List.nil_append]
    exact same

end Heard

theorem Timed.play_directives (directives : List Directive) (t : Timed) :
    ∃ t', Renderer.play directives t = (.ok (), t') ∧ t'.arrivals <:+ t.arrivals :=
  ⟨_, Timed.play_displays directives t, Timed.displays_suffix _ t⟩

variable [Store σ]

theorem turn_asks (s : Session σ Timed) {input : PlayerInput} {t : Timed}
    (asked : s.renderer.ask s.interpreter.wait.prompt = (input, t)) :
    input = .quit ∧ s.turn = (.ended (.ok ()), ⟨(s.interpreter.react .quit).2, t⟩) ∨
    input ≠ .quit ∧ ∃ t', s.turn = (.running, ⟨(s.interpreter.react input).2, t'⟩) ∧
      t'.arrivals <:+ t.arrivals := by
  by_cases quits : input = .quit
  · subst quits
    exact .inl ⟨rfl, turn_quits asked⟩
  · exact .inr ⟨quits, _, turn_displays asked quits, Timed.displays_suffix _ t⟩

theorem hearings_heard (n : Nat) (s : Session σ Timed) :
    Heard (s.hearings n) s.renderer.arrivals (s.turns n).2.renderer.arrivals := by
  -- by induction on the turns; lines go to the prompt first, and then to what is revealed
  induction n generalizing s with
  | zero => exact .nil _
  | succ n ih =>
    obtain ⟨uses, account, inputs, fits⟩ := s.renderer.ask_account s.interpreter.wait.prompt
    rcases asked : s.renderer.ask s.interpreter.wait.prompt with ⟨input, t⟩
    rw [asked] at account inputs fits
    unfold turns hearings
    simp only [Renderer.ask, asked]
    rcases turn_asks s asked with ⟨rfl, ends⟩ | ⟨goes, t', runs, left⟩
    · simp only [ends]
      exact .quit account (inputs.imp_right And.left)
    · simp only [runs]
      have typed := inputs.resolve_right fun none => goes none.2
      exact .cons account typed fits (.of_suffix left (ih _))

/-- A session at a terminal, for any lines and any times at which they come. An event that the game is
told of is an answer to what it waits for: it is never unexpected, and a number is one of those that
were offered; the game takes it, or it is a name without a letter. Each line is used once, to make a
text come at once, to be refused, as a command or as an event; as a command it is used just if it is
one, and so never as an event too. What the game hears is what lines were used for, and the wish to
quit where there are no more lines. -/
theorem hears_what_fits (content : Content) (config : Config) (store : σ) (start : UInt64)
    (timing : Timing) (keyboard : Keyboard) (n : Nat) :
    let s : Session σ Timed :=
      ⟨Interpreter.new content config store start, .new timing keyboard⟩
    let heard := s.heard n
    (∀ h ∈ heard, ∀ e, h.2 = .event e → h.1.wait.prompt.Fits e ∧
      (h.1.wait ≠ .halted → (∃ result, h.1.resume e = .ok result) ∨
        h.1.wait = .playerName ∧ h.1.resume e = .error .emptyPlayerName)) ∧
    ∃ uses : List ((Nat × String) × LineUse),
      uses.map Prod.fst ++ (s.run n).2.renderer.keyboard.arrivals = keyboard.arrivals ∧
      (∀ u ∈ uses, u.2.Suits u.1.2) ∧
      (heard.map Prod.snd = inputsOf uses ∨ heard.map Prod.snd = inputsOf uses ++ [.quit]) := by
  intro s heard
  obtain ⟨t, plays, left⟩ := Timed.play_directives s.interpreter.boot.1 s.renderer
  have begins : s.begin = (.running, ⟨s.interpreter.boot.2, t⟩) :=
    congrArg (after s.interpreter.boot.2) plays
  have told : Heard heard keyboard.arrivals (s.run n).2.renderer.arrivals := by
    have hears : heard = hearings n ⟨s.interpreter.boot.2, t⟩ := by
      simp only [heard, Session.heard, begins]
    have runs : s.run n = turns n ⟨s.interpreter.boot.2, t⟩ := by
      simp only [run, begins]
    rw [hears, runs]
    exact .of_suffix left (hearings_heard n _)
  obtain ⟨uses, account, inputs⟩ := told.account
  refine ⟨?_, uses, account.lines, account.suits, inputs⟩
  intro h member e event
  have fits := told.fits h member e event
  refine ⟨fits, fun live => ?_⟩
  rcases Wait.takes_of_fits fits live with takes | ⟨named, why⟩
  · rcases h.1.resume_takes e with ⟨_, taken⟩ | ⟨unfit, _⟩
    · exact .inl taken
    · exact absurd takes unfit
  · rcases h.1.resume_takes e with ⟨_, taken⟩ | ⟨_, refused⟩
    · exact .inl taken
    · exact .inr ⟨named, refused.trans (congrArg Except.error why)⟩

end Storyline.Terminal
