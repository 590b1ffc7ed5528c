import Storyline.Proofs.Play.Acceptance
import Storyline.Proofs.Terminal.Commands
import Storyline.Session
import Storyline.Terminal.Timed

/-!
What becomes of the lines that are typed at a terminal. A line is taken by a text that is being
revealed or by a prompt, and by one of them only; a prompt takes it for a command if it is one, and
for an answer, which then fits the prompt, only if it is none. Times decide who takes a line, and
nothing else.
-/

namespace Storyline

def Prompt.Fits : Prompt → Event → Prop
  | name, .playerName _ => True
  | advance, .advance => True
  | choice count, .choose index => 1 ≤ index ∧ index ≤ count
  | _, _ => False

/-- An answer is what is waited for, a name without letters apart. A game that has stopped waits for
nothing, though the player is asked. -/
theorem Wait.takes_of_fits {wait : Wait} {event : Event} (fits : wait.prompt.Fits event)
    (live : wait ≠ .halted) :
    wait.Takes event ∨ wait = .playerName ∧ wait.refusal event = .emptyPlayerName := by
  cases wait with
  | playerName =>
    cases event with
    | playerName name => exact .inr ⟨rfl, rfl⟩
    | _ => exact fits.elim
  | advance =>
    cases event with
    | advance => exact .inl trivial
    | _ => exact fits.elim
  | choice count =>
    cases event with
    | choose index => exact .inl fits
    | _ => exact fits.elim
  | savedGame =>
    cases event with
    | choose index =>
      obtain ⟨first, last⟩ := fits
      exact .inl (show index = 1 ∨ index = 2 by omega)
    | _ => exact fits.elim
  | restart =>
    cases event with
    | choose index => exact .inl (Nat.le_antisymm fits.2 fits.1)
    | _ => exact fits.elim
  | halted => exact absurd rfl live

namespace Terminal

inductive LineUse
  /-- It made a text come at once. -/
  | skip
  | refused
  | command (input : PlayerInput)
  | event (e : Event)

namespace LineUse

/-- Whether a line can be used so. Only a line that is a command is taken for one, and only one that
is none for anything else at a prompt. -/
def Suits (line : String) : LineUse → Prop
  | skip => True
  | refused | event _ => command? (Text.trim line) = none
  | command input => command? (Text.trim line) = some input

def input? : LineUse → Option PlayerInput
  | command input => some input
  | event e => some (.event e)
  | skip | refused => none

end LineUse

def Reply.use : Reply → LineUse
  | .input (.event e) => .event e
  | .input command => .command command
  | .again _ => .refused

section

variable {prompt : Prompt} {line : String} {input : PlayerInput}

theorem command?_empty : command? "" = none := rfl

theorem ne_event_of_command (command : command? line = some input) (e : Event) :
    input ≠ .event e :=
  (command?_eq_some_iff.mp command).ne_event e

theorem reply_command (command : command? line = some input) : reply prompt line = .input input := by
  cases prompt with
  | name => simp only [reply, command, Option.getD_some]
  | advance =>
    have typed : line.isEmpty = false := by
      by_contra empty
      have nothing : line = "" := String.isEmpty_iff.mp (Bool.of_not_eq_false empty)
      rw [nothing, command?_empty] at command
      cases command
    simp only [reply, typed, command, Bool.false_eq_true, if_false]
  | choice count => simp only [reply, command]

theorem reply_plain (prompt : Prompt) (plain : command? line = none) :
    (∃ e, reply prompt line = .input (.event e) ∧ prompt.Fits e) ∨
      ∃ help, reply prompt line = .again help := by
  cases prompt with
  | name => exact .inl ⟨.playerName line, by simp only [reply, plain, Option.getD_none], trivial⟩
  | advance =>
    by_cases empty : line.isEmpty = true
    · exact .inl ⟨.advance, by simp only [reply, empty, if_true], trivial⟩
    · exact .inr ⟨_, by simp only [reply, empty, plain]; rfl⟩
  | choice count =>
    cases picked : pick? count line with
    | some index =>
      have within := (Option.filter_eq_some_iff.mp picked).2
      rw [Bool.and_eq_true, decide_eq_true_eq, decide_eq_true_eq] at within
      exact .inl ⟨.choose index, by simp only [reply, plain, picked], within⟩
    | none => exact .inr ⟨_, by simp only [reply, plain, picked]; rfl⟩

theorem input?_use (input : PlayerInput) : (Reply.input input).use.input? = some input := by
  cases input <;> rfl

theorem suits_reply (prompt : Prompt) (line : String) :
    (reply prompt (Text.trim line)).use.Suits line := by
  cases command : command? (Text.trim line) with
  | some input =>
    rw [reply_command command]
    cases input with
    | event e => exact absurd rfl (ne_event_of_command command e)
    | _ => exact command
  | none =>
    rcases reply_plain prompt command with ⟨e, answers, _⟩ | ⟨help, again⟩
    · rw [answers]
      exact command
    · rw [again]
      exact command

theorem fits_reply {e : Event} (answers : reply prompt line = .input (.event e)) : prompt.Fits e := by
  cases command : command? line with
  | some input =>
    rw [reply_command command] at answers
    cases answers
    exact absurd rfl (ne_event_of_command command e)
  | none =>
    rcases reply_plain prompt command with ⟨e', answered, fits⟩ | ⟨help, again⟩
    · rw [answered] at answers
      cases answers
      exact fits
    · rw [again] at answers
      cases answers

end

/-- What is known of the lines that were taken between two points of time: each was used once, for
something that suits it, and those that are left are still there in their order. -/
structure Account (before after : List (Nat × String)) (uses : List ((Nat × String) × LineUse)) :
    Prop where
  lines : uses.map Prod.fst ++ after = before
  suits : ∀ u ∈ uses, u.2.Suits u.1.2

def inputsOf (uses : List ((Nat × String) × LineUse)) : List PlayerInput :=
  uses.filterMap (·.2.input?)

namespace Account

variable {a b c : List (Nat × String)} {uses more : List ((Nat × String) × LineUse)}

theorem refl (a : List (Nat × String)) : Account a a [] := ⟨rfl, nofun⟩

theorem append (first : Account a b uses) (second : Account b c more) :
    Account a c (uses ++ more) where
  lines := by rw [List.map_append, List.append_assoc, second.lines, first.lines]
  suits := List.forall_mem_append.mpr ⟨first.suits, second.suits⟩

theorem cons {time : Nat} {line : String} {use : LineUse} (suits : use.Suits line)
    (rest : Account a b uses) : Account ((time, line) :: a) b (((time, line), use) :: uses) where
  lines := congrArg ((time, line) :: ·) rest.lines
  suits := List.forall_mem_cons.mpr ⟨suits, rest.suits⟩

theorem of_suffix (left : b <:+ a) : ∃ uses, Account a b uses ∧ inputsOf uses = [] := by
  obtain ⟨gone, rfl⟩ := left
  refine ⟨gone.map (·, .skip), ⟨?_, List.forall_mem_map.mpr fun _ _ => trivial⟩, ?_⟩
  · rw [List.map_map]
    exact congrArg (· ++ b) (List.map_id gone)
  · exact List.filterMap_eq_nil_iff.mpr (List.forall_mem_map.mpr fun _ _ => rfl)

end Account

theorem inputsOf_append (uses more : List ((Nat × String) × LineUse)) :
    inputsOf (uses ++ more) = inputsOf uses ++ inputsOf more := List.filterMap_append

namespace Timed

def arrivals (t : Timed) : List (Nat × String) := t.keyboard.arrivals

theorem listen_suffix (k : Keyboard) (ms : Nat) : (k.listen ms).2.arrivals <:+ k.arrivals := by
  unfold Keyboard.listen
  simp only
  split
  · exact List.suffix_rfl
  · exact List.dropWhile_suffix _

theorem play_suffix (t : Timed) (beat : Beat) : (t.play beat).arrivals <:+ t.arrivals := by
  cases beat with
  | reveal s =>
    exact (typewriter t.timing).reveal_keeps watcher
      (P := fun _ (so : (Keyboard × List String) × Signal) => so.1.1.arrivals <:+ t.arrivals)
      (fun _ _ _ _ left => left) (fun _ so _ _ left => (listen_suffix so.1 _).trans left)
      (fun _ _ _ left => left) s.toList [] (t.keyboard, t.out) t.signal List.suffix_rfl
  | _ => exact List.suffix_rfl

theorem display_suffix (t : Timed) (shown : Shown) : (t.display shown).arrivals <:+ t.arrivals := by
  have each : ∀ (beats : List Beat) (t : Timed), (beats.foldl play t).arrivals <:+ t.arrivals := by
    intro beats
    induction beats with
    | nil => exact fun t => List.suffix_rfl
    | cons beat beats ih => exact fun t => (ih (t.play beat)).trans (t.play_suffix beat)
  exact each _ _

theorem displays_suffix (shown : List Shown) (t : Timed) :
    (shown.foldl display t).arrivals <:+ t.arrivals := by
  induction shown generalizing t with
  | nil => exact List.suffix_rfl
  | cons first rest ih => exact (ih _).trans (t.display_suffix first)

/-- A prompt uses each line that it takes, and the last of them gives the input; when there is none
the player quits. -/
theorem askOver_account (prompt : Prompt) (lines : List (Nat × String)) (t : Timed) :
    ∃ uses, Account lines (askOver prompt t lines).2.arrivals uses ∧
      (inputsOf uses = [(askOver prompt t lines).1] ∨
        inputsOf uses = [] ∧ (askOver prompt t lines).1 = .quit) ∧
      ∀ e, (askOver prompt t lines).1 = .event e → prompt.Fits e := by
  induction lines generalizing t with
  | nil => exact ⟨[], .refl [], .inr ⟨rfl, rfl⟩, nofun⟩
  | cons first rest ih =>
    obtain ⟨time, line⟩ := first
    have suits := suits_reply prompt line
    unfold askOver
    cases replied : reply prompt (Text.trim line) with
    | input input =>
      rw [replied] at suits
      refine ⟨[((time, line), (Reply.input input).use)], .cons suits (.refl rest), .inl ?_, ?_⟩
      · exact List.filterMap_cons_some (input?_use input)
      · rintro e rfl
        exact fits_reply replied
    | again help =>
      rw [replied] at suits
      obtain ⟨uses, account, inputs, fits⟩ := ih _
      exact ⟨_, .cons suits account, inputs, fits⟩

theorem ask_account (t : Timed) (prompt : Prompt) :
    ∃ uses, Account t.arrivals (t.ask prompt).2.arrivals uses ∧
      (inputsOf uses = [(t.ask prompt).1] ∨ inputsOf uses = [] ∧ (t.ask prompt).1 = .quit) ∧
      ∀ e, (t.ask prompt).1 = .event e → prompt.Fits e := by
  unfold ask
  split
  · exact ⟨[], .refl _, .inr ⟨rfl, rfl⟩, nofun⟩
  · exact askOver_account prompt t.arrivals t

end Timed
end Terminal
end Storyline
