import Storyline.Proofs.Play.Runs
import Storyline.Proofs.Text.Words
import Storyline.Proofs.Validation.Playable

/-!
Which events are taken, and what becomes of the others. The wait alone decides, and a game that
refuses an event is not touched by it; so it goes on as if it had never heard of what it refused.
-/

namespace Storyline

namespace Wait

/-- Whether the event is what is waited for. A name must have something in it but blanks. -/
def Takes : Wait → Event → Prop
  | playerName, .playerName name => ∃ c ∈ name.toList, Text.isBlank c = false
  | advance, .advance => True
  | choice count, .choose index => 1 ≤ index ∧ index ≤ count
  | savedGame, .choose index => index = 1 ∨ index = 2
  | restart, .choose index => index = 1
  | _, _ => False

def refusal : Wait → Event → Rejection
  | playerName, .playerName _ => .emptyPlayerName
  | choice count, .choose index => .invalidChoice index count
  | savedGame, .choose index => .invalidChoice index 2
  | restart, .choose index => .invalidChoice index 1
  | wait, event => .unexpectedEvent event.name wait

theorem takes_playerName_iff (name : String) : playerName.Takes (.playerName name) ↔
    ¬(Text.uppercase (Text.trim name)).isEmpty = true := by
  rw [Text.capitals_isEmpty_iff]
  unfold Takes Text.Blank
  simp only [not_forall, Bool.not_eq_true, exists_prop]

end Wait

namespace Interpreter

variable {σ : Type} [Store σ] {it : Interpreter σ} {event : Event}

theorem resume_takes (it : Interpreter σ) (event : Event) :
    (it.wait.Takes event ∧ ∃ result, it.resume event = .ok result) ∨
      ¬it.wait.Takes event ∧ it.resume event = .error (it.wait.refusal event) := by
  unfold wait resume
  cases it.pending with
  | playerName =>
    cases event with
    | playerName name =>
      simp only [Pending.wait, Wait.takes_playerName_iff, takeName]
      -- The table of capitals is of no concern here.
      generalize Text.uppercase (Text.trim name) = capitals
      by_cases empty : capitals.isEmpty = true
      · rw [if_pos empty]
        exact .inr ⟨not_not_intro empty, rfl⟩
      · rw [if_neg empty]
        exact .inl ⟨empty, _, rfl⟩
    | _ => exact .inr ⟨not_false, rfl⟩
  | advance next =>
    cases event with
    | advance => exact .inl ⟨trivial, _, rfl⟩
    | _ => exact .inr ⟨not_false, rfl⟩
  | choice id count =>
    cases event with
    | choose index =>
      simp only
      by_cases fits : inRange index count = true
      · rw [if_pos fits]
        exact .inl ⟨(inRange_iff index count).mp fits, _, rfl⟩
      · rw [if_neg fits]
        exact .inr ⟨fun takes => fits ((inRange_iff index count).mpr takes), rfl⟩
    | _ => exact .inr ⟨not_false, rfl⟩
  | savedGame =>
    cases event with
    | choose index =>
      simp only
      by_cases first : index = 1
      · rw [if_pos first]
        exact .inl ⟨.inl first, _, rfl⟩
      · rw [if_neg first]
        by_cases second : index = 2
        · rw [if_pos second]
          exact .inl ⟨.inr second, _, rfl⟩
        · rw [if_neg second]
          exact .inr ⟨fun takes => takes.elim first second, rfl⟩
    | _ => exact .inr ⟨not_false, rfl⟩
  | restart =>
    cases event with
    | choose index =>
      simp only
      have only : inRange index 1 = true ↔ index = 1 := by
        rw [inRange_iff]
        omega
      by_cases fits : inRange index 1 = true
      · rw [if_pos fits]
        exact .inl ⟨only.mp fits, _, rfl⟩
      · rw [if_neg fits]
        exact .inr ⟨fun takes => fits (only.mpr takes), rfl⟩
    | _ => exact .inr ⟨not_false, rfl⟩
  | halted => cases event <;> exact .inr ⟨not_false, rfl⟩

theorem respond_ok_iff : (∃ out, (it.respond event).1 = .ok out) ↔ it.wait.Takes event := by
  unfold respond
  rcases it.resume_takes event with ⟨takes, result, taken⟩ | ⟨unfit, refused⟩
  · rw [taken]
    exact ⟨fun _ => takes, fun _ => ⟨_, rfl⟩⟩
  · rw [refused]
    refine ⟨?_, fun takes => absurd takes unfit⟩
    rintro ⟨out, accepted⟩
    cases accepted

theorem respond_unfit_eq (unfit : ¬it.wait.Takes event) :
    it.respond event = (.error (it.wait.refusal event), it) := by
  unfold respond
  rcases it.resume_takes event with ⟨takes, _⟩ | ⟨_, refused⟩
  · exact absurd takes unfit
  · rw [refused]

def turnsOf (events : List (UInt64 × Event)) : List Turn :=
  events.map fun e => ⟨e.1, .resume e.2⟩

/-- After any number of refused events, every turn is as if they had not come. -/
theorem take_after_refused {events : List (UInt64 × Event)}
    (unfit : ∀ e ∈ events, ¬it.wait.Takes e.2) (turn : Turn) :
    (it.run (turnsOf events)).take turn = it.take turn := by
  induction events generalizing it with
  | nil => rfl
  | cons first events ih =>
    have refused : (it.atTime first.1).respond first.2 =
        (.error (it.wait.refusal first.2), it.atTime first.1) :=
      respond_unfit_eq (unfit first List.mem_cons_self)
    have unmoved : (it.take ⟨first.1, .resume first.2⟩).2 = it.atTime first.1 :=
      congrArg Prod.snd refused
    have rest : ((it.atTime first.1).run (turnsOf events)).take turn =
        (it.atTime first.1).take turn :=
      ih fun e member => unfit e (List.mem_cons_of_mem first member)
    rw [← unmoved] at rest
    exact rest.trans (by rw [unmoved]; rfl)

/-- A game takes just the events that it waits for. Any other is refused for the reason that goes
with the wait and leaves all of the game as it was, the store included; so whatever is done after any
number of refused events comes out as if these had not come. -/
theorem takes_what_it_awaits (it : Interpreter σ) (event : Event) :
    ((∃ out, (it.respond event).1 = .ok out) ↔ it.wait.Takes event) ∧
    (¬it.wait.Takes event → it.respond event = (.error (it.wait.refusal event), it)) ∧
    ∀ events : List (UInt64 × Event), (∀ e ∈ events, ¬it.wait.Takes e.2) →
      ∀ turn : Turn, (it.run (turnsOf events)).take turn = it.take turn :=
  ⟨respond_ok_iff, respond_unfit_eq, fun _ unfit turn => take_after_refused unfit turn⟩

theorem takes_what_it_awaits_fork :
    let it := (Interpreter.new .fork .standard (MemoryStore.mk .empty) 0).run [⟨1, .newGame⟩]
    it.wait = .playerName ∧
      it.respond (.playerName " \n") = (.error .emptyPlayerName, it) ∧
      it.respond (.choose 1) = (.error (.unexpectedEvent "choose" .playerName), it) ∧
      (∃ out, (it.respond (.playerName " a")).1 = .ok out) ∧
      (it.run (turnsOf [(2, .playerName " \n"), (3, .choose 1)])).take ⟨4, .resume (.playerName " a")⟩
        = it.take ⟨4, .resume (.playerName " a")⟩ := by
  intro it
  have waits : it.wait = .playerName := rfl
  have blank : ¬it.wait.Takes (.playerName " \n") := by
    have blanks : " \n".toList.all Text.isBlank = true := by decide
    rw [waits]
    rintro ⟨c, member, solid⟩
    rw [List.all_eq_true.mp blanks c member] at solid
    cases solid
  have other : ¬it.wait.Takes (.choose 1) := by
    rw [waits]
    exact not_false
  have named : it.wait.Takes (.playerName " a") := by
    rw [waits]
    exact ⟨'a', by decide, by decide⟩
  refine ⟨waits, (takes_what_it_awaits it _).2.1 blank, (takes_what_it_awaits it _).2.1 other,
    (takes_what_it_awaits it _).1.mpr named, ?_⟩
  apply (takes_what_it_awaits it (.choose 1)).2.2
  exact List.forall_mem_cons.mpr ⟨blank, List.forall_mem_singleton.mpr other⟩

end Interpreter
end Storyline
