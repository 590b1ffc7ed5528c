import Storyline.Proofs.Play.Continuing
import Storyline.Proofs.Play.Naming

/-!
The options that are listed, and how an answer ends. An answer of a session first clears what was
listed before it, so after it there stand as many options as the game then waits for; and nothing
comes after a list of options or after an error.

A game that is sent to a node at once clears nothing if the node is missing, so this is not said of
it.
-/

namespace Storyline

def Directive.listing (n : Nat) : Directive → Nat
  | presentChoices choices => choices.length
  | clearChoices | clearOutput => 0
  | _ => n

def listing (n : Nat) (directives : List Directive) : Nat := directives.foldl Directive.listing n

theorem listing_append (n : Nat) (left right : List Directive) :
    listing n (left ++ right) = listing (listing n left) right := List.foldl_append

theorem listing_updates (n : Nat) (headers : List Header) :
    listing n (headers.map .updateHeader) = n := by
  induction headers with
  | nil => rfl
  | cons header headers ih => exact ih

theorem Terminal.View.choices_after (view : View) (timing : Timing) (directives : List Directive) :
    (view.after timing directives).choices = listing view.choices directives := by
  induction directives generalizing view with
  | nil => rfl
  | cons d directives ih =>
    have first : (directiveBeats timing view d).2.choices = d.listing view.choices := by
      cases d with
      | updateHeader header =>
        simp only [directiveBeats, takeHeader]
        split <;> rfl
      | _ => rfl
    unfold listing
    rw [List.foldl_cons, ← first]
    exact ih _

def Wait.options : Wait → Nat
  | choice count => count
  | savedGame => 2
  | restart => 1
  | playerName | advance | halted => 0

def Directive.Closes : Directive → Prop
  | presentChoices _ | error _ => True
  | _ => False

/-- Whether an answer after which the game waits for that may end with a directive. -/
def Directive.ClosesFor (wait : Wait) : Directive → Prop
  | presentChoices items => items.map ChoiceItem.index = List.range' 1 wait.options
  | error _ => wait = .halted
  | _ => False

def Leading (directives : List Directive) : Prop := ∀ d ∈ directives, ¬d.Closes

theorem Leading.append {left right : List Directive} (first : Leading left) (second : Leading right) :
    Leading (left ++ right) := List.forall_mem_append.mpr ⟨first, second⟩

theorem leading_updates (headers : List Header) : Leading (headers.map .updateHeader) :=
  List.forall_mem_map.mpr fun _ _ => not_false

/-- Directives of which only the last may close, and that as the wait asks. -/
def EndsFor (wait : Wait) (directives : List Directive) : Prop :=
  ∃ earlier, Leading earlier ∧
    (directives = earlier ∨ ∃ d, directives = earlier ++ [d] ∧ d.ClosesFor wait)

namespace EndsFor

variable {wait : Wait} {directives earlier : List Directive}

theorem of_leading (leading : Leading directives) : EndsFor wait directives :=
  ⟨directives, leading, .inl rfl⟩

theorem after (h : EndsFor wait directives) (leading : Leading earlier) :
    EndsFor wait (earlier ++ directives) := by
  obtain ⟨first, leads, rfl | ⟨d, rfl, closes⟩⟩ := h
  · exact of_leading (leading.append leads)
  · exact ⟨earlier ++ first, leading.append leads, .inr ⟨d, (List.append_assoc ..).symm, closes⟩⟩

theorem closing (h : EndsFor wait directives) {d : Directive} (member : d ∈ directives)
    (closes : d.Closes) :
    d.ClosesFor wait ∧ ∃ earlier, directives = earlier ++ [d] ∧ Leading earlier := by
  obtain ⟨earlier, leading, rfl | ⟨last, rfl, fits⟩⟩ := h
  · exact absurd closes (leading d member)
  · rcases List.mem_append.mp member with early | late
    · exact absurd closes (leading d early)
    · cases List.mem_singleton.mp late
      exact ⟨fits, earlier, rfl, leading⟩

end EndsFor

namespace Content

theorem display_ends (content : Content) (timing : Timing) (s : GameState) (id : String) :
    let wait := (content.stopAt id).pending.wait
    listing 0 (content.display timing s id) = wait.options ∧
      EndsFor wait (content.display timing s id) := by
  unfold display stopAt
  cases content.node? id with
  | none => exact ⟨rfl, [], nofun, .inr ⟨_, rfl, rfl⟩⟩
  | some node =>
    simp only
    cases node.kind with
    | narrative next =>
      exact ⟨rfl, .of_leading (by simp [Leading, Directive.Closes])⟩
    | choice choices =>
      have count : (choices.map (·.text)).length = choices.length := List.length_map _
      refine ⟨(ChoiceItem.length_numbered _).trans count,
        [.clearChoices, .displayText _ .body, .delay timing.choice],
        by simp [Leading, Directive.Closes], .inr ⟨_, rfl, ?_⟩⟩
      exact (ChoiceItem.index_numbered _).trans (congrArg (List.range' 1) count)
    | ending =>
      exact ⟨rfl, [.clearChoices, .endingCue, .delay timing.endingCue, .displayText _ .ending,
        .delay timing.ending], by simp [Leading, Directive.Closes], .inr ⟨_, rfl, rfl⟩⟩
    | branch condition => exact ⟨rfl, [], nofun, .inr ⟨_, rfl, rfl⟩⟩

end Content

/-- Directives that close nothing, and after which nothing is listed. -/
structure Clears (n : Nat) (directives : List Directive) : Prop where
  leading : Leading directives
  none : listing n directives = 0

namespace Interpreter

variable {σ : Type} {it : Interpreter σ}

theorem clears_intro (it : Interpreter σ) (n : Nat) : Clears n it.intro := by
  unfold intro
  cases logo : it.content.titles.logo <;> simp only [logo]
  · exact ⟨by simp [Leading, Directive.Closes], rfl⟩
  · exact ⟨by simp [Leading, Directive.Closes], rfl⟩

theorem clears_resumption (it : Interpreter σ) (game : SaveRecord) (n : Nat) :
    Clears n (it.resumption game) :=
  ⟨by simp [Leading, Directive.Closes, resumption], rfl⟩

theorem clears_reaction (c : Choice) (timing : Timing) (s : GameState) (n : Nat) :
    Clears n (c.reaction timing s) := by
  unfold Choice.reaction
  cases c.response <;> cases c.next
  all_goals exact ⟨by simp [Leading, Directive.Closes], rfl⟩

theorem clears_game (it : Interpreter σ) (game : Option SaveRecord) (n : Nat) :
    Clears n ((game.map it.resumption).getD it.intro) := by
  cases game with
  | none => exact it.clears_intro n
  | some game => exact it.clears_resumption game n

theorem clears_preambleOf {game : Option SaveRecord} {event : Event}
    (moves : it.courseOf game event ≠ .stays) :
    Clears it.wait.options (it.preambleOf game event) := by
  unfold courseOf at moves
  unfold preambleOf wait
  -- an event that is not waited for leads nowhere, so `moves` leaves only those that are taken
  cases waits : it.pending with
  | playerName =>
    rw [waits] at moves
    cases event with
    | playerName name =>
      simp only [named] at moves ⊢
      -- The table of capitals is of no concern here.
      generalize Text.uppercase (Text.trim name) = capitals at moves ⊢
      by_cases empty : capitals.isEmpty = true
      · exact absurd (if_pos empty) moves
      · rw [if_neg empty]
        exact ⟨by simp [Leading, Directive.Closes], rfl⟩
    | _ => exact absurd rfl moves
  | advance next =>
    rw [waits] at moves
    cases event with
    | advance => exact ⟨by simp [Leading, Directive.Closes], rfl⟩
    | _ => exact absurd rfl moves
  | choice id count =>
    rw [waits] at moves
    cases event with
    | choose index =>
      simp only at moves ⊢
      by_cases fits : inRange index count = true
      · rw [if_pos fits]
        cases option? it.content id index with
        | some c => exact clears_reaction c _ _ _
        | none => exact ⟨by simp [Leading, Directive.Closes], rfl⟩
      · exact absurd (if_neg fits) moves
    | _ => exact absurd rfl moves
  | savedGame =>
    rw [waits] at moves
    cases event with
    | choose index =>
      simp only at moves ⊢
      by_cases first : index = 1
      · rw [if_pos first]
        exact it.clears_game game _
      · rw [if_neg first] at moves ⊢
        by_cases second : index = 2
        · rw [if_pos second]
          exact it.clears_intro _
        · exact absurd (if_neg second) moves
    | _ => exact absurd rfl moves
  | restart =>
    rw [waits] at moves
    cases event with
    | choose index =>
      simp only at moves ⊢
      by_cases fits : inRange index 1 = true
      · rw [if_pos fits]
        exact it.clears_intro _
      · exact absurd (if_neg fits) moves
    | _ => exact absurd rfl moves
  | halted =>
    rw [waits] at moves
    exact absurd rfl moves

theorem clears_preamble {game : Option SaveRecord} {action : Action} (session : action.OfSession)
    (moves : it.course game action ≠ .stays) (other : it.course game action ≠ .offers) :
    Clears it.wait.options (it.preamble game action) := by
  cases action with
  | boot =>
    cases game with
    | none => exact it.clears_intro _
    | some game => exact absurd rfl other
  | newGame | restart => exact it.clears_intro _
  | resume event => exact clears_preambleOf moves
  | process id => exact session.elim
  | save slot => exact absurd rfl moves
  | load slot =>
    cases game with
    | none => exact absurd rfl moves
    | some game => exact it.clears_resumption game _

theorem sequel_ends (it : Interpreter σ) {course : Course} (moves : course ≠ .stays)
    (other : course ≠ .offers) :
    let wait := (it.land course).pending.wait
    listing 0 (it.sequel course) = wait.options ∧ EndsFor wait (it.sequel course) := by
  cases course with
  | stays => exact absurd rfl moves
  | begins => exact ⟨rfl, .of_leading nofun⟩
  | offers => exact absurd rfl other
  | halts s fault =>
    cases fault with
    | none => exact ⟨rfl, .of_leading nofun⟩
    | some fault => exact ⟨rfl, [], nofun, .inr ⟨_, rfl, rfl⟩⟩
  | goes s id =>
    simp only [sequel, land, Content.shown, Content.walk_eq_trail, listing_append, listing_updates]
    obtain ⟨lists, ends⟩ := it.content.display_ends it.config.timing s
      ((it.content.trail s id it.config.hopLimit).getLastD id)
    exact ⟨lists, ends.after (leading_updates _)⟩

/-- All that is shown of an action of a session lists what can be picked after it. -/
theorem telling_ends (it : Interpreter σ) (game : Option SaveRecord) {action : Action}
    (session : action.OfSession) :
    let wait := (it.land (it.course game action)).pending.wait
    listing it.wait.options (it.telling game action) = wait.options ∧
      EndsFor wait (it.telling game action) := by
  by_cases stays : it.course game action = .stays
  · rw [telling_stays stays, stays]
    exact ⟨rfl, .of_leading nofun⟩
  · by_cases offers : it.course game action = .offers
    · have leads := it.course_leads game action
      unfold telling
      rw [offers] at leads ⊢
      cases leads with
      | offers r found =>
        subst found
        exact ⟨rfl, [.clearOutput, .displayText _ .highlight, .displayText _ .body],
          by simp [Leading, Directive.Closes], .inr ⟨_, rfl, rfl⟩⟩
    · obtain ⟨leading, nothing⟩ := clears_preamble session stays offers
      obtain ⟨lists, ends⟩ := it.sequel_ends stays offers
      unfold telling
      rw [listing_append, nothing]
      exact ⟨lists, ends.after leading⟩

variable [Store σ]

theorem act_ends (it : Interpreter σ) {action : Action} (session : action.OfSession) :
    listing it.wait.options (it.act action).1.directives = (it.act action).2.wait.options ∧
      EndsFor (it.act action).2.wait (it.act action).1.directives := by
  have waits : (it.act action).2.wait = (it.landing action).pending.wait :=
    congrArg Pending.wait (it.act_comes action).lands.pending
  rw [it.act_shows action, waits]
  exact it.telling_ends _ session

theorem listing_run {turns : List Turn} (session : ∀ turn ∈ turns, turn.action.OfSession) :
    listing it.wait.options (it.emitted turns) = (it.run turns).wait.options := by
  induction turns generalizing it with
  | nil => rfl
  | cons turn turns ih =>
    obtain ⟨now, rest⟩ := List.forall_mem_cons.mp session
    have first := ((it.atTime turn.now).act_ends now).1
    rw [atTime_wait] at first
    unfold emitted
    rw [listing_append]
    exact (congrArg (listing · _) first).trans (ih rest)

/-- What is listed in a session, over any store. After every answer there stand as many options as
there are to pick from, on a terminal too, and a list is always numbered from 1. An answer has at
most one list or error; either is its last directive, and with an error the game has halted. -/
theorem lists_what_it_awaits (content : Content) (config : Config) (store : σ) (start : UInt64)
    {turns : List Turn} (session : ∀ turn ∈ turns, turn.action.OfSession) :
    let first := Interpreter.new content config store start
    let it := first.run turns
    listing 0 (first.emitted turns) = it.wait.options ∧
    (∀ timing : Timing, (Terminal.View.blank.after timing (first.emitted turns)).choices =
      it.wait.options) ∧
    ∀ turn : Turn, turn.action.OfSession → ∀ out, (it.take turn).1.output? = some out →
      listing (listing 0 (first.emitted turns)) out.directives = out.wait.options ∧
      (∀ items, .presentChoices items ∈ out.directives →
        items.map ChoiceItem.index = List.range' 1 items.length) ∧
      (∀ message, .error message ∈ out.directives → out.wait = .halted) ∧
      ∀ d ∈ out.directives, d.Closes →
        ∃ earlier, out.directives = earlier ++ [d] ∧ ∀ d' ∈ earlier, ¬d'.Closes := by
  intro first it
  have listed : listing 0 (first.emitted turns) = it.wait.options :=
    (listing_run session : listing first.wait.options (first.emitted turns) = it.wait.options)
  refine ⟨listed, fun timing => (Terminal.View.choices_after .blank timing _).trans listed, ?_⟩
  intro turn next out shown
  have wait : out.wait = (it.take turn).2.wait := act_output (it.atTime turn.now) turn.action shown
  have directives : (it.take turn).1.directives = out.directives := by
    unfold Reply.directives
    rw [shown]
    rfl
  obtain ⟨lists, ends⟩ := (it.atTime turn.now).act_ends next
  have lists : listing it.wait.options (it.take turn).1.directives = (it.take turn).2.wait.options :=
    lists
  have ends : EndsFor (it.take turn).2.wait (it.take turn).1.directives := ends
  rw [directives, ← wait] at lists ends
  rw [listed]
  refine ⟨lists, ?_, ?_, ?_⟩
  · intro items member
    have numbered : items.map ChoiceItem.index = List.range' 1 out.wait.options :=
      (ends.closing member trivial).1
    have length := congrArg List.length numbered
    rw [List.length_map, List.length_range'] at length
    rw [length]
    exact numbered
  · intro message member
    exact (ends.closing member trivial).1
  · intro d member closes
    exact (ends.closing member closes).2

theorem lists_what_it_awaits_tale :
    let first := Interpreter.new .tale .standard (MemoryStore.mk .empty) 0
    let turns : List Turn := [⟨1, .boot⟩, ⟨2, .resume (.playerName "A")⟩]
    let it := first.run turns
    it.wait = .choice 2 ∧ listing 0 (first.emitted turns) = 2 ∧
      ∀ out, (it.take ⟨3, .resume (.choose 1)⟩).1.output? = some out →
        listing 2 out.directives = out.wait.options ∧
        ∀ message, .error message ∈ out.directives → out.wait = .halted := by
  intro first turns it
  have session : ∀ turn ∈ turns, turn.action.OfSession :=
    List.forall_mem_cons.mpr ⟨trivial, List.forall_mem_singleton.mpr trivial⟩
  have waits : it.wait = .choice 2 := by decide +kernel
  obtain ⟨listed, _, answers⟩ :=
    lists_what_it_awaits .tale .standard (MemoryStore.mk .empty) 0 session
  have two : listing 0 (first.emitted turns) = 2 := listed.trans (congrArg Wait.options waits)
  refine ⟨waits, two, ?_⟩
  intro out shown
  obtain ⟨lists, _, errors, _⟩ := answers ⟨3, .resume (.choose 1)⟩ trivial out shown
  exact ⟨(congrArg (listing · out.directives) two.symm).trans lists, errors⟩

end Interpreter
end Storyline
