import Storyline.Proofs.Play.Course

/-!
All that an action can lead to, and when. Whatever is kept by each of these cases is kept by every
action; nothing else is said here of a case than what made it come about.
-/

namespace Storyline

/-- Whether an action goes on with a saved game, if it finds one: that of a slot, or the autosave
where it is offered. -/
def Action.Recalls (pending : Pending) : Action → Prop
  | load _ => True
  | resume event => pending = .savedGame ∧ event = .choose 1
  | _ => False

namespace Interpreter

variable {σ : Type}

/-- The courses of an action; `game` is the saved game that it found, if it looked for one. -/
inductive Leads (it : Interpreter σ) (game : Option SaveRecord) : Action → Course → Prop
  | stays (action : Action) : Leads it game action .stays
  | begins (action : Action) : Leads it game action .begins
  | offers (r : SaveRecord) : game = some r → Leads it game .boot .offers
  | loads (action : Action) (r : SaveRecord) : action.Recalls it.pending → game = some r →
      Leads it game action (.goes r.state r.state.currentNode)
  | names (event : Event) (name : String) : it.pending = .playerName → name ≠ "" →
      Leads it game (.resume event)
        (.goes { it.state with playerName := name } it.state.currentNode)
  | advances (next : String) : it.pending = .advance (some next) →
      Leads it game (.resume .advance) (.goes it.state next)
  | stops : it.pending = .advance none → Leads it game (.resume .advance) (.halts it.state none)
  | picks (id : String) (count index : Nat) (c : Choice) (next : String) :
      it.pending = .choice id count → inRange index count = true →
      option? it.content id index = some c → c.next = some next →
      Leads it game (.resume (.choose index)) (.goes (c.outcome it.state) next)
  | ends (id : String) (count index : Nat) (c : Choice) : it.pending = .choice id count →
      inRange index count = true → option? it.content id index = some c → c.next = none →
      Leads it game (.resume (.choose index)) (.halts (c.outcome it.state) none)
  | misses (id : String) (count index : Nat) : it.pending = .choice id count →
      inRange index count = true → option? it.content id index = none →
      Leads it game (.resume (.choose index)) (.halts it.state (some (.missingChoice index id)))
  | sends (id : String) : Leads it game (.process id) (.goes it.state id)

theorem courseOf_leads (it : Interpreter σ) (game : Option SaveRecord) (event : Event) :
    it.Leads game (.resume event) (it.courseOf game event) := by
  unfold courseOf
  split
  · next name waits =>
    unfold named
    generalize Text.uppercase (Text.trim name) = capitals
    by_cases empty : capitals.isEmpty = true
    · rw [if_pos empty]
      exact .stays _
    · rw [if_neg empty]
      exact .names _ _ waits fun same => empty (String.isEmpty_iff.mpr same)
  · next next waits =>
    cases next with
    | some next => exact .advances next waits
    | none => exact .stops waits
  · next id count index waits =>
    by_cases fits : inRange index count = true
    · rw [if_pos fits]
      cases there : option? it.content id index with
      | some c =>
        simp only [Choice.course]
        cases way : c.next with
        | some next => exact .picks id count index c next waits fits there way
        | none => exact .ends id count index c waits fits there way
      | none => exact .misses id count index waits fits there
    · rw [if_neg fits]
      exact .stays _
  · next index waits =>
    split
    · next first =>
      cases game with
      | some r => exact .loads _ r ⟨waits, congrArg Event.choose first⟩ rfl
      | none => exact .begins _
    · split
      · exact .begins _
      · exact .stays _
  · split
    · exact .begins _
    · exact .stays _
  · exact .stays _

theorem course_leads (it : Interpreter σ) (game : Option SaveRecord) (action : Action) :
    it.Leads game action (it.course game action) := by
  cases action with
  | boot =>
    cases game with
    | some r => exact .offers r rfl
    | none => exact .begins _
  | newGame => exact .begins _
  | restart => exact .begins _
  | resume event => exact it.courseOf_leads game event
  | process id => exact .sends id
  | save slot => exact .stays _
  | load slot =>
    cases game with
    | some r => exact .loads _ r trivial rfl
    | none => exact .stays _

theorem course_recalls {it : Interpreter σ} {action : Action} (recalls : action.Recalls it.pending)
    (r : SaveRecord) : it.course (some r) action = r.course := by
  cases action with
  | load slot => rfl
  | resume event =>
    obtain ⟨waits, rfl⟩ := recalls
    unfold course courseOf
    rw [waits]
    rfl
  | _ => exact recalls.elim

end Interpreter

/-- Whether nothing that is done in a story takes a property from a state: no name that is given, no
option that is picked and no node that is entered. -/
structure Content.Retains (content : Content) (P : GameState → Prop) : Prop where
  named : ∀ (s : GameState) (name : String), P s → P { s with playerName := name }
  chosen : ∀ s id index c, Interpreter.option? content id index = some c → P s → P (c.outcome s)
  entered : ∀ s id node, content.node? id = some node → P s → P (s.entering id node)

theorem Interpreter.land_retains {σ : Type} {it : Interpreter σ} {P : GameState → Prop}
    (retains : it.content.Retains P) (here : P it.state) {game : Option SaveRecord} {action : Action}
    (begins : it.course game action = .begins → P (freshState it.content))
    (recalls : action.Recalls it.pending → ∀ r, game = some r → P r.state) :
    P (it.land (it.course game action)).state := by
  have leads := it.course_leads game action
  generalize it.course game action = course at leads begins ⊢
  have walked {s : GameState} (h : P s) (id : String) : P (it.land (.goes s id)).state :=
    Content.walk_keeps retains.entered h id _
  cases leads with
  | stays | offers | stops | misses => exact here
  | begins => exact begins rfl
  | loads _ r recalled found => exact walked (recalls recalled r found) _
  | names _ name => exact walked (retains.named _ name here) _
  | advances | sends => exact walked here _
  | picks id _ index c _ _ _ chosen => exact walked (retains.chosen _ id index c chosen here) _
  | ends id _ index c _ _ chosen => exact retains.chosen _ id index c chosen here

end Storyline
