import Storyline.Proofs.Play.Leads
import Storyline.Proofs.Rules.Effects
import Storyline.Proofs.Validation.Playable

/-!
What a game has behind it. Flags, alliances, votes and wins are added to and never taken back, as long
as no new game begins and no other is gone on with. Where the player is, how close anyone is and who
is still in the game may change in any way.
-/

namespace Storyline

namespace GameState

/-- All that has been done in a state has been done in a later one too, in the same order. -/
structure ExtendedBy (earlier later : GameState) : Prop where
  flags : ∀ name, earlier.flags.contains name = true → later.flags.contains name = true
  alliances : earlier.alliances <+: later.alliances
  votes : earlier.voteHistory <+: later.voteHistory
  challengeWins : earlier.challengeWins ≤ later.challengeWins
  eliminationWins : earlier.eliminationWins ≤ later.eliminationWins
  characters : later.relationships.keys = earlier.relationships.keys

variable {s s' s'' : GameState}

namespace ExtendedBy

theorem of_eq (flags : s'.flags = s.flags) (alliances : s'.alliances = s.alliances)
    (votes : s'.voteHistory = s.voteHistory) (challenges : s'.challengeWins = s.challengeWins)
    (eliminations : s'.eliminationWins = s.eliminationWins)
    (relationships : s'.relationships = s.relationships) : s.ExtendedBy s' where
  flags _ set := flags ▸ set
  alliances := alliances ▸ List.prefix_rfl
  votes := votes ▸ List.prefix_rfl
  challengeWins := challenges ▸ UInt32.le_refl _
  eliminationWins := eliminations ▸ UInt32.le_refl _
  characters := congrArg Dict.keys relationships

theorem refl (s : GameState) : s.ExtendedBy s := of_eq rfl rfl rfl rfl rfl rfl

theorem trans (first : s.ExtendedBy s') (second : s'.ExtendedBy s'') : s.ExtendedBy s'' where
  flags name set := second.flags name (first.flags name set)
  alliances := first.alliances.trans second.alliances
  votes := first.votes.trans second.votes
  challengeWins := UInt32.le_trans first.challengeWins second.challengeWins
  eliminationWins := UInt32.le_trans first.eliminationWins second.eliminationWins
  characters := second.characters.trans first.characters

end ExtendedBy

theorem le_getD_addCapped (wins : UInt32) (more : Option UInt32) :
    wins ≤ (more.map (addCapped wins)).getD wins := by
  cases more with
  | none => exact UInt32.le_refl wins
  | some more => exact le_addCapped wins more

theorem extendedBy_apply (s : GameState) (e : Effects) : s.ExtendedBy (e.apply s) := by
  rw [e.apply_eq]
  constructor
  · exact fun _ set => Dict.contains_override set e.flags
  · exact addNames_append s.alliances e.alliances
  · exact List.prefix_append s.voteHistory e.votes
  · exact le_getD_addCapped s.challengeWins e.challengeWins
  · exact le_getD_addCapped s.eliminationWins e.eliminationWins
  · exact Dict.keys_mapValues _ _

end GameState

theorem Content.retains_extended (content : Content) (s : GameState) : content.Retains s.ExtendedBy where
  named _ _ extended := extended.trans (.of_eq rfl rfl rfl rfl rfl rfl)
  entered _ _ _ _ extended := extended.trans (.of_eq rfl rfl rfl rfl rfl rfl)
  chosen s' _ _ _ _ extended :=
    Choice.outcome_keeps extended fun e _ => extended.trans (s'.extendedBy_apply e)

/-- What is asked of a game under way: to take an event, to go to a node, or to be saved. -/
def Action.OfGame (pending : Pending) : Action → Prop
  | resume _ => pending ≠ .savedGame ∧ pending ≠ .restart
  | process _ | save _ => True
  | _ => False

namespace Interpreter

variable {σ : Type} {it : Interpreter σ}

theorem extended_land (it : Interpreter σ) {game : Option SaveRecord} {action : Action}
    (stays : it.course game action ≠ .begins) (own : action.Recalls it.pending → game = none) :
    it.state.ExtendedBy (it.land (it.course game action)).state := by
  refine land_retains (it.content.retains_extended it.state) (.refl it.state)
    (fun begins => absurd begins stays) fun recalls r found => ?_
  cases (own recalls).symm.trans found

theorem courseOf_ne_begins (game : Option SaveRecord) (event : Event)
    (unsaved : it.pending ≠ .savedGame) (unfinished : it.pending ≠ .restart) :
    it.courseOf game event ≠ .begins := by
  unfold courseOf
  split
  · unfold named
    split <;> nofun
  · split <;> nofun
  · split
    · split
      · unfold Choice.course
        split <;> nofun
      · nofun
    · nofun
  · next waits => exact absurd waits unsaved
  · next waits => exact absurd waits unfinished
  · nofun

variable [Store σ]

/-- Whether a turn neither begins a new game nor goes on with a saved one. -/
def StaysInGame (it : Interpreter σ) (turn : Turn) : Prop :=
  let game := ((it.atTime turn.now).consult turn.action).1
  it.course game turn.action ≠ .begins ∧ (turn.action.Recalls it.pending → game = none)

theorem staysInGame_of_game {turn : Turn} (asked : turn.action.OfGame it.pending) :
    it.StaysInGame turn := by
  obtain ⟨now, action⟩ := turn
  cases action with
  | resume event =>
    exact ⟨it.courseOf_ne_begins _ event asked.1 asked.2, fun recalls => absurd recalls.1 asked.1⟩
  | process id => exact ⟨nofun, fun recalls => recalls.elim⟩
  | save slot => exact ⟨nofun, fun recalls => recalls.elim⟩
  | _ => exact asked.elim

/-- What has been done in a game is not undone in it. Of any two points of a run in which no new game
begins and no saved one is gone on with, the later has all flags of the earlier, begins with its
alliances and its votes, counts no fewer wins and keeps the same relationships. -/
theorem keeps_history (it : Interpreter σ) {earlier later : List Turn}
    (stays : it.Throughout StaysInGame (earlier ++ later)) :
    (it.run earlier).state.ExtendedBy (it.run (earlier ++ later)).state := by
  rw [run_append]
  have stays : (it.run earlier).Throughout StaysInGame later := (throughout_append.mp stays).2
  refine run_throughout (I := fun after => (it.run earlier).state.ExtendedBy after.state) ?_ stays
    (.refl _)
  intro after turn _ stays extended
  have lands := ((after.atTime turn.now).act_comes turn.action).lands
  have next : after.state.ExtendedBy (after.take turn).2.state := by
    rw [take, lands.state]
    exact (after.atTime turn.now).extended_land stays.1 stays.2
  exact extended.trans next

theorem keeps_history_fork :
    let it := (Interpreter.new .fork .standard (MemoryStore.mk .empty) 0).run [⟨1, .newGame⟩]
    let earlier : List Turn := [⟨2, .resume (.playerName "A")⟩, ⟨3, .resume (.choose 1)⟩]
    let later : List Turn := [⟨4, .save 1⟩, ⟨5, .process "end"⟩]
    it.Throughout StaysInGame (earlier ++ later) ∧
      (it.run earlier).state.flags.contains "mood" = true ∧
      (it.run (earlier ++ later)).wait = .restart ∧
      (it.run (earlier ++ later)).state.flags.contains "mood" = true := by
  intro it earlier later
  have asked : it.pending = .playerName := by decide +kernel
  have begun : (it.take ⟨2, .resume (.playerName "A")⟩).2.pending = .choice "fork" 2 := by
    decide +kernel
  have stays : it.Throughout StaysInGame (earlier ++ later) := by
    refine ⟨staysInGame_of_game ?_, staysInGame_of_game ?_, staysInGame_of_game trivial,
      staysInGame_of_game trivial, trivial⟩
    · rw [asked]
      exact ⟨nofun, nofun⟩
    · rw [begun]
      exact ⟨nofun, nofun⟩
  have set : (it.run earlier).state.flags.contains "mood" = true := by decide +kernel
  have ends : (it.run (earlier ++ later)).wait = .restart := by decide +kernel
  exact ⟨stays, set, ends, (it.keeps_history stays).flags "mood" set⟩

end Interpreter
end Storyline
