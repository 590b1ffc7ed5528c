import Mathlib.Data.List.Nodup
import Storyline.Rules

/-!
What the effects of a choice make of a state, part by part. The parts do not touch each other, and
within a part every change is looked at on its own: no character is named twice by one choice.
-/

namespace Storyline

/-- A relationship that is moved stays within its range, and within it nothing is lost. -/
theorem toInt_clampRelationship (value : Int) :
    (clampRelationship value).toInt = max (-100) (min 100 value) := by
  have exact : (clampRelationship value).toInt = max (-100) (min value 100) :=
    Int32.toInt_ofInt_of_le (by omega) (by omega)
  omega

theorem clampRelationship_bounds (value : Int) :
    -100 ≤ (clampRelationship value).toInt ∧ (clampRelationship value).toInt ≤ 100 := by
  have exact := toInt_clampRelationship value
  omega

theorem toNat_addCapped (a b : UInt32) :
    (addCapped a b).toNat = min (a.toNat + b.toNat) (2 ^ 32 - 1) := by
  have fits : min (a.toNat + b.toNat) (2 ^ 32 - 1) < 2 ^ 32 := by omega
  exact UInt32.toNat_ofNat_of_lt fits

theorem le_addCapped (a b : UInt32) : a ≤ addCapped a b := by
  have below : a.toNat < 2 ^ 32 := a.toNat_lt
  rw [UInt32.le_iff_toNat_le, toNat_addCapped]
  omega

theorem toNat_getD_addCapped (wins : UInt32) (more : Option UInt32) :
    ((more.map (addCapped wins)).getD wins).toNat =
      min (wins.toNat + (more.getD 0).toNat) (2 ^ 32 - 1) := by
  have below : wins.toNat < 2 ^ 32 := wins.toNat_lt
  cases more with
  | none =>
    simp only [Option.map_none, Option.getD_none, UInt32.toNat_zero]
    omega
  | some more => exact toNat_addCapped wins more

section Names

theorem nodup_addName {names : List String} (h : names.Nodup) (name : String) :
    (addName names name).Nodup := by
  unfold addName
  split
  · exact h
  · next fresh =>
    have fresh : name ∉ names := by simpa using fresh
    have apart : names.Disjoint [name] := List.disjoint_singleton.mpr fresh
    exact h.append (List.pairwise_singleton _ name) apart

theorem addName_append (names : List String) (name : String) : names <+: addName names name := by
  unfold addName
  split
  · exact List.prefix_rfl
  · exact List.prefix_append names [name]

theorem nodup_addNames {names : List String} (h : names.Nodup) (more : List String) :
    (more.foldl addName names).Nodup :=
  List.foldlRecOn more addName h fun _ once name _ => nodup_addName once name

theorem addNames_append (names more : List String) : names <+: more.foldl addName names :=
  List.foldlRecOn more addName List.prefix_rfl fun all starts name _ =>
    starts.trans (addName_append all name)

theorem addNames_eq (names more : List String) : more.foldl addName names =
    names ++ (more.filter fun name => !names.contains name).eraseDups := by
  induction more generalizing names with
  | nil => exact (List.append_nil names).symm
  | cons name more ih =>
    rw [List.foldl_cons, ih, addName]
    cases known : names.contains name with
    | true => simp only [known, if_true, List.filter_cons, Bool.not_true, Bool.false_eq_true, if_false]
    | false =>
      have apart : (more.filter fun other => !(names ++ [name]).contains other) =
          (more.filter fun other => !names.contains other).filter fun other => !other == name := by
        rw [List.filter_filter]
        refine List.filter_congr fun other _ => ?_
        rw [List.contains_append, List.contains_cons, List.contains_nil, Bool.or_false, Bool.not_or,
          Bool.and_comm]
      simp only [known, Bool.false_eq_true, if_false, List.filter_cons, Bool.not_false, if_true, apart,
        List.eraseDups_cons, List.append_assoc, List.singleton_append]

theorem addNames_again (names more : List String) :
    more.foldl addName (more.foldl addName names) = more.foldl addName names := by
  have none : (more.filter fun name => !(more.foldl addName names).contains name) = [] := by
    refine List.filter_eq_nil_iff.mpr fun name member => ?_
    rw [addNames_eq]
    by_cases known : name ∈ names
    · simp [known]
    · simp [known, member]
  rw [addNames_eq (more.foldl addName names), none]
  exact List.append_nil _

end Names

namespace GameState

theorem adjustRelationship_eq (s : GameState) (character : String) (delta : Int32) :
    s.adjustRelationship character delta =
      { s with relationships := s.relationships.mapValues fun c v =>
          if c = character then clampRelationship (v.toInt + delta.toInt) else v } := by
  unfold adjustRelationship
  cases found : s.relationships.find? character with
  | none => rw [Dict.mapValues_absent found fun v => clampRelationship (v.toInt + delta.toInt)]
  | some value =>
    simp only [Dict.insert_modify found fun v => clampRelationship (v.toInt + delta.toInt)]

/-- Adding to several relationships one after the other adds to each on its own. -/
theorem foldl_adjustRelationship {deltas : List (String × Int32)}
    (sorted : deltas.Pairwise fun a b => a.1 < b.1) (s : GameState) :
    deltas.foldl (fun s d => s.adjustRelationship d.1 d.2) s =
      { s with relationships := s.relationships.mapValues fun c v =>
          ((deltas.find? fun d => d.1 == c).map (·.2)).elim v fun delta =>
            clampRelationship (v.toInt + delta.toInt) } := by
  induction deltas generalizing s with
  | nil => simp [Dict.mapValues]
  | cons d deltas ih =>
    obtain ⟨first, others⟩ := List.pairwise_cons.mp sorted
    rw [List.foldl_cons, ih others, adjustRelationship_eq]
    simp only [Dict.mapValues_mapValues]
    congr 2
    funext c v
    by_cases same : c = d.1
    · subst same
      simp [Dict.find?_above first]
    · have other : (d.1 == c) = false := by simpa using Ne.symm same
      simp only [if_neg same, List.find?_cons, other]

theorem foldl_setFlag (flags : List (String × Value)) (s : GameState) :
    flags.foldl (fun s f => s.setFlag f.1 f.2) s =
      { s with flags := flags.foldl (fun d f => d.insert f.1 f.2) s.flags } := by
  induction flags generalizing s with
  | nil => rfl
  | cons f flags ih => exact ih (s.setFlag f.1 f.2)

theorem foldl_addAlliance (names : List String) (s : GameState) :
    names.foldl addAlliance s = { s with alliances := names.foldl addName s.alliances } := by
  induction names generalizing s with
  | nil => rfl
  | cons name names ih => exact ih (s.addAlliance name)

end GameState

theorem Effects.apply_eq (e : Effects) (s : GameState) : e.apply s = { s with
    relationships := s.relationships.mapValues fun c v =>
      (e.relationships.find? c).elim v fun delta => clampRelationship (v.toInt + delta.toInt)
    flags := s.flags.override e.flags
    alliances := e.alliances.foldl addName s.alliances
    challengeWins := (e.challengeWins.map (addCapped s.challengeWins)).getD s.challengeWins
    eliminationWins := (e.eliminationWins.map (addCapped s.eliminationWins)).getD s.eliminationWins
    voteHistory := s.voteHistory ++ e.votes
    eliminatedPlayers := e.eliminated.getD s.eliminatedPlayers
    activePlayers := e.activePlayers.getD s.activePlayers } := by
  simp only [apply, GameState.foldl_adjustRelationship e.relationships.sorted,
    GameState.foldl_setFlag, GameState.foldl_addAlliance]
  rfl

/-- Flags, alliances and rosters are as the effects want them after the first time. -/
theorem Effects.apply_again (e : Effects) (s : GameState) :
    let after := e.apply s
    let again := e.apply after
    again = { after with
      relationships := again.relationships
      challengeWins := again.challengeWins
      eliminationWins := again.eliminationWins
      voteHistory := again.voteHistory } := by
  have given {α : Type} (roster : Option α) (old : α) :
      roster.getD (roster.getD old) = roster.getD old := by cases roster <;> rfl
  simp only [apply_eq, Dict.override_override, addNames_again, given]

/-- What effects make of each part of a state. A relationship that is kept moves by what is named for
it, within its range; one that is not kept is not added. Flags are put over the old ones, new
alliances come after the old ones in the order in which they are named first, counters stop at their
largest value, votes are appended, and a roster that is given takes the place of the old one. All
else is left as it is. The same effects a second time change nothing but relationships, counters and
votes. -/
theorem Effects.changes_each_part (e : Effects) (s : GameState) :
    let after := e.apply s
    (∀ c, after.tracks c = s.tracks c) ∧
    (∀ c v, s.relationships.find? c = some v → ∃ moved, after.relationships.find? c = some moved ∧
      moved.toInt = (e.relationships.find? c).elim v.toInt fun delta =>
        max (-100) (min 100 (v.toInt + delta.toInt))) ∧
    (∀ name, after.flags.find? name = (e.flags.find? name).or (s.flags.find? name)) ∧
    after.alliances =
      s.alliances ++ (e.alliances.filter fun name => !s.alliances.contains name).eraseDups ∧
    after.challengeWins.toNat =
      min (s.challengeWins.toNat + (e.challengeWins.getD 0).toNat) (2 ^ 32 - 1) ∧
    after.eliminationWins.toNat =
      min (s.eliminationWins.toNat + (e.eliminationWins.getD 0).toNat) (2 ^ 32 - 1) ∧
    after.voteHistory = s.voteHistory ++ e.votes ∧
    after.eliminatedPlayers = e.eliminated.getD s.eliminatedPlayers ∧
    after.activePlayers = e.activePlayers.getD s.activePlayers ∧
    after.playerName = s.playerName ∧ after.currentNode = s.currentNode ∧
    after.day = s.day ∧ after.episode = s.episode ∧
    let again := e.apply after
    again = { after with
      relationships := again.relationships
      challengeWins := again.challengeWins
      eliminationWins := again.eliminationWins
      voteHistory := again.voteHistory } := by
  intro after
  have moved (c : String) : after.relationships.find? c = (s.relationships.find? c).map fun v =>
      (e.relationships.find? c).elim v fun delta => clampRelationship (v.toInt + delta.toInt) := by
    rw [show after = _ from e.apply_eq s]
    exact Dict.find?_mapValues (fun c v => (e.relationships.find? c).elim v fun delta =>
      clampRelationship (v.toInt + delta.toInt)) s.relationships c
  refine ⟨fun c => ?_, fun c v kept => ?_, ?_⟩
  · unfold GameState.tracks Dict.contains
    rw [moved, Option.isSome_map]
  · refine ⟨_, (moved c).trans (congrArg _ kept), ?_⟩
    cases e.relationships.find? c with
    | none => rfl
    | some delta => exact toInt_clampRelationship _
  rw [show after = _ from e.apply_eq s]
  exact ⟨Dict.find?_override s.flags e.flags, addNames_eq s.alliances e.alliances,
    toNat_getD_addCapped s.challengeWins e.challengeWins,
    toNat_getD_addCapped s.eliminationWins e.eliminationWins, rfl, rfl, rfl, rfl, rfl, rfl, rfl,
    e.apply_eq s ▸ e.apply_again s⟩

end Storyline
