import Storyline.Proofs.Json.Records
import Storyline.Proofs.Saves.FreeValues
import Storyline.Saves.Slots

/-!
A saved game is read back as it was, if its free values are: flags and details that do not nest too
deep for a record, real numbers that are read as they are written, and no detail of a vote under the
name of one of its common parts.
-/

namespace Storyline

open Json

def VoteRecord.IsFree (name : String) : Prop := ∀ m ∈ VoteRecord.fields, m.name ≠ name

def Value.IsWithin (n : Nat) (v : Value) : Prop := v.json.Within n

/-- Details that nest at most so many levels and have names of their own. -/
def VoteRecord.IsDetail (n : Nat) (name : String) (v : Value) : Prop :=
  IsFree name ∧ v.json.Within n

def Value.IsFaithful (v : Value) : Prop := v.json.Faithful

instance : DecidablePred Value.IsFaithful := fun v => inferInstanceAs (Decidable v.json.Faithful)

/-- The record, its flags and a flag itself make the levels of nesting, and a detail of a vote lies
one level deeper. -/
def GameState.Storable (s : GameState) : Prop := s.Holds (Value.IsWithin 125) (VoteRecord.IsDetail 124)

def Content.Storable (content : Content) : Prop :=
  content.Holds (Value.IsWithin 125) (VoteRecord.IsDetail 124)

def GameState.Faithful (s : GameState) : Prop :=
  s.Holds Value.IsFaithful fun _ v => v.IsFaithful

instance : DecidablePred GameState.Faithful := fun s =>
  inferInstanceAs (Decidable (s.Holds Value.IsFaithful fun _ v => v.IsFaithful))

namespace VoteRecord

variable {n : Nat} {v : VoteRecord}

/-- A common part that is there. -/
def partOf {α : Type} (name : String) (reader : Reader α) (write : α → Json)
    (put : VoteRecord → Option α → VoteRecord) (o : Option α) : List (Piece VoteRecord) :=
  o.toList.map fun a => ⟨.optional name (.option reader) put, write a, fun v => put v (some a)⟩

theorem field_partOf {α : Type} (name : String) (reader : Reader α) (write : α → Json)
    (put : VoteRecord → Option α → VoteRecord) (o : Option α) :
    (partOf name reader write put o).map Piece.field = given name write o := by
  cases o <;> rfl

def parts (v : VoteRecord) : List (Piece VoteRecord) :=
  partOf "day" .uint32 .ofUInt32 (fun v x => { v with day := x }) v.day
    ++ partOf "episode" .uint32 .ofUInt32 (fun v x => { v with episode := x }) v.episode
    ++ partOf "voted_for" .text .string (fun v x => { v with votedFor := x }) v.votedFor

def detailFields (v : VoteRecord) : List (String × Json) :=
  v.details.entries.map fun e => (e.1, e.2.json)

theorem toJson_eq (v : VoteRecord) :
    v.toJson = .object (v.parts.map Piece.field ++ v.detailFields) := by
  simp only [parts, List.map_append, field_partOf]
  rfl

theorem mem_parts {part : Piece VoteRecord} (h : part ∈ v.parts) : part.member ∈ VoteRecord.fields := by
  obtain ⟨day, episode, votedFor, details⟩ := v
  simp only [parts, partOf, List.mem_append, List.mem_map] at h
  rcases h with (⟨_, _, rfl⟩ | ⟨_, _, rfl⟩) | ⟨_, _, rfl⟩ <;> simp [VoteRecord.fields]

theorem find_part {part : Piece VoteRecord} (h : part ∈ v.parts) :
    VoteRecord.fields.find? (fun m => m.name == part.member.name) = some part.member := by
  have member := mem_parts h
  simp only [VoteRecord.fields, List.mem_cons, List.not_mem_nil, or_false] at member
  rcases member with same | same | same <;> rw [same] <;> rfl

theorem sets_part {part : Piece VoteRecord} (h : part ∈ v.parts) : part.Sets n := by
  simp only [parts, partOf, List.mem_append, List.mem_map] at h
  have number : ∀ x : UInt32, Json.ofUInt32 x ≠ .null := fun _ same => Json.noConfusion same
  have text : ∀ s : String, Json.string s ≠ .null := fun _ same => Json.noConfusion same
  rcases h with (⟨a, _, rfl⟩ | ⟨a, _, rfl⟩) | ⟨a, _, rfl⟩
  · exact Piece.sets_optional ((recovers_uint32 n a).some (number a)) _ _
  · exact Piece.sets_optional ((recovers_uint32 n a).some (number a)) _ _
  · exact Piece.sets_optional ((recovers_text n a).some (text a)) _ _

theorem distinct_parts (v : VoteRecord) : (v.parts.map fun part => part.member.name).Nodup := by
  obtain ⟨day, episode, votedFor, details⟩ := v
  cases day <;> cases episode <;> cases votedFor <;> simp [parts, partOf, Member.optional]

theorem foldl_parts (v : VoteRecord) :
    v.parts.foldl (fun v part => part.put v) blank = { v with details := .empty } := by
  obtain ⟨day, episode, votedFor, details⟩ := v
  cases day <;> cases episode <;> cases votedFor <;> rfl

theorem fieldsOf_details (d : Dict Value) :
    valueOf.fieldsOf (d.entries.map fun e => (e.1, e.2.json)) = d.entries := by
  have each : ∀ entries : List (String × Value),
      valueOf.fieldsOf (entries.map fun e => (e.1, e.2.json)) = entries := by
    intro entries
    induction entries with
    | nil => rfl
    | cons e entries ih => simp only [List.map_cons, valueOf.fieldsOf, valueOf_json, ih]
  exact each d.entries

theorem recovers_vote (free : ∀ e ∈ v.details.entries, IsFree e.1)
    (within : ∀ e ∈ v.details.entries, e.2.json.Within n)
    (faithful : ∀ e ∈ v.details.entries, e.2.json.Faithful) :
    VoteRecord.reader.Recovers (n + 1) v.toJson v := by
  intro p r allowed shown
  obtain ⟨q, entered, inner⟩ := allowed.enter
  rw [toJson_eq] at shown
  cases shown with
  | object raws =>
    obtain ⟨common, kept, first, rest, rfl⟩ := Record.shown_append raws
    have filled := Record.fillAll_parts .kept inner (fun part h => find_part h)
      (fun part h => sets_part (n := n) h) v.distinct_parts ⟨blank, [], []⟩
      (fun _ _ h => nomatch h) first
    have unknown : ∀ f ∈ v.detailFields,
        VoteRecord.fields.find? (fun m => m.name == f.1) = none := by
      intro f member
      obtain ⟨e, inside, rfl⟩ := List.mem_map.mp member
      rw [List.find?_eq_none]
      intro m common same
      exact free e inside m common (by simpa using same)
    have stay := Record.fillAll_strangers inner unknown
      (List.forall_mem_map.mpr within) (List.forall_mem_map.mpr faithful)
      { record := { v with details := .empty }
        seen := (v.parts.map fun part => part.member.name).reverse ++ []
        kept := [] } rest
    have details : Reader.valueFields .again kept = .ok v.details.entries := by
      have read := valueFields_shown (p := .again) (n := n) trivial
        (List.forall_mem_map.mpr within) (List.forall_mem_map.mpr faithful) rest
      rw [read]
      exact congrArg Except.ok (fieldsOf_details v.details)
    rw [foldl_parts] at filled
    have opened : Record.readOpen "struct VoteRecord" VoteRecord.fields blank p
        (.object (common ++ kept) .closed) = .ok ({ v with details := .empty }, kept) := by
      simp only [Record.readOpen, entered, bind, Except.bind, Record.fillAll_append, filled, stay,
        Record.lift_check_closed]
      rfl
    simp only [VoteRecord.reader, opened, details, bind, Except.bind, pure, Except.pure,
      Dict.ofList_entries]

theorem within_toJson (within : ∀ e ∈ v.details.entries, e.2.json.Within n) :
    v.toJson.Within (n + 1) := by
  rw [toJson_eq]
  refine .object fun f member => ?_
  rcases List.mem_append.mp member with common | detail
  · obtain ⟨part, inside, rfl⟩ := List.mem_map.mp common
    simp only [parts, partOf, List.mem_append, List.mem_map] at inside
    rcases inside with (⟨a, _, rfl⟩ | ⟨a, _, rfl⟩) | ⟨a, _, rfl⟩
    · exact .number _
    · exact .number _
    · exact .string a
  · obtain ⟨e, inside, rfl⟩ := List.mem_map.mp detail
    exact within e inside

theorem faithful_toJson (faithful : ∀ e ∈ v.details.entries, e.2.json.Faithful) :
    v.toJson.Faithful := by
  rw [toJson_eq]
  refine .object fun f member => ?_
  rcases List.mem_append.mp member with common | detail
  · obtain ⟨part, inside, rfl⟩ := List.mem_map.mp common
    simp only [parts, partOf, List.mem_append, List.mem_map] at inside
    rcases inside with (⟨a, _, rfl⟩ | ⟨a, _, rfl⟩) | ⟨a, _, rfl⟩
    · exact .whole _
    · exact .whole _
    · exact .string a
  · obtain ⟨e, inside, rfl⟩ := List.mem_map.mp detail
    exact faithful e inside

end VoteRecord

namespace GameState

def parts (s : GameState) : List (Piece GameState) :=
  [⟨.optional "player_name" .text fun s x => { s with playerName := x }, .string s.playerName,
      fun t => { t with playerName := s.playerName }⟩,
    ⟨.mandatory "current_node" .text fun s x => { s with currentNode := x }, .string s.currentNode,
      fun t => { t with currentNode := s.currentNode }⟩,
    ⟨.optional "day" .uint32 fun s x => { s with day := x }, .ofUInt32 s.day,
      fun t => { t with day := s.day }⟩,
    ⟨.optional "episode" .uint32 fun s x => { s with episode := x }, .ofUInt32 s.episode,
      fun t => { t with episode := s.episode }⟩,
    ⟨.optional "relationships" (.dict .int32) fun s x => { s with relationships := x },
      .ofDict .ofInt32 s.relationships, fun t => { t with relationships := s.relationships }⟩,
    ⟨.optional "flags" (.dict Reader.value) fun s x => { s with flags := x },
      .ofDict Value.json s.flags, fun t => { t with flags := s.flags }⟩,
    ⟨.optional "alliances" texts fun s x => { s with alliances := x }, .ofTexts s.alliances,
      fun t => { t with alliances := s.alliances }⟩,
    ⟨.optional "challenge_wins" .uint32 fun s x => { s with challengeWins := x },
      .ofUInt32 s.challengeWins, fun t => { t with challengeWins := s.challengeWins }⟩,
    ⟨.optional "elimination_wins" .uint32 fun s x => { s with eliminationWins := x },
      .ofUInt32 s.eliminationWins, fun t => { t with eliminationWins := s.eliminationWins }⟩,
    ⟨.optional "vote_history" (.list VoteRecord.reader) fun s x => { s with voteHistory := x },
      .array (s.voteHistory.map VoteRecord.toJson), fun t => { t with voteHistory := s.voteHistory }⟩,
    ⟨.optional "eliminated_players" texts fun s x => { s with eliminatedPlayers := x },
      .ofTexts s.eliminatedPlayers, fun t => { t with eliminatedPlayers := s.eliminatedPlayers }⟩,
    ⟨.optional "active_players" texts fun s x => { s with activePlayers := x },
      .ofTexts s.activePlayers, fun t => { t with activePlayers := s.activePlayers }⟩]

theorem member_parts (s : GameState) : s.parts.map Piece.member = GameState.fields := rfl

theorem sets_part {s : GameState} (storable : s.Storable) (faithful : s.Faithful) :
    ∀ part ∈ s.parts, part.Sets 126 := by
  have flags : (Reader.dict Reader.value).Recovers 126 (.ofDict Value.json s.flags) s.flags :=
    recovers_dict fun e member => recovers_value (storable.flags e member) (faithful.flags e member)
  have votes : (Reader.list VoteRecord.reader).Recovers 126
      (.array (s.voteHistory.map VoteRecord.toJson)) s.voteHistory :=
    recovers_list fun v member => VoteRecord.recovers_vote
      (fun e inside => (storable.votes v member e inside).1)
      (fun e inside => (storable.votes v member e inside).2)
      (fun e inside => faithful.votes v member e inside)
  intro part member
  simp only [parts, List.mem_cons, List.not_mem_nil, or_false] at member
  rcases member with rfl | rfl | rfl | rfl | rfl | rfl | rfl | rfl | rfl | rfl | rfl | rfl
  · exact Piece.sets_optional (recovers_text 126 _) _ _
  · exact Piece.sets_mandatory (recovers_text 126 _) _ _
  · exact Piece.sets_optional (recovers_uint32 126 _) _ _
  · exact Piece.sets_optional (recovers_uint32 126 _) _ _
  · exact Piece.sets_optional (recovers_dict fun e _ => recovers_int32 125 e.2) _ _
  · exact Piece.sets_optional flags _ _
  · exact Piece.sets_optional (recovers_texts 125 _) _ _
  · exact Piece.sets_optional (recovers_uint32 126 _) _ _
  · exact Piece.sets_optional (recovers_uint32 126 _) _ _
  · exact Piece.sets_optional votes _ _
  · exact Piece.sets_optional (recovers_texts 125 _) _ _
  · exact Piece.sets_optional (recovers_texts 125 _) _ _

theorem find_part {s : GameState} : ∀ part ∈ s.parts,
    GameState.fields.find? (fun m => m.name == part.member.name) = some part.member := by
  have each : ∀ m ∈ GameState.fields, GameState.fields.find? (fun f => f.name == m.name) = some m := by
    intro m member
    simp only [GameState.fields, fieldsWith, List.mem_cons, List.not_mem_nil, or_false] at member
    rcases member with rfl | rfl | rfl | rfl | rfl | rfl | rfl | rfl | rfl | rfl | rfl | rfl <;> rfl
  intro part member
  exact each part.member (by rw [← s.member_parts]; exact List.mem_map_of_mem member)

theorem distinct_parts (s : GameState) : (s.parts.map fun part => part.member.name).Nodup := by
  have names : (s.parts.map fun part => part.member.name) = GameState.fields.map Member.name := rfl
  rw [names]
  decide

theorem foldl_parts (s : GameState) : s.parts.foldl (fun t part => part.put t) blank = s := rfl

theorem recovers_state {s : GameState} (storable : s.Storable) (faithful : s.Faithful) :
    GameState.reader.Recovers 127 s.toJson s := by
  refine Record.recovers_read _ find_part (sets_part storable faithful) s.distinct_parts ?_
    s.foldl_parts
  intro m member _
  have names : (s.parts.map fun part => part.member.name) = GameState.fields.map Member.name := rfl
  rw [names]
  exact List.mem_map_of_mem member

theorem within_field {s : GameState} (storable : s.Storable) : ∀ f ∈ s.toFields, f.2.Within 126 := by
  have texts : ∀ l : List String, (Json.ofTexts l).Within 126 := fun l =>
    .array (List.forall_mem_map.mpr fun t _ => .string t)
  have votes : ∀ v ∈ s.voteHistory, v.toJson.Within 125 := fun v member =>
    VoteRecord.within_toJson fun e inside => (storable.votes v member e inside).2
  intro f member
  simp only [toFields, List.mem_cons, List.not_mem_nil, or_false] at member
  rcases member with rfl | rfl | rfl | rfl | rfl | rfl | rfl | rfl | rfl | rfl | rfl | rfl
  · exact .string _
  · exact .string _
  · exact .number _
  · exact .number _
  · exact .object (List.forall_mem_map.mpr fun e _ => .number _)
  · exact .object (List.forall_mem_map.mpr storable.flags)
  · exact texts _
  · exact .number _
  · exact .number _
  · exact .array (List.forall_mem_map.mpr votes)
  · exact texts _
  · exact texts _

theorem faithful_field {s : GameState} (faithful : s.Faithful) : ∀ f ∈ s.toFields, f.2.Faithful := by
  have texts : ∀ l : List String, (Json.ofTexts l).Faithful := fun l =>
    .array (List.forall_mem_map.mpr fun t _ => .string t)
  have votes : ∀ v ∈ s.voteHistory, v.toJson.Faithful := fun v member =>
    VoteRecord.faithful_toJson fun e inside => faithful.votes v member e inside
  intro f member
  simp only [toFields, List.mem_cons, List.not_mem_nil, or_false] at member
  rcases member with rfl | rfl | rfl | rfl | rfl | rfl | rfl | rfl | rfl | rfl | rfl | rfl
  · exact .string _
  · exact .string _
  · exact .whole _
  · exact .whole _
  · exact .object (List.forall_mem_map.mpr fun e _ => .whole _)
  · exact .object (List.forall_mem_map.mpr faithful.flags)
  · exact texts _
  · exact .whole _
  · exact .whole _
  · exact .array (List.forall_mem_map.mpr votes)
  · exact texts _
  · exact texts _

end GameState

namespace SaveRecord

def timestampMember : Member UInt64 := .mandatory "timestamp" .uint64 fun _ x => x

theorem unknown_field (s : GameState) :
    ∀ f ∈ s.toFields, [timestampMember].find? (fun m => m.name == f.1) = none := by
  intro f member
  simp only [GameState.toFields, List.mem_cons, List.not_mem_nil, or_false] at member
  rcases member with rfl | rfl | rfl | rfl | rfl | rfl | rfl | rfl | rfl | rfl | rfl | rfl <;> rfl

/-- The time is put in by the last field, if no field before it was one. -/
theorem fill_timestamp {t : UInt64} {so : Filled UInt64} (fresh : "timestamp" ∉ so.seen)
    {last : List (Quoted × Raw)} (shown : List.Forall₂ ShowsField [("timestamp", .ofUInt64 t)] last) :
    Record.fillAll [timestampMember] .kept (.first 126) so last =
      .ok ⟨t, "timestamp" :: so.seen, so.kept⟩ := by
  have sets : Piece.Sets ⟨timestampMember, .ofUInt64 t, fun _ => t⟩ 126 :=
    Piece.sets_mandatory (recovers_uint64 126 t) _ _
  have inner : (Pass.first 126).Allows 126 := Nat.le_refl 126
  exact Record.fillAll_parts .kept inner (List.forall_mem_singleton.mpr rfl)
    (List.forall_mem_singleton.mpr sets) (List.pairwise_singleton _ _) so
    (List.forall_mem_singleton.mpr fresh) shown

theorem open_record {t : UInt64} {so : Filled UInt64} {others last : List (Quoted × Raw)}
    (before : Record.fillAll [timestampMember] .kept (.first 126) ⟨0, [], []⟩ others = .ok so)
    (fresh : "timestamp" ∉ so.seen)
    (shown : List.Forall₂ ShowsField [("timestamp", .ofUInt64 t)] last) :
    Record.readOpen "struct SaveRecord" [timestampMember] 0 .start (.object (others ++ last) .closed) =
      .ok (t, so.kept) := by
  have entered : Pass.start.enter = .ok (.first 126) := rfl
  simp only [Record.readOpen, entered, bind, Except.bind, Record.fillAll_append, before,
    fill_timestamp fresh shown, Record.lift_check_closed]
  rfl

theorem decode_encode {r : SaveRecord} (storable : r.state.Storable) (faithful : r.state.Faithful) :
    decode r.encode = .ok r := by
  obtain ⟨raw, shown, read⟩ := readText_text reader r.toJson
  refine Eq.trans read ?_
  cases shown with
  | object raws =>
    obtain ⟨kept, last, first, stamp, rfl⟩ := Record.shown_append raws
    have inner : (Pass.first 126).Allows 126 := Nat.le_refl 126
    have stay : Record.fillAll [timestampMember] .kept (.first 126) ⟨0, [], []⟩ kept =
        .ok ⟨0, [], [] ++ kept⟩ :=
      Record.fillAll_strangers inner (unknown_field r.state) (GameState.within_field storable)
        (GameState.faithful_field faithful) ⟨0, [], []⟩ first
    have opened := open_record stay List.not_mem_nil stamp
    have state := GameState.recovers_state storable faithful .again _ trivial (.object first)
    unfold timestampMember at opened
    simp only [reader, opened, state, bind, Except.bind, pure, Except.pure, List.nil_append]

end SaveRecord
end Storyline
