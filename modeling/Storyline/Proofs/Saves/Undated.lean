import Storyline.Proofs.Json.Likeness
import Storyline.Proofs.Saves.Keeping

/-!
The time at which a game was saved says nothing about the game: what a record gives back as its state,
or that it gives back none, is the same for records of one state that were made at different times.
-/

namespace Storyline

open Json

namespace VoteRecord

variable {p : Pass}

theorem agrees_uint32 (p : Pass) : Reader.uint32.Agrees p := (agrees_whole _ _ _ p).followed _

theorem agrees_member : ∀ m ∈ fields, m.Agrees p := by
  intro m member
  simp only [fields, List.mem_cons, List.not_mem_nil, or_false] at member
  rcases member with rfl | rfl | rfl
  · exact (agrees_uint32 p).option.optional _ _
  · exact (agrees_uint32 p).option.optional _ _
  · exact (agrees_text p).option.optional _ _

theorem agrees_vote : VoteRecord.reader.Agrees .again := by
  intro r r' v like read
  obtain ⟨⟨common, kept⟩, opened, read⟩ := bind_ok read
  obtain ⟨details, found, made⟩ := bind_ok read
  obtain ⟨kept', opened', likes⟩ := Record.readOpen_like _ _ rfl (fun _ => agrees_member _) like opened
  simp only [VoteRecord.reader, opened', valueFields_like likes found, bind, Except.bind]
  exact made

end VoteRecord

namespace GameState

theorem agrees_member : ∀ m ∈ fields, m.Agrees .again := by
  have texts : texts.Agrees .again := (agrees_text .again).list
  have number : Reader.uint32.Agrees .again := VoteRecord.agrees_uint32 .again
  have whole : Reader.int32.Agrees .again := (agrees_whole _ _ _ .again).followed _
  intro m member
  simp only [fields, fieldsWith, List.mem_cons, List.not_mem_nil, or_false] at member
  rcases member with rfl | rfl | rfl | rfl | rfl | rfl | rfl | rfl | rfl | rfl | rfl | rfl
  · exact (agrees_text .again).optional _ _
  · exact (agrees_text .again).mandatory _ _
  · exact number.optional _ _
  · exact number.optional _ _
  · exact whole.dict.optional _ _
  · exact (agrees_value .again).dict.optional _ _
  · exact texts.optional _ _
  · exact number.optional _ _
  · exact number.optional _ _
  · exact VoteRecord.agrees_vote.list.optional _ _
  · exact texts.optional _ _
  · exact texts.optional _ _

end GameState

namespace SaveRecord

variable {s : GameState} {t : UInt64}

theorem record_opened {others last kept : List (Quoted × Raw)} {time : UInt64}
    (shown : List.Forall₂ ShowsField [("timestamp", .ofUInt64 t)] last)
    (opened : Record.readOpen "struct SaveRecord" [timestampMember] 0 .start
      (.object (others ++ last) .closed) = .ok (time, kept)) :
    ∃ so, Record.fillAll [timestampMember] .kept (.first 126) ⟨0, [], []⟩ others = .ok so ∧
      "timestamp" ∉ so.seen ∧ kept = so.kept := by
  obtain ⟨_, entered, found⟩ := bind_ok opened
  cases entered
  obtain ⟨done, filled, _⟩ := bind_ok found
  rw [Record.fillAll_append] at filled
  obtain ⟨so, before, stamped⟩ := bind_ok filled
  -- were the time there already, the last field would not be one of a member that is still to be seen
  have fresh : "timestamp" ∉ so.seen := by
    cases shown with
    | cons stamp none =>
      cases none
      cases stamp with
      | mk holds _ =>
        have named : lift (Quoted.decode _) = .ok "timestamp" := congrArg lift holds
        obtain ⟨next, first, _⟩ := bind_ok stamped
        cases Record.fill_cases first with
        | known m _ known _ fresh _ =>
          rw [List.mem_singleton.mp known] at fresh
          exact fresh
        | kept key decoded unknown _ =>
          rw [named] at decoded
          exact absurd (Except.ok.inj decoded) (unknown timestampMember List.mem_cons_self)
  have same := opened.symm.trans (open_record before fresh shown)
  exact ⟨so, before, fresh, congrArg Prod.snd (Except.ok.inj same)⟩

/-- What can be read back of a game that was saved can be read back whenever it was saved. -/
theorem decode_restamped {r : SaveRecord} (read : decode (encode ⟨s, t⟩) = .ok r) (t' : UInt64) :
    ∃ r', decode (encode ⟨s, t'⟩) = .ok r' ∧ r'.state = r.state := by
  obtain ⟨raw, shown, same⟩ := readText_text reader (toJson ⟨s, t⟩)
  obtain ⟨raw', shown', same'⟩ := readText_text reader (toJson ⟨s, t'⟩)
  rw [show decode (encode ⟨s, t⟩) = _ from same] at read
  rw [show decode (encode ⟨s, t'⟩) = _ from same']
  cases shown with
  | object raws =>
  cases shown' with
  | object raws' =>
  -- the fields of the state come first in both texts, and are alike; only the times differ
  obtain ⟨others, last, first, stamp, rfl⟩ := Record.shown_append raws
  obtain ⟨others', last', first', stamp', rfl⟩ := Record.shown_append raws'
  obtain ⟨⟨time, kept⟩, opened, read⟩ := bind_ok read
  obtain ⟨state, found, made⟩ := bind_ok read
  cases made
  obtain ⟨so, before, fresh, rfl⟩ := record_opened stamp opened
  have agrees : ∀ m ∈ [timestampMember], m.Agrees (.first 126) :=
    List.forall_mem_singleton.mpr (((agrees_whole _ _ _ _).followed _).mandatory _ _)
  obtain ⟨so', before', alike⟩ := Record.fillAll_like agrees (.inl rfl)
    (likeFields_of_shows first first') ⟨rfl, rfl, .nil⟩ before
  have fresh' : "timestamp" ∉ so'.seen := alike.seen ▸ fresh
  have opened' := open_record before' fresh' stamp'
  have back : GameState.reader .again (.object so'.kept .closed) = .ok state :=
    Record.read_like _ _ GameState.agrees_member alike.kept found
  refine ⟨⟨state, t'⟩, ?_, rfl⟩
  unfold timestampMember at opened'
  simp only [reader, opened', back, bind, Except.bind, pure, Except.pure]

end SaveRecord

def GameState.ofText? (text : Option String) : Option GameState :=
  (SaveRecord.ofText? text).map SaveRecord.state

theorem GameState.ofText?_encode (s : GameState) (t t' : UInt64) :
    ofText? (some (SaveRecord.encode ⟨s, t⟩)) = ofText? (some (SaveRecord.encode ⟨s, t'⟩)) := by
  unfold ofText? SaveRecord.ofText?
  rw [Option.bind_some, Option.bind_some]
  cases read : SaveRecord.decode (SaveRecord.encode ⟨s, t⟩) with
  | ok r =>
    obtain ⟨r', read', same⟩ := SaveRecord.decode_restamped read t'
    rw [read']
    exact congrArg some same.symm
  | error e =>
    cases read' : SaveRecord.decode (SaveRecord.encode ⟨s, t'⟩) with
    | error e' => rfl
    | ok r' =>
      obtain ⟨r, back, _⟩ := SaveRecord.decode_restamped read' t
      cases read.symm.trans back

end Storyline
