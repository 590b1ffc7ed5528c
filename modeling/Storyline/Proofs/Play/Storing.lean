import Storyline.Proofs.Play.Upkeep

/-!
Whatever game is saved is read back as it was. A record has room for all that nests no deeper than a
reader goes; no story and no saved game that was read, from whatever store, makes a state that nests
deeper.
-/

namespace Storyline

open Json

theorem VoteRecord.isFree_iff {name : String} :
    IsFree name ↔ name ∉ ["day", "episode", "voted_for"] := by
  have names : ["day", "episode", "voted_for"] = fields.map Member.name := rfl
  rw [names]
  unfold IsFree
  exact ⟨fun free member => (List.mem_map.mp member).elim fun m inside => free m inside.1 inside.2,
    fun absent m inside same => absent (same ▸ List.mem_map_of_mem inside)⟩

theorem VoteRecord.within_detail {v : VoteRecord} {n : Nat} (h : v.toJson.Within (n + 1)) :
    ∀ e ∈ v.details.entries, e.2.json.Within n := by
  rw [toJson_eq] at h
  intro e member
  exact h.field (e.1, e.2.json)
    (List.mem_append_right _ (List.mem_map_of_mem (f := fun e => (e.1, e.2.json)) member))

theorem SaveRecord.storable_of_within {r : SaveRecord} (within : r.toJson.Within 127)
    (free : ∀ v ∈ r.state.voteHistory, ∀ e ∈ v.details.entries, VoteRecord.IsFree e.1) :
    r.state.Storable := by
  have field : ∀ f ∈ r.state.toFields, f.2.Within 126 :=
    fun f member => within.field f (List.mem_append_left _ member)
  have flags : (Json.ofDict Value.json r.state.flags).Within 126 :=
    field _ (List.mem_of_getElem? (i := 5) rfl)
  have votes : (Json.array (r.state.voteHistory.map VoteRecord.toJson)).Within 126 :=
    field _ (List.mem_of_getElem? (i := 9) rfl)
  constructor
  · intro e member
    exact flags.field (e.1, e.2.json) (List.mem_map_of_mem (f := fun e => (e.1, e.2.json)) member)
  · intro v member e inside
    have vote := votes.item v.toJson (List.mem_map_of_mem member)
    exact ⟨free v member e inside, VoteRecord.within_detail vote e inside⟩

theorem SaveRecord.within_toJson {r : SaveRecord} (storable : r.state.Storable) :
    r.toJson.Within 127 :=
  .object (List.forall_mem_append.mpr
    ⟨GameState.within_field storable, List.forall_mem_singleton.mpr (.number _)⟩)

namespace Saves

variable {σ : Type} [Store σ] {s : Saves σ} {r : SaveRecord}

/-- A game that is found was read from a text, whatever the store is. -/
theorem decoded_read {key : String} (found : game? (some (s.read key).1) = some r) :
    ∃ text, SaveRecord.decode text = .ok r := by
  unfold Saves.read at found
  rcases got : (Store.get key s.store).1 with e | _ | text
  · simp only [got] at found
    cases found
  · simp only [got] at found
    cases found
  · simp only [got] at found
    cases decoded : SaveRecord.decode text with
    | error e =>
      rw [decoded] at found
      cases found
    | ok made =>
      rw [decoded] at found
      cases found
      exact ⟨text, decoded⟩

theorem decoded_loadFrom {slot : UInt8} (found : game? (s.loadFrom slot).1 = some r) :
    ∃ text, SaveRecord.decode text = .ok r := by
  unfold loadFrom at found
  cases known : s.layout.slotKey? slot with
  | none =>
    rw [known] at found
    cases found
  | some key =>
    rw [known] at found
    exact decoded_read found

end Saves

namespace Interpreter

variable {σ : Type} [Store σ] {it : Interpreter σ}

theorem decoded_consult {action : Action} {r : SaveRecord}
    (found : (it.consult action).1 = some r) : ∃ text, SaveRecord.decode text = .ok r := by
  cases action with
  | boot => exact Saves.decoded_read found
  | resume event =>
    simp only [consult] at found
    split at found
    · exact Saves.decoded_read found
    · cases found
  | load slot => exact Saves.decoded_loadFrom found
  | _ => cases found

theorem storable_run {content : Content} (story : content.Storable) (config : Config) (store : σ)
    (start : UInt64) (turns : List Turn) :
    ((Interpreter.new content config store start).run turns).state.Storable := by
  have begun : (Interpreter.new content config store start).state.Storable :=
    GameState.holds_ofTemplate story.template _
  refine (run_keeps (I := fun it => it.content = content ∧ it.state.Storable) ?_ ⟨rfl, begun⟩).2
  rintro it turn _ ⟨same, storable⟩
  have lands := ((it.atTime turn.now).act_comes turn.action).lands
  have free : ∀ r, ((it.atTime turn.now).consult turn.action).1 = some r → r.state.Storable := by
    intro r found
    obtain ⟨text, decoded⟩ := decoded_consult found
    exact SaveRecord.storable_decode decoded
  have landed : ((it.atTime turn.now).landing turn.action).state.Storable :=
    holds_land (show (it.atTime turn.now).content.Storable from same ▸ story) storable free
      turn.action
  exact ⟨lands.content.trans same, lands.state ▸ landed⟩

end Interpreter

/-- A saved game is read back with its time and all of its state: any game that nests no deeper than a
reader goes and in which no detail of a vote has the name of a common part; any state that play comes
to in a story that was read, over any store; and any game that was read before. The real numbers in it
are taken to be read as they are written. -/
theorem SaveRecord.reads_back :
    (∀ r : SaveRecord, r.toJson.Within 127 →
      (∀ v ∈ r.state.voteHistory, ∀ e ∈ v.details.entries,
        e.1 ∉ ["day", "episode", "voted_for"]) →
      r.state.Faithful → decode r.encode = .ok r) ∧
    (∀ (text : String) (content : Content), Content.ofText text = .ok content →
      ∀ {σ : Type} [Store σ] (config : Config) (store : σ) (start : UInt64) (turns : List Turn),
        let reached := ((Interpreter.new content config store start).run turns).state
        reached.Faithful → ∀ now : UInt64, decode (encode ⟨reached, now⟩) = .ok ⟨reached, now⟩) ∧
    ∀ (text : String) (r : SaveRecord), decode text = .ok r →
      r.state.Faithful → decode r.encode = .ok r := by
  refine ⟨?_, ?_, ?_⟩
  · intro r within free faithful
    have names : ∀ v ∈ r.state.voteHistory, ∀ e ∈ v.details.entries, VoteRecord.IsFree e.1 :=
      fun v member e inside => VoteRecord.isFree_iff.mpr (free v member e inside)
    exact decode_encode (storable_of_within within names) faithful
  · intro text content parsed σ _ config store start turns reached faithful now
    have story := Content.storable_ofText parsed
    exact decode_encode (Interpreter.storable_run story config store start turns) faithful
  · intro text r read faithful
    exact decode_encode (storable_decode read) faithful

theorem SaveRecord.reads_back_fork :
    let vote : VoteRecord := ⟨some 2, none, some "ANN", Dict.empty.insert "tie" (.array [.null])⟩
    let game : SaveRecord := ⟨{ GameState.blank with
      currentNode := "a \"b\""
      flags := Content.fork.mood.flags
      voteHistory := [vote] }, 18446744073709551615⟩
    let it := (Interpreter.new .fork .standard (MemoryStore.mk .empty) 0).run
      [⟨1, .boot⟩, ⟨2, .resume (.playerName "A")⟩, ⟨3, .resume (.choose 1)⟩]
    decode game.encode = .ok game ∧ decode (encode ⟨it.state, 4⟩) = .ok ⟨it.state, 4⟩ := by
  intro vote game it
  have storable : game.state.Storable := by
    constructor
    · exact List.forall_mem_singleton.mpr (.number _)
    · refine List.forall_mem_singleton.mpr (List.forall_mem_singleton.mpr ⟨?_, ?_⟩)
      · exact VoteRecord.isFree_iff.mpr (by decide)
      · exact .array (List.forall_mem_singleton.mpr .null)
  obtain ⟨any, reached, again⟩ := reads_back
  have first : decode game.encode = .ok game := by
    refine any game (within_toJson storable) ?_ (by decide +kernel)
    exact List.forall_mem_singleton.mpr (List.forall_mem_singleton.mpr (by decide))
  have second : decode game.encode = .ok game := again game.encode game first (by decide +kernel)
  have played : it.state.Faithful := by decide +kernel
  exact ⟨second, reached _ .fork Content.parsed_fork .standard _ 0 _ played 4⟩

end Storyline
