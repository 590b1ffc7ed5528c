import Storyline.Proofs.Saves.Keeping
import Storyline.Proofs.Saves.Refusing

/-!
What saves give back over a store that may refuse any call. A history of what was asked and answered
tells, for each slot and for the autosave, the last game that was saved there; this is the game that is
read there, unless the reading is refused.
-/

namespace Storyline

inductive SavesRequest
  | autoSave (state : GameState)
  | clearAutosave
  | saveTo (slot : UInt8) (state : GameState)
  | loadFrom (slot : UInt8)
  | loadAutosave
  | list

def SavesRequest.state? : SavesRequest → Option GameState
  | .autoSave state | .saveTo _ state => some state
  | .clearAutosave | .loadFrom _ | .loadAutosave | .list => none

inductive SavesAnswer
  | done (done : Bool)
  | game (game : Option SaveRecord)
  | listing (slots : List (UInt8 × Option SlotInfo))

structure SavesExchange where
  time : UInt64
  request : SavesRequest
  answer : SavesAnswer

namespace SavesExchange

def savedIn (slot : UInt8) (before : Option SaveRecord) (e : SavesExchange) : Option SaveRecord :=
  match e.request, e.answer with
  | .saveTo other state, .done true => if slot = other then some ⟨state, e.time⟩ else before
  | _, _ => before

def autosaved (before : Option SaveRecord) (e : SavesExchange) : Option SaveRecord :=
  match e.request, e.answer with
  | .autoSave state, .done true => some ⟨state, e.time⟩
  | .clearAutosave, .done true => none
  | _, _ => before

end SavesExchange

/-- The last game that was saved in a slot. -/
def lastSaved (slot : UInt8) (history : List SavesExchange) : Option SaveRecord :=
  history.foldl (SavesExchange.savedIn slot) none

/-- The last game that was saved as the autosave, if it was not cleared since. -/
def lastAutosaved (history : List SavesExchange) : Option SaveRecord :=
  history.foldl SavesExchange.autosaved none

theorem lastSaved_append (slot : UInt8) (history : List SavesExchange) (e : SavesExchange) :
    lastSaved slot (history ++ [e]) = e.savedIn slot (lastSaved slot history) := by
  simp only [lastSaved, List.foldl_append, List.foldl_cons, List.foldl_nil]

theorem lastAutosaved_append (history : List SavesExchange) (e : SavesExchange) :
    lastAutosaved (history ++ [e]) = e.autosaved (lastAutosaved history) := by
  simp only [lastAutosaved, List.foldl_append, List.foldl_cons, List.foldl_nil]

namespace Saves

variable {σ : Type} [Store σ]

/-- Whether a game was saved, or the autosave cleared. -/
def did (result : Option (Except SaveError Unit)) : Bool :=
  match result with
  | some (.ok ()) => true
  | _ => false

def serve (s : Saves σ) : SavesRequest → SavesAnswer × Saves σ
  | .autoSave state => (s.autoSave state).map (fun result => .done (did (some result))) id
  | .clearAutosave => s.clearAutosave.map (fun result => .done (did (some result))) id
  | .saveTo slot state => (s.saveTo slot state).map (fun result => .done (did result)) id
  | .loadFrom slot => (s.loadFrom slot).map (fun result => .game (game? result)) id
  | .loadAutosave => s.loadAutosave.map (fun result => .game (game? (some result))) id
  | .list => s.loadAll.map
    (fun results => .listing (results.map fun r => (r.1, (game? r.2).map SaveRecord.info))) id

def atTime (s : Saves σ) (time : UInt64) : Saves σ := { s with now := time }

def serveAll (s : Saves σ) : List (UInt64 × SavesRequest) → List SavesExchange × Saves σ
  | [] => ([], s)
  | (time, r) :: rest =>
    let (answer, s) := (s.atTime time).serve r
    let (later, s) := s.serveAll rest
    (⟨time, r, answer⟩ :: later, s)

/-- The saves after the first so many slots were loaded, one after the other. -/
def looked (s : Saves σ) : Nat → Saves σ
  | 0 => s
  | i + 1 => ((s.looked i).serve (.loadFrom (UInt8.ofNat (i + 1)))).2

def answers (s : Saves σ) (key : String) : Bool := (Store.get key s.store).1.isOk

def keeps (s : Saves σ) (key : String) (state : GameState) : Bool :=
  (Store.set key (SaveRecord.encode ⟨state, s.now⟩) s.store).1.isOk

def drops (s : Saves σ) (key : String) : Bool := (Store.delete key s.store).1.isOk

/-- What saves give back after some history, and what they make of the next request. -/
structure Recalls (s : Saves σ) (history : List SavesExchange) : Prop where
  saves : ∀ slot key, s.layout.slotKey? slot = some key → ∀ state,
    (s.serve (.saveTo slot state)).1 = .done (s.keeps key state)
  autosaves : ∀ state,
    (s.serve (.autoSave state)).1 = .done (s.keeps s.layout.autosaveKey state)
  clears : (s.serve .clearAutosave).1 = .done (s.drops s.layout.autosaveKey)
  slot : ∀ slot key, s.layout.slotKey? slot = some key → (s.serve (.loadFrom slot)).1 =
    .game (if s.answers key then lastSaved slot history else none)
  autosave : (s.serve .loadAutosave).1 =
    .game (if s.answers s.layout.autosaveKey then lastAutosaved history else none)
  /-- For a slot that does not exist the store is not asked. -/
  outside : ∀ slot, ¬(1 ≤ slot.toNat ∧ slot.toNat ≤ s.layout.slotCount.toNat) →
    s.serve (.loadFrom slot) = (.game none, s) ∧
      ∀ state, s.serve (.saveTo slot state) = (.done false, s)
  /-- The list has the slots by their numbers, each as it is loaded when its turn comes. -/
  listed : ∃ slots, (s.serve .list).1 = .listing slots ∧
    slots.map (fun e => e.1.toNat) = List.range' 1 s.layout.slotCount.toNat ∧
    ∀ i slot info, slots[i]? = some (slot, info) → ∃ key game,
      s.layout.slotKey? slot = some key ∧
      ((s.looked i).serve (.loadFrom slot)).1 = .game game ∧
      info = game.map SaveRecord.info ∧
      game = if (s.looked i).answers key then lastSaved slot history else none

/-- The store may refuse what it is asked, and the texts in it hold what was saved last. -/
structure Mirrors (s : Saves σ) (history : List SavesExchange) (entries : Dict String) : Prop where
  store : Store.Falters s.layout.Uses s.store entries
  slot : ∀ slot key, s.layout.slotKey? slot = some key →
    SaveRecord.ofText? (entries.find? key) = lastSaved slot history
  autosave : SaveRecord.ofText? (entries.find? s.layout.autosaveKey) = lastAutosaved history

variable {s s' : Saves σ} {entries : Dict String} {history : List SavesExchange} {key : String}

theorem read_falters (falters : Store.Falters s.layout.Uses s.store entries)
    (used : s.layout.Uses key) :
    game? (some (s.read key).1) =
        (if s.answers key then SaveRecord.ofText? (entries.find? key) else none) ∧
      Store.Falters s.layout.Uses (s.read key).2.store entries := by
  obtain ⟨answered, next⟩ := falters.get used
  refine ⟨?_, next⟩
  unfold answers
  rw [game?_read]
  rcases answered with refused | found
  · rw [refused, if_neg Bool.false_ne_true]
    cases result : (Store.get key s.store).1 with
    | error e => rfl
    | ok text =>
      rw [result] at refused
      cases refused
  · rw [found]
    rfl

theorem did_mapError (result : Except StoreError Unit) :
    did (some (result.mapError .store)) = result.isOk := by
  cases result <;> rfl

theorem write_falters (falters : Store.Falters s.layout.Uses s.store entries)
    (used : s.layout.Uses key) (state : GameState) :
    (did (some (s.write key state).1) = false ∧
      Store.Falters s.layout.Uses (s.write key state).2.store entries) ∨
    (did (some (s.write key state).1) = true ∧
      Store.Falters s.layout.Uses (s.write key state).2.store
        (entries.insert key (SaveRecord.encode ⟨state, s.now⟩))) := by
  have outcome := falters.set used (SaveRecord.encode ⟨state, s.now⟩)
  rwa [← did_mapError] at outcome

theorem remove_falters (falters : Store.Falters s.layout.Uses s.store entries)
    (used : s.layout.Uses key) :
    (did (some (s.remove key).1) = false ∧
      Store.Falters s.layout.Uses (s.remove key).2.store entries) ∨
    (did (some (s.remove key).1) = true ∧
      Store.Falters s.layout.Uses (s.remove key).2.store (entries.erase key)) := by
  have outcome := falters.delete used
  rwa [← did_mapError] at outcome

variable {slot : UInt8}

theorem serve_loadFrom (known : s.layout.slotKey? slot = some key) :
    s.serve (.loadFrom slot) = (.game (game? (some (s.read key).1)), (s.read key).2) := by
  simp only [serve, loadFrom, known]
  rfl

theorem serve_loadFrom_absent (absent : s.layout.slotKey? slot = none) :
    s.serve (.loadFrom slot) = (.game none, s) := by
  simp only [serve, loadFrom, absent]
  rfl

theorem serve_saveTo (known : s.layout.slotKey? slot = some key) (state : GameState) :
    s.serve (.saveTo slot state) =
      (.done (did (some (s.write key state).1)), (s.write key state).2) := by
  simp only [serve, saveTo, known]
  rfl

theorem serve_saveTo_absent (absent : s.layout.slotKey? slot = none) (state : GameState) :
    s.serve (.saveTo slot state) = (.done false, s) := by
  simp only [serve, saveTo, absent]
  rfl

theorem layout_loadFrom (s : Saves σ) (slot : UInt8) : (s.loadFrom slot).2.layout = s.layout := by
  unfold loadFrom
  cases s.layout.slotKey? slot <;> rfl

theorem loadEach_snoc (s : Saves σ) (slots : List UInt8) (slot : UInt8) :
    s.loadEach (slots ++ [slot]) =
      ((s.loadEach slots).1 ++ [(slot, ((s.loadEach slots).2.loadFrom slot).1)],
        ((s.loadEach slots).2.loadFrom slot).2) := by
  induction slots generalizing s with
  | nil => rfl
  | cons first slots ih =>
    simp only [List.cons_append, loadEach, ih]

theorem loadEach_slots (s : Saves σ) (count : Nat) :
    s.loadEach ((List.range count).map fun i => UInt8.ofNat (i + 1)) =
      ((List.range count).map fun i =>
        (UInt8.ofNat (i + 1), ((s.looked i).loadFrom (UInt8.ofNat (i + 1))).1), s.looked count) := by
  induction count with
  | zero => rfl
  | succ count ih =>
    rw [List.range_succ, List.map_append, List.map_cons, List.map_nil, loadEach_snoc, ih,
      List.map_append]
    rfl

namespace Mirrors

/-- What a slot and the autosave are does not depend on the time, nor on the store but for its texts. -/
theorem moved (h : s.Mirrors history entries) (layout : s'.layout = s.layout)
    (store : Store.Falters s.layout.Uses s'.store entries) : s'.Mirrors history entries where
  store := by rw [layout]; exact store
  slot := by rw [layout]; exact h.slot
  autosave := by rw [layout]; exact h.autosave

theorem noted (h : s.Mirrors history entries) {e : SavesExchange}
    (slot : ∀ slot before, e.savedIn slot before = before)
    (autosave : ∀ before, e.autosaved before = before) : s.Mirrors (history ++ [e]) entries where
  store := h.store
  slot := by
    intro number key known
    rw [lastSaved_append, slot]
    exact h.slot number key known
  autosave := by
    rw [lastAutosaved_append, autosave]
    exact h.autosave

theorem loadFrom (h : s.Mirrors history entries) (slot : UInt8) :
    (s.loadFrom slot).2.Mirrors history entries := by
  unfold Saves.loadFrom
  cases known : s.layout.slotKey? slot with
  | none => exact h
  | some key => exact h.moved rfl (read_falters h.store (.inr ⟨slot, known⟩)).2

theorem looked (h : s.Mirrors history entries) (count : Nat) :
    (s.looked count).Mirrors history entries ∧ (s.looked count).layout = s.layout := by
  induction count with
  | zero => exact ⟨h, rfl⟩
  | succ count ih =>
    exact ⟨ih.1.loadFrom _, (layout_loadFrom _ _).trans ih.2⟩

theorem saved (h : s.Mirrors history entries) (apart : s.layout.Apart) {slot : UInt8}
    (known : s.layout.slotKey? slot = some key) {r : SaveRecord}
    (whole : SaveRecord.decode r.encode = .ok r) (layout : s'.layout = s.layout)
    (store : Store.Falters s.layout.Uses s'.store (entries.insert key r.encode)) :
    s'.Mirrors (history ++ [⟨r.timestamp, .saveTo slot r.state, .done true⟩])
      (entries.insert key r.encode) where
  store := by rw [layout]; exact store
  slot := by
    rw [layout]
    intro other key' known'
    rw [lastSaved_append, Dict.find?_insert]
    by_cases same : other = slot
    · have keys : key' = key := Option.some.inj (known'.symm.trans (same ▸ known))
      rw [if_pos keys, SaveRecord.ofText?_of_decode whole]
      exact (if_pos same).symm
    · have keys : key' ≠ key := fun keys => same (SaveLayout.slotKey?_inj known' (keys ▸ known))
      rw [if_neg keys, h.slot other key' known']
      exact (if_neg same).symm
  autosave := by
    rw [layout, lastAutosaved_append, Dict.find?_insert_of_ne]
    · exact h.autosave
    · rintro rfl
      exact apart slot known

theorem autosaved (h : s.Mirrors history entries) (apart : s.layout.Apart) {r : SaveRecord}
    (whole : SaveRecord.decode r.encode = .ok r) (layout : s'.layout = s.layout)
    (store : Store.Falters s.layout.Uses s'.store
      (entries.insert s.layout.autosaveKey r.encode)) :
    s'.Mirrors (history ++ [⟨r.timestamp, .autoSave r.state, .done true⟩])
      (entries.insert s.layout.autosaveKey r.encode) where
  store := by rw [layout]; exact store
  slot := by
    rw [layout]
    intro slot key known
    have other : key ≠ s.layout.autosaveKey := fun same => apart slot (same ▸ known)
    rw [lastSaved_append, Dict.find?_insert_of_ne _ other]
    exact h.slot slot key known
  autosave := by
    rw [layout, lastAutosaved_append, Dict.find?_insert_self, SaveRecord.ofText?_of_decode whole]
    rfl

theorem cleared (h : s.Mirrors history entries) (apart : s.layout.Apart) (time : UInt64)
    (layout : s'.layout = s.layout)
    (store : Store.Falters s.layout.Uses s'.store (entries.erase s.layout.autosaveKey)) :
    s'.Mirrors (history ++ [⟨time, .clearAutosave, .done true⟩])
      (entries.erase s.layout.autosaveKey) where
  store := by rw [layout]; exact store
  slot := by
    rw [layout]
    intro slot key known
    have other : key ≠ s.layout.autosaveKey := fun same => apart slot (same ▸ known)
    rw [lastSaved_append, Dict.find?_erase_of_ne _ other]
    exact h.slot slot key known
  autosave := by
    rw [layout, lastAutosaved_append, Dict.find?_erase_self]
    rfl

/-- What one request comes to: it is refused, or the history tells of it. -/
theorem serve (h : s.Mirrors history entries) (apart : s.layout.Apart) (r : SavesRequest)
    (whole : ∀ state, r.state? = some state →
      SaveRecord.decode (SaveRecord.encode ⟨state, s.now⟩) = .ok ⟨state, s.now⟩) :
    ∃ entries', (s.serve r).2.layout = s.layout ∧
      (s.serve r).2.Mirrors (history ++ [⟨s.now, r, (s.serve r).1⟩]) entries' := by
  cases r with
  | autoSave state =>
    have answer : (s.serve (.autoSave state)).1 =
        .done (did (some (s.write s.layout.autosaveKey state).1)) := rfl
    rw [answer]
    rcases write_falters h.store (.inl rfl) state with ⟨refused, next⟩ | ⟨done, next⟩
    · rw [refused]
      exact ⟨entries, rfl, (h.noted (fun _ _ => rfl) fun _ => rfl).moved rfl next⟩
    · rw [done]
      exact ⟨_, rfl, h.autosaved (r := ⟨state, s.now⟩) apart (whole state rfl) rfl next⟩
  | clearAutosave =>
    have answer : (s.serve .clearAutosave).1 =
        .done (did (some (s.remove s.layout.autosaveKey).1)) := rfl
    rw [answer]
    rcases remove_falters h.store (.inl rfl) with ⟨refused, next⟩ | ⟨done, next⟩
    · rw [refused]
      exact ⟨entries, rfl, (h.noted (fun _ _ => rfl) fun _ => rfl).moved rfl next⟩
    · rw [done]
      exact ⟨_, rfl, h.cleared apart s.now rfl next⟩
  | saveTo slot state =>
    cases known : s.layout.slotKey? slot with
    | none =>
      rw [serve_saveTo_absent known]
      exact ⟨entries, rfl, h.noted (fun _ _ => rfl) fun _ => rfl⟩
    | some key =>
      rw [serve_saveTo known]
      rcases write_falters h.store (.inr ⟨slot, known⟩) state with ⟨refused, next⟩ | ⟨done, next⟩
      · rw [refused]
        exact ⟨entries, rfl, (h.noted (fun _ _ => rfl) fun _ => rfl).moved rfl next⟩
      · rw [done]
        exact ⟨_, rfl, h.saved (r := ⟨state, s.now⟩) apart known (whole state rfl) rfl next⟩
  | loadFrom slot =>
    exact ⟨entries, layout_loadFrom s slot,
      (h.loadFrom slot).noted (fun _ _ => rfl) fun _ => rfl⟩
  | loadAutosave =>
    have kept := (read_falters h.store (.inl rfl)).2
    exact ⟨entries, rfl, (h.noted (fun _ _ => rfl) fun _ => rfl).moved rfl kept⟩
  | list =>
    have after : (s.serve .list).2 = s.looked s.layout.slotCount.toNat :=
      congrArg Prod.snd (s.loadEach_slots s.layout.slotCount.toNat)
    obtain ⟨kept, layout⟩ := h.looked s.layout.slotCount.toNat
    rw [after]
    exact ⟨entries, layout, kept.noted (fun _ _ => rfl) fun _ => rfl⟩

theorem atTime (h : s.Mirrors history entries) (time : UInt64) :
    (s.atTime time).Mirrors history entries := ⟨h.store, h.slot, h.autosave⟩

theorem serveAll (h : s.Mirrors history entries) (apart : s.layout.Apart)
    (past : List (UInt64 × SavesRequest))
    (whole : ∀ p ∈ past, ∀ state, p.2.state? = some state →
      SaveRecord.decode (SaveRecord.encode ⟨state, p.1⟩) = .ok ⟨state, p.1⟩) :
    ∃ entries', (s.serveAll past).2.layout = s.layout ∧
      (s.serveAll past).2.Mirrors (history ++ (s.serveAll past).1) entries' := by
  induction past generalizing s history entries with
  | nil =>
    refine ⟨entries, rfl, ?_⟩
    rw [show (s.serveAll []).1 = [] from rfl, List.append_nil]
    exact h
  | cons p past ih =>
    obtain ⟨first, others⟩ := List.forall_mem_cons.mp whole
    obtain ⟨entries', layout, next⟩ := (h.atTime p.1).serve apart p.2 first
    have apart' : ((s.atTime p.1).serve p.2).2.layout.Apart := by
      rw [layout]
      exact apart
    obtain ⟨entries'', layout', last⟩ := ih next apart' others
    rw [List.append_assoc] at last
    exact ⟨entries'', layout'.trans layout, last⟩

theorem loads (h : s.Mirrors history entries) (known : s.layout.slotKey? slot = some key) :
    (s.serve (.loadFrom slot)).1 =
      .game (if s.answers key then lastSaved slot history else none) := by
  rw [serve_loadFrom known, (read_falters h.store (.inr ⟨slot, known⟩)).1, h.slot slot key known]

theorem recalls (h : s.Mirrors history entries) : s.Recalls history where
  saves := by
    intro slot key known state
    rw [serve_saveTo known]
    exact congrArg SavesAnswer.done (did_mapError _)
  autosaves := fun _ => congrArg SavesAnswer.done (did_mapError _)
  clears := congrArg SavesAnswer.done (did_mapError _)
  slot := fun _ _ known => h.loads known
  autosave := by
    have answer : (s.serve .loadAutosave).1 =
        .game (game? (some (s.read s.layout.autosaveKey).1)) := rfl
    rw [answer, (read_falters h.store (.inl rfl)).1, h.autosave]
  outside := by
    intro slot outside
    have absent : s.layout.slotKey? slot = none :=
      (s.layout.slotKey?_eq slot).trans (if_neg outside)
    exact ⟨serve_loadFrom_absent absent, serve_saveTo_absent absent⟩
  listed := by
    -- a slot's number is one more than its place, and there are at most 255
    have number {i : Nat} (below : i < s.layout.slotCount.toNat) :
        (UInt8.ofNat (i + 1)).toNat = i + 1 := by
      have most : s.layout.slotCount.toNat < 256 := s.layout.slotCount.toNat_lt
      exact UInt8.toNat_ofNat_of_lt' (show i + 1 < 256 by omega)
    refine ⟨(List.range s.layout.slotCount.toNat).map fun i => (UInt8.ofNat (i + 1),
      (game? ((s.looked i).loadFrom (UInt8.ofNat (i + 1))).1).map SaveRecord.info), ?_, ?_, ?_⟩
    · have all := congrArg Prod.fst (s.loadEach_slots s.layout.slotCount.toNat)
      change SavesAnswer.listing (List.map _ (s.loadEach _).1) = _
      rw [SaveLayout.slots, all, List.map_map]
      rfl
    · rw [List.map_map, List.range'_eq_map_range]
      refine List.map_congr_left fun i member => ?_
      exact (number (List.mem_range.mp member)).trans (Nat.add_comm i 1)
    · intro i slot info listed
      rw [List.getElem?_map] at listed
      obtain ⟨j, place, same⟩ := Option.map_eq_some_iff.mp listed
      obtain ⟨below, turn⟩ := List.getElem?_eq_some_iff.mp place
      rw [List.getElem_range] at turn
      rw [List.length_range] at below
      subst turn
      cases same
      obtain ⟨mirrors, layout⟩ := h.looked i
      obtain ⟨key, known⟩ : ∃ key, s.layout.slotKey? (UInt8.ofNat (i + 1)) = some key := by
        rw [s.layout.slotKey?_eq, number below]
        exact ⟨_, if_pos ⟨Nat.le_add_left 1 i, below⟩⟩
      refine ⟨key, game? ((s.looked i).loadFrom (UInt8.ofNat (i + 1))).1, known, rfl, rfl, ?_⟩
      rw [← layout] at known
      exact SavesAnswer.game.inj (mirrors.loads known)

end Mirrors

end Saves
end Storyline
