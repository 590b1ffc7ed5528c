import Storyline.Proofs.Saves.Nesting
import Storyline.Proofs.Saves.Requests
import Storyline.Saves.Slots

/-!
Saved games over a store that works: what is written under a key is what is read from it until the
next write or removal there, and no other key is touched.
-/

namespace Storyline

def SaveLayout.Uses (layout : SaveLayout) (key : String) : Prop :=
  key = layout.autosaveKey ∨ ∃ slot, layout.slotKey? slot = some key

def SaveLayout.keys (layout : SaveLayout) : List String :=
  layout.autosaveKey :: layout.slots.filterMap layout.slotKey?

theorem SaveLayout.slotKey?_eq (layout : SaveLayout) (slot : UInt8) : layout.slotKey? slot =
    if 1 ≤ slot.toNat ∧ slot.toNat ≤ layout.slotCount.toNat then
      some (layout.slotPrefix ++ toString slot.toNat)
    else none := by
  simp only [slotKey?, UInt8.le_iff_toNat_le]
  rfl

theorem SaveLayout.mem_slots {layout : SaveLayout} {slot : UInt8} {key : String}
    (known : layout.slotKey? slot = some key) : slot ∈ layout.slots := by
  rw [slotKey?_eq] at known
  split at known
  · next there =>
    obtain ⟨above, last⟩ := there
    refine List.mem_map.mpr ⟨slot.toNat - 1, List.mem_range.mpr (by omega), ?_⟩
    rw [Nat.sub_add_cancel above]
    exact UInt8.ofNat_toNat
  · cases known

theorem SaveLayout.mem_keys {layout : SaveLayout} {key : String} :
    key ∈ layout.keys ↔ layout.Uses key := by
  unfold keys Uses
  rw [List.mem_cons, List.mem_filterMap]
  refine or_congr_right ⟨fun ⟨slot, _, known⟩ => ⟨slot, known⟩, ?_⟩
  rintro ⟨slot, known⟩
  exact ⟨slot, mem_slots known, known⟩

/-- The autosave has a key of its own. -/
def SaveLayout.Apart (layout : SaveLayout) : Prop :=
  ∀ slot, layout.slotKey? slot ≠ some layout.autosaveKey

theorem letter_of_start {start : String} {place : Nat} {c : Char}
    (h : start.toList[place]? = some c) (rest : String) : (start ++ rest).toList[place]? = some c := by
  obtain ⟨bound, _⟩ := List.getElem?_eq_some_iff.mp h
  rw [String.toList_append, List.getElem?_append_left bound, h]

theorem SaveLayout.apart_standard : SaveLayout.standard.Apart := by
  intro slot same
  unfold slotKey? at same
  split at same
  · have letters := congrArg (·.toList[4]?) (Option.some.inj same)
    have slots : SaveLayout.standard.slotPrefix.toList[4]? = some 's' := by decide +kernel
    have autosave : SaveLayout.standard.autosaveKey.toList[4]? = some 'a' := by decide +kernel
    rw [autosave, letter_of_start slots] at letters
    cases letters
  · cases same

theorem toDigits_inj {a b : Nat} (same : Nat.toDigits 10 a = Nat.toDigits 10 b) : a = b := by
  have values := congrArg (fun digits => Nat.ofDigitChars 10 digits 0) same
  simpa only [Nat.ofDigitChars_ten_toDigits] using values

theorem SaveLayout.slotKey?_inj {layout : SaveLayout} {a b : UInt8} {key : String}
    (ha : layout.slotKey? a = some key) (hb : layout.slotKey? b = some key) : a = b := by
  unfold slotKey? at ha hb
  split at ha
  · split at hb
    · have same : layout.slotPrefix ++ toString a.toNat = layout.slotPrefix ++ toString b.toNat :=
        (Option.some.inj ha).trans (Option.some.inj hb).symm
      have digits : Nat.toDigits 10 a.toNat = Nat.toDigits 10 b.toNat := by
        have lists := congrArg String.toList same
        rw [String.toList_append, String.toList_append] at lists
        have numbers := List.append_cancel_left lists
        rw [Nat.toString_eq_repr, Nat.toString_eq_repr, Nat.toList_repr, Nat.toList_repr] at numbers
        exact numbers
      exact UInt8.toNat_inj.mp (toDigits_inj digits)
    · cases hb
  · cases ha

/-- A state that is read back as it is written. -/
structure GameState.Savable (s : GameState) : Prop where
  storable : s.Storable
  faithful : s.Faithful

def SaveRecord.ofText? (text : Option String) : Option SaveRecord :=
  text.bind fun text => (decode text).toOption

theorem SaveRecord.ofText?_of_decode {r : SaveRecord} {text : String} (h : decode text = .ok r) :
    ofText? (some text) = some r := by
  unfold ofText?
  rw [Option.bind_some, h]
  rfl

theorem SaveRecord.ofText?_encode {r : SaveRecord} (h : r.state.Savable) :
    ofText? (some r.encode) = some r := ofText?_of_decode (decode_encode h.storable h.faithful)

def SaveLayout.gameIn (layout : SaveLayout) (entries : Dict String) (slot : UInt8) :
    Option SaveRecord :=
  (layout.slotKey? slot).bind fun key => SaveRecord.ofText? (entries.find? key)

/-- Every game that some texts hold under the keys of saves can be saved again. -/
def SaveLayout.Reusable (layout : SaveLayout) (entries : Dict String) : Prop :=
  ∀ key, layout.Uses key → ∀ r, SaveRecord.ofText? (entries.find? key) = some r → r.state.Savable

namespace SaveLayout.Reusable

variable {layout : SaveLayout} {entries : Dict String}

theorem insert (h : layout.Reusable entries) (key : String) {r : SaveRecord}
    (savable : r.state.Savable) : layout.Reusable (entries.insert key r.encode) := by
  intro other used found read
  rw [Dict.find?_insert] at read
  split at read
  · rw [SaveRecord.ofText?_encode savable] at read
    cases read
    exact savable
  · exact h other used found read

theorem erase (h : layout.Reusable entries) (key : String) :
    layout.Reusable (entries.erase key) := by
  intro other used found read
  rw [Dict.find?_erase] at read
  split at read
  · cases read
  · exact h other used found read

end SaveLayout.Reusable

/-- The games in a store that can be read have real numbers that are read as they are written. -/
def Store.Faithful {σ : Type} [Store σ] (keys : String → Prop) (s : σ) : Prop :=
  ∀ key, keys key → ∀ text, (Store.get key s).1 = .ok (some text) →
    ∀ r, SaveRecord.decode text = .ok r → r.state.Faithful

theorem Store.faithful_memory (keys : String → Prop) : Store.Faithful keys (MemoryStore.mk .empty) :=
  fun _ _ _ found => nomatch found

namespace Saves

variable {σ : Type} [Store σ] {s : Saves σ} {entries : Dict String} {key : String}

theorem write_works (works : Store.WorksAs s.layout.Uses s.store entries) (used : s.layout.Uses key)
    (state : GameState) : (s.write key state).1 = .ok () ∧
      Store.WorksAs s.layout.Uses (s.write key state).2.store
        (entries.insert key (SaveRecord.encode ⟨state, s.now⟩)) := by
  obtain ⟨done, works⟩ := works.set used (SaveRecord.encode ⟨state, s.now⟩)
  exact ⟨congrArg (Except.mapError SaveError.store) done, works⟩

theorem game?_read (s : Saves σ) (key : String) : game? (some (s.read key).1) =
    SaveRecord.ofText? (Store.get key s.store).1.toOption.join := by
  unfold Saves.read SaveRecord.ofText?
  rcases Store.get key s.store with ⟨e | _ | text, after⟩
  · rfl
  · rfl
  · simp only [Except.toOption, Option.join_some, Option.bind_some]
    cases SaveRecord.decode text with
    | error e => rfl
    | ok r => rfl

theorem read_works (works : Store.WorksAs s.layout.Uses s.store entries) (used : s.layout.Uses key) :
    game? (some (s.read key).1) = SaveRecord.ofText? (entries.find? key) ∧
      Store.WorksAs s.layout.Uses (s.read key).2.store entries := by
  obtain ⟨found, works⟩ := works.get used
  refine ⟨?_, works⟩
  rw [game?_read, found]
  rfl

theorem loadFrom_works (works : Store.WorksAs s.layout.Uses s.store entries) (slot : UInt8) :
    game? (s.loadFrom slot).1 = s.layout.gameIn entries slot ∧
      Store.WorksAs s.layout.Uses (s.loadFrom slot).2.store entries ∧
      (s.loadFrom slot).2.layout = s.layout ∧ (s.loadFrom slot).2.now = s.now := by
  unfold loadFrom SaveLayout.gameIn
  cases known : s.layout.slotKey? slot with
  | none => exact ⟨rfl, works, rfl, rfl⟩
  | some key =>
    obtain ⟨found, kept⟩ := read_works works (.inr ⟨slot, known⟩)
    exact ⟨found, kept, rfl, rfl⟩

theorem loadEach_works (works : Store.WorksAs s.layout.Uses s.store entries) (slots : List UInt8) :
    (s.loadEach slots).1.map (fun r => (r.1, game? r.2)) =
        slots.map (fun slot => (slot, s.layout.gameIn entries slot)) ∧
      Store.WorksAs s.layout.Uses (s.loadEach slots).2.store entries ∧
      (s.loadEach slots).2.layout = s.layout := by
  induction slots generalizing s with
  | nil => exact ⟨rfl, works, rfl⟩
  | cons slot slots ih =>
    obtain ⟨found, kept, layout, _⟩ := loadFrom_works works slot
    rw [← layout] at kept
    obtain ⟨others, kept, same⟩ := ih kept
    rw [layout] at others kept same
    exact ⟨congr (congrArg List.cons (congrArg (slot, ·) found)) others, kept, same⟩

theorem remove_works (works : Store.WorksAs s.layout.Uses s.store entries)
    (used : s.layout.Uses key) : (s.remove key).1 = .ok () ∧
      Store.WorksAs s.layout.Uses (s.remove key).2.store (entries.erase key) := by
  obtain ⟨done, works⟩ := works.delete used
  exact ⟨congrArg (Except.mapError SaveError.store) done, works⟩

/-- The store works, holds these texts, and every game in it can be saved again. -/
structure Keeps (s : Saves σ) (entries : Dict String) : Prop where
  works : Store.WorksAs s.layout.Uses s.store entries
  reusable : s.layout.Reusable entries

theorem keeps_of_works (works : Store.WorksAs s.layout.Uses s.store entries)
    (faithful : Store.Faithful s.layout.Uses s.store) : s.Keeps entries := by
  refine ⟨works, ?_⟩
  intro key used r found
  obtain ⟨text, held, decoded⟩ := Option.bind_eq_some_iff.mp found
  have read : SaveRecord.decode text = .ok r := by
    cases outcome : SaveRecord.decode text with
    | error e =>
      rw [outcome] at decoded
      cases decoded
    | ok r' =>
      rw [outcome] at decoded
      exact congrArg Except.ok (Option.some.inj decoded)
  have get := (works.get used).1
  rw [held] at get
  exact ⟨SaveRecord.storable_decode read, faithful key used text get r read⟩

end Saves
end Storyline
