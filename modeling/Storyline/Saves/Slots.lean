import Storyline.Config
import Storyline.Saves.Store
import Storyline.Schema.State

/-!
Saved games, each the whole state and the time at which it was saved as one flat record, and the slots
and the autosave that hold them in a store.

No call is ever lost in a failure: each answers with what came of it and with the saves after it.
-/

namespace Storyline

structure SaveRecord where
  state : GameState
  /-- Milliseconds since 1970. -/
  timestamp : UInt64

namespace SaveRecord

open Json

def toJson (r : SaveRecord) : Json :=
  .object (r.state.toFields ++ [("timestamp", .ofUInt64 r.timestamp)])

/-- A saved game. The time is looked for first, and then the state among the other fields. -/
def reader : Reader SaveRecord := fun p r => do
  let (timestamp, kept) ← Record.readOpen "struct SaveRecord"
    [.mandatory "timestamp" .uint64 fun _ x => x] 0 p r
  let state ← GameState.reader .again (.object kept .closed)
  return ⟨state, timestamp⟩

def encode (r : SaveRecord) : String := r.toJson.text

def decode (text : String) : Except ReadError SaveRecord := readText reader text

end SaveRecord

inductive SaveError
  | store (e : StoreError)
  | unreadable (e : Json.ReadError)
  deriving DecidableEq

def SaveError.message : SaveError → String
  | store e => e.message
  | unreadable e => "Serialization error: " ++ e.message

structure Saves (σ : Type) where
  store : σ
  layout : SaveLayout
  /-- Milliseconds since 1970, which new saves are stamped with. -/
  now : UInt64

structure SlotInfo where
  playerName : String
  day : UInt32
  episode : UInt32
  timestamp : UInt64
  deriving DecidableEq

def SaveRecord.info (r : SaveRecord) : SlotInfo :=
  ⟨r.state.playerName, r.state.day, r.state.episode, r.timestamp⟩

def SaveLayout.slots (layout : SaveLayout) : List UInt8 :=
  (List.range layout.slotCount.toNat).map fun i => UInt8.ofNat (i + 1)

namespace Saves

variable {σ : Type} [Store σ]

def write (s : Saves σ) (key : String) (state : GameState) : Except SaveError Unit × Saves σ :=
  let (result, store) := Store.set key (SaveRecord.encode ⟨state, s.now⟩) s.store
  (result.mapError .store, { s with store := store })

def read (s : Saves σ) (key : String) : Except SaveError (Option SaveRecord) × Saves σ :=
  let (result, store) := Store.get key s.store
  let game := match result with
    | .error e => .error (.store e)
    | .ok none => .ok none
    | .ok (some text) => ((SaveRecord.decode text).map some).mapError .unreadable
  (game, { s with store := store })

def remove (s : Saves σ) (key : String) : Except SaveError Unit × Saves σ :=
  let (result, store) := Store.delete key s.store
  (result.mapError .store, { s with store := store })

def autoSave (s : Saves σ) (state : GameState) : Except SaveError Unit × Saves σ :=
  s.write s.layout.autosaveKey state

def loadAutosave (s : Saves σ) : Except SaveError (Option SaveRecord) × Saves σ :=
  s.read s.layout.autosaveKey

def clearAutosave (s : Saves σ) : Except SaveError Unit × Saves σ :=
  s.remove s.layout.autosaveKey

/-- Saves a state in a slot; nothing comes of it if there is no such slot. -/
def saveTo (s : Saves σ) (slot : UInt8) (state : GameState) :
    Option (Except SaveError Unit) × Saves σ :=
  match s.layout.slotKey? slot with
  | none => (none, s)
  | some key =>
    let (result, s) := s.write key state
    (some result, s)

def loadFrom (s : Saves σ) (slot : UInt8) :
    Option (Except SaveError (Option SaveRecord)) × Saves σ :=
  match s.layout.slotKey? slot with
  | none => (none, s)
  | some key =>
    let (result, s) := s.read key
    (some result, s)

def loadEach (s : Saves σ) :
    List UInt8 → List (UInt8 × Option (Except SaveError (Option SaveRecord))) × Saves σ
  | [] => ([], s)
  | slot :: rest =>
    let (result, s) := s.loadFrom slot
    let (others, s) := s.loadEach rest
    ((slot, result) :: others, s)

def loadAll (s : Saves σ) :
    List (UInt8 × Option (Except SaveError (Option SaveRecord))) × Saves σ :=
  s.loadEach s.layout.slots

/-- A game that was read, if there was one that could be. -/
def game? (result : Option (Except SaveError (Option SaveRecord))) : Option SaveRecord :=
  match result with
  | some (.ok game) => game
  | _ => none

end Saves
end Storyline
