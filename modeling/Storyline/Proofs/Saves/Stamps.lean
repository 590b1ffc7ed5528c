import Storyline.Proofs.Saves.Undated

/-!
Stores and the times that stand in saved games. A store keeps texts and does not read them, so two
stores that are told the same by two clocks give back the same games, and stay two such stores.
-/

namespace Storyline

/-- The same text twice, or one state as it is saved by two clocks at once. -/
def Restamped (clock : List (UInt64 × UInt64)) (text text' : String) : Prop :=
  text = text' ∨ ∃ s, ∃ times ∈ clock,
    text = SaveRecord.encode ⟨s, times.1⟩ ∧ text' = SaveRecord.encode ⟨s, times.2⟩

/-- What two stores give back: they fail alike, or neither has a text, or both have one. -/
inductive Fetched (clock : List (UInt64 × UInt64)) {ε : Type} :
    Except ε (Option String) → Except ε (Option String) → Prop
  | failed (e : ε) : Fetched clock (.error e) (.error e)
  | found {text text' : Option String} (texts : Option.Rel (Restamped clock) text text') :
      Fetched clock (.ok text) (.ok text')

variable {clock : List (UInt64 × UInt64)}

theorem restamped_rel (text : Option String) : Option.Rel (Restamped clock) text text := by
  cases text with
  | none => exact .none
  | some text => exact .some (.inl rfl)

theorem Restamped.same_game {text text' : Option String}
    (h : Option.Rel (Restamped clock) text text') :
    GameState.ofText? text = GameState.ofText? text' := by
  cases h with
  | none => rfl
  | some same =>
    rcases same with rfl | ⟨s, times, _, rfl, rfl⟩
    · rfl
    · exact GameState.ofText?_encode s times.1 times.2

theorem Fetched.refl {ε : Type} (result : Except ε (Option String)) :
    Fetched clock result result := by
  cases result with
  | error e => exact .failed e
  | ok text => exact .found (restamped_rel text)

theorem Fetched.mapError {ε ε' : Type} {result result' : Except ε (Option String)}
    (h : Fetched clock result result') (f : ε → ε') :
    Fetched clock (result.mapError f) (result'.mapError f) := by
  cases h with
  | failed e => exact .failed (f e)
  | found texts => exact .found texts

def Answered {ε α σ : Type} (R : σ → σ → Prop) (left right : Except ε α × σ) : Prop :=
  left.1 = right.1 ∧ R left.2 right.2

namespace Store

variable {σ : Type} [Store σ]

/-- A relation between the states of a store that no call leaves, though the texts that are told to
one state and to the other were made by two clocks; and every call answers both alike. -/
structure Blind (clock : List (UInt64 × UInt64)) (R : σ → σ → Prop) : Prop where
  get : ∀ {s s'}, R s s' → ∀ key,
    Fetched clock (Store.get key s).1 (Store.get key s').1 ∧ R (Store.get key s).2 (Store.get key s').2
  set : ∀ {s s'}, R s s' → ∀ key {text text'}, Restamped clock text text' →
    Answered R (Store.set key text s) (Store.set key text' s')
  delete : ∀ {s s'}, R s s' → ∀ key, Answered R (Store.delete key s) (Store.delete key s')

/-- Two states of a store that no calls tell apart, whichever of the two clocks they are made by. -/
def Alike (clock : List (UInt64 × UInt64)) (s s' : σ) : Prop := ∃ R, Blind clock R ∧ R s s'

theorem blind_alike : Blind clock (Alike clock (σ := σ)) where
  get := by
    rintro s s' ⟨R, blind, related⟩ key
    exact (blind.get related key).imp_right fun after => ⟨R, blind, after⟩
  set := by
    rintro s s' ⟨R, blind, related⟩ key text text' texts
    exact (blind.set related key texts).imp_right fun after => ⟨R, blind, after⟩
  delete := by
    rintro s s' ⟨R, blind, related⟩ key
    exact (blind.delete related key).imp_right fun after => ⟨R, blind, after⟩

end Store

def Dict.Along {α : Type} (r : α → α → Prop) (d d' : Dict α) : Prop :=
  ∀ key, Option.Rel r (d.find? key) (d'.find? key)

namespace Dict.Along

variable {α : Type} {r : α → α → Prop} {d d' : Dict α}

theorem refl (same : ∀ a, r a a) (d : Dict α) : Along r d d := by
  intro key
  cases d.find? key with
  | none => exact .none
  | some a => exact .some (same a)

theorem insert (h : Along r d d') (key : String) {a a' : α} (values : r a a') :
    Along r (d.insert key a) (d'.insert key a') := by
  intro other
  rw [Dict.find?_insert, Dict.find?_insert]
  split
  · exact .some values
  · exact h other

theorem erase (h : Along r d d') (key : String) : Along r (d.erase key) (d'.erase key) := by
  intro other
  rw [Dict.find?_erase, Dict.find?_erase]
  split
  · exact .none
  · exact h other

end Dict.Along

namespace MemoryStore

theorem blind_along : Store.Blind clock fun s s' : MemoryStore =>
    Dict.Along (Restamped clock) s.entries s'.entries where
  get := by
    intro s s' texts key
    exact ⟨.found (texts key), texts⟩
  set := by
    intro s s' texts key text text' same
    exact ⟨rfl, texts.insert key same⟩
  delete := by
    intro s s' texts key
    exact ⟨rfl, texts.erase key⟩

theorem alike_self (clock : List (UInt64 × UInt64)) (s : MemoryStore) : Store.Alike clock s s :=
  ⟨_, blind_along, .refl (fun _ => .inl rfl) s.entries⟩

end MemoryStore

namespace FileStore

inductive SameEntry (clock : List (UInt64 × UInt64)) : FileEntry → FileEntry → Prop
  | same (e : FileEntry) : SameEntry clock e e
  | text {text text' : String} (texts : Restamped clock text text') :
      SameEntry clock (.text text) (.text text')

inductive SameFolder (clock : List (UInt64 × UInt64)) : Folder → Folder → Prop
  | present {files files' : Dict FileEntry} (entries : files.Along (SameEntry clock) files') :
      SameFolder clock (.present files) (.present files')
  | blocked (use first later : SystemCause) :
      SameFolder clock (.blocked use first later) (.blocked use first later)

theorem SameEntry.folder_iff {e e' : Option FileEntry} (h : Option.Rel (SameEntry clock) e e') :
    e = some .folder ↔ e' = some .folder := by
  cases h with
  | none => exact Iff.rfl
  | some same =>
    cases same with
    | same e => exact Iff.rfl
    | text texts => exact ⟨nofun, nofun⟩

structure SameFiles (clock : List (UInt64 × UInt64)) (s s' : FileStore) : Prop where
  folder : SameFolder clock s.folder s'.folder
  asked : s.asked = s'.asked
  room : s.room = s'.room

namespace SameFiles

variable {s s' : FileStore}

theorem refl (s : FileStore) : SameFiles clock s s where
  folder := by
    cases s.folder with
    | present files => exact .present (.refl .same files)
    | blocked use first later => exact .blocked use first later
  asked := rfl
  room := rfl

theorem read (h : SameFiles clock s s') (name : String) :
    Fetched clock (s.read name) (s'.read name) := by
  obtain ⟨folder, asked, room⟩ := s
  obtain ⟨folder', asked', room'⟩ := s'
  obtain ⟨folders, rfl, rfl⟩ := h
  cases folders with
  | blocked use first later => exact .refl _
  | @present files files' entries =>
    have entry := entries name
    simp only [FileStore.read, hasRoom]
    split
    · exact .failed _
    · split
      · exact .refl _
      · split
        · generalize files.find? name = e, files'.find? name = e' at entry ⊢
          cases entry with
          | none => exact .refl _
          | some same =>
            cases same with
            | same e => exact .refl _
            | text texts => exact .found (.some texts)
        · exact .failed _

theorem write (h : SameFiles clock s s') (name : String) {text text' : String}
    (texts : Restamped clock text text') :
    Answered (SameFiles clock) (s.write name text) (s'.write name text') := by
  obtain ⟨folder, asked, room⟩ := s
  obtain ⟨folder', asked', room'⟩ := s'
  obtain ⟨folders, rfl, rfl⟩ := h
  cases folders with
  | blocked use first later => exact ⟨rfl, .blocked use first later, rfl, rfl⟩
  | @present files files' entries =>
    have kept : SameFolder clock (.present files) (.present files') := .present entries
    have written : SameFolder clock (.present (files.insert name (.text text)))
        (.present (files'.insert name (.text text'))) := .present (entries.insert name (.text texts))
    rw [write_present, write_present]
    simp only [SameEntry.folder_iff (entries name)]
    split
    · split
      · exact ⟨rfl, kept, rfl, rfl⟩
      · exact ⟨rfl, written, rfl, rfl⟩
    · exact ⟨rfl, kept, rfl, rfl⟩

theorem remove (h : SameFiles clock s s') (name : String) :
    Answered (SameFiles clock) (s.remove name) (s'.remove name) := by
  obtain ⟨folder, asked, room⟩ := s
  obtain ⟨folder', asked', room'⟩ := s'
  obtain ⟨folders, rfl, rfl⟩ := h
  cases folders with
  | blocked use first later => exact ⟨rfl, .refl _⟩
  | @present files files' entries =>
    have kept : SameFolder clock (.present files) (.present files') := .present entries
    have erased : SameFolder clock (.present (files.erase name)) (.present (files'.erase name)) :=
      .present (entries.erase name)
    rw [remove_present, remove_present]
    simp only [SameEntry.folder_iff (entries name)]
    split
    · exact ⟨rfl, kept, rfl, rfl⟩
    · split
      · exact ⟨rfl, kept, rfl, rfl⟩
      · split
        · split
          · exact ⟨rfl, kept, rfl, rfl⟩
          · exact ⟨rfl, erased, rfl, rfl⟩
        · exact ⟨rfl, kept, rfl, rfl⟩

end SameFiles

theorem withFile_alike {α : Type} {s s' : FileStore} (same : SameFiles clock s s') (key : String)
    {act act' : String → Except SystemCause α × FileStore}
    (acts : ∀ name, Answered (SameFiles clock) (act name) (act' name)) :
    Answered (SameFiles clock) (s.withFile key act) (s'.withFile key act') := by
  unfold withFile
  split
  · have done := acts (fileName key)
    exact ⟨congrArg (Except.mapError (StoreError.io key)) done.1, done.2⟩
  · exact ⟨rfl, same⟩

theorem blind_sameFiles : Store.Blind clock (SameFiles clock) where
  get := by
    intro s s' same key
    have texts := (same.read (fileName key)).mapError (StoreError.io key)
    simp only [Store.get, withFile]
    split
    · exact ⟨texts, same⟩
    · exact ⟨.failed _, same⟩
  set := by
    intro s s' same key text text' texts
    exact withFile_alike same key fun name => same.write name texts
  delete := by
    intro s s' same key
    exact withFile_alike same key fun name => same.remove name

theorem alike_self (clock : List (UInt64 × UInt64)) (s : FileStore) : Store.Alike clock s s :=
  ⟨_, blind_sameFiles, .refl s⟩

end FileStore

namespace Outage

variable {σ α : Type}

structure Over (R : σ → σ → Prop) (o o' : Outage σ) : Prop where
  failing : o.failing = o'.failing
  store : R o.store o'.store

theorem Over.attempt {R : σ → σ → Prop} {o o' : Outage σ} (h : Over R o o') (call : StoreCall)
    {act act' : σ → Except StoreError α × σ} (acts : Answered R (act o.store) (act' o'.store)) :
    Answered (Over R) (o.attempt call act) (o'.attempt call act') := by
  unfold Outage.attempt
  rw [h.failing]
  split
  · exact ⟨rfl, h⟩
  · exact ⟨acts.1, rfl, acts.2⟩

theorem blind_over [Store σ] {R : σ → σ → Prop} (blind : Store.Blind clock R) :
    Store.Blind clock (Over R) where
  get := by
    intro o o' both key
    have got := blind.get both.store key
    simp only [Store.get, Outage.attempt]
    rw [both.failing]
    split
    · exact ⟨.failed _, both⟩
    · exact ⟨got.1, rfl, got.2⟩
  set := by
    intro o o' both key text text' texts
    exact both.attempt .set (blind.set both.store key texts)
  delete := by
    intro o o' both key
    exact both.attempt .delete (blind.delete both.store key)

theorem alike_self [Store σ] {s : σ} (same : Store.Alike clock s s) (failing : List StoreCall) :
    Store.Alike clock (Outage.mk s failing) (Outage.mk s failing) := by
  obtain ⟨R, blind, related⟩ := same
  exact ⟨_, blind_over blind, rfl, related⟩

end Outage

structure Saves.Alike {σ : Type} [Store σ] (clock : List (UInt64 × UInt64)) (a b : Saves σ) :
    Prop where
  layout : a.layout = b.layout
  now : (a.now, b.now) ∈ clock
  store : Store.Alike clock a.store b.store

/-- The state of a game that is read is known by the text that is fetched. -/
theorem Saves.state_read {σ : Type} [Store σ] (s : Saves σ) (key : String) :
    (game? (some (s.read key).1)).map SaveRecord.state =
      GameState.ofText? (Store.get key s.store).1.toOption.join :=
  congrArg (Option.map SaveRecord.state) (s.game?_read key)

namespace Saves.Alike

variable {σ : Type} [Store σ] {a b : Saves σ}

theorem write (h : Saves.Alike clock a b) (key : String) (s : GameState) :
    Answered (Saves.Alike clock) (a.write key s) (b.write key s) := by
  have done := Store.blind_alike.set h.store key (.inr ⟨s, _, h.now, rfl, rfl⟩)
  exact ⟨congrArg (Except.mapError SaveError.store) done.1, h.layout, h.now, done.2⟩

theorem remove (h : Saves.Alike clock a b) (key : String) :
    Answered (Saves.Alike clock) (a.remove key) (b.remove key) := by
  have done := Store.blind_alike.delete h.store key
  exact ⟨congrArg (Except.mapError SaveError.store) done.1, h.layout, h.now, done.2⟩

theorem read (h : Saves.Alike clock a b) (key : String) :
    (Saves.game? (some (a.read key).1)).map SaveRecord.state =
        (Saves.game? (some (b.read key).1)).map SaveRecord.state ∧
      Saves.Alike clock (a.read key).2 (b.read key).2 := by
  obtain ⟨fetched, after⟩ := Store.blind_alike.get h.store key
  refine ⟨?_, h.layout, h.now, after⟩
  rw [state_read, state_read]
  generalize (Store.get key a.store).1 = result, (Store.get key b.store).1 = result' at fetched ⊢
  cases fetched with
  | failed e => rfl
  | found texts => exact Restamped.same_game texts

end Saves.Alike
end Storyline
