import Storyline.Proofs.Play.Agreement
import Storyline.Proofs.Play.Leads
import Storyline.Proofs.Play.Standing
import Storyline.Proofs.Saves.Keeping
import Storyline.Proofs.Validation.Playable

/-!
The texts under the keys of a store that works, action by action. An action changes at most the slot
that it saves to and the autosave, so what is known of the texts before is known of those after.
-/

namespace Storyline

/-- Content whose real numbers are read as they are written. -/
def Content.Faithful (content : Content) : Prop :=
  content.Holds Value.IsFaithful fun _ v => v.IsFaithful

instance (content : Content) : Decidable content.Faithful :=
  inferInstanceAs (Decidable (content.Holds Value.IsFaithful fun _ v => v.IsFaithful))

theorem Content.parsed_fork : ofText fork.toJson.text = .ok fork := by
  unfold ofText
  rw [Json.readText_scanned]
  decide +kernel

theorem Content.faithful_fork : fork.Faithful := by decide +kernel

/-- Content that never makes a state which is not read back as it is written. -/
structure Content.Savable (content : Content) : Prop where
  storable : content.Storable
  faithful : content.Faithful

theorem Content.savable_ofText {text : String} {content : Content}
    (parsed : ofText text = .ok content) (numbers : content.Faithful) : content.Savable :=
  ⟨storable_ofText parsed, numbers⟩

theorem Content.savable_tale : tale.Savable := by
  have plain : tale.Holds (fun _ => False) fun _ _ => False := by decide +kernel
  exact ⟨plain.imp nofun nofun, plain.imp nofun nofun⟩

def Landing.upkeep (landing : Landing) (layout : SaveLayout) (now : UInt64)
    (entries : Dict String) : Dict String :=
  match landing.stop with
  | some (.checkpoint _) =>
    entries.insert layout.autosaveKey (SaveRecord.encode ⟨landing.state, now⟩)
  | some .ended => entries.erase layout.autosaveKey
  | _ => entries

namespace Interpreter

variable {σ : Type}

def found (it : Interpreter σ) (entries : Dict String) : Action → Option SaveRecord
  | .boot => SaveRecord.ofText? (entries.find? it.saves.layout.autosaveKey)
  | .resume event =>
    if it.pending = .savedGame ∧ event = .choose 1 then
      SaveRecord.ofText? (entries.find? it.saves.layout.autosaveKey)
    else none
  | .load slot =>
    (it.saves.layout.slotKey? slot).bind fun key => SaveRecord.ofText? (entries.find? key)
  | _ => none

def consulted (it : Interpreter σ) (entries : Dict String) : Action → Dict String
  | .restart => entries.erase it.saves.layout.autosaveKey
  | .save slot =>
    match it.saves.layout.slotKey? slot with
    | some key => entries.insert key (SaveRecord.encode ⟨it.state, it.saves.now⟩)
    | none => entries
  | _ => entries

def landingIn (it : Interpreter σ) (entries : Dict String) (action : Action) : Landing :=
  it.land (it.course (it.found entries action) action)

def upkept (it : Interpreter σ) (entries : Dict String) (action : Action) : Dict String :=
  (it.landingIn entries action).upkeep it.saves.layout it.saves.now (it.consulted entries action)

end Interpreter

section FreeValues

variable {F : Value → Prop} {D : String → Value → Prop} {σ : Type}

theorem Content.Holds.retains {content : Content} (hc : content.Holds F D) :
    content.Retains (GameState.Holds F D) where
  named _ _ h := h.of_eq rfl rfl
  entered _ _ _ _ h := h.of_eq rfl rfl
  chosen := by
    intro s id index c chosen h
    unfold Interpreter.option? at chosen
    split at chosen
    · next choices kind =>
      obtain ⟨node, found, same⟩ := Option.map_eq_some_iff.mp kind
      have member := List.mem_of_getElem? chosen
      exact Choice.outcome_keeps h fun e given => (hc.of_node found same member given).apply h
    · cases chosen

theorem Interpreter.holds_land {it : Interpreter σ} (hc : it.content.Holds F D)
    (hs : it.state.Holds F D) {game : Option SaveRecord}
    (hg : ∀ r, game = some r → r.state.Holds F D) (action : Action) :
    (it.land (it.course game action)).state.Holds F D :=
  land_retains hc.retains hs (fun _ => GameState.holds_ofTemplate hc.template _) fun _ => hg

end FreeValues

namespace Interpreter

variable {σ : Type} {content : Content} {config : Config} {entries : Dict String}
  {it : Interpreter σ}

/-- A key that is neither the autosave's nor that of a slot which is saved to keeps its text. -/
theorem find?_upkept {action : Action} {key : String} (other : key ≠ it.saves.layout.autosaveKey)
    (spared : ∀ slot, it.saves.layout.slotKey? slot = some key → action ≠ .save slot) :
    (it.upkept entries action).find? key = entries.find? key := by
  have before : (it.consulted entries action).find? key = entries.find? key := by
    cases action with
    | restart => exact Dict.find?_erase_of_ne entries other
    | save slot =>
      simp only [consulted]
      cases known : it.saves.layout.slotKey? slot with
      | none => rfl
      | some key' =>
        have different : key ≠ key' := by
          rintro rfl
          exact spared slot known rfl
        exact Dict.find?_insert_of_ne entries different _
    | _ => rfl
  rw [← before]
  unfold upkept Landing.upkeep
  cases (it.landingIn entries action).stop with
  | none => rfl
  | some stop =>
    cases stop with
    | checkpoint pending => exact Dict.find?_insert_of_ne _ other _
    | ended => exact Dict.find?_erase_of_ne _ other
    | lost fault => rfl

theorem reusable_upkept (reusable : it.saves.layout.Reusable entries) (savable : it.state.Savable)
    {action : Action} (ends : (it.landingIn entries action).state.Savable) :
    it.saves.layout.Reusable (it.upkept entries action) := by
  have consulted : it.saves.layout.Reusable (it.consulted entries action) := by
    cases action with
    | restart => exact reusable.erase _
    | save slot =>
      simp only [Interpreter.consulted]
      cases it.saves.layout.slotKey? slot with
      | none => exact reusable
      | some key => exact reusable.insert key savable
    | _ => exact reusable
  unfold upkept Landing.upkeep
  cases (it.landingIn entries action).stop with
  | none => exact consulted
  | some stop =>
    cases stop with
    | checkpoint c => exact consulted.insert _ ends
    | ended => exact consulted.erase _
    | lost fault => exact consulted

variable [Store σ]

/-- A game over a store that works. All states in sight, of the game, of its content and of the saved
games, are read back as they are written. -/
structure Steady (content : Content) (config : Config) (entries : Dict String)
    (it : Interpreter σ) : Prop where
  layout : it.saves.layout = config.saves
  content : it.content = content
  config : it.config = config
  suspended : it.Suspended
  savable : it.state.Savable
  keeps : it.saves.Keeps entries

theorem savable_found (keeps : it.saves.Keeps entries) {action : Action} {r : SaveRecord}
    (h : it.found entries action = some r) : r.state.Savable := by
  have autosave := keeps.reusable it.saves.layout.autosaveKey (.inl rfl)
  unfold found at h
  split at h
  · exact autosave r h
  · split at h
    · exact autosave r h
    · cases h
  · obtain ⟨key, slot, held⟩ := Option.bind_eq_some_iff.mp h
    exact keeps.reusable key (.inr ⟨_, slot⟩) r held
  · cases h

theorem consult_works (works : Store.WorksAs it.saves.layout.Uses it.saves.store entries)
    (action : Action) : (it.consult action).1 = it.found entries action ∧
      Store.WorksAs it.saves.layout.Uses (it.consult action).2.store (it.consulted entries action) ∧
      (it.consult action).2.layout = it.saves.layout ∧ (it.consult action).2.now = it.saves.now := by
  have autosave : it.saves.layout.Uses it.saves.layout.autosaveKey := .inl rfl
  cases action with
  | boot =>
    obtain ⟨found, kept⟩ := Saves.read_works works autosave
    exact ⟨found, kept, rfl, rfl⟩
  | newGame => exact ⟨rfl, works, rfl, rfl⟩
  | restart => exact ⟨rfl, (Saves.remove_works works autosave).2, rfl, rfl⟩
  | process id => exact ⟨rfl, works, rfl, rfl⟩
  | resume event =>
    simp only [consult, found, consulted]
    by_cases asked : it.pending = .savedGame ∧ event = .choose 1
    · rw [if_pos asked, if_pos asked]
      obtain ⟨found, kept⟩ := Saves.read_works works autosave
      exact ⟨found, kept, rfl, rfl⟩
    · rw [if_neg asked, if_neg asked]
      exact ⟨rfl, works, rfl, rfl⟩
  | save slot =>
    simp only [consult, found, consulted, Saves.saveTo]
    cases known : it.saves.layout.slotKey? slot with
    | none => exact ⟨trivial, works, rfl, rfl⟩
    | some key => exact ⟨trivial, (Saves.write_works works (.inr ⟨slot, known⟩) it.state).2, rfl, rfl⟩
  | load slot => exact Saves.loadFrom_works works slot

theorem settle_works {saves : Saves σ}
    (works : Store.WorksAs saves.layout.Uses saves.store entries) (landing : Landing) :
    Store.WorksAs saves.layout.Uses (landing.settle saves).store
        (landing.upkeep saves.layout saves.now entries) ∧
      (landing.settle saves).layout = saves.layout := by
  have autosave : saves.layout.Uses saves.layout.autosaveKey := .inl rfl
  unfold Landing.settle Landing.upkeep
  cases landing.stop with
  | none => exact ⟨works, rfl⟩
  | some stop =>
    cases stop with
    | checkpoint pending => exact ⟨(Saves.write_works works autosave landing.state).2, rfl⟩
    | ended => exact ⟨(Saves.remove_works works autosave).2, rfl⟩
    | lost fault => exact ⟨works, rfl⟩

theorem act_works (works : Store.WorksAs it.saves.layout.Uses it.saves.store entries)
    (action : Action) :
    Lands it ((it.landingIn entries action).settle (it.consult action).2)
      (it.landingIn entries action).state (it.landingIn entries action).pending (it.act action).2 ∧
    Store.WorksAs it.saves.layout.Uses (it.act action).2.saves.store (it.upkept entries action) ∧
    (it.act action).2.saves.layout = it.saves.layout := by
  obtain ⟨found, kept, layout, now⟩ := consult_works works action
  obtain ⟨_, lands⟩ := it.act_comes action
  unfold landing at lands
  rw [found] at lands
  rw [← layout] at kept
  obtain ⟨settled, same⟩ := settle_works kept (it.landingIn entries action)
  rw [layout, now] at settled
  refine ⟨lands, ?_, ?_⟩
  · rw [lands.saves]
    exact settled
  · rw [lands.saves]
    exact same.trans layout

def textsAfter (it : Interpreter σ) (entries : Dict String) : List Turn → Dict String
  | [] => entries
  | turn :: turns =>
    (it.take turn).2.textsAfter ((it.atTime turn.now).upkept entries turn.action) turns

/-- A game over a store that works and has these texts. -/
structure Serves (content : Content) (config : Config) (entries : Dict String)
    (it : Interpreter σ) : Prop where
  layout : it.saves.layout = config.saves
  works : Store.WorksAs config.saves.Uses it.saves.store entries
  content : it.content = content
  config : it.config = config

theorem serves_new (content : Content) {store : σ}
    (works : Store.WorksAs config.saves.Uses store entries) (now : UInt64) :
    Serves content config entries (Interpreter.new content config store now) :=
  ⟨rfl, works, rfl, rfl⟩

theorem Serves.atTime (h : Serves content config entries it) (now : UInt64) :
    Serves content config entries (it.atTime now) := ⟨h.layout, h.works, h.content, h.config⟩

theorem Serves.act (h : Serves content config entries it) (action : Action) :
    Serves content config (it.upkept entries action) (it.act action).2 := by
  obtain ⟨lands, works, layout⟩ := act_works (h.layout ▸ h.works) action
  exact ⟨layout.trans h.layout, h.layout ▸ works, lands.content.trans h.content,
    lands.config.trans h.config⟩

theorem Serves.run (h : Serves content config entries it) (turns : List Turn) :
    Serves content config (it.textsAfter entries turns) (it.run turns) := by
  induction turns generalizing it entries with
  | nil => exact h
  | cons turn turns ih => exact ih ((h.atTime turn.now).act turn.action)

/-- A key that is not the autosave's keeps its text over every run that does not save to its slot. -/
theorem Serves.find?_textsAfter (h : Serves content config entries it) {turns : List Turn}
    {key : String} (other : key ≠ config.saves.autosaveKey)
    (spared : ∀ turn ∈ turns, ∀ slot, config.saves.slotKey? slot = some key →
      turn.action ≠ .save slot) :
    (it.textsAfter entries turns).find? key = entries.find? key := by
  induction turns generalizing it entries with
  | nil => rfl
  | cons turn turns ih =>
    have timed := h.atTime turn.now
    have rest := ih (timed.act turn.action)
      fun turn' member => spared turn' (List.mem_cons_of_mem turn member)
    refine rest.trans (find?_upkept ?_ ?_)
    · rwa [timed.layout]
    · rw [timed.layout]
      exact spared turn List.mem_cons_self

theorem Serves.slot_textsAfter (h : Serves content config entries it) {turns : List Turn}
    {slot : UInt8} {key : String} (known : config.saves.slotKey? slot = some key)
    (own : config.saves.slotKey? slot ≠ some config.saves.autosaveKey)
    (spared : ∀ turn ∈ turns, turn.action ≠ .save slot) :
    (it.textsAfter entries turns).find? key = entries.find? key := by
  refine h.find?_textsAfter (fun same => own (same ▸ known)) ?_
  intro turn member slot' known'
  rw [SaveLayout.slotKey?_inj known' known]
  exact spared turn member

theorem Steady.serves (h : Steady content config entries it) : Serves content config entries it :=
  ⟨h.layout, h.layout ▸ h.keeps.works, h.content, h.config⟩

theorem Steady.act_lands (h : Steady content config entries it) (action : Action) :
    Lands it (((it.landingIn entries action).settle (it.consult action).2))
      (it.landingIn entries action).state (it.landingIn entries action).pending (it.act action).2 :=
  (act_works h.keeps.works action).1

theorem Steady.act (h : Steady content config entries it) (story : content.Savable) (action : Action) :
    Steady content config (it.upkept entries action) (it.act action).2 := by
  obtain ⟨lands, works, layout⟩ := act_works h.keeps.works action
  have free : ∀ r, it.found entries action = some r → r.state.Savable :=
    fun r found => savable_found h.keeps found
  have savable : (it.landingIn entries action).state.Savable := by
    constructor
    · exact holds_land (h.content ▸ story.storable) h.savable.storable
        (fun r found => (free r found).storable) action
    · exact holds_land (h.content ▸ story.faithful) h.savable.faithful
        (fun r found => (free r found).faithful) action
  constructor
  · exact layout.trans h.layout
  · exact lands.content.trans h.content
  · exact lands.config.trans h.config
  · exact h.suspended.act action
  · rw [lands.state]
    exact savable
  · rw [← layout] at works
    refine ⟨works, ?_⟩
    rw [layout]
    exact reusable_upkept h.keeps.reusable h.savable savable

theorem steady_new {store : σ} {now : UInt64} (story : content.Savable)
    (keeps : (Saves.mk store config.saves now).Keeps entries) :
    Steady content config entries (Interpreter.new content config store now) where
  layout := rfl
  content := rfl
  config := rfl
  suspended := suspended_new content config store now
  savable := ⟨GameState.holds_ofTemplate story.storable.template _,
    GameState.holds_ofTemplate story.faithful.template _⟩
  keeps := keeps

theorem steady_of_works (story : content.Savable) (config : Config) {store : σ}
    (works : Store.Works config.saves.Uses store) (saved : Store.Faithful config.saves.Uses store)
    (start : UInt64) :
    ∃ entries, Steady content config entries (Interpreter.new content config store start) := by
  obtain ⟨entries, works⟩ := works
  have keeps : (Saves.mk store config.saves start).Keeps entries :=
    Saves.keeps_of_works works saved
  exact ⟨entries, steady_new story keeps⟩

theorem Steady.renewed (h : Steady content config entries it) (story : content.Savable)
    (now : UInt64) :
    Steady content config entries (Interpreter.new content config it.saves.store now) := by
  obtain ⟨works, reusable⟩ := h.keeps
  rw [h.layout] at works reusable
  exact steady_new story ⟨works, reusable⟩

theorem Steady.atTime (h : Steady content config entries it) (now : UInt64) :
    Steady content config entries (it.atTime now) :=
  ⟨h.layout, h.content, h.config, h.suspended, h.savable, h.keeps.works, h.keeps.reusable⟩

theorem Steady.run (h : Steady content config entries it) (story : content.Savable)
    (turns : List Turn) : Steady content config (it.textsAfter entries turns) (it.run turns) := by
  induction turns generalizing it entries with
  | nil => exact h
  | cons turn turns ih => exact ih ((h.atTime turn.now).act story turn.action)

/-- Two such games that wait at a node in the same state are not told apart by any events, whatever
else is in the store. -/
theorem Steady.hear {a b : Interpreter σ} {entries' : Dict String}
    (left : Steady content config entries a) (right : Steady content config entries' b)
    (state : a.state = b.state) (pending : a.pending = b.pending) (node : b.pending.AtNode)
    {events events' : List (UInt64 × Event)}
    (same : events.map Prod.snd = events'.map Prod.snd) : a.hear events = b.hear events' := by
  have agree : Agree a b :=
    ⟨left.content.trans right.content.symm, left.config.trans right.config.symm, state, pending⟩
  have calm : a.pending ≠ .savedGame := by
    rw [pending]
    exact node.ne_savedGame
  exact agree.hear calm same

end Interpreter
end Storyline
