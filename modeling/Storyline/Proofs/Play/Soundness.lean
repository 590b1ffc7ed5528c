import Storyline.Proofs.Play.Journal
import Storyline.Proofs.Play.Leads
import Storyline.Proofs.Play.Standing
import Storyline.Proofs.Rules.Effects
import Storyline.Proofs.Saves.Fields
import Storyline.Proofs.Saves.Keeping

/-!
Games on playable content. They are always at a node, lose their way in a cycle of branches only, and
go on from whatever they wait for. The store may fail at any time, as long as it makes nothing up.
-/

namespace Storyline

/-- A text that was written for a game at a node of the story. -/
def Content.Wrote (content : Content) (text : String) : Prop :=
  ∃ r : SaveRecord, content.hasNode r.state.currentNode = true ∧ text = r.encode

theorem Content.outlasts_node (content : Content) :
    SaveRecord.Outlasts fun s => content.hasNode s.currentNode = true := by
  intro r r' read node
  rw [SaveRecord.currentNode_decode_encode read]
  exact node

/-- An action that names no node which does not exist. -/
def Action.Fits (content : Content) : Action → Prop
  | process id => content.hasNode id = true
  | _ => True

def GameState.whereabouts (s : GameState) : String × String := (s.currentNode, s.playerName)

theorem Choice.outcome_whereabouts (c : Choice) (s : GameState) :
    (c.outcome s).whereabouts = s.whereabouts :=
  outcome_keeps (P := fun s' => s'.whereabouts = s.whereabouts) rfl fun e _ => by
    rw [e.apply_eq]
    rfl

theorem Choice.outcome_currentNode (c : Choice) (s : GameState) :
    (c.outcome s).currentNode = s.currentNode := congrArg Prod.fst (c.outcome_whereabouts s)

theorem Choice.outcome_playerName (c : Choice) (s : GameState) :
    (c.outcome s).playerName = s.playerName := congrArg Prod.snd (c.outcome_whereabouts s)

/-- Where a course may end: at a node, lost in a cycle of branches if at all. -/
structure Landing.Safe (content : Content) (landing : Landing) : Prop where
  node : content.hasNode landing.state.currentNode = true
  fault : ∀ fault, landing.fault = some fault → ∃ id, fault = .branchCycle id

theorem Landing.Safe.calm {content : Content} {landing : Landing}
    (node : content.hasNode landing.state.currentNode = true) (calm : landing.fault = none) :
    landing.Safe content := by
  refine ⟨node, ?_⟩
  intro fault found
  rw [calm] at found
  cases found

section Trust

variable {σ : Type} [Store σ] {P : GameState → Prop} {start : σ}

theorem Landing.settle_trusted {s : Saves σ}
    (trusted : Store.Trusted (SaveRecord.Wrote P) start s.store) {landing : Landing}
    (good : ∀ c, landing.stop = some (.checkpoint c) → P landing.state) :
    Store.Trusted (SaveRecord.Wrote P) start (landing.settle s).store := by
  unfold Landing.settle
  cases stops : landing.stop with
  | none => exact trusted
  | some stop =>
    cases stop with
    | checkpoint c => exact Saves.write_trusted trusted _ (good c stops)
    | ended => exact trusted.delete _
    | lost fault => exact trusted

/-- An action finds only such games as the store was given, and gives it no others if it saves none. -/
theorem Interpreter.consult_trusted {it : Interpreter σ} (outlasts : SaveRecord.Outlasts P)
    (honest : Store.Honest start)
    (trusted : Store.Trusted (SaveRecord.Wrote P) start it.saves.store) {action : Action}
    (good : ∀ slot, action = .save slot → P it.state) :
    Store.Trusted (SaveRecord.Wrote P) start (it.consult action).2.store ∧
      ∀ r, (it.consult action).1 = some r → P r.state := by
  cases action with
  | boot => exact Saves.read_trusted outlasts honest trusted _
  | newGame => exact ⟨trusted, nofun⟩
  | restart => exact ⟨trusted.delete _, nofun⟩
  | process id => exact ⟨trusted, nofun⟩
  | resume event =>
    simp only [consult]
    split
    · exact Saves.read_trusted outlasts honest trusted _
    · exact ⟨trusted, nofun⟩
  | save slot =>
    refine ⟨?_, nofun⟩
    simp only [consult, Saves.saveTo]
    cases it.saves.layout.slotKey? slot with
    | none => exact trusted
    | some key => exact Saves.write_trusted trusted key (good slot rfl)
  | load slot =>
    simp only [consult, Saves.loadFrom]
    cases it.saves.layout.slotKey? slot with
    | none => exact ⟨trusted, nofun⟩
    | some key => exact Saves.read_trusted outlasts honest trusted key

end Trust

namespace Interpreter

variable {σ : Type} {content : Content} {it : Interpreter σ}

structure Sound (content : Content) (it : Interpreter σ) : Prop where
  story : it.content = content
  node : content.hasNode it.state.currentNode = true
  suspended : it.Suspended
  journal : ∀ id message, .boundMissing id message ∉ it.journal

theorem land_goes (playable : content.Playable) (same : it.content = content) (s : GameState)
    {id : String} (there : content.hasNode id = true) : (it.land (.goes s id)).Safe content := by
  have way := playable.walk s there it.config.hopLimit
  rw [← same] at way
  exact ⟨same ▸ way.1, way.2⟩

/-- An event that is accepted: a name, going on, or the first option. -/
def opening : Pending → Event
  | .playerName => .playerName "A"
  | .advance _ => .advance
  | _ => .choose 1

namespace Sound

theorem begins (h : it.Sound content) (playable : content.Playable) :
    (it.land .begins).Safe content := by
  refine .calm ?_ rfl
  have start := playable.start
  rw [← h.story] at start ⊢
  exact start

theorem advances (h : it.Sound content) (playable : content.Playable) {next : String}
    (waits : it.pending = .advance (some next)) : content.hasNode next = true := by
  have pending : it.pending = (Checkpoint.narrative (some next)).pending := waits
  obtain ⟨node, found, kind⟩ := h.suspended.asked pending
  rw [h.story] at found
  exact playable.next found kind

theorem chooses (h : it.Sound content) (playable : content.Playable) {id : String} {count : Nat}
    (waits : it.pending = .choice id count) {index : Nat} (fits : inRange index count = true) :
    ∃ c, option? content id index = some c ∧
      ∀ next, c.next = some next → content.hasNode next = true := by
  have pending : it.pending = (Checkpoint.choice id count).pending := waits
  obtain ⟨node, found, rfl, choices, kind, rfl⟩ := h.suspended.asked pending
  obtain ⟨_, c, option⟩ := h.suspended.option waits fits
  rw [h.story] at found option
  refine ⟨c, option, ?_⟩
  intro next leads
  rw [option?_choice found kind] at option
  exact playable.chosen found kind (List.mem_of_getElem? option) leads

theorem count_pos (h : it.Sound content) (playable : content.Playable) {id : String} {count : Nat}
    (waits : it.pending = .choice id count) : 1 ≤ count := by
  have pending : it.pending = (Checkpoint.choice id count).pending := waits
  obtain ⟨node, found, _, choices, kind, rfl⟩ := h.suspended.asked pending
  rw [h.story] at found
  exact List.length_pos_iff.mpr (playable.options _ node choices found kind)

theorem course (h : it.Sound content) (playable : content.Playable) {game : Option SaveRecord}
    (nodes : ∀ r, game = some r → content.hasNode r.state.currentNode = true) {action : Action}
    (fits : action.Fits content) : (it.land (it.course game action)).Safe content := by
  have leads := it.course_leads game action
  generalize it.course game action = course at leads ⊢
  cases leads with
  | stays => exact .calm h.node rfl
  | begins => exact h.begins playable
  | offers => exact .calm h.node rfl
  | loads _ r _ found => exact land_goes playable h.story r.state (nodes r found)
  | names => exact land_goes playable h.story _ h.node
  | advances next waits => exact land_goes playable h.story it.state (h.advances playable waits)
  | stops => exact .calm h.node rfl
  | picks id count index c next waits range chosen way =>
    obtain ⟨c', chosen', leads⟩ := h.chooses playable waits range
    rw [h.story, chosen'] at chosen
    cases chosen
    exact land_goes playable h.story _ (leads next way)
  | ends id count index c =>
    refine .calm ?_ rfl
    simp only [land, c.outcome_currentNode]
    exact h.node
  | misses id count index waits range missing =>
    obtain ⟨_, c, there⟩ := h.suspended.option waits range
    rw [missing] at there
    cases there
  | sends id => exact land_goes playable h.story it.state fits

variable [Store σ]

theorem accepts (h : it.Sound content) (playable : content.Playable) (waits : it.wait ≠ .halted) :
    ∃ out, (it.respond (opening it.pending)).1 = .ok out := by
  unfold respond resume
  cases pending : it.pending with
  | playerName =>
    have capitals : Text.uppercase (Text.trim "A") = "A" := by decide
    have named : ("A" : String).isEmpty = false := by decide
    simp only [opening, takeName, capitals, named]
    exact ⟨_, rfl⟩
  | advance next => exact ⟨_, rfl⟩
  | choice id count =>
    have fits : inRange 1 count = true :=
      (inRange_iff 1 count).mpr ⟨Nat.le_refl 1, h.count_pos playable pending⟩
    simp only [opening, if_pos fits]
    exact ⟨_, rfl⟩
  | savedGame => exact ⟨_, rfl⟩
  | restart => exact ⟨_, rfl⟩
  | halted => exact absurd (congrArg Pending.wait pending) waits

variable {start : σ}

theorem consult (h : it.Sound content) (honest : Store.Honest start)
    (trusted : Store.Trusted content.Wrote start it.saves.store) (action : Action) :
    Store.Trusted content.Wrote start (it.consult action).2.store ∧
      ∀ r, (it.consult action).1 = some r → content.hasNode r.state.currentNode = true :=
  consult_trusted (P := fun s => content.hasNode s.currentNode = true) content.outlasts_node honest
    trusted fun _ _ => h.node

/-- Every action keeps a game as it should be and the store free of anything else, and shows no error
but that branches go in a cycle. -/
theorem act (h : it.Sound content) (playable : content.Playable) (honest : Store.Honest start)
    (trusted : Store.Trusted content.Wrote start it.saves.store) {action : Action}
    (fits : action.Fits content) :
    (it.act action).2.Sound content ∧
      Store.Trusted content.Wrote start (it.act action).2.saves.store ∧
      ∀ message ∈ (it.act action).1.errors, ∃ id, message = (ContentFault.branchCycle id).message := by
  obtain ⟨kept, nodes⟩ := h.consult honest trusted action
  have safe : (it.landing action).Safe content := h.course playable nodes fits
  obtain ⟨errors, lands⟩ := it.act_comes action
  obtain ⟨_, notes, journal, reasons⟩ := it.act_grows action
  refine ⟨⟨lands.content.trans h.story, ?_, h.suspended.act action, ?_⟩, ?_, ?_⟩
  · rw [lands.state]
    exact safe.node
  · intro id message member
    rw [journal] at member
    rcases List.mem_append.mp member with new | old
    · obtain ⟨node, condition, found, kind, unbounded⟩ := reasons _ new
      rw [h.story] at found
      exact unbounded (playable.bounds id node condition found kind)
    · exact h.journal id message old
  · rw [lands.saves]
    exact Landing.settle_trusted (P := fun s => content.hasNode s.currentNode = true) kept
      fun _ _ => safe.node
  · intro message member
    rw [errors] at member
    unfold ContentFault.messages at member
    obtain ⟨fault, same, rfl⟩ := Option.map_eq_some_iff.mp (Option.mem_toList.mp member)
    obtain ⟨id, rfl⟩ := safe.fault fault same
    exact ⟨id, rfl⟩

end Sound

theorem sound_new (playable : content.Playable) (config : Config) (store : σ) (now : UInt64) :
    (Interpreter.new content config store now).Sound content where
  story := rfl
  node := playable.start
  suspended := suspended_new content config store now
  journal := fun _ _ absent => (List.not_mem_nil absent).elim

end Interpreter
end Storyline
