import Storyline.Proofs.Equality
import Storyline.Proofs.Play.Agreement
import Storyline.Proofs.Validation.Playable

/-!
The store shows in a story through the saved states that are read from it, and through nothing else.
What is in it besides, which calls fail and why, is only seen in whether a game could be saved and in
the list of the slots.
-/

namespace Storyline

/-- What can be asked of a game: an action, or what the slots hold. -/
inductive Demand
  | act (action : Action)
  | slots

inductive Outcome
  | replied (reply : Reply)
  | listed (slots : List (UInt8 × Option SlotInfo))

/-- Outcomes that are the same, but perhaps for whether a game could be saved and for what the slots
hold. -/
def Outcome.Alike : Outcome → Outcome → Prop
  | replied left, replied right => left.Alike right
  | listed _, listed _ => True
  | _, _ => False

/-- What a demand read from the store to go on with, what came of it, and where the game stood then. -/
structure Passage where
  read : Option GameState
  outcome : Outcome
  state : GameState
  wait : Wait

structure Passage.Alike (left right : Passage) : Prop where
  outcome : left.outcome.Alike right.outcome
  state : left.state = right.state
  wait : left.wait = right.wait

namespace Interpreter

variable {σ τ : Type} [Store σ] [Store τ] {a : Interpreter σ} {b : Interpreter τ}

def serve (it : Interpreter σ) : Demand → Outcome × Interpreter σ
  | .act action => (it.act action).map .replied fun it => it
  | .slots => it.slots.map .listed fun it => it

/-- The saved state with which a demand goes on. There is none if the store has no text for it, or
fails to give it, or gives one that is not read as a saved game. -/
def reads (it : Interpreter σ) : Demand → Option GameState
  | .act action => (it.consult action).1.map SaveRecord.state
  | .slots => none

def passages (it : Interpreter σ) : List (UInt64 × Demand) → List Passage
  | [] => []
  | (now, demand) :: rest =>
    let served := (it.atTime now).serve demand
    ⟨(it.atTime now).reads demand, served.1, served.2.state, served.2.wait⟩
      :: served.2.passages rest

omit [Store σ] in
theorem noteLoads_lands (it : Interpreter σ)
    (results : List (UInt8 × Option (Except SaveError (Option SaveRecord)))) :
    Lands it it.saves it.state it.pending
      (results.foldl (fun it r => it.noteLoad r.1 r.2) it) := by
  induction results generalizing it with
  | nil => exact ⟨rfl, rfl, rfl, rfl, rfl⟩
  | cons r results ih =>
    have noted := it.noteLoad_fields r.1 it.saves r.2
    obtain ⟨content, config, saves, state, pending⟩ := ih (it.noteLoad r.1 r.2)
    exact ⟨content.trans noted.content, config.trans noted.config, saves.trans noted.saves,
      state.trans noted.state, pending.trans noted.pending⟩

theorem slots_lands (it : Interpreter σ) :
    Lands it it.saves.loadAll.2 it.state it.pending it.slots.2 := by
  obtain ⟨content, config, saves, state, pending⟩ :=
    noteLoads_lands { it with saves := it.saves.loadAll.2 } it.saves.loadAll.1
  exact ⟨content, config, saves, state, pending⟩

namespace Agree

theorem serve (same : Agree a b) {demand : Demand} (reads : a.reads demand = b.reads demand) :
    (a.serve demand).1.Alike (b.serve demand).1 ∧ Agree (a.serve demand).2 (b.serve demand).2 := by
  cases demand with
  | act action => exact same.act reads
  | slots => exact ⟨trivial, same.lands a.slots_lands b.slots_lands same.state same.pending⟩

theorem passages (same : Agree a b) {left right : List (UInt64 × Demand)}
    (demands : left.map Prod.snd = right.map Prod.snd)
    (reads : (a.passages left).map Passage.read = (b.passages right).map Passage.read) :
    List.Forall₂ Passage.Alike (a.passages left) (b.passages right) := by
  replace demands := timed_alike demands
  -- what the two runs read is compared from the front, so the heads agree before the tails are met
  induction demands generalizing a b with
  | nil => exact .nil
  | @cons first first' left right same' _ ih =>
    obtain ⟨now, demand⟩ := first
    obtain ⟨now', demand'⟩ := first'
    cases same'
    obtain ⟨here, further⟩ := List.cons.inj reads
    obtain ⟨alike, after⟩ := (same.atTime now now').serve here
    exact .cons ⟨alike, after.state, after.wait⟩ (ih after further)

end Agree

/-- Two games of one story over any two stores, whatever these hold and whichever of their calls
fail, are asked the same. As long as they read the same states, every demand is answered alike and
leaves them in the same state, waiting for the same. -/
theorem plays_alike (content : Content) (config : Config) (store : σ) (store' : τ)
    (start start' : UInt64) {left right : List (UInt64 × Demand)}
    (demands : left.map Prod.snd = right.map Prod.snd) :
    let a := Interpreter.new content config store start
    let b := Interpreter.new content config store' start'
    (a.passages left).map Passage.read = (b.passages right).map Passage.read →
      List.Forall₂ Passage.Alike (a.passages left) (b.passages right) := by
  intro a b
  have same : Agree a b := ⟨rfl, rfl, rfl, rfl⟩
  exact same.passages demands

/-- A store that keeps what it is given and never gives it back, and one that takes nothing. -/
theorem plays_alike_tale :
    let deaf : Outage MemoryStore := ⟨⟨.empty⟩, [.get]⟩
    let dumb : Outage MemoryStore := ⟨⟨.empty⟩, [.set, .delete]⟩
    let demands : List (UInt64 × Demand) := [(1, .act .boot), (2, .act (.resume (.playerName "A"))),
      (3, .act (.save 1)), (4, .slots), (5, .act (.resume (.choose 1))), (6, .act (.load 1))]
    let a := Interpreter.new .tale .standard deaf 0
    let b := Interpreter.new .tale .standard dumb 0
    (a.passages demands).map Passage.wait =
      [.playerName, .choice 2, .choice 2, .choice 2, .advance, .advance] ∧
    (a.passages demands)[2]?.map Passage.outcome = some (.replied (.saved true)) ∧
    (b.passages demands)[2]?.map Passage.outcome = some (.replied (.saved false)) ∧
    List.Forall₂ Passage.Alike (a.passages demands) (b.passages demands) := by
  intro deaf dumb demands a b
  have left : (a.passages demands).map Passage.read = List.replicate 6 none := by decide +kernel
  have right : (b.passages demands).map Passage.read = List.replicate 6 none := by decide +kernel
  exact ⟨by decide +kernel, rfl, rfl,
    plays_alike .tale .standard deaf dumb 0 0 rfl (left.trans right.symm)⟩

end Interpreter
end Storyline
