import Storyline.Proofs.Play.Soundness

/-!
Several games of one story over one store, which have their turns in any order. What one of them
saves, another may load.
-/

namespace Storyline

/-- The games that were begun, the store between the turns, and what came of all turns so far. -/
structure Table (σ : Type) where
  store : σ
  games : List (Interpreter σ)
  replies : List Reply

/-- A new game, or a turn of one that was begun before. -/
inductive Move
  | start (config : Config) (now : UInt64)
  | play (game : Nat) (turn : Turn)

def Move.Fits (content : Content) : Move → Prop
  | start .. => True
  | play _ turn => turn.action.Fits content

/-- The same game over the store as another left it. -/
def Interpreter.seated {σ : Type} (it : Interpreter σ) (store : σ) : Interpreter σ :=
  { it with saves := { it.saves with store := store } }

theorem Interpreter.Sound.seated {σ : Type} {content : Content} {it : Interpreter σ}
    (h : it.Sound content) (store : σ) (now : UInt64) :
    ((it.seated store).atTime now).Sound content :=
  ⟨h.story, h.node, h.suspended, h.journal⟩

namespace Table

variable {σ : Type}

def empty (store : σ) : Table σ := ⟨store, [], []⟩

variable [Store σ]

def move (content : Content) (t : Table σ) : Move → Table σ
  | .start config now => { t with games := t.games ++ [.new content config t.store now] }
  | .play game turn =>
    match t.games[game]? with
    | none => t
    | some it =>
      let (reply, it) := (it.seated t.store).take turn
      ⟨it.saves.store, t.games.set game it, reply :: t.replies⟩

def run (content : Content) (t : Table σ) : List Move → Table σ
  | [] => t
  | m :: moves => run content (t.move content m) moves

/-- All games are as they should be, the store has nothing but what they wrote, and no error was
shown but that branches go in a cycle. -/
structure Sound (content : Content) (start : σ) (t : Table σ) : Prop where
  trusted : Store.Trusted content.Wrote start t.store
  games : ∀ it ∈ t.games, it.Sound content
  replies : ∀ reply ∈ t.replies, ∀ message ∈ reply.errors,
    ∃ id, message = (ContentFault.branchCycle id).message

variable {content : Content} {start : σ} {t : Table σ}

theorem Sound.move (h : t.Sound content start) (playable : content.Playable)
    (honest : Store.Honest start) {m : Move} (fits : m.Fits content) :
    (t.move content m).Sound content start := by
  cases m with
  | start config now =>
    refine ⟨h.trusted, ?_, h.replies⟩
    intro it member
    rcases List.mem_append.mp member with old | new
    · exact h.games it old
    · cases List.mem_singleton.mp new
      exact Interpreter.sound_new playable config t.store now
  | play game turn =>
    simp only [Table.move]
    cases seated : t.games[game]? with
    | none => exact h
    | some it =>
      simp only
      have ready := (h.games it (List.mem_of_getElem? seated)).seated t.store turn.now
      obtain ⟨sound, trusted, quiet⟩ := ready.act playable honest h.trusted fits
      refine ⟨trusted, ?_, ?_⟩
      · intro other member
        rcases List.mem_or_eq_of_mem_set member with old | rfl
        · exact h.games other old
        · exact sound
      · intro reply member
        rcases List.mem_cons.mp member with rfl | old
        · exact quiet
        · exact h.replies reply old

theorem Sound.run (h : t.Sound content start) (playable : content.Playable)
    (honest : Store.Honest start) {moves : List Move} (fits : ∀ m ∈ moves, m.Fits content) :
    (t.run content moves).Sound content start := by
  induction moves generalizing t with
  | nil => exact h
  | cons m moves ih =>
    have next := h.move playable honest (fits m List.mem_cons_self)
    exact ih next fun m' member => fits m' (List.mem_cons_of_mem m member)

end Table

def ContentFault.initial : ContentFault → Char
  | missingNode _ => 'N'
  | missingChoice .. => 'C'
  | branchCycle _ => 'B'

theorem ContentFault.message_initial (fault : ContentFault) :
    fault.message.toList[12]? = some fault.initial := by
  cases fault with
  | missingNode id =>
    have start : ("Game error: Node \"" : String).toList[12]? = some 'N' := by simp
    exact letter_of_start (letter_of_start start id) _
  | missingChoice index id =>
    have start : ("Game error: Choice " : String).toList[12]? = some 'C' := by simp
    exact letter_of_start (letter_of_start (letter_of_start (letter_of_start start _) _) id) _
  | branchCycle id =>
    have start : ("Game error: Branch cycle detected at \"" : String).toList[12]? = some 'B' := by simp
    exact letter_of_start (letter_of_start start id) _

theorem ContentFault.initial_of_message {a b : ContentFault} (same : a.message = b.message) :
    a.initial = b.initial := by
  have initials := congrArg (·.toList[12]?) same
  simp only [message_initial] at initials
  exact Option.some.inj initials

/-- Games on content that is checked without errors never come to a fault: whatever is done in
whatever order, and whatever the store fails to do, each is at a node that exists and, unless it has
halted, can be gone on with. -/
theorem Table.sound_of_validate {σ : Type} [Store σ] {content : Content}
    (clean : content.validate.hasErrors = false) {start : σ} (honest : Store.Honest start)
    {moves : List Move} (fits : ∀ m ∈ moves, m.Fits content) :
    let table := (Table.empty start).run content moves
    (∀ reply ∈ table.replies, ∀ message ∈ reply.errors,
      (∃ id, message = (ContentFault.branchCycle id).message) ∧
      (∀ id, message ≠ (ContentFault.missingNode id).message) ∧
      ∀ index id, message ≠ (ContentFault.missingChoice index id).message) ∧
    ∀ it ∈ table.games,
      content.hasNode it.state.currentNode = true ∧
      (∀ id message, .boundMissing id message ∉ it.journal) ∧
      (∀ count, it.wait = .choice count → 1 ≤ count) ∧
      (it.wait ≠ .halted → ∃ event, ∀ now, ∃ out,
        (((it.seated table.store).atTime now).respond event).1 = .ok out) := by
  intro table
  have playable := Content.playable_of_validate clean
  have nothing : (Table.empty start).Sound content start :=
    ⟨.refl, fun _ absent => (List.not_mem_nil absent).elim,
      fun _ absent => (List.not_mem_nil absent).elim⟩
  obtain ⟨trusted, games, replies⟩ := nothing.run playable honest fits
  constructor
  · intro reply member message shown
    obtain ⟨id, rfl⟩ := replies reply member message shown
    refine ⟨⟨id, rfl⟩, ?_, ?_⟩
    · intro id' same
      cases ContentFault.initial_of_message same
    · intro index id' same
      cases ContentFault.initial_of_message same
  · intro it member
    have sound := games it member
    refine ⟨sound.node, sound.journal, ?_, ?_⟩
    · intro count waits
      obtain ⟨id, pending⟩ := Pending.choice_of_wait waits
      exact sound.count_pos playable pending
    · intro waits
      refine ⟨Interpreter.opening it.pending, ?_⟩
      intro now
      exact (sound.seated table.store now).accepts playable waits

theorem Table.sound_fork :
    let moves : List Move := [.start .standard 0, .play 0 ⟨1, .newGame⟩,
      .play 0 ⟨2, .resume (.playerName "A")⟩, .start .standard 3, .play 1 ⟨4, .newGame⟩,
      .play 1 ⟨5, .resume (.playerName "B")⟩]
    let table := (Table.empty (MemoryStore.mk .empty)).run .fork moves
    table.games.map Interpreter.wait = [.choice 2, .choice 2] ∧
      ∀ it ∈ table.games, Content.fork.hasNode it.state.currentNode = true ∧
        ∃ event, ∀ now, ∃ out, (((it.seated table.store).atTime now).respond event).1 = .ok out := by
  intro moves table
  have waits : table.games.map Interpreter.wait = [.choice 2, .choice 2] := by decide +kernel
  have fits : ∀ m ∈ moves, m.Fits .fork := by
    simp only [moves, List.forall_mem_cons]
    exact ⟨trivial, trivial, trivial, trivial, trivial, trivial, nofun⟩
  obtain ⟨_, games⟩ := sound_of_validate Content.clean_fork Store.honest_memory fits
  refine ⟨waits, ?_⟩
  intro it member
  obtain ⟨node, _, _, accepts⟩ := games it member
  have wait : it.wait = .choice 2 := by
    have listed := List.mem_map_of_mem (f := Interpreter.wait) member
    rw [waits] at listed
    simpa using listed
  refine ⟨node, accepts ?_⟩
  rw [wait]
  exact nofun

end Storyline
