import Storyline.Proofs.Play.Course
import Storyline.Proofs.Play.Trail

/-!
The nodes that a game enters. The journal has each of them when it is entered, also a branch that is
left at once; they are those of the trail of every course that goes on through the story.
-/

namespace Storyline

/-- The node that was entered. -/
def Note.node? : Note → Option String
  | entered _ id => some id
  | _ => none

theorem Content.entered_single {content : Content} {s : GameState} {id : String} {node : Node}
    (found : content.node? id = some node) (stops : node.kind.isBranch = false) (hops : Nat) :
    content.entered (content.trail s id hops) = [(id, node)] := by
  rw [trail_single found stops, entered_cons found]
  rfl

namespace Interpreter

variable {σ : Type} {it : Interpreter σ}

/-- All nodes that were entered, the last one first. -/
def visited (it : Interpreter σ) : List String := it.journal.filterMap Note.node?

/-- The nodes that are entered on a course. -/
def entering (it : Interpreter σ) : Course → List String
  | .goes s id => (it.content.entered (it.content.trail s id it.config.hopLimit)).map Prod.fst
  | _ => []

/-- Whether just these nodes were entered after all that were before. -/
def Visits (before : Interpreter σ) (ids : List String) (it : Interpreter σ) : Prop :=
  it.visited = ids.reverse ++ before.visited

theorem mem_visited {id : String} : id ∈ it.visited ↔ ∃ kind, .entered kind id ∈ it.journal := by
  unfold visited
  rw [List.mem_filterMap]
  constructor
  · rintro ⟨n, member, entered⟩
    cases n with
    | entered kind node =>
      cases entered
      exact ⟨kind, member⟩
    | _ => cases entered
  · rintro ⟨kind, member⟩
    exact ⟨_, member, rfl⟩

theorem visited_noteFailure {α : Type} (it : Interpreter σ) (operation : SaveOperation)
    (result : Except SaveError α) : (it.noteFailure operation result).visited = it.visited := by
  cases result <;> rfl

theorem visited_noteLoad (it : Interpreter σ) (slot : UInt8)
    (result : Option (Except SaveError (Option SaveRecord))) :
    (it.noteLoad slot result).visited = it.visited := by
  rcases result with _ | _ | _ <;> rfl

theorem visited_route (it : Interpreter σ) (id : String) (condition : Condition) :
    (it.route id condition).2.visited = it.visited := by
  unfold route
  cases condition.target it.state <;> rfl

theorem startNewGame_visits {before : Interpreter σ} (same : it.visited = before.visited) :
    before.Visits [] it.startNewGame.2 := same

variable [Store σ]

theorem visited_autoSave (it : Interpreter σ) : it.autoSave.visited = it.visited :=
  visited_noteFailure _ _ _

theorem visited_clearAutosave (it : Interpreter σ) : it.clearAutosave.visited = it.visited :=
  visited_noteFailure _ _ _

theorem visited_loadAutosave (it : Interpreter σ) : it.loadAutosave.2.visited = it.visited :=
  visited_noteFailure _ _ _

theorem visited_arrive (it : Interpreter σ) (id : String) (node : Node) :
    (it.arrive id node).visited = id :: it.visited := by
  unfold arrive
  split
  · exact visited_autoSave _
  · rfl

theorem enter_visits (it : Interpreter σ) (id : String) (hops : Nat) :
    it.Visits ((it.content.entered (it.content.trail it.state id hops)).map Prod.fst)
      (it.enter id hops).2 := by
  unfold Visits
  fun_induction enter it id hops with
  | case1 hops it id missing =>
    rw [Content.trail_stops (Content.successor?_missing missing), Content.entered_missing missing]
    rfl
  | case2 hops it id node found at_node header next kind shown it' shows =>
    cases shows
    rw [Content.entered_single found (by rw [kind]; rfl)]
    exact it.visited_arrive id node
  | case3 hops it id node found at_node header choices kind shown it' shows =>
    cases shows
    rw [Content.entered_single found (by rw [kind]; rfl)]
    exact it.visited_arrive id node
  | case4 hops it id node found at_node header kind shown it' shows =>
    cases shows
    rw [Content.entered_single found (by rw [kind]; rfl)]
    exact (visited_clearAutosave _).trans (it.visited_arrive id node)
  | case5 it id node found at_node header condition kind shown it' shows =>
    cases shows
    rw [Content.trail, Content.entered_cons found]
    exact it.visited_arrive id node
  | case6 it id node found at_node header condition kind hops target it' routed shown it'' shows ih =>
    have passes : node.isCheckpoint = false := by simp only [Node.isCheckpoint, kind]
    have here : Lands it it.saves (it.state.entering id node) it.pending at_node :=
      it.arrive_passing id passes
    obtain ⟨leads, there⟩ := at_node.route_next id condition
    have quiet := at_node.visited_route id condition
    rw [routed] at leads there quiet
    rw [shows] at ih
    have leads : target = condition.next (it.state.entering id node) :=
      leads.trans (by rw [here.state])
    have next : it.content.successor? it.state id = some target :=
      (Content.successor?_branch found kind).trans (congrArg some leads.symm)
    rw [ih, Content.trail_succ next, Content.entered_cons found, there.content, there.state,
      here.content, here.state, Content.trail_entering, quiet]
    have arrived : at_node.visited = id :: it.visited := it.visited_arrive id node
    rw [arrived, List.map_cons, List.reverse_cons, List.append_assoc]
    rfl

section Courses

variable {before : Interpreter σ} {saves : Saves σ} {state : GameState} {pending : Pending}

theorem goTo_visits (here : Lands before saves state pending it) (same : it.visited = before.visited)
    (id : String) : before.Visits (before.entering (.goes state id)) (it.goTo id).2 := by
  have way := it.enter_visits id it.config.hopLimit
  unfold Visits at way ⊢
  rw [here.content, here.config, here.state, same] at way
  unfold goTo
  rw [here.config]
  exact way

theorem resumeGame_visits (here : Lands before saves state pending it)
    (same : it.visited = before.visited) (game : SaveRecord) :
    before.Visits (before.entering game.course) (it.resumeGame game).2 := by
  have taken : Lands before saves game.state pending
      ({ it with state := game.state }.note (.gameLoaded game.timestamp game.state.currentNode)) :=
    ⟨here.content, here.config, here.saves, rfl, here.pending⟩
  have noted : ({ it with state := game.state }.note
      (.gameLoaded game.timestamp game.state.currentNode)).visited = before.visited := same
  exact goTo_visits taken noted game.state.currentNode

end Courses

theorem boot_visits (it : Interpreter σ) :
    it.Visits (it.entering (it.course (it.consult .boot).1 .boot)) it.boot.2 := by
  have same := it.visited_loadAutosave
  have found := it.loadAutosave_lands.1
  unfold boot course consult
  rw [← found]
  cases loaded : it.loadAutosave with
  | mk game it' =>
    rw [loaded] at same
    cases game with
    | some game => exact same
    | none => exact startNewGame_visits same

theorem continueSavedGame_visits (it : Interpreter σ) :
    it.Visits (it.entering
        (((Saves.game? (some it.saves.loadAutosave.1)).map SaveRecord.course).getD .begins))
      it.continueSavedGame.2 := by
  obtain ⟨found, here⟩ := it.loadAutosave_lands
  have same := it.visited_loadAutosave
  unfold continueSavedGame
  rw [← found]
  cases loaded : it.loadAutosave with
  | mk game it' =>
    rw [loaded] at same here
    cases game with
    | some game => exact resumeGame_visits here same game
    | none => exact startNewGame_visits same

theorem choose_visits (it : Interpreter σ) (id : String) (index : Nat) :
    it.Visits (it.entering (match option? it.content id index with
      | some c => c.course it.state
      | none => .halts it.state (some (.missingChoice index id)))) (it.choose id index).2 := by
  unfold choose
  cases option? it.content id index with
  | none => exact rfl
  | some c =>
    simp only [Choice.course]
    cases c.next with
    | none => exact rfl
    | some next =>
      have here : Lands it it.saves (c.outcome it.state) it.pending
          { it.note (.chosen id index c.text) with state := c.outcome it.state } :=
        ⟨rfl, rfl, rfl, rfl, rfl⟩
      exact goTo_visits here rfl next

theorem respond_visits (it : Interpreter σ) (event : Event) :
    it.Visits (it.entering (it.course (it.consult (.resume event)).1 (.resume event)))
      (it.respond event).2 := by
  have same : Lands it it.saves it.state it.pending it := ⟨rfl, rfl, rfl, rfl, rfl⟩
  by_cases recalls : it.pending = .savedGame ∧ event = .choose 1
  · obtain ⟨waits, rfl⟩ := recalls
    have looked : it.consult (.resume (.choose 1)) =
        (Saves.game? (some it.saves.loadAutosave.1), it.saves.loadAutosave.2) := if_pos ⟨waits, rfl⟩
    unfold respond resume course courseOf
    rw [looked, waits]
    exact it.continueSavedGame_visits
  · rw [consult_resume recalls]
    unfold respond resume course courseOf
    cases waits : it.pending with
    | playerName =>
      cases event with
      | playerName name =>
        simp only [takeName]
        -- The table of capitals is of no concern here.
        generalize Text.uppercase (Text.trim name) = capitals
        unfold named
        by_cases empty : capitals.isEmpty = true
        · simp only [if_pos empty]
          exact rfl
        · have named : Lands it it.saves { it.state with playerName := capitals } it.pending
              ({ it with state := { it.state with playerName := capitals } }.note
                (.playerNamed capitals)) := ⟨rfl, rfl, rfl, rfl, rfl⟩
          simp only [if_neg empty]
          exact goTo_visits named rfl it.state.currentNode
      | _ => exact rfl
    | advance next =>
      cases event with
      | advance =>
        cases next with
        | none => exact rfl
        | some next => exact goTo_visits same rfl next
      | _ => exact rfl
    | choice id count =>
      cases event with
      | choose index =>
        by_cases fits : inRange index count = true
        · simp only [if_pos fits]
          exact it.choose_visits id index
        · simp only [if_neg fits]
          exact rfl
      | _ => exact rfl
    | savedGame =>
      cases event with
      | choose index =>
        by_cases first : index = 1
        · exact absurd ⟨waits, congrArg Event.choose first⟩ recalls
        · simp only [if_neg first]
          by_cases second : index = 2
          · simp only [if_pos second]
            exact startNewGame_visits rfl
          · simp only [if_neg second]
            exact rfl
      | _ => exact rfl
    | restart =>
      cases event with
      | choose index =>
        by_cases fits : inRange index 1 = true
        · simp only [if_pos fits]
          exact startNewGame_visits rfl
        · simp only [if_neg fits]
          exact rfl
      | _ => exact rfl
    | halted => cases event <;> exact rfl

theorem load_visits (it : Interpreter σ) (slot : UInt8) :
    it.Visits (it.entering (it.course (it.consult (.load slot)).1 (.load slot)))
      (it.act (.load slot)).2 := by
  have here := noteLoad_fields it slot (it.saves.loadFrom slot).2 (it.saves.loadFrom slot).1
  have same := visited_noteLoad { it with saves := (it.saves.loadFrom slot).2 } slot
    (it.saves.loadFrom slot).1
  unfold act loadFrom course consult
  cases found : Saves.game? (it.saves.loadFrom slot).1 with
  | none =>
    simp only [found]
    exact same
  | some game =>
    simp only [found]
    exact resumeGame_visits here same game

/-- The journal has the nodes that every action enters. -/
theorem act_visits (it : Interpreter σ) (action : Action) :
    it.Visits (it.entering (it.course (it.consult action).1 action)) (it.act action).2 := by
  have same : Lands it it.saves it.state it.pending it := ⟨rfl, rfl, rfl, rfl, rfl⟩
  cases action with
  | boot => exact it.boot_visits
  | newGame => exact startNewGame_visits rfl
  | restart => exact startNewGame_visits it.visited_clearAutosave
  | resume event => exact it.respond_visits event
  | process id => exact goTo_visits same rfl id
  | save slot =>
    simp only [act, saveTo]
    rcases it.saves.saveTo slot it.state with ⟨_ | _ | _, saves⟩ <;> exact rfl
  | load slot => exact it.load_visits slot

end Interpreter
end Storyline
