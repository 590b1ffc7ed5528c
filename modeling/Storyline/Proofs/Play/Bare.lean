import Storyline.Proofs.Play.Upkeep

/-!
A story without its words: what is said and shown, and by whom, is left out, and of the settings the
timings. Every new game, every way through the story and every course is that of the bare story, so
none of them depends on a word.
-/

namespace Storyline

def Choice.bare (c : Choice) : Choice := { c with text := "", response := none }

def NodeKind.bare : NodeKind → NodeKind
  | narrative next => .narrative next
  | choice choices => .choice (choices.map Choice.bare)
  | branch condition => .branch condition
  | ending => .ending

def Node.bare (node : Node) : Node :=
  { node with
    speaker := none
    text := ""
    kind := node.kind.bare }

/-- The cast without names; the host is not known either. -/
def Cast.bare (cast : Cast) : Cast := ⟨cast.characters.map fun c => { c with name := "" }, .empty⟩

def Content.bare (content : Content) : Content where
  titles := .standard
  nodes := content.nodes.mapValues fun _ => Node.bare
  cast := content.cast.bare
  template := content.template

namespace Content

theorem node?_bare (content : Content) (id : String) :
    content.bare.node? id = (content.node? id).map Node.bare :=
  Dict.find?_mapValues (fun _ => Node.bare) content.nodes id

/-- The way through a story is that through the bare one. -/
theorem walk_bare (content : Content) (s : GameState) (id : String) (hops : Nat) :
    content.bare.walk s id hops = content.walk s id hops := by
  -- a bare node is of the kind of the node, begins the same day and leads to the same nodes
  fun_induction walk content s id hops with
  | case1 hops s id missing =>
    unfold walk
    rw [node?_bare, missing]
    rfl
  | case2 hops s id node found next kind =>
    unfold walk
    rw [node?_bare, found]
    simp only [Option.map_some, Node.bare, kind, NodeKind.bare]
    rfl
  | case3 hops s id node found choices kind =>
    unfold walk
    rw [node?_bare, found]
    simp only [Option.map_some, Node.bare, kind, NodeKind.bare, List.length_map]
    rfl
  | case4 hops s id node found kind =>
    unfold walk
    rw [node?_bare, found]
    simp only [Option.map_some, Node.bare, kind, NodeKind.bare]
    rfl
  | case5 s id node found condition kind =>
    unfold walk
    rw [node?_bare, found]
    simp only [Option.map_some, Node.bare, kind, NodeKind.bare]
    rfl
  | case6 s id node found condition kind hops ih =>
    rw [walk, node?_bare, found]
    simp only [Option.map_some, Node.bare, kind, NodeKind.bare]
    exact ih

theorem disposition_bare (cast : Cast) (id : String) :
    (cast.bare.find? id).map (·.disposition) = (cast.find? id).map (·.disposition) := by
  simp only [Cast.find?, Cast.bare, List.find?_map, Option.map_map, Function.comp_def]

end Content

namespace Interpreter

variable {σ : Type}

theorem freshState_bare (content : Content) : freshState content.bare = freshState content := by
  unfold freshState GameState.ofTemplate Content.bare
  simp only [Content.disposition_bare]

theorem option?_bare (content : Content) (id : String) (index : Nat) :
    option? content.bare id index = (option? content id index).map Choice.bare := by
  unfold option?
  rw [Content.node?_bare]
  cases content.node? id with
  | none => rfl
  | some node =>
    simp only [Option.map_some, Node.bare]
    cases node.kind with
    | choice choices => exact List.getElem?_map
    | _ => rfl

def bare (it : Interpreter σ) : Interpreter σ :=
  { it with
    content := it.content.bare
    config := it.config.instant }

theorem courseOf_bare (it : Interpreter σ) (game : Option SaveRecord) (event : Event) :
    it.bare.courseOf game event = it.courseOf game event := by
  unfold courseOf bare
  cases it.pending with
  | choice id count =>
    cases event with
    | choose index =>
      simp only [option?_bare]
      cases option? it.content id index <;> rfl
    | _ => rfl
  | _ => cases event <;> rfl

/-- An action takes the course that it takes in the bare story. -/
theorem course_bare (it : Interpreter σ) (game : Option SaveRecord) (action : Action) :
    it.bare.course game action = it.course game action := by
  cases action with
  | resume event => exact it.courseOf_bare game event
  | _ => rfl

theorem land_bare (it : Interpreter σ) (course : Course) : it.bare.land course = it.land course := by
  cases course with
  | begins => exact congrArg (Landing.mk · .playerName none) (freshState_bare it.content)
  | goes s id =>
    have way := it.content.walk_bare s id it.config.hopLimit
    exact congrArg (fun way => Landing.mk way.1 way.2.pending (some way.2)) way
  | _ => rfl

theorem Lands.bare {it it' : Interpreter σ} {saves : Saves σ} {s : GameState} {pending : Pending}
    (h : Lands it saves s pending it') : Lands it.bare saves s pending it'.bare where
  content := congrArg Content.bare h.content
  config := congrArg Config.instant h.config
  saves := h.saves
  state := h.state
  pending := h.pending

end Interpreter
end Storyline
