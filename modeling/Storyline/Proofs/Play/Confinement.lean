import Storyline.Proofs.Play.Lasting
import Storyline.Proofs.Play.Naming
import Storyline.Proofs.Play.Visits
import Storyline.Proofs.Validation.Issues
import Storyline.Proofs.Validation.Reachability

/-!
Play stays within what can be reached. The search and the game do not share the code that tells what
comes after a node, but whatever the game does, it goes only where the search has been. So what a
report says of the flow of a story is borne out by every session.
-/

namespace Storyline

namespace Content

variable {content : Content} {ids : List String} {s : GameState} {id : String}

namespace Closed

variable (closed : content.Closed ids)

include closed

theorem successor {next : String} (here : id ∈ ids)
    (leads : content.successor? s id = some next) : next ∈ ids := by
  cases found : content.node? id with
  | none =>
    rw [successor?_missing found] at leads
    cases leads
  | some node =>
    cases kind : node.kind with
    | branch condition =>
      rw [successor?_branch found kind] at leads
      cases leads
      exact closed id here node found _ (Node.branch_mem_targets kind s)
    | _ =>
      rw [successor?_stop found (by rw [kind]; rfl)] at leads
      cases leads

theorem trail (here : id ∈ ids) (hops : Nat) : content.trail s id hops ⊆ ids := by
  induction hops generalizing id with
  | zero => exact List.cons_subset.mpr ⟨here, List.nil_subset ids⟩
  | succ hops ih =>
    cases leads : content.successor? s id with
    | none =>
      rw [trail_stops leads]
      exact List.cons_subset.mpr ⟨here, List.nil_subset ids⟩
    | some next =>
      rw [trail_succ leads]
      exact List.cons_subset.mpr ⟨here, ih (closed.successor here leads)⟩

theorem entered (here : id ∈ ids) (hops : Nat) :
    (content.entered (content.trail s id hops)).map Prod.fst ⊆ ids := by
  intro id' member
  obtain ⟨e, listed, rfl⟩ := List.mem_map.mp member
  obtain ⟨id, passed, same⟩ := List.mem_filterMap.mp listed
  obtain ⟨node, _, rfl⟩ := Option.map_eq_some_iff.mp same
  exact closed.trail here hops passed

theorem walk (at_node : s.currentNode ∈ ids) (here : id ∈ ids) (hops : Nat) :
    (content.walk s id hops).1.currentNode ∈ ids := by
  fun_induction Content.walk content s id hops with
  | case1 => exact at_node
  | case2 | case3 | case4 | case5 => exact here
  | case6 s id node found condition kind hops ih =>
    exact ih here (closed id here node found _ (Node.branch_mem_targets kind _))

end Closed
end Content

def Course.Within (ids : List String) : Course → Prop
  | goes s id => s.currentNode ∈ ids ∧ id ∈ ids
  | halts s _ => s.currentNode ∈ ids
  | _ => True

namespace Interpreter

variable {σ : Type} {it : Interpreter σ} {ids : List String}

theorem course_within (closed : it.content.Closed ids) (suspended : it.Suspended)
    (here : it.state.currentNode ∈ ids) {game : Option SaveRecord}
    (found : ∀ r, game = some r → r.state.currentNode ∈ ids) {action : Action}
    (session : action.OfSession) : (it.course game action).Within ids := by
  have leads := it.course_leads game action
  generalize it.course game action = course at leads ⊢
  cases leads with
  | stays | begins | offers => trivial
  | loads _ r _ there => exact ⟨found r there, found r there⟩
  | names => exact ⟨here, here⟩
  | advances next waits =>
    obtain ⟨node, there, kind⟩ := suspended.asked (c := .narrative (some next)) waits
    exact ⟨here, closed _ here node there next (Node.next_mem_targets kind)⟩
  | stops => exact here
  | picks id count index c next waits fits chosen way =>
    obtain ⟨node, there, rfl, choices, kind, _⟩ := suspended.asked (c := .choice id count) waits
    rw [option?_choice there kind] at chosen
    refine ⟨?_, closed _ here node there next
      (Node.chosen_mem_targets kind (List.mem_of_getElem? chosen) way)⟩
    rw [c.outcome_currentNode]
    exact here
  | ends id count index c =>
    rw [Course.Within, c.outcome_currentNode]
    exact here
  | misses => exact here
  | sends => exact session.elim

theorem land_within {content : Content} (closed : content.Closed ids) (same : it.content = content)
    (start : content.startNode ∈ ids) (here : it.state.currentNode ∈ ids) {course : Course}
    (within : course.Within ids) : (it.land course).state.currentNode ∈ ids := by
  cases course with
  | stays | offers => exact here
  | begins =>
    rw [← same] at start
    exact start
  | halts => exact within
  | goes s id =>
    rw [← same] at closed
    exact closed.walk within.1 within.2 _

theorem entering_within (closed : it.content.Closed ids) {course : Course}
    (within : course.Within ids) : it.entering course ⊆ ids := by
  cases course with
  | goes s id => exact closed.entered within.2 _
  | _ => exact List.nil_subset ids

end Interpreter

theorem Content.lasts_reachable (content : Content) :
    content.Lasts Action.OfSession fun s => s.currentNode ∈ content.reachable content.startNode where
  fresh := content.start_mem_reachable content.startNode
  outlasts := by
    intro r r' read reached
    rw [SaveRecord.currentNode_decode_encode read]
    exact reached
  course := by
    intro σ it game action story suspended here found session
    have closed := content.closed_reachable content.startNode
    have within := Interpreter.course_within (story ▸ closed) suspended here found session
    exact Interpreter.land_within closed story (content.start_mem_reachable _) here within

namespace Interpreter

variable {σ : Type} [Store σ] {start : σ} {it : Interpreter σ}

/-- A game that is where it can be, and has been nowhere else. -/
structure Confined (content : Content) (start : σ) (it : Interpreter σ) : Prop where
  abides : it.Abides content (·.currentNode ∈ content.reachable content.startNode) start
  visited : it.visited ⊆ content.reachable content.startNode

theorem Confined.act {content : Content} (h : it.Confined content start)
    (honest : Store.Honest start) {action : Action} (session : action.OfSession) :
    (it.act action).2.Confined content start := by
  refine ⟨h.abides.act content.lasts_reachable honest session, ?_⟩
  have closed : it.content.Closed (content.reachable content.startNode) := by
    rw [h.abides.story]
    exact content.closed_reachable content.startNode
  have found := (h.abides.consult content.lasts_reachable.outlasts honest action).2
  have within := course_within closed h.abides.suspended h.abides.state found session
  rw [it.act_visits action]
  refine List.append_subset.mpr ⟨?_, h.visited⟩
  exact List.reverse_subset.mpr (entering_within closed within)

/-- In a session over a store that is empty at first and may fail at any time, the game is only ever
at nodes that the search finds from the start, and enters no others. So a node that is reported as
unreachable is never entered, and where no ending is reported to be reachable no game waits for a
restart. -/
theorem stays_reachable (content : Content) (config : Config) (honest : Store.Honest start)
    (now : UInt64) {turns : List Turn} (session : ∀ turn ∈ turns, turn.action.OfSession) :
    let it := (Interpreter.new content config start now).run turns
    it.state.currentNode ∈ content.reachable content.startNode ∧
    (∀ kind id, .entered kind id ∈ it.journal → id ∈ content.reachable content.startNode) ∧
    (∀ id, Content.warningAt .flow id "node is unreachable from the start node" ∈
      content.validate.issues →
        it.state.currentNode ≠ id ∧ ∀ kind, .entered kind id ∉ it.journal) ∧
    (⟨.warning, .flow, none, "no ending node is reachable from the start node"⟩ ∈
      content.validate.issues → it.wait ≠ .restart) := by
  intro it
  have fresh : (Interpreter.new content config start now).Confined content start :=
    ⟨abides_new content.lasts_reachable config start now, List.nil_subset _⟩
  have confined : it.Confined content start := by
    refine run_keeps ?_ fresh
    intro it turn member h
    have timed : (it.atTime turn.now).Confined content start := ⟨h.abides.atTime turn.now, h.visited⟩
    exact timed.act honest (session turn member)
  have entered : ∀ kind id, .entered kind id ∈ it.journal →
      id ∈ content.reachable content.startNode :=
    fun kind id member => confined.visited (mem_visited.mpr ⟨kind, member⟩)
  refine ⟨confined.abides.state, entered, ?_, ?_⟩
  · intro id warned
    obtain ⟨_, _, outside⟩ := Content.unreached_iff.mp warned
    refine ⟨?_, fun kind member => outside (entered kind id member)⟩
    rintro rfl
    exact outside confined.abides.state
  · intro warned waits
    obtain ⟨node, found, kind⟩ := confined.abides.suspended.ended (Pending.restart_of_wait waits)
    rw [confined.abides.story] at found
    have open_ended := (Content.endless_iff.mp warned).2 _ confined.abides.state node found
    unfold Node.isEnding at open_ended
    rw [kind] at open_ended
    cases open_ended

end Interpreter

/-- A story that goes round in circles, with an ending to which nothing leads. -/
def Content.isle : Content where
  titles := .standard
  nodes := Dict.ofList [
    ("shore", .narrative "Waves." (some "ford")),
    ("ford", .branch ⟨.flag "boat", "sea", "shore"⟩),
    ("isle", .ending "Land.")]
  cast := .standard
  template := { GameState.blank with currentNode := "shore" }

theorem Content.reachable_isle : isle.reachable "shore" ⊆ ["shore", "ford", "sea"] :=
  reachable_subset (by decide +kernel) List.mem_cons_self

theorem Interpreter.stays_reachable_isle :
    let turns : List Turn := [⟨1, .newGame⟩, ⟨2, .resume (.playerName "A")⟩, ⟨3, .resume .advance⟩,
      ⟨4, .save 1⟩, ⟨5, .load 1⟩]
    let it := (Interpreter.new .isle .standard (MemoryStore.mk .empty) 0).run turns
    it.state.currentNode ∈ Content.isle.reachable "shore" ∧ it.state.currentNode ≠ "isle" ∧
      (∀ kind, .entered kind "isle" ∉ it.journal) ∧ it.wait ≠ .restart := by
  intro turns
  have session : ∀ turn ∈ turns, turn.action.OfSession := by
    simp only [turns, List.forall_mem_cons]
    exact ⟨trivial, trivial, trivial, trivial, trivial, nofun⟩
  have start : Content.isle.hasNode "shore" = true := by decide +kernel
  have there : Content.isle.hasNode "isle" = true := by decide +kernel
  have outside : "isle" ∉ Content.isle.reachable "shore" := by
    intro reached
    have found : "isle" ∈ ["shore", "ford", "sea"] := Content.reachable_isle reached
    simp at found
  have endless : ∀ id ∈ ["shore", "ford", "sea"], ∀ node ∈ Content.isle.node? id,
      node.isEnding = false := by decide +kernel
  obtain ⟨here, _, unreached, ending⟩ :=
    stays_reachable .isle .standard Store.honest_memory 0 session
  obtain ⟨elsewhere, unseen⟩ := unreached "isle" (Content.unreached_iff.mpr ⟨start, there, outside⟩)
  refine ⟨here, elsewhere, unseen, ending (Content.endless_iff.mpr ⟨start, ?_⟩)⟩
  exact fun id reached => endless id (Content.reachable_isle reached)

end Storyline
