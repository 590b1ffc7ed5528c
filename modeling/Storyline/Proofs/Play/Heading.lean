import Storyline.Proofs.Play.Continuing
import Storyline.Proofs.Session.Replay

/-!
The header over the story. Each node that is entered has its header shown, so the last one that was
shown since everything was cleared is that of the state, wherever the game waits at a node.
-/

namespace Storyline

def Directive.heading (standing : Option Header) : Directive → Option Header
  | clearOutput => none
  | updateHeader header => some header
  | _ => standing

def heading (standing : Option Header) (directives : List Directive) : Option Header :=
  directives.foldl Directive.heading standing

theorem heading_append (standing : Option Header) (left right : List Directive) :
    heading standing (left ++ right) = heading (heading standing left) right := List.foldl_append

/-- A terminal knows the header that stands, though it does not print one twice. -/
theorem Terminal.View.header_after (view : View) (timing : Timing) (directives : List Directive) :
    (view.after timing directives).header = heading view.header directives := by
  induction directives generalizing view with
  | nil => rfl
  | cons d directives ih =>
    have first : (directiveBeats timing view d).2.header = d.heading view.header := by
      cases d with
      | updateHeader header =>
        simp only [directiveBeats, takeHeader]
        split
        · next known => exact known
        · rfl
      | _ => rfl
    unfold heading
    rw [List.foldl_cons, ← first]
    exact ih _

namespace Content

variable {content : Content} {timing : Timing}

theorem heading_display (s : GameState) (id : String) (standing : Option Header) :
    heading standing (content.display timing s id) = standing := by
  unfold display
  cases content.node? id with
  | none => rfl
  | some node => cases kind : node.kind <;> simp only [kind] <;> rfl

theorem heading_shown {s : GameState} {id : String} {hops : Nat}
    (arrives : (content.walk s id hops).2.fault = none) (standing : Option Header) :
    heading standing (content.shown timing s id hops) =
      some (content.header (content.walk s id hops).1) := by
  fun_induction walk content s id hops generalizing standing with
  | case1 | case5 => cases arrives
  | case2 hops s id node found _ kind | case3 hops s id node found _ kind
  | case4 hops s id node found kind =>
    rw [shown_single found (trail_single found (by rw [kind]; rfl) hops)]
    exact heading_display s id _
  | case6 s id node found condition kind hops ih =>
    rw [shown_branch found kind]
    exact ih arrives _

end Content

namespace Interpreter

variable {σ : Type} {it : Interpreter σ} {standing : Option Header}

/-- Whoever waits at a node has the header of the state before them. -/
def Headed (it : Interpreter σ) (standing : Option Header) : Prop :=
  it.wait.AtNode → standing = some it.header

theorem Headed.of_same {it' : Interpreter σ} (h : it.Headed standing)
    (content : it'.content = it.content) (state : it'.state = it.state) (wait : it'.wait = it.wait) :
    it'.Headed standing := by
  intro waits
  unfold header
  rw [content, state]
  exact h (wait ▸ waits)

variable [Store σ]

theorem Headed.act (h : it.Headed standing) (action : Action) :
    (it.act action).2.Headed (heading standing (it.act action).1.directives) := by
  have lands := (it.act_comes action).lands
  rw [it.act_shows]
  by_cases stays : it.course (it.consult action).1 action = .stays
  · obtain ⟨state, wait⟩ := act_stays stays
    rw [telling_stays stays]
    exact h.of_same lands.content state wait
  · intro waits
    have there := Pending.atNode_wait waits
    rw [lands.pending] at there
    obtain ⟨s, id, goes⟩ := (course_of_waits there).resolve_left stays
    rw [header_of_lands lands]
    unfold telling
    unfold landing at there ⊢
    rw [goes] at there ⊢
    rw [heading_append]
    exact Content.heading_shown (it.goes_arrives there) _

end Interpreter
end Storyline
