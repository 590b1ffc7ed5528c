import Mathlib.Algebra.GroupWithZero.Nat
import Storyline.Session.Renderer

/-!
The calls that a script keeps a record of. Directives are calls, but for delays, which only put off
the calls after them; so the record is told by the calls and the delays in their order.
-/

namespace Storyline

namespace RendererCall

def pause? : RendererCall → Option Nat
  | displayed (.directive (.delay ms)) => some ms
  | _ => none

def recorded (call : RendererCall) : Bool := call.pause?.isNone

end RendererCall

def pausesIn (calls : List RendererCall) : List Nat := calls.filterMap RendererCall.pause?

/-- How long some calls keep those after them waiting. -/
def lasting (calls : List RendererCall) : Nat := ((pausesIn calls).map pauseLength).sum

def stamped (now : Nat) : List RendererCall → List (Nat × RendererCall)
  | [] => []
  | call :: rest =>
    match call.pause? with
    | some ms => stamped (now + pauseLength ms) rest
    | none => (now, call) :: stamped now rest

section

variable {call : RendererCall} {calls rest : List RendererCall} {now ms : Nat}

theorem pausesIn_pause (pause : call.pause? = some ms) :
    pausesIn (call :: rest) = ms :: pausesIn rest := List.filterMap_cons_some pause

theorem pausesIn_call (made : call.pause? = none) : pausesIn (call :: rest) = pausesIn rest :=
  List.filterMap_cons_none made

theorem lasting_pause (pause : call.pause? = some ms) :
    lasting (call :: rest) = pauseLength ms + lasting rest := by
  unfold lasting
  rw [pausesIn_pause pause, List.map_cons, List.sum_cons]

theorem lasting_call (made : call.pause? = none) : lasting (call :: rest) = lasting rest := by
  unfold lasting
  rw [pausesIn_call made]

theorem lasting_of_le (short : ∀ ms ∈ pausesIn calls, ms ≤ longestPause) :
    lasting calls = (pausesIn calls).sum := by
  have same : (pausesIn calls).map pauseLength = (pausesIn calls).map id :=
    List.map_congr_left fun ms member => pauseLength_of_le (short ms member)
  unfold lasting
  rw [same, List.map_id]

theorem stamped_pause (pause : call.pause? = some ms) :
    stamped now (call :: rest) = stamped (now + pauseLength ms) rest := by
  simp only [stamped, pause]

theorem stamped_call (made : call.pause? = none) :
    stamped now (call :: rest) = (now, call) :: stamped now rest := by
  simp only [stamped, made]

theorem stamped_append (now : Nat) (calls rest : List RendererCall) :
    stamped now (calls ++ rest) = stamped now calls ++ stamped (now + lasting calls) rest := by
  induction calls generalizing now with
  | nil => rfl
  | cons call calls ih =>
    rw [List.cons_append]
    cases pause : call.pause? with
    | some ms => rw [stamped_pause pause, stamped_pause pause, ih, lasting_pause pause, Nat.add_assoc]
    | none => rw [stamped_call pause, stamped_call pause, ih, lasting_call pause, List.cons_append]

theorem lasting_append (calls rest : List RendererCall) :
    lasting (calls ++ rest) = lasting calls + lasting rest := by
  unfold lasting pausesIn
  rw [List.filterMap_append, List.map_append, List.sum_append]

/-- All calls but the pauses are recorded, in their order. -/
theorem stamped_calls (now : Nat) (calls : List RendererCall) :
    (stamped now calls).map Prod.snd = calls.filter RendererCall.recorded := by
  induction calls generalizing now with
  | nil => rfl
  | cons call calls ih =>
    cases pause : call.pause? with
    | some ms =>
      rw [stamped_pause pause, ih, List.filter_cons_of_neg]
      simp [RendererCall.recorded, pause]
    | none =>
      rw [stamped_call pause, List.map_cons, ih, List.filter_cons_of_pos]
      simp [RendererCall.recorded, pause]

/-- Each call is recorded with the time to which the pauses before it add up. -/
theorem stamped_at (now : Nat) (before rest : List RendererCall) (made : call.pause? = none) :
    (stamped now (before ++ call :: rest))[(before.filter RendererCall.recorded).length]? =
      some (now + lasting before, call) := by
  have length : (before.filter RendererCall.recorded).length = (stamped now before).length := by
    rw [← stamped_calls now, List.length_map]
  rw [stamped_append, length, List.getElem?_append_right (Nat.le_refl _), Nat.sub_self,
    stamped_call made]
  rfl

end

namespace Script

def fresh (inputs : List PlayerInput) : Script := ⟨inputs, fun _ => false, 0, []⟩

def Sound (s : Script) : Prop := ∀ call, s.breaks call = false

def made (s : Script) (calls : List RendererCall) (left : List PlayerInput) : Script :=
  { s with
    inputs := left
    now := s.now + lasting calls
    log := (stamped s.now calls).reverse ++ s.log }

variable {s : Script} {call : RendererCall}

theorem made_append (s : Script) (calls rest : List RendererCall) (left left' : List PlayerInput) :
    (s.made calls left).made rest left' = s.made (calls ++ rest) left' := by
  simp only [made, stamped_append, lasting_append, List.reverse_append, List.append_assoc,
    Nat.add_assoc]

theorem Sound.made (sound : s.Sound) (calls : List RendererCall) (left : List PlayerInput) :
    (s.made calls left).Sound := sound

theorem record_made (sound : s.Sound) (made : call.pause? = none) :
    s.record call = (.ok (), s.made [call] s.inputs) := by
  unfold record Script.made
  rw [sound call, stamped_call made, lasting_call made]
  rfl

theorem display_made (sound : s.Sound) {shown : Shown}
    (made : RendererCall.pause? (.displayed shown) = none) :
    Renderer.display shown s = (.ok (), s.made [.displayed shown] s.inputs) := record_made sound made

theorem play_shown_made (sound : s.Sound) {d : Directive} (directives : List Directive)
    (made : RendererCall.pause? (.displayed (.directive d)) = none) :
    Renderer.play (d :: directives) s =
      Renderer.play directives (s.made [.displayed (.directive d)] s.inputs) := by
  have shown := display_made sound made
  cases d with
  | delay ms => cases made
  | _ => simp only [Renderer.play, shown]

theorem play_cons_made (sound : s.Sound) (d : Directive) (directives : List Directive) :
    Renderer.play (d :: directives) s =
      Renderer.play directives (s.made [.displayed (.directive d)] s.inputs) := by
  cases d with
  | delay ms =>
    -- a delay of nothing is not carried out, and would take no time
    have paused : (if ms = 0 then s else Renderer.pause ms s) =
        s.made [.displayed (.directive (.delay ms))] s.inputs := by
      by_cases none : ms = 0
      · subst none
        rfl
      · rw [if_neg none]
        rfl
    exact congrArg (Renderer.play directives) paused
  | _ => exact play_shown_made sound directives rfl

theorem play_made (sound : s.Sound) (directives : List Directive) : Renderer.play directives s =
    (.ok (), s.made ((directives.map .directive).map .displayed) s.inputs) := by
  induction directives generalizing s with
  | nil => rfl
  | cons d directives ih =>
    rw [play_cons_made sound, ih (sound.made _ _), made_append]
    rfl

theorem ask_made (sound : s.Sound) (prompt : Prompt) : Renderer.ask prompt s =
    (.ok (s.inputs.headD .quit), s.made [.asked prompt] s.inputs.tail) := by
  have recorded : s.record (.asked prompt) = (.ok (), s.made [.asked prompt] s.inputs) :=
    record_made sound rfl
  simp only [Renderer.ask, recorded]
  obtain ⟨inputs, breaks, now, log⟩ := s
  cases inputs <;> rfl

end Script
end Storyline
