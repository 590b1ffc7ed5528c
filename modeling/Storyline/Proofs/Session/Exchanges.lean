import Storyline.Proofs.Session.Replay

/-!
What passes between a session and a renderer of any kind: the calls that are made, with what the
renderer answers to each, and the inputs that a session hears. A renderer is not asked to keep a
record, and may fail whenever it likes.
-/

namespace Storyline

/-- A call to a renderer and the answer to it. A pause cannot fail. -/
inductive Exchange
  | showed (shown : Shown) (result : Except RenderFault Unit)
  | heard (prompt : Prompt) (result : Except RenderFault PlayerInput)
  | paused (ms : Nat)

namespace Exchange

def call : Exchange → RendererCall
  | showed shown _ => .displayed shown
  | heard prompt _ => .asked prompt
  | paused ms => .displayed (.directive (.delay ms))

def fault? : Exchange → Option RenderFault
  | showed _ (.error fault) | heard _ (.error fault) => some fault
  | _ => none

def input? : Exchange → Option PlayerInput
  | heard _ (.ok input) => some input
  | _ => none

def Smooth (passed : List Exchange) : Prop := ∀ x ∈ passed, x.fault? = none

/-- The last call failed, and none before it. -/
def BrokenBy (fault : RenderFault) (passed : List Exchange) : Prop :=
  ∃ before failing, passed = before ++ [failing] ∧ failing.fault? = some fault ∧ Smooth before

def taken (passed : List Exchange) : List PlayerInput := passed.filterMap input?

section

variable {passed more : List Exchange} {fault : RenderFault}

theorem taken_append (passed more : List Exchange) :
    taken (passed ++ more) = taken passed ++ taken more :=
  List.filterMap_append

theorem taken_heard (prompt : Prompt) (input : PlayerInput) (rest : List Exchange) :
    taken (.heard prompt (.ok input) :: rest) = input :: taken rest := rfl

theorem smooth_nil : Smooth [] := fun _ absent => (List.not_mem_nil absent).elim

theorem smooth_single {x : Exchange} (fine : x.fault? = none) : Smooth [x] :=
  List.forall_mem_singleton.mpr fine

theorem brokenBy_single {x : Exchange} (fails : x.fault? = some fault) : BrokenBy fault [x] :=
  ⟨[], x, rfl, fails, smooth_nil⟩

theorem Smooth.append (first : Smooth passed) (second : Smooth more) : Smooth (passed ++ more) :=
  List.forall_mem_append.mpr ⟨first, second⟩

theorem Smooth.brokenBy (first : Smooth passed) (second : BrokenBy fault more) :
    BrokenBy fault (passed ++ more) := by
  obtain ⟨before, failing, rfl, fails, clean⟩ := second
  exact ⟨passed ++ before, failing, (List.append_assoc ..).symm, fails, first.append clean⟩

theorem BrokenBy.only (broken : BrokenBy fault passed) {x : Exchange} (member : x ∈ passed)
    {other : RenderFault} (fails : x.fault? = some other) : other = fault := by
  obtain ⟨before, failing, rfl, broke, clean⟩ := broken
  rcases List.mem_append.mp member with early | last
  · rw [clean x early] at fails
    cases fails
  · rw [List.mem_singleton.mp last, broke] at fails
    exact (Option.some.inj fails).symm

end
end Exchange

namespace Renderer

variable {ρ : Type} [Renderer ρ]

inductive Passes : ρ → List Exchange → ρ → Prop
  | nil (r : ρ) : Passes r [] r
  | showed {r r' r'' : ρ} {shown : Shown} {result : Except RenderFault Unit} {rest : List Exchange} :
      display shown r = (result, r') → Passes r' rest r'' →
      Passes r (.showed shown result :: rest) r''
  | heard {r r' r'' : ρ} {prompt : Prompt} {result : Except RenderFault PlayerInput}
      {rest : List Exchange} :
      ask prompt r = (result, r') → Passes r' rest r'' → Passes r (.heard prompt result :: rest) r''
  | paused {r r'' : ρ} (ms : Nat) {rest : List Exchange} :
      Passes (if ms = 0 then r else pause ms r) rest r'' → Passes r (.paused ms :: rest) r''

theorem Passes.append {r r' r'' : ρ} {passed more : List Exchange} (first : Passes r passed r')
    (second : Passes r' more r'') : Passes r (passed ++ more) r'' := by
  induction first with
  | nil => exact second
  | showed answered _ ih => exact .showed answered (ih second)
  | heard answered _ ih => exact .heard answered (ih second)
  | paused ms _ ih => exact .paused ms (ih second)

/-- What passes while something is shown: the calls for all of it, or those up to the first that
fails. -/
structure Shows (calls : List RendererCall) (r : ρ) (passed : List Exchange)
    (result : Except RenderFault Unit × ρ) : Prop where
  passes : Passes r passed result.2
  deaf : Exchange.taken passed = []
  begun : passed.map Exchange.call <+: calls
  whole : result.1 = .ok () → Exchange.Smooth passed ∧ passed.map Exchange.call = calls
  cut : ∀ fault, result.1 = .error fault → Exchange.BrokenBy fault passed

variable {calls : List RendererCall} {r : ρ} {result : Except RenderFault Unit × ρ}

theorem shows_nothing (r : ρ) : Shows [] r [] (.ok (), r) where
  passes := .nil r
  deaf := rfl
  begun := List.nil_prefix
  whole _ := ⟨Exchange.smooth_nil, rfl⟩
  cut := by rintro _ ⟨⟩

theorem shows_failing {shown : Shown} {fault : RenderFault} {r' : ρ}
    (fails : display shown r = (.error fault, r')) (rest : List RendererCall) :
    Shows (.displayed shown :: rest) r [.showed shown (.error fault)] (.error fault, r') where
  passes := .showed fails (.nil r')
  deaf := rfl
  begun := List.cons_prefix_cons.mpr ⟨rfl, List.nil_prefix⟩
  whole := by rintro ⟨⟩
  cut := by
    rintro _ ⟨⟩
    exact Exchange.brokenBy_single rfl

theorem Shows.cons {passed : List Exchange} {x : Exchange} {r' : ρ} (h : Shows calls r' passed result)
    (smooth : x.fault? = none) (deaf : x.input? = none)
    (passes : Passes r (x :: passed) result.2) :
    Shows (x.call :: calls) r (x :: passed) result where
  passes := passes
  deaf := (List.filterMap_cons_none deaf).trans h.deaf
  begun := List.cons_prefix_cons.mpr ⟨rfl, h.begun⟩
  whole done :=
    ⟨List.forall_mem_cons.mpr ⟨smooth, (h.whole done).1⟩, congrArg (x.call :: ·) (h.whole done).2⟩
  cut fault failed :=
    (Exchange.smooth_single smooth).brokenBy (h.cut fault failed)

theorem display_shows (shown : Shown) (r : ρ) :
    ∃ passed, Shows [.displayed shown] r passed (display shown r) := by
  rcases answered : display shown r with ⟨fault | _, r'⟩
  · exact ⟨_, shows_failing answered []⟩
  · exact ⟨_, (shows_nothing r').cons (x := .showed shown (.ok ())) rfl rfl
      (.showed answered (.nil r'))⟩

theorem play_shows (directives : List Directive) (r : ρ) :
    ∃ passed, Shows ((directives.map .directive).map .displayed) r passed (play directives r) := by
  induction directives generalizing r with
  | nil => exact ⟨[], shows_nothing r⟩
  | cons d directives ih =>
    rcases play_cons d directives r with ⟨ms, rfl, plays⟩ | plays
    · obtain ⟨passed, shows⟩ := ih (if ms = 0 then r else pause ms r)
      rw [plays]
      exact ⟨_, shows.cons (x := .paused ms) rfl rfl (.paused ms shows.passes)⟩
    · rw [plays]
      rcases answered : display (.directive d) r with ⟨fault | _, r'⟩
      · exact ⟨_, shows_failing answered _⟩
      · obtain ⟨passed, shows⟩ := ih r'
        exact ⟨_, shows.cons (x := .showed (.directive d) (.ok ())) rfl rfl
          (.showed answered shows.passes)⟩

end Renderer

namespace Session

variable {σ ρ : Type} [Store σ] [Renderer ρ]

/-- The inputs that are heard in so many turns, each with the game that it comes to. -/
def hearings : Nat → Session σ ρ → List (Interpreter σ × PlayerInput)
  | 0, _ => []
  | n + 1, s =>
    match Renderer.ask s.interpreter.wait.prompt s.renderer with
    | (.error _, _) => []
    | (.ok input, _) =>
      (s.interpreter, input) ::
        match s.turn with
        | (.running, s) => hearings n s
        | _ => []

def heard (n : Nat) (s : Session σ ρ) : List (Interpreter σ × PlayerInput) :=
  match s.begin with
  | (.running, s) => s.hearings n
  | _ => []

end Session
end Storyline
