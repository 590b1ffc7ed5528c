import Storyline.Proofs.Play.Heading
import Storyline.Proofs.Session.Clock
import Storyline.Proofs.Terminal.Marks

/-!
The header on the screen. A terminal drops a header that it knows, and forgets the one it knows when
it clears the screen, so what it knows is what stands there; and since the header that stands after
all that is shown is that of the state, the one on the screen is too.
-/

namespace Storyline.Terminal

open Session

theorem view_beatsOf (timing : Timing) (view : View) (directives : List Directive) :
    (beatsOf timing view (directives.map .directive)).2 = view.after timing directives := by
  induction directives generalizing view with
  | nil => rfl
  | cons d directives ih => exact ih _

variable {σ : Type}

/-- What was put out up to now, with the header that is known of it, which is that of the state where
the game waits at a node. -/
structure Upheld (before : List Beat) (s : Session σ Timed) : Prop where
  output : s.renderer.output = String.join (before.map Beat.text)
  stands : Stands before s.renderer.view.header
  headed : s.interpreter.Headed s.renderer.view.header

variable {s s' : Session σ Timed} {before beats : List Beat} {view : View}

theorem Upheld.plays (h : Upheld before s) (plays : s.renderer.Plays beats view s'.renderer)
    (stands : Stands (before ++ beats) view.header) (headed : s'.interpreter.Headed view.header) :
    Upheld (before ++ beats) s' where
  output := by rw [plays.output, h.output, List.map_append, String.join_append]
  stands := plays.view ▸ stands
  headed := plays.view ▸ headed

variable [Store σ]

def turnBeats (s : Session σ Timed) : List Beat :=
  let t := s.renderer
  let prompt := s.interpreter.wait.prompt
  promptBeats t.view prompt t.heldLines ++
    (beatsOf t.timing t.view (s.interpreter.showing (t.ask prompt).1)).1

def beatsAt : List UInt64 → Session σ Timed → List Beat
  | [], _ => []
  | now :: times, s =>
    turnBeats (s.atTime now) ++
      match (s.atTime now).turn with
      | (.running, s) => beatsAt times s
      | _ => []

def bootBeats (s : Session σ Timed) : List Beat :=
  (beatsOf s.renderer.timing s.renderer.view (s.interpreter.boot.1.map .directive)).1

/-- All that a session with turns at these times puts out. -/
def log (times : List UInt64) (s : Session σ Timed) : List Beat :=
  bootBeats s ++ beatsAt times s.begin.2

/-- What is shown of an input leaves the header of the state standing, a remark as well as an answer. -/
theorem headed_showing {it : Interpreter σ} {view : View} (h : it.Headed view.header)
    (timing : Timing) (input : PlayerInput) :
    (it.heed input).Headed (beatsOf timing view (it.showing input)).2.header := by
  by_cases quits : input = .quit
  · subst quits
    exact h
  · rcases it.shows_or_remarks quits with
      ⟨action, out, called, answered, shows⟩ | ⟨aside, shows, remark, _, state, wait⟩
    · have told : out.directives = (it.act action).1.directives := by
        unfold Reply.directives
        rw [answered]
        rfl
      rw [shows, view_beatsOf, View.header_after, it.heed_called called, told]
      exact h.act action
    · have same : (beatsOf timing view [aside]).2 = view := by
        cases aside with
        | directive d => exact remark.elim
        | notice text | status report => rfl
      rw [shows, same]
      exact h.of_same (it.content_heed input) state wait

theorem Upheld.begin (h : Upheld before s) : Upheld (before ++ bootBeats s) s.begin.2 := by
  have shown := s.renderer.displays_play (s.interpreter.boot.1.map .directive)
  rw [begin_displays]
  refine h.plays shown (h.stands.beatsOf _ _) ?_
  rw [view_beatsOf, View.header_after]
  exact h.headed.act .boot

theorem Upheld.turn (h : Upheld before s) : Upheld (before ++ turnBeats s) s.turn.2 := by
  have prompted := s.renderer.ask_plays s.interpreter.wait.prompt
  have stands := h.stands.plains (plain_promptBeats s.renderer.view s.interpreter.wait.prompt
    s.renderer.heldLines)
  unfold turnBeats
  rcases asked : s.renderer.ask s.interpreter.wait.prompt with ⟨input, t⟩
  rw [asked] at prompted
  have headed := headed_showing h.headed s.renderer.timing input
  simp only [asked]
  by_cases quits : input = .quit
  · subst quits
    rw [turn_quits asked]
    rw [show s.interpreter.showing .quit = [] from rfl, beatsOf, List.append_nil]
    exact h.plays prompted stands (headed.of_same rfl rfl rfl)
  · obtain ⟨_, _, twin⟩ := s.interpreter.react_heeds quits
    have shown := t.displays_play (s.interpreter.showing input)
    rw [prompted.timing, prompted.view] at shown
    rw [turn_displays asked quits]
    refine h.plays (prompted.append shown) ?_ (headed.of_same twin.content twin.state twin.wait)
    rw [← List.append_assoc]
    exact stands.beatsOf _ _

theorem Upheld.turnsAt (h : Upheld before s) (times : List UInt64) :
    Upheld (before ++ beatsAt times s) (s.turnsAt times).2 := by
  induction times generalizing before s with
  | nil =>
    rw [beatsAt, List.append_nil]
    exact h
  | cons now times ih =>
    have timed : Upheld before (s.atTime now) := ⟨h.output, h.stands, h.headed⟩
    have next := timed.turn
    unfold beatsAt Session.turnsAt
    rw [← List.append_assoc]
    rcases turned : (s.atTime now).turn with ⟨_ | result, s'⟩
    · rw [turned] at next
      exact ih next
    · rw [turned] at next
      rw [List.append_nil]
      exact next

theorem upheld_log (times : List UInt64) (s : Session σ Timed) (fresh : Upheld [] s) :
    Upheld (log times s) (s.runAt times).2 := by
  have begun := fresh.begin
  unfold log runAt
  rw [begin_displays] at begun ⊢
  exact begun.turnsAt times

/-- The header on the screen, for every session at a terminal: any content, store, timings and lines,
with turns at any times. Wherever the game waits at a node, the last header line that was put out
since the screen was cleared is that of the state, and it stays that while the player is asked. No
header line is the same as the one before it, unless the screen was cleared in between. -/
theorem shows_live_header (content : Content) (config : Config) (store : σ) (start : UInt64)
    (timing : Timing) (keyboard : Keyboard) (times : List UInt64) :
    let s : Session σ Timed := ⟨.new content config store start, .new timing keyboard⟩
    let last := (s.runAt times).2
    last.renderer.output = String.join ((log times s).map Beat.text) ∧
      (last.interpreter.wait.AtNode → ∃ before later,
        log times s = before ++ headerBeat last.interpreter.header :: later ∧
          ∀ b ∈ later, b.Plain) ∧
      (∀ lines, ∀ b ∈ promptBeats last.renderer.view last.interpreter.wait.prompt lines, b.Plain) ∧
      ∀ before between later h h', (∀ b ∈ between, b.Plain) →
        log times s = before ++ headerBeat h :: between ++ headerBeat h' :: later →
        headerBeat h ≠ headerBeat h' := by
  intro s last
  have fresh : Upheld [] s := ⟨rfl, .start, nofun⟩
  obtain ⟨output, stands, headed⟩ := upheld_log times s fresh
  refine ⟨output, fun waits => ?_, plain_promptBeats _ _, ?_⟩
  · rw [headed waits] at stands
    exact stands.last
  · intro before between later h h' plain split same
    exact stands.changes split plain (headerBeat_inj same)

/-- A choice that is asked three times on one screen, always on the same day. -/
theorem shows_live_header_fork :
    let typed := Keyboard.ofLines [(10000, "ann"), (20000, "1"), (30000, "1")]
    let s : Session MemoryStore Timed :=
      ⟨.new .fork .standard (MemoryStore.mk .empty) 0, .new .standard typed⟩
    let last := (s.runAt [1, 2, 3]).2
    last.interpreter.wait = .choice 2 ∧ last.interpreter.header = ⟨2, 1, 8⟩ ∧
      ∃ before later, log [1, 2, 3] s = before ++ headerBeat ⟨2, 1, 8⟩ :: later ∧
        ∀ b ∈ later, b.Plain := by
  intro typed s last
  have waits : last.interpreter.wait = .choice 2 := by decide +kernel
  have header : last.interpreter.header = ⟨2, 1, 8⟩ := by decide +kernel
  have node : last.interpreter.wait.AtNode := waits ▸ trivial
  obtain ⟨_, stands, _, _⟩ :=
    shows_live_header .fork .standard (MemoryStore.mk .empty) 0 .standard typed [1, 2, 3]
  have shown := stands node
  rw [header] at shown
  exact ⟨waits, header, shown⟩

end Storyline.Terminal
