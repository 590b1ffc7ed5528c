import Storyline.Proofs.Play.Abreast
import Storyline.Proofs.Session.Clock
import Storyline.Proofs.Terminal.Turns

/-!
Terminals that reveal texts at once. There only a prompt takes lines, so a session hears the same of
the same lines whenever they are typed, and nothing but the times of its saves tells when that was.
-/

namespace Storyline.Terminal

open Session

/-- The input for which a prompt takes lines, and the lines that are left. Where there are none the
player quits. -/
def takenBy (prompt : Prompt) : List String → PlayerInput × List String
  | [] => (.quit, [])
  | line :: rest =>
    match reply prompt (Text.trim line) with
    | .input input => (input, rest)
    | .again _ => takenBy prompt rest

/-- The inputs for which some prompts take lines, each after the one before it, and the lines that are
left. -/
def takenInTurn : List Prompt → List String → List PlayerInput × List String
  | [], lines => ([], lines)
  | prompt :: prompts, lines =>
    let (input, lines) := takenBy prompt lines
    let (inputs, lines) := takenInTurn prompts lines
    (input :: inputs, lines)

structure Keyboard.Types (k : Keyboard) (lines : List String) : Prop where
  listens : k.closed = false
  lines : k.arrivals.map Prod.snd = lines

namespace Timed

/-- A terminal that reveals texts at once, and at which the input has not ended. -/
structure Calm (t : Timed) : Prop where
  instant : t.timing.typewriter = 0
  signal : t.signal = .normal
  listens : t.keyboard.closed = false

variable {t u : Timed}

theorem Calm.play (calm : t.Calm) (beat : Beat) :
    (t.play beat).Calm ∧ (t.play beat).arrivals = t.arrivals := by
  obtain ⟨instant, signal, listens⟩ := calm
  cases beat with
  | reveal s =>
    -- with no delay a text is out before anybody looks for a line
    have unhurried (now : Signal) (same : now = t.signal) : (if now = .hurried then
        (typewriter t.timing).fastDelay else (typewriter t.timing).delay) = 0 := by
      rw [same, signal]
      exact instant
    obtain ⟨keyboard, still⟩ := (typewriter t.timing).reveal_keeps watcher
      (P := fun _ (so : (Keyboard × List String) × Signal) =>
        so.1.1 = t.keyboard ∧ so.2 = t.signal)
      (fun _ _ _ _ same => same)
      (fun _ _ now pauses same => absurd (unhurried now same.2) pauses)
      (fun _ _ _ same => same) s.toList [] (t.keyboard, t.out) t.signal ⟨rfl, rfl⟩
    exact ⟨⟨instant, still.trans signal, (congrArg Keyboard.closed keyboard).trans listens⟩,
      congrArg Keyboard.arrivals keyboard⟩
  | fresh => exact ⟨⟨instant, rfl, listens⟩, rfl⟩
  | _ => exact ⟨⟨instant, signal, listens⟩, rfl⟩

theorem Calm.display (calm : t.Calm) (shown : Shown) :
    (t.display shown).Calm ∧ (t.display shown).arrivals = t.arrivals := by
  have each : ∀ (beats : List Beat) (t : Timed), t.Calm →
      (beats.foldl Timed.play t).Calm ∧ (beats.foldl Timed.play t).arrivals = t.arrivals := by
    intro beats
    induction beats with
    | nil => exact fun t calm => ⟨calm, rfl⟩
    | cons beat beats ih =>
      intro t calm
      obtain ⟨first, left⟩ := calm.play beat
      exact (ih _ first).imp_right fun same => same.trans left
  exact each _ _ ⟨calm.instant, calm.signal, calm.listens⟩

theorem Calm.displays (calm : t.Calm) (shown : List Shown) :
    (shown.foldl Timed.display t).Calm ∧ (shown.foldl Timed.display t).lines = t.lines := by
  induction shown generalizing t with
  | nil => exact ⟨calm, rfl⟩
  | cons first rest ih =>
    obtain ⟨still, left⟩ := calm.display first
    exact (ih still).imp_right fun same => same.trans (congrArg (List.map Prod.snd) left)

theorem Calm.askOver (prompt : Prompt) (arrivals : List (Nat × String)) (calm : t.Calm) :
    (askOver prompt t arrivals).1 = (takenBy prompt (arrivals.map Prod.snd)).1 ∧
      (askOver prompt t arrivals).2.lines = (takenBy prompt (arrivals.map Prod.snd)).2 ∧
      ((askOver prompt t arrivals).1 ≠ .quit → (askOver prompt t arrivals).2.Calm) := by
  induction arrivals generalizing t with
  | nil => exact ⟨rfl, rfl, fun goes => absurd rfl goes⟩
  | cons first rest ih =>
    obtain ⟨time, line⟩ := first
    have calm' : ∀ (out : List String) (k : Keyboard), k.closed = t.keyboard.closed →
        Calm { t with out := out, keyboard := k } :=
      fun _ _ same => ⟨calm.instant, calm.signal, same.trans calm.listens⟩
    unfold Timed.askOver
    rw [List.map_cons, takenBy]
    dsimp only
    cases reply prompt (Text.trim line) with
    | input input => exact ⟨rfl, rfl, fun _ => calm' _ _ rfl⟩
    | again help => exact ih (calm' _ _ rfl)

theorem Calm.ask (calm : t.Calm) (prompt : Prompt) :
    (t.ask prompt).1 = (takenBy prompt t.lines).1 ∧
      (t.ask prompt).2.lines = (takenBy prompt t.lines).2 ∧
      ((t.ask prompt).1 ≠ .quit → (t.ask prompt).2.Calm) := by
  unfold Timed.ask
  rw [calm.listens]
  exact calm.askOver prompt t.arrivals

/-- Two terminals that are told apart by their clocks only. -/
structure Alike (t u : Timed) : Prop where
  timing : t.timing = u.timing
  view : t.view = u.view
  output : t.output = u.output
  errors : t.errorOutput = u.errorOutput
  lines : t.lines = u.lines

theorem Alike.plays {t' u' : Timed} {beats : List Beat} {view : View} (alike : Alike t u)
    (left : Plays t beats view t') (right : Plays u beats view u') (lines : t'.lines = u'.lines) :
    Alike t' u' where
  timing := left.timing.trans (alike.timing.trans right.timing.symm)
  view := left.view.trans right.view.symm
  output := by rw [left.output, right.output, alike.output]
  errors := by rw [left.errors, right.errors, alike.errors]
  lines := lines

theorem Alike.displays (alike : Alike t u) (calm : t.Calm) (calm' : u.Calm) (shown : List Shown) :
    Alike (shown.foldl display t) (shown.foldl display u) := by
  have right := u.displays_play shown
  rw [← alike.timing, ← alike.view] at right
  refine alike.plays (t.displays_play shown) right ?_
  rw [(calm.displays shown).2, (calm'.displays shown).2, alike.lines]

theorem Alike.ask (alike : Alike t u) (calm : t.Calm) (calm' : u.Calm) (prompt : Prompt) :
    (t.ask prompt).1 = (u.ask prompt).1 ∧ Alike (t.ask prompt).2 (u.ask prompt).2 := by
  obtain ⟨input, left, _⟩ := calm.ask prompt
  obtain ⟨input', left', _⟩ := calm'.ask prompt
  have held : t.heldLines = t.lines := by simp only [heldLines, calm.listens]; rfl
  have held' : u.heldLines = u.lines := by simp only [heldLines, calm'.listens]; rfl
  have asked := t.ask_plays prompt
  have asked' := u.ask_plays prompt
  rw [held] at asked
  rw [held', ← alike.view, ← alike.lines] at asked'
  exact ⟨by rw [input, input', alike.lines],
    alike.plays asked asked' (by rw [left, left', alike.lines])⟩

end Timed

variable {σ : Type} [Store σ] {clock : List (UInt64 × UInt64)} {s s' : Session σ Timed}

theorem turn_takes (calm : s.renderer.Calm) {input : PlayerInput} {t : Timed}
    (asked : s.renderer.ask s.interpreter.wait.prompt = (input, t)) :
    takenBy s.interpreter.wait.prompt s.renderer.lines = (input, s.turn.2.renderer.lines) ∧
      (input = .quit ∧ s.turn.1 = .ended (.ok ()) ∨
        input ≠ .quit ∧ s.turn.1 = .running ∧ s.turn.2.renderer.Calm) := by
  obtain ⟨taken, left, still⟩ := calm.ask s.interpreter.wait.prompt
  rw [asked] at taken left still
  have takes : takenBy s.interpreter.wait.prompt s.renderer.lines = (input, t.lines) :=
    Prod.ext taken.symm left.symm
  by_cases quits : input = .quit
  · subst quits
    rw [turn_quits asked]
    exact ⟨takes, .inl ⟨rfl, rfl⟩⟩
  · obtain ⟨calm', same⟩ := (still quits).displays (s.interpreter.showing input)
    rw [turn_displays asked quits]
    exact ⟨takes.trans (congrArg (input, ·) same.symm), .inr ⟨quits, rfl, calm'⟩⟩

/-- The lines that a session takes are those that its prompts take, one prompt after the other. -/
theorem turnsAt_takes (times : List UInt64) (calm : s.renderer.Calm) :
    takenInTurn ((s.hearingsAt times).map (·.1.wait.prompt)) s.renderer.lines =
      ((s.hearingsAt times).map Prod.snd, (s.turnsAt times).2.renderer.lines) := by
  induction times generalizing s with
  | nil => rfl
  | cons now times ih =>
    rcases asked : s.renderer.ask s.interpreter.wait.prompt with ⟨input, t⟩
    obtain ⟨takes, goes⟩ := turn_takes (s := s.atTime now) calm asked
    unfold hearingsAt turnsAt
    simp only [Renderer.ask, asked]
    generalize (s.atTime now).turn = turned at takes goes ⊢
    obtain ⟨progress, after⟩ := turned
    rw [List.map_cons, List.map_cons, takenInTurn]
    rw [show takenBy (s.interpreter.atTime now).wait.prompt s.renderer.lines = _ from takes]
    obtain ⟨rfl, rfl⟩ | ⟨_, rfl, calm'⟩ := goes
    · rfl
    · simp only [ih calm']

structure Abreast (clock : List (UInt64 × UInt64)) (s s' : Session σ Timed) : Prop where
  games : s.interpreter.Abreast clock s'.interpreter
  terminals : s.renderer.Alike s'.renderer

namespace Abreast

theorem atTime (h : Abreast clock s s') {times : UInt64 × UInt64} (member : times ∈ clock) :
    Abreast clock (s.atTime times.1) (s'.atTime times.2) :=
  ⟨h.games.atTime member, h.terminals⟩

theorem ask (h : Abreast clock s s') (calm : s.renderer.Calm) (calm' : s'.renderer.Calm) :
    (s.renderer.ask s.interpreter.wait.prompt).1 = (s'.renderer.ask s'.interpreter.wait.prompt).1 ∧
      (s.renderer.ask s.interpreter.wait.prompt).2.Alike
        (s'.renderer.ask s'.interpreter.wait.prompt).2 := by
  rw [← h.games.wait]
  exact h.terminals.ask calm calm' s.interpreter.wait.prompt

theorem begin (h : Abreast clock s s') (calm : s.renderer.Calm) (calm' : s'.renderer.Calm) :
    Abreast clock s.begin.2 s'.begin.2 := by
  obtain ⟨replies, games⟩ := h.games.act .boot
  have shown : s.interpreter.boot.1 = s'.interpreter.boot.1 := congrArg Reply.directives replies
  rw [begin_displays, begin_displays, shown]
  exact ⟨games, h.terminals.displays calm calm' _⟩

theorem turn (h : Abreast clock s s') (calm : s.renderer.Calm) (calm' : s'.renderer.Calm) :
    s.turn.1 = s'.turn.1 ∧ Abreast clock s.turn.2 s'.turn.2 := by
  obtain ⟨same, alike⟩ := h.ask calm calm'
  rcases asked : s.renderer.ask s.interpreter.wait.prompt with ⟨input, t⟩
  rcases asked' : s'.renderer.ask s'.interpreter.wait.prompt with ⟨input', t'⟩
  obtain ⟨_, _, still⟩ := calm.ask s.interpreter.wait.prompt
  obtain ⟨_, _, still'⟩ := calm'.ask s'.interpreter.wait.prompt
  rw [asked] at same alike still
  rw [asked'] at same alike still'
  obtain rfl : input = input' := same
  by_cases quits : input = .quit
  · subst quits
    rw [turn_quits asked, turn_quits asked']
    exact ⟨rfl, h.games.react .quit, alike⟩
  · rw [turn_displays asked quits, turn_displays asked' quits, h.games.showing]
    exact ⟨rfl, h.games.react input, alike.displays (still quits) (still' quits) _⟩

theorem turnsAt (h : Abreast clock s s') (calm : s.renderer.Calm) (calm' : s'.renderer.Calm)
    {times : List (UInt64 × UInt64)} (within : ∀ now ∈ times, now ∈ clock) :
    (s.hearingsAt (times.map Prod.fst)).map Prod.snd =
        (s'.hearingsAt (times.map Prod.snd)).map Prod.snd ∧
      (s.turnsAt (times.map Prod.fst)).1 = (s'.turnsAt (times.map Prod.snd)).1 ∧
      Abreast clock (s.turnsAt (times.map Prod.fst)).2 (s'.turnsAt (times.map Prod.snd)).2 := by
  induction times generalizing s s' with
  | nil => exact ⟨rfl, rfl, h⟩
  | cons now times ih =>
    have here := h.atTime (within now List.mem_cons_self)
    obtain ⟨same, _⟩ := h.ask calm calm'
    obtain ⟨progress, after⟩ := here.turn calm calm'
    rcases asked : s.renderer.ask s.interpreter.wait.prompt with ⟨input, t⟩
    rcases asked' : s'.renderer.ask s'.interpreter.wait.prompt with ⟨input', t'⟩
    rw [asked, asked'] at same
    obtain rfl : input = input' := same
    obtain ⟨_, goes⟩ := turn_takes (s := s.atTime now.1) calm asked
    obtain ⟨_, goes'⟩ := turn_takes (s := s'.atTime now.2) calm' asked'
    rw [List.map_cons, List.map_cons]
    unfold hearingsAt Session.turnsAt
    simp only [Renderer.ask, asked, asked']
    generalize (s.atTime now.1).turn = turned, (s'.atTime now.2).turn = turned'
      at progress after goes goes' ⊢
    obtain ⟨_, s⟩ := turned
    obtain ⟨_, s'⟩ := turned'
    obtain ⟨rfl, rfl⟩ | ⟨goes, rfl, calm⟩ := goes
    · obtain rfl := progress
      exact ⟨rfl, rfl, after⟩
    · obtain rfl := progress
      have calm' : s'.renderer.Calm := goes'.elim (fun quits => absurd quits.1 goes) (·.2.2)
      obtain ⟨heard, ends, last⟩ := ih after calm calm' fun now member =>
        within now (List.mem_cons_of_mem _ member)
      exact ⟨congrArg (input :: ·) heard, ends, last⟩

end Abreast

theorem calm_new {timing : Timing} (instant : timing.typewriter = 0) {k : Keyboard}
    {lines : List String} (typed : k.Types lines) :
    (Timed.new timing k).Calm ∧ (Timed.new timing k).lines = lines :=
  ⟨⟨instant, rfl, typed.listens⟩, typed.lines⟩

/-- Where texts are revealed at once, no line that is typed is lost on anything but a prompt. What is
heard is what the prompts take of the lines, one prompt after the other and each line once; and two
sessions with the same lines, however these come and however the clocks go, hear the same, put out
the same and end in the same state, waiting for the same, with stores that only the clocks tell
apart. The store has to be one that these clocks do not tell apart from itself, as no clocks do if it
keeps its entries in memory or in files, trouble with these included. -/
theorem takes_lines_when_asked (content : Content) (config : Config) {store : σ} {timing : Timing}
    (instant : timing.typewriter = 0) {lines : List String} {k k' : Keyboard}
    (typed : k.Types lines) (typed' : k'.Types lines) (start start' : UInt64)
    {times : List (UInt64 × UInt64)} (blind : Store.Alike ((start, start') :: times) store store) :
    let s : Session σ Timed := ⟨.new content config store start, .new timing k⟩
    let s' : Session σ Timed := ⟨.new content config store start', .new timing k'⟩
    let heard := s.heardAt (times.map Prod.fst)
    let heard' := s'.heardAt (times.map Prod.snd)
    let last := s.runAt (times.map Prod.fst)
    let last' := s'.runAt (times.map Prod.snd)
    takenInTurn (heard.map (·.1.wait.prompt)) lines =
        (heard.map Prod.snd, last.2.renderer.lines) ∧
      heard.map Prod.snd = heard'.map Prod.snd ∧
      last.1 = last'.1 ∧
      last.2.interpreter.state = last'.2.interpreter.state ∧
      last.2.interpreter.wait = last'.2.interpreter.wait ∧
      Store.Alike ((start, start') :: times) last.2.interpreter.saves.store
        last'.2.interpreter.saves.store ∧
      last.2.renderer.output = last'.2.renderer.output ∧
      last.2.renderer.errorOutput = last'.2.renderer.errorOutput ∧
      last.2.renderer.lines = last'.2.renderer.lines := by
  intro s s' heard heard' last last'
  obtain ⟨calm, left⟩ := calm_new instant typed
  obtain ⟨calm', left'⟩ := calm_new instant typed'
  have side : Abreast ((start, start') :: times) s s' :=
    ⟨⟨⟨rfl, rfl, rfl, rfl⟩, ⟨rfl, List.mem_cons_self, blind⟩⟩,
      ⟨rfl, rfl, rfl, rfl, left.trans left'.symm⟩⟩
  have begun := side.begin calm calm'
  obtain ⟨first, shown⟩ := calm.displays (s.interpreter.boot.1.map .directive)
  obtain ⟨first', _⟩ := calm'.displays (s'.interpreter.boot.1.map .directive)
  rw [begin_displays, begin_displays] at begun
  have takes := turnsAt_takes (s := ⟨s.interpreter.boot.2, _⟩) (times.map Prod.fst) first
  rw [shown.trans left] at takes
  obtain ⟨heards, ends, same⟩ := begun.turnsAt first first' fun _ => List.mem_cons_of_mem _
  simp only [heard, heard', last, last', heardAt, runAt, begin_displays]
  exact ⟨takes, heards, ends, same.games.state, same.games.wait, same.games.saves.store,
    same.terminals.output, same.terminals.errors, same.terminals.lines⟩

/-- Lines that are all there from the start, and the same lines with a minute between them; once over
memory, and once over a folder in which files can be written and not read. -/
theorem takes_lines_when_asked_tale :
    let timing : Timing := { Timing.standard with typewriter := 0 }
    let lines := ["ann", ":save 1", "what?", "1", "", ":load 2", "q", "1"]
    let early := Keyboard.ofLines (lines.map fun line => (0, line))
    let late := Keyboard.ofLines (lines.zipIdx.map fun line => (60000 * line.2, line.1))
    let store := MemoryStore.mk .empty
    let folder : Outage FileStore := ⟨.empty, [.get]⟩
    let times : List (UInt64 × UInt64) := [(1, 70), (2, 80), (3, 90), (3, 91), (5, 100), (6, 4)]
    let s : Session MemoryStore Timed := ⟨.new .tale .standard store 0, .new timing early⟩
    let s' : Session MemoryStore Timed := ⟨.new .tale .standard store 60, .new timing late⟩
    let f : Session (Outage FileStore) Timed := ⟨.new .tale .standard folder 0, .new timing early⟩
    let f' : Session (Outage FileStore) Timed := ⟨.new .tale .standard folder 60, .new timing late⟩
    let inputs := [.event (.playerName "ann"), .save 1, .event (.choose 1), .event .advance, .load 2,
      .quit]
    timing.typewriter = 0 ∧ early.Types lines ∧ late.Types lines ∧
      Store.Alike ((0, 60) :: times) store store ∧
      (s'.heardAt (times.map Prod.snd)).map Prod.snd = inputs ∧
      (s'.runAt (times.map Prod.snd)).2.renderer.lines = ["1"] ∧
      (s.runAt (times.map Prod.fst)).2.renderer.output =
        (s'.runAt (times.map Prod.snd)).2.renderer.output ∧
      Store.Alike ((0, 60) :: times) folder folder ∧
      (f'.heardAt (times.map Prod.snd)).map Prod.snd = inputs ∧
      (f.runAt (times.map Prod.fst)).2.renderer.output =
        (f'.runAt (times.map Prod.snd)).2.renderer.output := by
  intro timing lines early late store folder times s s' f f' inputs
  have instant : timing.typewriter = 0 := rfl
  have typed : early.Types lines := ⟨rfl, rfl⟩
  have typed' : late.Types lines := ⟨rfl, rfl⟩
  have blind : Store.Alike ((0, 60) :: times) store store := MemoryStore.alike_self _ store
  have blind' : Store.Alike ((0, 60) :: times) folder folder :=
    Outage.alike_self (FileStore.alike_self _ .empty) [.get]
  obtain ⟨_, heard, _, _, _, _, output, _, left⟩ :=
    takes_lines_when_asked .tale .standard instant typed typed' 0 60 blind
  obtain ⟨_, heard', _, _, _, _, output', _, _⟩ :=
    takes_lines_when_asked .tale .standard instant typed typed' 0 60 blind'
  refine ⟨instant, typed, typed', blind, heard.symm.trans ?_, left.symm.trans ?_, output, blind',
    heard'.symm.trans ?_, output'⟩
  · decide +kernel
  · decide +kernel
  · decide +kernel

end Storyline.Terminal
