import Mathlib.Algebra.GroupWithZero.Nat
import Mathlib.Data.List.DropRight
import Mathlib.Data.Nat.Find
import Storyline.Session.Renderer
import Storyline.Terminal.Typewriter

/-!
A text that is revealed while others hold its signal. Whatever they do to the signal and whenever, each
character comes out once: one by one up to the first step that finds a skip, and then all at once. How
a step finds the signal depends only on what was done since the last reset, and the time that passes
is that of the pauses after single characters.
-/

namespace Storyline.Terminal

def sinceReset (given : List Gesture) : List Gesture := given.rtakeWhile (· ≠ .reset)

def Skips (given : List Gesture) : Prop := .skip ∈ sinceReset given

/-- A hurry is in force, and no skip that would outlast it. -/
def Hurries (given : List Gesture) : Prop := .hurry ∈ sinceReset given ∧ .skip ∉ sinceReset given

instance (given : List Gesture) : Decidable (Skips given) := inferInstanceAs (Decidable (_ ∈ _))

instance (given : List Gesture) : Decidable (Hurries given) := inferInstanceAs (Decidable (_ ∧ _))

def signalAfter (given : List Gesture) : Signal := given.foldl Signal.after .normal

section Signals

theorem signalAfter_append (given more : List Gesture) :
    signalAfter (given ++ more) = more.foldl Signal.after (signalAfter given) := List.foldl_append

theorem sinceReset_concat (given : List Gesture) (g : Gesture) :
    sinceReset (given ++ [g]) = if g = .reset then [] else sinceReset given ++ [g] := by
  unfold sinceReset
  by_cases reset : g = .reset
  · rw [if_pos reset, List.rtakeWhile_concat_neg _ _ _ (by simp [reset])]
  · rw [if_neg reset, List.rtakeWhile_concat_pos _ _ _ (by simp [reset])]

/-- A signal stands at a skip just if one was given since the last reset, and at a hurry just if one was
given and no skip. -/
theorem signalAfter_iff (given : List Gesture) : (signalAfter given = .skipped ↔ Skips given) ∧
    (signalAfter given = .hurried ↔ Hurries given) := by
  induction given using List.reverseRecOn with
  | nil => decide
  | append_singleton given g ih =>
    obtain ⟨skips, hurries⟩ := ih
    have next : signalAfter (given ++ [g]) = (signalAfter given).after g := signalAfter_append given [g]
    rw [next]
    unfold Skips Hurries at *
    rw [sinceReset_concat]
    cases g with
    | hurry => cases stands : signalAfter given <;> simp_all [Signal.after]
    | skip => simp [Signal.after]
    | reset => simp [Signal.after]

end Signals

/-- What is done to the signal of a typewriter by all who hold it. Chunks are counted from one. -/
structure Schedule where
  before : List Gesture
  /-- When a chunk is out, before the typewriter looks how fast it is to go on. -/
  shown : Nat → List Gesture
  /-- During the pause after a chunk, if there is one. -/
  paused : Nat → List Gesture
  /-- Between the step of a chunk and the next step. -/
  between : Nat → List Gesture

structure Showing where
  chunks : List (List Char)
  found : List Signal
  elapsed : Nat

def Showing.start : Showing := ⟨[], [], 0⟩

/-- The delay after a character that came singly, by what has been done to the signal. -/
def Typewriter.delayAfter (t : Typewriter) (given : List Gesture) : Nat :=
  if Hurries given then t.fastDelay else t.delay

namespace Schedule

def watcher (plan : Schedule) : Watcher Showing where
  emitted chunk so signal :=
    ({ so with chunks := so.chunks ++ [chunk], found := so.found ++ [signal] },
      (plan.shown (so.chunks.length + 1)).foldl Signal.after signal)
  waited ms so signal :=
    ({ so with elapsed := so.elapsed + pauseLength ms },
      (plan.paused so.chunks.length).foldl Signal.after signal)
  between so signal := (so, (plan.between so.chunks.length).foldl Signal.after signal)

/-- All that was done to the signal when so many characters have come singly and the next step begins. -/
def givenBy (plan : Schedule) (t : Typewriter) : Nat → List Gesture
  | 0 => plan.before
  | n + 1 =>
    let looked := plan.givenBy t n ++ plan.shown (n + 1)
    looked ++ (if t.delayAfter looked = 0 then [] else plan.paused (n + 1)) ++ plan.between (n + 1)

/-- What was done by the time the typewriter looks how long to pause after a character. -/
def lookedAt (plan : Schedule) (t : Typewriter) (n : Nat) : List Gesture :=
  plan.givenBy t n ++ plan.shown (n + 1)

/-- What is seen when so many characters of a text have come singly. -/
def progress (plan : Schedule) (t : Typewriter) (text : List Char) (n : Nat) : Showing where
  chunks := (text.take n).map fun c => [c]
  found := (List.range n).map fun i => signalAfter (plan.givenBy t i)
  elapsed := ((List.range n).map fun i => pauseLength (t.delayAfter (plan.lookedAt t i))).sum

section

variable (plan : Schedule) (given : List Gesture) (so : Showing)

theorem emitted_eq (chunk : List Char) : plan.watcher.emitted chunk so (signalAfter given) =
    (⟨so.chunks ++ [chunk], so.found ++ [signalAfter given], so.elapsed⟩,
      signalAfter (given ++ plan.shown (so.chunks.length + 1))) := by
  rw [signalAfter_append]
  rfl

theorem waited_eq (ms : Nat) :
    (if ms = 0 then (so, signalAfter given) else plan.watcher.waited ms so (signalAfter given)) =
      ({ so with elapsed := so.elapsed + pauseLength ms },
        signalAfter (given ++ if ms = 0 then [] else plan.paused so.chunks.length)) := by
  by_cases none : ms = 0
  · rw [if_pos none, if_pos none, none, List.append_nil]
    rfl
  · rw [if_neg none, if_neg none, signalAfter_append]
    rfl

theorem between_eq : plan.watcher.between so (signalAfter given) =
    (so, signalAfter (given ++ plan.between so.chunks.length)) := by
  rw [signalAfter_append]
  rfl

end

variable (plan : Schedule) (t : Typewriter) {text : List Char} {n : Nat}

theorem givenBy_succ (n : Nat) : plan.givenBy t (n + 1) = plan.lookedAt t n ++
    (if t.delayAfter (plan.lookedAt t n) = 0 then [] else plan.paused (n + 1)) ++
    plan.between (n + 1) := rfl

theorem progress_succ (more : n < text.length) : plan.progress t text (n + 1) = {
    chunks := (plan.progress t text n).chunks ++ [[text[n]]]
    found := (plan.progress t text n).found ++ [signalAfter (plan.givenBy t n)]
    elapsed := (plan.progress t text n).elapsed +
      pauseLength (t.delayAfter (plan.lookedAt t n)) } := by
  simp only [progress, List.take_succ_eq_append_getElem more, List.range_succ, List.map_append,
    List.map_singleton, List.sum_append, List.sum_singleton]

theorem length_progress (le : n ≤ text.length) : (plan.progress t text n).chunks.length = n := by
  rw [progress, List.length_map, List.length_take_of_le le]

end Schedule

namespace Typewriter

variable (t : Typewriter) (plan : Schedule) {text : List Char} {n : Nat}

theorem delayAfter_eq (given : List Gesture) : t.delayAfter given =
    if signalAfter given = .hurried then t.fastDelay else t.delay := by
  unfold delayAfter
  simp only [(signalAfter_iff given).2]

theorem reveal_single (more : n < text.length) (goes : ¬Skips (plan.givenBy t n)) :
    t.reveal plan.watcher (text.drop n) (plan.progress t text n) (signalAfter (plan.givenBy t n)) =
      t.reveal plan.watcher (text.drop (n + 1)) (plan.progress t text (n + 1))
        (signalAfter (plan.givenBy t (n + 1))) := by
  have unskipped : signalAfter (plan.givenBy t n) ≠ .skipped := fun skipped =>
    goes ((signalAfter_iff _).1.mp skipped)
  have out := plan.length_progress t more.le
  rw [List.drop_eq_getElem_cons more, reveal, if_neg unskipped, plan.progress_succ t more,
    plan.givenBy_succ t]
  simp only [plan.emitted_eq, ← delayAfter_eq, plan.waited_eq, plan.between_eq, List.length_append,
    List.length_singleton, out, Schedule.lookedAt]
  rfl

theorem reveal_singly (text : List Char) (le : n ≤ text.length)
    (go : ∀ i < n, ¬Skips (plan.givenBy t i)) :
    t.reveal plan.watcher text .start (signalAfter plan.before) =
      t.reveal plan.watcher (text.drop n) (plan.progress t text n)
        (signalAfter (plan.givenBy t n)) := by
  induction n with
  | zero => rfl
  | succ n ih =>
    rw [ih (Nat.le_of_succ_le le) fun i below => go i (Nat.lt_succ_of_lt below)]
    exact t.reveal_single plan le (go n (Nat.lt_succ_self n))

theorem reveal_skipped (more : n < text.length) (skips : Skips (plan.givenBy t n)) :
    t.reveal plan.watcher (text.drop n) (plan.progress t text n) (signalAfter (plan.givenBy t n)) =
      ({ plan.progress t text n with
          chunks := (plan.progress t text n).chunks ++ [text.drop n]
          found := (plan.progress t text (n + 1)).found },
        signalAfter (plan.lookedAt t n)) := by
  have skipped := (signalAfter_iff (plan.givenBy t n)).1.mpr skips
  have out := plan.length_progress t more.le
  rw [plan.progress_succ t more, List.drop_eq_getElem_cons more, reveal, if_pos skipped,
    plan.emitted_eq, out]
  rfl

theorem exists_singles (length : Nat) : ∃ n ≤ length, (∀ i < n, ¬Skips (plan.givenBy t i)) ∧
    (n < length → Skips (plan.givenBy t n)) := by
  by_cases stops : ∃ n, n < length ∧ Skips (plan.givenBy t n)
  · obtain ⟨below, skips⟩ := Nat.find_spec stops
    exact ⟨Nat.find stops, below.le, fun i before skips => Nat.find_min stops before
      ⟨before.trans below, skips⟩, fun _ => skips⟩
  · exact ⟨length, Nat.le_refl length, fun i below skips => stops ⟨i, below, skips⟩,
      fun none => absurd none (Nat.lt_irrefl length)⟩

/-- What is revealed while anybody may do anything to the signal at any time. How the signal stands
depends on what was done since the last reset: at a skip after a skip, at a hurry after a hurry without
a skip. Characters come singly until a step finds a skip; then the rest comes as one chunk, and no more
time passes. All chunks make up the text. The time that has passed is the sum of the delays after
single characters, each as the signal stood when the character was out, and none longer than the
longest pause. -/
theorem reveals_each_once (text : String) :
    let told := t.reveal plan.watcher text.toList .start (signalAfter plan.before)
    let showing := told.1
    (∀ given, (signalAfter given = .skipped ↔ .skip ∈ sinceReset given) ∧
      (signalAfter given = .hurried ↔ .hurry ∈ sinceReset given ∧ .skip ∉ sinceReset given)) ∧
    showing.chunks.flatten = text.toList ∧
    showing.found =
      (List.range showing.chunks.length).map (fun i => signalAfter (plan.givenBy t i)) ∧
    ∃ n ≤ text.toList.length,
      (∀ i < n, ¬Skips (plan.givenBy t i)) ∧
      showing.elapsed = ((List.range n).map fun i => pauseLength <|
        if Hurries (plan.givenBy t i ++ plan.shown (i + 1)) then t.fastDelay else t.delay).sum ∧
      (n = text.toList.length ∧ showing.chunks = text.toList.map (fun c => [c]) ∧
          told.2 = signalAfter (plan.givenBy t n) ∨
        n < text.toList.length ∧ Skips (plan.givenBy t n) ∧
          showing.chunks = (text.toList.take n).map (fun c => [c]) ++ [text.toList.drop n] ∧
          told.2 = signalAfter (plan.givenBy t n ++ plan.shown (n + 1))) := by
  intro told showing
  obtain ⟨n, le, go, stop⟩ := t.exists_singles plan text.toList.length
  have run := t.reveal_singly plan text.toList le go
  have singly (chars : List Char) : (chars.map fun c => [c]).flatten = chars := by
    rw [← List.flatMap_def, List.flatMap_singleton']
  rcases Nat.eq_or_lt_of_le le with all | more
  · have told_eq : told = (plan.progress t text.toList n, signalAfter (plan.givenBy t n)) := by
      rw [show told = _ from run, all, List.drop_length, reveal]
    have seen : showing = plan.progress t text.toList n := congrArg Prod.fst told_eq
    have chunks : showing.chunks = text.toList.map fun c => [c] := by
      rw [seen, all, Schedule.progress, List.take_length]
    have found : showing.found = (List.range n).map fun i => signalAfter (plan.givenBy t i) := by
      rw [seen]
      rfl
    refine ⟨signalAfter_iff, ?_, ?_, n, le, go, ?_, .inl ⟨all, chunks, ?_⟩⟩
    · rw [chunks, singly]
    · rw [found, chunks, List.length_map, ← all]
    · rw [seen]
      rfl
    · rw [told_eq]
  · have told_eq := run.trans (t.reveal_skipped plan more (stop more))
    have seen : showing = _ := congrArg Prod.fst told_eq
    have chunks : showing.chunks =
        (text.toList.take n).map (fun c => [c]) ++ [text.toList.drop n] := by
      rw [seen]
      rfl
    have found : showing.found =
        (List.range (n + 1)).map fun i => signalAfter (plan.givenBy t i) := by
      rw [seen]
      rfl
    refine ⟨signalAfter_iff, ?_, ?_, n, le, go, ?_, .inr ⟨more, stop more, chunks, ?_⟩⟩
    · rw [chunks, List.flatten_append, singly, List.flatten_singleton, List.take_append_drop]
    · rw [found, chunks, List.length_append, List.length_map, List.length_take_of_le le,
        List.length_singleton]
    · rw [seen]
      rfl
    · exact congrArg Prod.snd told_eq

/-- Nobody holds the signal of a typewriter with a delay that is longer than the longest pause by a
millisecond. A character is out, and a millisecond too little has passed. -/
theorem reveal_cut_short :
    let t : Typewriter := ⟨longestPause + 1, 0⟩
    let plan : Schedule := ⟨[], fun _ => [], fun _ => [], fun _ => []⟩
    let told := t.reveal plan.watcher "a".toList .start (signalAfter plan.before)
    told.1.chunks = [['a']] ∧ ¬Hurries (plan.givenBy t 0 ++ plan.shown 1) ∧
      t.delay = 946080000001 ∧ told.1.elapsed = 946080000000 := by
  decide

end Typewriter
end Storyline.Terminal
