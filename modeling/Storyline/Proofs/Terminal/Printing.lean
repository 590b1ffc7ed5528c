import Storyline.Terminal.Timed

/-!
What a terminal prints. Every beat puts out a text of its own, which is the same for all timings, all
lines that come and all times at which they come; these decide only in how many chunks and how fast a
text is revealed.
-/

namespace Storyline.Terminal

def Beat.text : Beat → String
  | write s | reveal s => s
  | rest _ | fresh | complain _ => ""

def Beat.complaint : Beat → String
  | complain s => s
  | _ => ""

theorem join_single (s : String) : String.join [s] = s := by
  rw [String.join_cons, String.join_nil, String.append_empty]

theorem join_reverse_cons (s : String) (out : List String) :
    String.join (s :: out).reverse = String.join out.reverse ++ s := by
  rw [List.reverse_cons, String.join_append, join_single]

namespace Timed

theorem output_write (t : Timed) (s : String) : (t.write s).output = t.output ++ s :=
  join_reverse_cons s t.out

theorem output_play (t : Timed) (beat : Beat) : (t.play beat).output = t.output ++ beat.text := by
  cases beat with
  | write s => exact t.output_write s
  | reveal s =>
    -- a text is revealed whole and once, whatever its watcher does to the signal
    have emitted (shown chunk : List Char) (out : List String)
        (holds : String.join out.reverse = t.output ++ String.ofList shown) :
        String.join (String.ofList chunk :: out).reverse =
          t.output ++ String.ofList (shown ++ chunk) := by
      rw [join_reverse_cons, holds, String.append_assoc, ← String.ofList_append]
    have revealed := (typewriter t.timing).reveal_keeps watcher
      (P := fun shown (so : (Keyboard × List String) × Signal) =>
        String.join so.1.2.reverse = t.output ++ String.ofList shown)
      (fun shown chunk so _ => emitted shown chunk so.2) (fun _ _ _ _ holds => holds)
      (fun _ _ _ holds => holds) s.toList [] (t.keyboard, t.out) t.signal String.append_empty.symm
    rwa [List.nil_append, String.ofList_toList] at revealed
  | rest ms | fresh | complain s => exact String.append_empty.symm

theorem errorOutput_play (t : Timed) (beat : Beat) :
    (t.play beat).errorOutput = t.errorOutput ++ beat.complaint := by
  cases beat with
  | complain s => exact join_reverse_cons s t.errors
  | _ => exact String.append_empty.symm

theorem view_play (t : Timed) (beat : Beat) : (t.play beat).view = t.view := by cases beat <;> rfl

theorem timing_play (t : Timed) (beat : Beat) : (t.play beat).timing = t.timing := by
  cases beat <;> rfl

/-- What some beats put out, one after the other, and the view that is left; the timings stay. -/
structure Plays (t : Timed) (beats : List Beat) (view : View) (t' : Timed) : Prop where
  output : t'.output = t.output ++ String.join (beats.map Beat.text)
  errors : t'.errorOutput = t.errorOutput ++ String.join (beats.map Beat.complaint)
  view : t'.view = view
  timing : t'.timing = t.timing

theorem Plays.refl (t : Timed) : Plays t [] t.view t :=
  ⟨String.append_empty.symm, String.append_empty.symm, rfl, rfl⟩

theorem Plays.append {t t' t'' : Timed} {first more : List Beat} {view view' : View}
    (before : Plays t first view t') (after : Plays t' more view' t'') :
    Plays t (first ++ more) view' t'' where
  output := by
    rw [after.output, before.output, List.map_append, String.join_append, String.append_assoc]
  errors := by
    rw [after.errors, before.errors, List.map_append, String.join_append, String.append_assoc]
  view := after.view
  timing := after.timing.trans before.timing

theorem play_plays (t : Timed) (beat : Beat) : Plays t [beat] t.view (t.play beat) where
  output := (t.output_play beat).trans (congrArg (t.output ++ ·) (join_single _).symm)
  errors := (t.errorOutput_play beat).trans (congrArg (t.errorOutput ++ ·) (join_single _).symm)
  view := t.view_play beat
  timing := t.timing_play beat

theorem plays (beats : List Beat) (t : Timed) : Plays t beats t.view (beats.foldl play t) := by
  induction beats generalizing t with
  | nil => exact .refl t
  | cons beat beats ih =>
    have rest := ih (t.play beat)
    rw [t.view_play] at rest
    exact (t.play_plays beat).append rest

theorem display_plays (t : Timed) (shown : Shown) :
    Plays t (beats t.timing t.view shown).1 (beats t.timing t.view shown).2 (t.display shown) := by
  obtain ⟨output, errors, view, timing⟩ := plays (beats t.timing t.view shown).1
    { t with view := (beats t.timing t.view shown).2 }
  exact ⟨output, errors, view, timing⟩

end Timed

/-- A line that comes during a reveal changes when the rest of the text comes, not what it is. -/
example :
    let slow : Timing := { Timing.standard with typewriter := 5 }
    let t := Timed.new slow (.ofLines [(7, "")])
    let u := Timed.new slow (.ofLines [])
    let shown : Shown := .directive (.displayText "[ANN]: *No*." .response)
    (t.display shown).output = (u.display shown).output ∧
      (t.display shown).out.length ≠ (u.display shown).out.length := by
  decide +kernel

end Storyline.Terminal
