import Mathlib.Algebra.GroupWithZero.Nat
import Storyline.Proofs.Text.Splitting

/-!
Line breaks. Plain text has none, so each of them is a span of its own or stands within a tag or an
emphasis. The scan looks for the end of either beyond the line it is in: just if it finds none there
a text is split like its lines, one after the other.
-/

namespace Storyline.Text

namespace Span

/-- The letters of a span. A line break has none. -/
def letters : Span → List Char
  | text s | speaker s | emphasis s => s.toList
  | lineBreak => []

theorem count_written (span : Span) : span.written.count '\n' =
    [span].count lineBreak + span.letters.count '\n' := by
  cases span with
  | text s | speaker s => simp [written, letters]
  | emphasis s => simp [written, letters, List.count_append]
  | lineBreak => simp [written, letters]

theorem count_flatMap_written (spans : List Span) : (spans.flatMap written).count '\n' =
    spans.count lineBreak + (spans.map fun span => span.letters.count '\n').sum := by
  induction spans with
  | nil => rfl
  | cons span spans ih =>
    have front : (span :: spans).count lineBreak = [span].count lineBreak + spans.count lineBreak := by
      rw [← List.singleton_append, List.count_append]
    rw [List.flatMap_cons, List.count_append, count_written, ih, List.map_cons, List.sum_cons, front]
    omega

end Span

open Storyline.Text.Span

/-- Every line break among some spans is a span of its own. -/
def Unbroken (spans : List Span) : Prop := ∀ span ∈ spans, '\n' ∉ span.letters

theorem count_break (text : List Char) : text.count '\n' = (spansFrom [] text).count lineBreak +
    ((spansFrom [] text).map fun span => span.letters.count '\n').sum := by
  rw [← count_flatMap_written, (splits_spansFrom text).whole]

theorem unbroken_iff_sum (spans : List Span) :
    Unbroken spans ↔ (spans.map fun span => span.letters.count '\n').sum = 0 := by
  simp only [List.sum_eq_zero_iff_forall_eq_nat, List.forall_mem_map, List.count_eq_zero, Unbroken]

theorem unbroken_iff (text : List Char) : Unbroken (spansFrom [] text) ↔
    (spansFrom [] text).count lineBreak = text.count '\n' := by
  rw [unbroken_iff_sum, count_break text]
  omega

theorem unbroken_line {line : List Char} (ends : '\n' ∉ line) : Unbroken (spansFrom [] line) := by
  have none := List.count_eq_zero.mpr ends
  rw [count_break] at none
  exact (unbroken_iff_sum _).mpr (Nat.eq_zero_of_add_eq_zero_left none)

section

variable {line more rest : List Char} {c : Char} {spans : List Span}

theorem addLetter_break (c : Char) (spans more : List Span) :
    addLetter c (spans ++ lineBreak :: more) = addLetter c spans ++ lineBreak :: more := by
  rcases spans with _ | ⟨_ | _ | _ | _, spans⟩ <;> rfl

theorem Unbroken.of_addLetter (h : Unbroken (addLetter c spans)) : Unbroken spans := by
  rcases spans with _ | ⟨_ | _ | _ | _, spans⟩
  case cons.text s =>
    obtain ⟨first, others⟩ := List.forall_mem_cons.mp h
    refine List.forall_mem_cons.mpr ⟨fun broken => first ?_, others⟩
    rw [letters, String.toList_ofList]
    exact List.mem_cons_of_mem c broken
  all_goals exact fun span member => h span (List.mem_cons_of_mem _ member)

theorem eq_append_of_break {front : List Char} (whole : '\n' ∉ front)
    (same : front ++ more = line ++ '\n' :: rest) :
    ∃ after, line = front ++ after ∧ more = after ++ '\n' :: rest := by
  rcases List.append_eq_append_iff.mp same with split | ⟨after, split, behind⟩
  · exact split
  · cases after with
    | nil => exact ⟨[], by simpa using split.symm, by simpa using behind.symm⟩
    | cons c after =>
      obtain ⟨rfl, -⟩ := List.cons.inj behind
      exact absurd (split ▸ List.mem_append_right line List.mem_cons_self) whole

/-- A line is split on its own if no markup that begins in it ends beyond it. -/
theorem spansFrom_break (ends : '\n' ∉ line) (rest : List Char)
    (within : Unbroken (spansFrom [] (line ++ '\n' :: rest))) :
    spansFrom [] (line ++ '\n' :: rest) = spansFrom [] line ++ .lineBreak :: spansFrom [] rest := by
  generalize whole : line ++ '\n' :: rest = s at within
  -- by what the scan meets, as far as the line goes
  induction s using scan_induction generalizing line with
  | nil => cases line <;> cases whole
  | marked mark s isMark ih =>
    rw [spansFrom_mark isMark] at within ⊢
    obtain ⟨first, others⟩ := List.forall_mem_cons.mp within
    have unbroken : mark = .lineBreak ∨ '\n' ∉ mark.written := by
      cases isMark with
      | lineBreak => exact .inl rfl
      | speaker => exact .inr first
      | emphasis => exact .inr (by simpa [written, letters] using first)
    rcases unbroken with rfl | unbroken
    · cases line with
      | nil =>
        obtain ⟨-, rfl⟩ := List.cons.inj whole
        rw [spansFrom]
        rfl
      | cons c line =>
        obtain ⟨rfl, -⟩ := List.cons.inj whole
        exact absurd List.mem_cons_self ends
    · obtain ⟨line, rfl, rfl⟩ := eq_append_of_break unbroken whole.symm
      have inside := fun broken => ends (List.mem_append_right mark.written broken)
      rw [ih inside rfl others, spansFrom_mark isMark, List.cons_append]
  | letter c s none ih =>
    have other : '\n' ∉ [c] := by
      rintro broken
      rw [← List.mem_singleton.mp broken] at none
      exact none .lineBreak .lineBreak (List.prefix_append ['\n'] s)
    have first : [c] ++ s = line ++ '\n' :: rest := whole.symm
    obtain ⟨line, rfl, rfl⟩ := eq_append_of_break other first
    rw [List.singleton_append] at ends ⊢
    rw [spansFrom_unmarked none] at within ⊢
    have alone : ∀ mark : Span, mark.IsMark → ¬mark.written <+: c :: line := fun mark isMark front =>
      none mark isMark (front.trans (List.prefix_append (c :: line) ('\n' :: rest)))
    rw [ih (fun broken => ends (List.mem_cons_of_mem c broken)) rfl within.of_addLetter,
      addLetter_break, spansFrom_unmarked alone]

end

theorem not_mem_splitOn {α : Type} [DecidableEq α] {a : α} {xs part : List α}
    (member : part ∈ xs.splitOn a) : a ∉ part := by
  induction xs generalizing part with
  | nil =>
    rw [List.splitOn_nil] at member
    exact List.mem_singleton.mp member ▸ List.not_mem_nil
  | cons x xs ih =>
    rw [List.splitOn_cons_eq_if_modifyHead] at member
    split at member
    · rcases List.mem_cons.mp member with rfl | member
      · exact List.not_mem_nil
      · exact ih member
    · next other =>
      have other : a ≠ x := fun same => other (beq_iff_eq.mpr same.symm)
      cases parts : xs.splitOn a with
      | nil => exact absurd parts (List.splitOn_ne_nil _ _)
      | cons first parts' =>
        rw [parts] at member ih
        rcases List.mem_cons.mp member with rfl | member
        · exact List.not_mem_cons_of_ne_of_not_mem other (ih List.mem_cons_self)
        · exact ih (List.mem_cons_of_mem first member)

theorem unbroken_lines {lines : List (List Char)} (ends : ∀ line ∈ lines, '\n' ∉ line) :
    Unbroken ([lineBreak].intercalate (lines.map (spansFrom []))) := by
  induction lines with
  | nil => exact fun span absent => nomatch absent
  | cons line lines ih =>
    obtain ⟨first, others⟩ := List.forall_mem_cons.mp ends
    cases lines with
    | nil =>
      rw [List.map_singleton, List.intercalate_singleton]
      exact unbroken_line first
    | cons next lines =>
      rw [List.map_cons, List.map_cons, List.intercalate_cons_cons, ← List.map_cons]
      refine List.forall_mem_append.mpr ⟨List.forall_mem_append.mpr ⟨unbroken_line first, ?_⟩,
        ih others⟩
      exact List.forall_mem_singleton.mpr List.not_mem_nil

theorem spansFrom_lines {lines : List (List Char)} (ends : ∀ line ∈ lines, '\n' ∉ line)
    (within : Unbroken (spansFrom [] (['\n'].intercalate lines))) :
    spansFrom [] (['\n'].intercalate lines) =
      [lineBreak].intercalate (lines.map (spansFrom [])) := by
  induction lines with
  | nil =>
    rw [List.intercalate_nil, spansFrom]
    rfl
  | cons line lines ih =>
    obtain ⟨first, others⟩ := List.forall_mem_cons.mp ends
    cases lines with
    | nil => rw [List.map_singleton, List.intercalate_singleton, List.intercalate_singleton]
    | cons next lines =>
      rw [List.intercalate_cons_cons, List.append_assoc, List.singleton_append] at within ⊢
      have split := spansFrom_break first _ within
      rw [split] at within ⊢
      have later := (List.forall_mem_cons.mp (List.forall_mem_append.mp within).2).2
      rw [ih others later]
      simp only [List.map_cons, List.intercalate_cons_cons, List.append_assoc, List.singleton_append]

/-- Line breaks of a text are spans of their own, but for those within a tag or an emphasis; plain
text has none. So there are as many of these spans as breaks just if no tag and no emphasis has one
in it, and just if the spans of the text are those of its lines with line breaks between them. -/
theorem resolves_breaks_outside_marks (text : String) :
    let found := spans text
    let hidden := (found.map fun span => span.letters.count '\n').sum
    text.toList.count '\n' = found.count .lineBreak + hidden ∧
    (∀ s, .text s ∈ found → '\n' ∉ s.toList) ∧
    (found.count .lineBreak = text.toList.count '\n' ↔
      ∀ s, .speaker s ∈ found ∨ .emphasis s ∈ found → '\n' ∉ s.toList) ∧
    (found.count .lineBreak = text.toList.count '\n' ↔
      found = [lineBreak].intercalate ((text.toList.splitOn '\n').map (spansFrom []))) := by
  intro found hidden
  have plain : ∀ s, .text s ∈ found → '\n' ∉ s.toList := fun s member broken => by
    rcases (splits_spansFrom text.toList).proper _ member with isMark | ⟨-, -, bare⟩
    · exact nomatch isMark
    · exact bare lineBreak .lineBreak ((List.singleton_infix_iff _ _).mpr broken)
  have unbroken : found.count .lineBreak = text.toList.count '\n' ↔ Unbroken found :=
    (unbroken_iff text.toList).symm
  refine ⟨count_break text.toList, plain, ?_, ?_⟩
  · rw [unbroken]
    constructor
    · rintro none s (member | member) <;> exact none _ member
    · intro none span member
      cases span with
      | text s => exact plain s member
      | speaker s => exact none s (.inl member)
      | emphasis s => exact none s (.inr member)
      | lineBreak => exact List.not_mem_nil
  · rw [unbroken]
    have ends : ∀ line ∈ text.toList.splitOn '\n', '\n' ∉ line := fun _ => not_mem_splitOn
    have lines : ['\n'].intercalate (text.toList.splitOn '\n') = text.toList :=
      List.intercalate_splitOn '\n'
    constructor
    · intro none
      have split := spansFrom_lines ends
      rw [lines] at split
      exact split none
    · intro same
      rw [same]
      exact unbroken_lines ends

/-- A tag and an emphasis that go on beyond the end of a line hide the line break. -/
theorem hides_breaks_within_marks :
    let text := "[ANN\nLEE]: *so\nlong*"
    spans text = [.speaker "[ANN\nLEE]:", .text " ", .emphasis "so\nlong"] ∧
      text.toList.count '\n' = 2 ∧ (spans text).count .lineBreak = 0 := by
  decide +kernel

end Storyline.Text
