import Mathlib.Data.List.Chain
import Mathlib.Data.List.Infix
import Mathlib.Data.List.TakeWhile
import Storyline.Proofs.Text.Speakers
import Storyline.Proofs.Text.Substitution

/-!
What a text is split into. Nothing is lost: the spans can be written back. And no markup is missed:
plain text has none in it, because markup that began there would have been seen where it begins,
however far behind it ends.
-/

namespace Storyline.Text

theorem emphasized?_eq_some_iff {s inner : List Char} : emphasized? s = some inner ↔
    inner ≠ [] ∧ '*' ∉ inner ∧ ∃ rest, s = inner ++ '*' :: rest := by
  constructor
  · intro found
    have whole := List.prefix_iff_eq_append.mp <| List.takeWhile_prefix (· != '*') (l := s)
    unfold emphasized? at found
    simp only at found
    split at found
    · next rest behind =>
      split at found
      · cases found
      · next nonempty =>
        cases found
        rw [behind] at whole
        refine ⟨fun none => nonempty (List.isEmpty_iff.mpr none), fun member => ?_, rest, whole.symm⟩
        simpa using List.mem_takeWhile_imp member
    · cases found
  · rintro ⟨nonempty, single, rest, rfl⟩
    unfold emphasized?
    rw [takeWhile_closing single]
    simp only [List.drop_left]
    rw [if_neg fun empty => nonempty (List.isEmpty_iff.mp empty)]

namespace Span

def written : Span → List Char
  | text s => s.toList
  | speaker tag => tag.toList
  | emphasis inner => '*' :: inner.toList ++ ['*']
  | lineBreak => ['\n']

def isText : Span → Bool
  | text _ => true
  | speaker _ | emphasis _ | lineBreak => false

inductive IsMark : Span → Prop
  | lineBreak : IsMark lineBreak
  | speaker {name : List Char} (known : IsSpeakerName name) :
    IsMark (speaker (String.ofList ('[' :: name ++ [']', ':'])))
  | emphasis {inner : List Char} (nonempty : inner ≠ []) (single : '*' ∉ inner) :
    IsMark (emphasis (String.ofList inner))

namespace IsMark

variable {mark : Span}

theorem not_text (h : IsMark mark) : mark.isText = false := by
  cases h <;> rfl

theorem written_ne_nil (h : IsMark mark) : mark.written ≠ [] := by
  cases h <;> simp [written]

end IsMark

def addLetter (c : Char) : List Span → List Span
  | text s :: spans => text (String.ofList (c :: s.toList)) :: spans
  | spans => text (String.ofList [c]) :: spans

theorem addLetter_eq (c : Char) {spans : List Span} (other : ∀ s more, spans ≠ text s :: more) :
    addLetter c spans = text (String.ofList [c]) :: spans := by
  unfold addLetter
  split
  · next s more => exact absurd rfl (other s more)
  · rfl

end Span

open Storyline.Text.Span

section

variable {c : Char} {plain rest : List Char}

theorem plainSpan_append (c : Char) (plain : List Char) {more : List Span}
    (other : ∀ s later, more ≠ text s :: later) :
    plainSpan (plain ++ [c]) ++ more = addLetter c (plainSpan plain ++ more) := by
  cases plain with
  | nil => exact (addLetter_eq c other).symm
  | cons b plain =>
    have collected : plainSpan (b :: plain) = [text (String.ofList (b :: plain).reverse)] := rfl
    have longer : plainSpan (b :: plain ++ [c]) =
      [text (String.ofList (b :: plain ++ [c]).reverse)] := rfl
    rw [collected, longer, List.reverse_append]
    simp only [List.cons_append, List.nil_append, List.reverse_cons, List.reverse_nil, addLetter,
      String.toList_ofList]

/-- Collecting text is no more than putting it in front of what comes next. -/
theorem spansFrom_append (c : Char) (plain rest : List Char) :
    spansFrom (plain ++ [c]) rest = addLetter c (spansFrom plain rest) := by
  fun_induction spansFrom plain rest with
  | case1 plain =>
    rw [spansFrom]
    have none (s : String) (later : List Span) : [] ≠ text s :: later :=
      (List.cons_ne_nil _ _).symm
    simpa only [List.append_nil] using plainSpan_append c plain none
  | case2 plain rest =>
    rw [spansFrom]
    exact plainSpan_append c plain (by simp)
  | case3 plain rest name found =>
    rw [spansFrom, found]
    exact plainSpan_append c plain (by simp)
  | case4 plain rest none ih =>
    rw [spansFrom, none]
    exact ih
  | case5 plain rest inner found =>
    rw [spansFrom, found]
    exact plainSpan_append c plain (by simp)
  | case6 plain rest none ih =>
    rw [spansFrom, none]
    exact ih
  | case7 plain b rest noBreak noTag noStar ih =>
    rw [spansFrom]
    · exact ih
    · exact noBreak
    · exact noTag
    · exact noStar

theorem spansFrom_letter (c : Char) (rest : List Char) :
    spansFrom [c] rest = addLetter c (spansFrom [] rest) :=
  spansFrom_append c [] rest

theorem spansFrom_emphasis {inner : List Char} (nonempty : inner ≠ []) (single : '*' ∉ inner)
    (after : List Char) : spansFrom [] ('*' :: (inner ++ '*' :: after)) =
      .emphasis (String.ofList inner) :: spansFrom [] after := by
  have found := emphasized?_eq_some_iff.mpr ⟨nonempty, single, after, rfl⟩
  have behind : (inner ++ '*' :: after).drop (inner.length + 1) = after :=
    List.drop_length_add_append 1
  rw [spansFrom, found]
  dsimp only
  rw [behind]
  rfl

theorem spansFrom_mark {mark : Span} (isMark : mark.IsMark) (rest : List Char) :
    spansFrom [] (mark.written ++ rest) = mark :: spansFrom [] rest := by
  cases isMark with
  | lineBreak =>
    rw [written, List.singleton_append, spansFrom]
    rfl
  | speaker known => simpa [written] using spansFrom_tag known rest
  | emphasis nonempty single => simpa [written] using spansFrom_emphasis nonempty single rest

theorem spansFrom_unmarked (none : ∀ mark : Span, mark.IsMark → ¬mark.written <+: c :: rest) :
    spansFrom [] (c :: rest) = addLetter c (spansFrom [] rest) := by
  rw [← spansFrom_letter, spansFrom.eq_def]
  split
  · next empty => cases empty
  · next after split =>
    obtain ⟨rfl, -⟩ := List.cons.inj split
    exact absurd (List.prefix_append ['\n'] rest) (none lineBreak .lineBreak)
  · next after split =>
    obtain ⟨rfl, rfl⟩ := List.cons.inj split
    split
    · next name found =>
      obtain ⟨after, rfl⟩ := eq_of_speakerName? found
      refine absurd ⟨after, ?_⟩ (none _ (.speaker (isSpeakerName_of_found found)))
      simp [written]
    · rfl
  · next after split =>
    obtain ⟨rfl, rfl⟩ := List.cons.inj split
    split
    · next inner found =>
      obtain ⟨nonempty, single, after, rfl⟩ := emphasized?_eq_some_iff.mp found
      refine absurd ⟨after, ?_⟩ (none _ (.emphasis nonempty single))
      simp [written]
    · rfl
  · next other =>
    obtain ⟨rfl, rfl⟩ := List.cons.inj other
    rfl

end

/-- The scan goes on behind the markup that begins where it is, or else by one character. -/
@[elab_as_elim]
theorem scan_induction {P : List Char → Prop} (nil : P [])
    (marked : ∀ (mark : Span) (rest : List Char), mark.IsMark → P rest → P (mark.written ++ rest))
    (letter : ∀ (c : Char) (rest : List Char),
      (∀ mark : Span, mark.IsMark → ¬mark.written <+: c :: rest) → P rest → P (c :: rest))
    (text : List Char) : P text := by
  by_cases begins : ∃ mark : Span, mark.IsMark ∧ mark.written <+: text
  · obtain ⟨mark, isMark, rest, whole⟩ := begins
    have shorter : rest.length < text.length := by
      have front := List.length_pos_iff.mpr isMark.written_ne_nil
      rw [← whole, List.length_append]
      omega
    exact whole ▸ marked mark rest isMark (scan_induction nil marked letter rest)
  · cases text with
    | nil => exact nil
    | cons c rest =>
      refine letter c rest (fun mark isMark front => begins ⟨mark, isMark, front⟩) ?_
      exact scan_induction nil marked letter rest
termination_by text.length

/-- There is no markup within a text. -/
def Bare (s : List Char) : Prop := ∀ mark : Span, mark.IsMark → ¬mark.written <:+: s

theorem bare_nil : Bare [] := fun _ isMark inside =>
  isMark.written_ne_nil (List.infix_nil.mp inside)

/-- Spans into which a text can be split: they make up the text, each is markup or plain text without
any markup in it, and no two of plain text are next to each other. -/
structure Splits (text : List Char) (spans : List Span) : Prop where
  whole : spans.flatMap written = text
  proper : ∀ span ∈ spans, span.IsMark ∨ span.isText ∧ span.written ≠ [] ∧ Bare span.written
  apart : spans.IsChain fun a b => ¬(a.isText ∧ b.isText)

namespace Splits

variable {text rest : List Char} {spans : List Span} {mark : Span} {c : Char}

theorem nil : Splits [] [] := ⟨rfl, fun _ absent => (List.not_mem_nil absent).elim, .nil⟩

theorem marked (h : Splits rest spans) (isMark : mark.IsMark) :
    Splits (mark.written ++ rest) (mark :: spans) where
  whole := by rw [List.flatMap_cons, h.whole]
  proper := List.forall_mem_cons.mpr ⟨.inl isMark, h.proper⟩
  apart := by
    refine List.isChain_cons.mpr ⟨fun _ _ both => ?_, h.apart⟩
    rw [isMark.not_text] at both
    exact nomatch both.1

theorem letter (h : Splits rest spans)
    (none : ∀ mark : Span, mark.IsMark → ¬mark.written <+: c :: rest) :
    Splits (c :: rest) (addLetter c spans) := by
  unfold addLetter
  split
  · next s spans =>
    have whole : s.toList ++ spans.flatMap written = rest := h.whole
    obtain ⟨first, others⟩ := List.forall_mem_cons.mp h.proper
    rcases first with isMark | ⟨-, -, bare⟩
    · exact nomatch isMark
    · refine ⟨?_, List.forall_mem_cons.mpr ⟨.inr ⟨rfl, ?_⟩, others⟩, ?_⟩
      · rw [List.flatMap_cons, ← whole]
        simp [written]
      · simp only [written, String.toList_ofList]
        rw [← whole] at none
        exact ⟨List.cons_ne_nil _ _, fun mark isMark =>
          not_infix_cons (bare mark isMark) (none mark isMark)⟩
      · exact List.isChain_cons.mpr (List.isChain_cons.mp h.apart)
  · next other =>
    refine ⟨?_, List.forall_mem_cons.mpr ⟨.inr ⟨rfl, ?_⟩, h.proper⟩, ?_⟩
    · rw [List.flatMap_cons, h.whole]
      simp [written]
    · simp only [written, String.toList_ofList]
      exact ⟨List.cons_ne_nil _ _, fun mark isMark =>
        not_infix_cons (bare_nil mark isMark) (none mark isMark)⟩
    · refine List.isChain_cons.mpr ⟨fun next isNext both => ?_, h.apart⟩
      obtain ⟨later, rfl⟩ := List.head?_eq_some_iff.mp isNext
      cases next with
      | text s => exact other s later rfl
      | speaker | emphasis | lineBreak => exact nomatch both.2

end Splits

theorem splits_spansFrom (text : List Char) : Splits text (spansFrom [] text) := by
  induction text using scan_induction with
  | nil =>
    rw [spansFrom]
    exact .nil
  | marked mark rest isMark ih =>
    rw [spansFrom_mark isMark]
    exact ih.marked isMark
  | letter c rest none ih =>
    rw [spansFrom_unmarked none]
    exact ih.letter none

/-- Writing back the spans of a text gives the text, and no two spans of plain text are next to each
other. No span is empty, and plain text has no line break in it, no tag with a name that is known, and
nothing that stands between two asterisks. A tag has a name that is known in it, and emphasized text
no asterisk. -/
theorem splits_without_loss (text : String) :
    (spans text).flatMap written = text.toList ∧
    (spans text).IsChain (fun a b => ¬(a.isText ∧ b.isText)) ∧
    (∀ s, .text s ∈ spans text → s ≠ "" ∧ '\n' ∉ s.toList ∧
      (∀ name, IsSpeakerName name → ¬ '[' :: name ++ [']', ':'] <:+: s.toList) ∧
      ∀ inner, inner ≠ [] → '*' ∉ inner → ¬ '*' :: inner ++ ['*'] <:+: s.toList) ∧
    (∀ tag, .speaker tag ∈ spans text →
      ∃ name, IsSpeakerName name ∧ tag.toList = '[' :: name ++ [']', ':']) ∧
    ∀ s, .emphasis s ∈ spans text → s ≠ "" ∧ '*' ∉ s.toList := by
  have splits := splits_spansFrom text.toList
  refine ⟨splits.whole, splits.apart, fun s member => ?_, fun tag member => ?_, fun s member => ?_⟩
  · rcases splits.proper _ member with isMark | ⟨-, nonempty, bare⟩
    · exact nomatch isMark
    · refine ⟨fun empty => nonempty (String.toList_eq_nil_iff.mpr empty), fun broken => ?_,
        fun name known => ?_, fun inner content single => ?_⟩
      · exact bare lineBreak .lineBreak ((List.singleton_infix_iff _ _).mpr broken)
      · simpa [written] using bare _ (.speaker known)
      · simpa [written] using bare _ (.emphasis content single)
  · rcases splits.proper _ member with isMark | ⟨isText, -⟩
    · cases isMark with
      | speaker known => exact ⟨_, known, String.toList_ofList⟩
    · exact nomatch isText
  · rcases splits.proper _ member with isMark | ⟨isText, -⟩
    · cases isMark with
      | emphasis nonempty single =>
        refine ⟨fun empty => nonempty ?_, by rwa [String.toList_ofList]⟩
        rw [← String.toList_eq_nil_iff, String.toList_ofList] at empty
        exact empty
    · exact nomatch isText

/-- An asterisk next to another emphasizes nothing, and what is emphasized may look like a tag. -/
example : spans "**[A]: *b" = [.text "*", .emphasis "[A]: ", .text "b"] := by
  decide +kernel

end Storyline.Text
