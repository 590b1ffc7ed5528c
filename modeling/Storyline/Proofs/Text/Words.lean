import Mathlib.Data.List.DropRight
import Storyline.Text.Blank
import Storyline.Text.Uppercase

/-!
The words of a text are its maximal runs of characters that are no blanks, in their order. Blanks
only part them: how many there are and of which kind is all one, and at either end they part nothing.

Of a name that is trimmed and put in capitals nothing is left only where it has no character but
blanks, since every character has some capitals.
-/

namespace Storyline.Text

def Blank (s : List Char) : Prop := ∀ c ∈ s, isBlank c = true

instance : DecidablePred Blank := fun s => decidable_of_iff (s.all isBlank = true) List.all_eq_true

/-- The words that stand in a text. A word goes on until a blank or the end. -/
inductive HasWords : List Char → List String → Prop
  | done : HasWords [] []
  | blank {c : Char} {text : List Char} {words : List String} (first : isBlank c = true)
      (rest : HasWords text words) : HasWords (c :: text) words
  | word {word text : List Char} {words : List String} (some : word ≠ [])
      (letters : ∀ c ∈ word, isBlank c = false) (ends : ∀ c ∈ text.head?, isBlank c = true)
      (rest : HasWords text words) : HasWords (word ++ text) (String.ofList word :: words)

section

variable {word gap text : List Char} {c : Char} {words : List String}

theorem splitBlanks_blank (blank : isBlank c = true) (text : List Char) :
    splitBlanks [] (c :: text) = splitBlanks [] text := by
  rw [splitBlanks, if_pos blank]
  rfl

theorem splitBlanks_letters {more : List Char} (letters : ∀ c ∈ more, isBlank c = false)
    (word text : List Char) : splitBlanks word (more ++ text) = splitBlanks (word ++ more) text := by
  induction more generalizing word with
  | nil => rw [List.nil_append, List.append_nil]
  | cons c more ih =>
    obtain ⟨first, others⟩ := List.forall_mem_cons.mp letters
    rw [List.cons_append, splitBlanks, first, if_neg Bool.false_ne_true, ih others,
      List.append_assoc, List.singleton_append]

theorem splitBlanks_ends (some : word ≠ []) (ends : ∀ c ∈ text.head?, isBlank c = true) :
    splitBlanks word text = word :: splitBlanks [] text := by
  have going : ¬word.isEmpty = true := fun empty => some (List.isEmpty_iff.mp empty)
  cases text with
  | nil => rw [splitBlanks, if_neg going]; rfl
  | cons c text =>
    have blank := ends c rfl
    rw [splitBlanks_blank blank, splitBlanks, if_pos blank, if_neg going]

theorem HasWords.eq_split (h : HasWords text words) :
    words = (splitBlanks [] text).map String.ofList := by
  induction h with
  | done => rfl
  | blank first _ ih => rw [splitBlanks_blank first, ih]
  | word some letters ends _ ih =>
    rw [splitBlanks_letters letters, List.nil_append, splitBlanks_ends some ends, List.map_cons, ih]

/-- A word under way, if there is one, is the first of the words where it ends. -/
theorem HasWords.close (rest : HasWords text ((splitBlanks [] text).map String.ofList))
    (letters : ∀ c ∈ word, isBlank c = false) (ends : ∀ c ∈ text.head?, isBlank c = true) :
    HasWords (word ++ text) ((splitBlanks word text).map String.ofList) := by
  by_cases idle : word = []
  · subst idle
    exact rest
  · rw [splitBlanks_ends idle ends]
    exact .word idle letters ends rest

theorem hasWords_split (word text : List Char) (letters : ∀ c ∈ word, isBlank c = false) :
    HasWords (word ++ text) ((splitBlanks word text).map String.ofList) := by
  induction text generalizing word with
  | nil => exact HasWords.done.close letters fun _ absent => nomatch absent
  | cons c text ih =>
    by_cases blank : isBlank c = true
    · have rest : HasWords (c :: text) ((splitBlanks [] (c :: text)).map String.ofList) := by
        rw [splitBlanks_blank blank]
        exact .blank blank (ih [] nofun)
      exact rest.close letters fun d first => Option.some.inj first ▸ blank
    · have longer : ∀ d ∈ word ++ [c], isBlank d = false :=
        List.forall_mem_append.mpr
          ⟨letters, List.forall_mem_singleton.mpr (Bool.of_not_eq_true blank)⟩
      rw [splitBlanks, if_neg blank, List.append_cons]
      exact ih (word ++ [c]) longer

theorem hasWords_iff (s : String) (words : List String) :
    HasWords s.toList words ↔ words = Text.words s := by
  constructor
  · exact HasWords.eq_split
  · rintro rfl
    exact hasWords_split [] s.toList nofun

theorem splitBlanks_parted (blank : isBlank c = true) (word front back : List Char) :
    splitBlanks word (front ++ c :: back) = splitBlanks word front ++ splitBlanks [] back := by
  induction front generalizing word with
  | nil =>
    rw [List.nil_append, splitBlanks, splitBlanks, if_pos blank]
    split <;> rfl
  | cons d front ih =>
    rw [List.cons_append, splitBlanks, splitBlanks]
    split
    · split
      · exact ih []
      · exact congrArg (word :: ·) (ih [])
    · exact ih _

theorem splitBlanks_lead (blank : Blank gap) (text : List Char) :
    splitBlanks [] (gap ++ text) = splitBlanks [] text := by
  induction gap with
  | nil => rfl
  | cons c gap ih =>
    obtain ⟨first, others⟩ := List.forall_mem_cons.mp blank
    rw [List.cons_append, splitBlanks_blank first, ih others]

end

section

variable {gap : String}

theorem words_lead (blank : Blank gap.toList) (s : String) : words (gap ++ s) = words s := by
  unfold words
  rw [String.toList_append, splitBlanks_lead blank]

/-- Blanks, be they one or more, part the words before them from the words after them. -/
theorem words_parted (blank : Blank gap.toList) (some : gap ≠ "") (front back : String) :
    words (front ++ gap ++ back) = words front ++ words back := by
  obtain ⟨c, more, letters⟩ := List.exists_cons_of_ne_nil fun none =>
    some (String.toList_eq_nil_iff.mp none)
  rw [letters] at blank
  obtain ⟨first, others⟩ := List.forall_mem_cons.mp blank
  unfold words
  rw [String.toList_append, String.toList_append, letters, List.append_assoc, List.cons_append,
    splitBlanks_parted first, splitBlanks_lead others, List.map_append]

theorem words_trail (blank : Blank gap.toList) (s : String) : words (s ++ gap) = words s := by
  by_cases none : gap = ""
  · rw [none, String.append_empty]
  · have parted := words_parted blank none s ""
    rwa [String.append_empty, show words "" = [] from rfl, List.append_nil] at parted

end

theorem uppercaseChar_ne_nil (c : Char) : uppercaseChar c ≠ [] := by
  unfold uppercaseChar
  split
  · exact nofun
  · split
    · next expansion found =>
      have all : ∀ e ∈ caseExpansions, e.2 ≠ [] := by decide +kernel
      intro empty
      exact all expansion (Array.mem_of_find?_eq_some found) (List.map_eq_nil_iff.mp empty)
    · split <;> exact nofun

theorem uppercase_eq_empty_iff (s : String) : uppercase s = "" ↔ s = "" := by
  unfold uppercase
  rw [String.ofList_eq_empty_iff, List.flatMap_eq_nil_iff]
  constructor
  · intro none
    cases chars : s.toList with
    | nil => exact String.toList_eq_nil_iff.mp chars
    | cons c rest =>
      have first : c ∈ s.toList := chars ▸ List.mem_cons_self
      exact absurd (none c first) (uppercaseChar_ne_nil c)
  · rintro rfl c absent
    exact (List.not_mem_nil absent).elim

theorem trim_eq_empty_iff (s : String) : trim s = "" ↔ Blank s.toList := by
  have both : trim s = String.ofList ((s.toList.dropWhile isBlank).rdropWhile isBlank) := rfl
  rw [both, String.ofList_eq_empty_iff, List.rdropWhile_eq_nil_iff, ← List.dropWhile_eq_nil_iff,
    List.dropWhile_idempotent, List.dropWhile_eq_nil_iff]
  rfl

theorem capitals_isEmpty_iff (name : String) :
    (uppercase (trim name)).isEmpty = true ↔ Blank name.toList := by
  rw [String.isEmpty_iff, uppercase_eq_empty_iff, trim_eq_empty_iff]

end Storyline.Text
