import Storyline.Json.Reader
import Storyline.Proofs.Equality
import Storyline.Proofs.Json.Numerals

/-!
Every number is written as a numeral. A whole number is worth what it was; whether a real one is,
is asked of the number itself, since digits are read with a rounding of their own.
-/

namespace Storyline

/-- A real number whose written form is read as that number. -/
def Binary64.ReadsBack (x : Binary64) : Prop :=
  Json.readText Json.Reader.value (String.ofList x.written) = .ok (.number (.real x))

instance : DecidablePred Binary64.ReadsBack := fun x =>
  inferInstanceAs (Decidable
    (Json.readText Json.Reader.value (String.ofList x.written) = .ok (.number (.real x))))

namespace Binary64

theorem significand_pos {x : Binary64} (h : x.isZero = false) : 0 < x.significand := by
  have rank : x.rank ≠ 0 := by simpa [isZero] using h
  unfold significand
  split <;> omega

theorem readsBack_zero {x : Binary64} (h : x.isZero = false) (tens : Int) :
    readsBack x 0 tens = false := by
  have pos := significand_pos h
  have lower : 0 < (if x.significand = 2 ^ 52 ∧ -1074 < x.exponent then 4 * x.significand - 1
      else 4 * x.significand - 2) := by
    split <;> omega
  unfold readsBack atMost below
  simp only [fraction, Nat.zero_mul, Nat.not_lt_zero, Nat.le_zero_eq, Nat.mul_eq_zero]
  generalize (if x.significand = 2 ^ 52 ∧ -1074 < x.exponent then 4 * x.significand - 1
    else 4 * x.significand - 2) = edge at lower ⊢
  simp [Nat.ne_of_gt lower]

theorem gridPoint?_ne_zero {x : Binary64} (h : x.isZero = false) {count : Nat}
    {point : Nat × Int} (found : gridPoint? x count = some point) : point.1 ≠ 0 := by
  unfold gridPoint? at found
  simp only [] at found
  generalize decimalPoint x.magnitude.1 x.magnitude.2 - count = tens at found
  generalize x.magnitude.1 * 10 ^ (-tens).toNat / (x.magnitude.2 * 10 ^ tens.toNat) = lower at found
  have none_at_zero : ∀ n, readsBack x n tens = true → n ≠ 0 := by
    intro n reads zero
    rw [zero, readsBack_zero h] at reads
    cases reads
  split at found
  · cases found
  · next left _ => cases found; exact none_at_zero _ left
  · cases found; simp
  · next left _ =>
    have pos := none_at_zero _ left
    split at found
    · cases found; exact pos
    · split at found
      · cases found; simp
      · cases found
        split <;> simp [pos]

theorem shortestFrom_ne_zero {x : Binary64} (h : x.isZero = false) (count more : Nat) :
    (shortestFrom x count more).1 ≠ 0 := by
  induction more generalizing count with
  | zero => exact Nat.ne_of_gt (significand_pos h)
  | succ more ih =>
    unfold shortestFrom
    split
    · next found => exact gridPoint?_ne_zero h found
    · exact ih (count + 1)

theorem dropZeros_ne_zero {digits : Nat} (h : digits ≠ 0) (tens : Int) (limit : Nat) :
    (dropZeros digits tens limit).1 ≠ 0 := by
  induction limit generalizing digits tens with
  | zero => exact h
  | succ limit ih =>
    unfold dropZeros
    split
    · exact ih (by omega) (tens + 1)
    · exact h

end Binary64

namespace Json

/-- A numeral that stands where a number was written. -/
def Numeral.Spells (n : Numeral) (x : Number) : Prop := n.WellFormed ∧ n.spelling = writeNumber x

def Numeral.ofInt (i : Int) : Numeral :=
  ⟨decide (i < 0), Nat.toDigits 10 i.natAbs, none, none⟩

theorem Numeral.ofInt_spells (w : Whole) : (Numeral.ofInt w.value).Spells (.whole w) := by
  refine ⟨⟨digits_toDigits _, ?_, ?_, ?_⟩, ?_⟩
  · simp only [ofInt]
    intro zero
    by_cases none : w.value.natAbs = 0
    · simp [none]
    · exact absurd zero (head_toDigits_ne_zero (by omega))
  · intro ds h
    cases h
  · intro e h
    cases h
  · by_cases below : w.value < 0 <;>
      simp [ofInt, spelling, signSpelling, fractionSpelling, exponentSpelling, writeNumber,
        writeInt, below]

theorem exists_spells_real (x : Binary64) : ∃ n : Numeral, n.Spells (.real x) := by
  cases zero : x.isZero with
  | true =>
    refine ⟨⟨x.negative, ['0'], some ['0'], none⟩, ⟨digits_toDigits 0, fun _ => rfl, ?_, ?_⟩, ?_⟩
    · intro ds h
      cases h
      exact digits_toDigits 0
    · intro e h
      cases h
    · simp [Numeral.spelling, Numeral.signSpelling, Numeral.fractionSpelling,
        Numeral.exponentSpelling, writeNumber, Binary64.written, zero]
  | false =>
    have some_digit : (Binary64.dropZeros x.shortest.1 x.shortest.2 20).1 ≠ 0 :=
      Binary64.dropZeros_ne_zero (Binary64.shortestFrom_ne_zero zero 1 17) _ 20
    obtain ⟨n, formed, spelled⟩ := spelled_spell x.negative some_digit
      (Binary64.dropZeros x.shortest.1 x.shortest.2 20).2
    refine ⟨n, formed, ?_⟩
    rw [spelled]
    simp [writeNumber, Binary64.written, zero, Numeral.signSpelling]

theorem exists_spells (x : Number) : ∃ n : Numeral, n.Spells x := by
  cases x with
  | whole w => exact ⟨_, Numeral.ofInt_spells w⟩
  | real x => exact exists_spells_real x

theorem scanScalar_of_digit {c : Char} (h : isDigit c = true) (rest : List Char) :
    scanScalar (c :: rest) = scanNumber false (c :: rest) := by
  have other : ∀ d, isDigit d = false → c ≠ d := by
    intro d hd same
    rw [same, hd] at h
    cases h
  rw [scanScalar, if_pos h]
  all_goals exact other _ (by decide)

theorem Numeral.scanScalar_spelling {n : Numeral} (hn : n.WellFormed) (rest : List Char)
    (hr : Closes rest) : scanScalar (n.spelling ++ rest) = (.number n, rest) := by
  have scanned := n.scanNumber_spelling hn hr
  unfold spelling
  cases sign : n.negative with
  | true =>
    rw [sign] at scanned
    simp only [signSpelling, if_true, List.cons_append, List.nil_append, List.append_assoc,
      scanScalar]
    exact scanned
  | false =>
    rw [sign] at scanned
    obtain ⟨d, more, same⟩ := List.exists_cons_of_ne_nil hn.whole.1
    have digit : isDigit d = true := hn.whole.2 d (by simp [same])
    rw [same] at scanned ⊢
    simp only [signSpelling, Bool.false_eq_true, if_false, List.nil_append, List.append_assoc,
      List.cons_append] at scanned ⊢
    rw [scanScalar_of_digit digit, scanned]

/-- A numeral is determined by its spelling. -/
theorem Numeral.eq_of_spelling {n m : Numeral} (hn : n.WellFormed) (hm : m.WellFormed)
    (h : n.spelling = m.spelling) : n = m := by
  have left := scanScalar_spelling hn [] trivial
  have right := scanScalar_spelling hm [] trivial
  rw [h, right] at left
  cases left
  rfl

theorem le_ofDigitChars (ds : List Char) (s : Nat) : s ≤ Nat.ofDigitChars 10 ds s := by
  induction ds generalizing s with
  | nil => simp
  | cons d ds ih =>
    rw [Nat.ofDigitChars_cons]
    exact Nat.le_trans (by omega) (ih _)

/-- A significand that fits takes all of its digits. -/
theorem Numeral.accumulate_eq (ds : List Char) (s : Nat) (h : Nat.ofDigitChars 10 ds s < 2 ^ 64) :
    accumulate s ds = (Nat.ofDigitChars 10 ds s, []) := by
  induction ds generalizing s with
  | nil => simp [accumulate]
  | cons d ds ih =>
    rw [Nat.ofDigitChars_cons] at h ⊢
    have next : s * 10 + digitValue d = 10 * s + (d.toNat - '0'.toNat) := by
      rw [Nat.mul_comm, digitValue]
    have fits := Nat.lt_of_le_of_lt (le_ofDigitChars ds _) h
    unfold accumulate
    simp only [next, fits, if_true]
    exact ih _ h

theorem Numeral.value_ofInt (w : Whole) : (Numeral.ofInt w.value).value = .ok (.whole w) := by
  obtain ⟨i, low, high⟩ := w
  have all := accumulate_eq (Nat.toDigits 10 i.natAbs) 0 (by
    rw [Nat.ofDigitChars_ten_toDigits]
    omega)
  rw [Nat.ofDigitChars_ten_toDigits] at all
  have signed : (if decide (i < 0) then -(i.natAbs : Int) else i.natAbs) = i := by
    by_cases below : i < 0 <;> simp only [below, decide_true, decide_false, if_true, if_false,
      Bool.false_eq_true] <;> omega
  have exact_zero : ¬(decide (i < 0) = true ∧ i.natAbs = 0) := by
    simp only [decide_eq_true_eq]
    omega
  unfold value
  simp only [ofInt, all, Option.isSome_none, Bool.false_eq_true, ne_eq, not_true_eq_false, or_self,
    if_false, signed]
  rw [dif_pos ⟨⟨low, high⟩, exact_zero⟩]

theorem Numeral.Spells.value_whole {n : Numeral} {w : Whole} (h : n.Spells (.whole w)) :
    n.value = .ok (.whole w) := by
  have known := ofInt_spells w
  rw [eq_of_spelling h.1 known.1 (h.2.trans known.2.symm)]
  exact value_ofInt w

end Json
end Storyline
