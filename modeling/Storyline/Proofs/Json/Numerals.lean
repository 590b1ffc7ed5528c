import Storyline.Json.Scan

/-!
Written numbers are numerals: each is spelled in one way, and scanning takes exactly that spelling.
What a numeral is worth is settled here for whole numbers only. For a real number it is a question
of rounding, so there it is a property of the number, `Binary64.ReadsBack`.
-/

namespace Storyline.Json

/-- What may stand right after a value: nothing, or a sign that ends it. -/
def Closes : List Char → Prop
  | [] => True
  | c :: _ => c = ',' ∨ c = ']' ∨ c = '\x7d'

theorem isDigit_eq (c : Char) : isDigit c = c.isDigit := by
  simp only [isDigit, Char.isDigit, Char.le_def, UInt32.le_iff_toNat_le, ge_iff_le]

def Digits (ds : List Char) : Prop := ds ≠ [] ∧ ∀ c ∈ ds, isDigit c = true

theorem digits_toDigits (n : Nat) : Digits (Nat.toDigits 10 n) := by
  refine ⟨Nat.toDigits_ne_nil, ?_⟩
  intro c member
  rw [isDigit_eq]
  exact Nat.isDigit_of_mem_toDigits (by decide) (by decide) member

theorem Digits.append {ds es : List Char} (hd : Digits ds) (he : ∀ c ∈ es, isDigit c = true) :
    Digits (ds ++ es) := by
  refine ⟨by simp [hd.1], ?_⟩
  intro c member
  rcases List.mem_append.mp member with left | right
  · exact hd.2 c left
  · exact he c right

theorem isDigit_of_mem_replicate {n : Nat} {c : Char} (h : c ∈ List.replicate n '0') :
    isDigit c = true := by
  rw [List.eq_of_mem_replicate h]
  decide

theorem head_toDigits_ne_zero {n : Nat} (h : 0 < n) : (Nat.toDigits 10 n).head? ≠ some '0' := by
  induction n using Nat.strongRecOn with
  | ind n ih =>
    rw [Nat.toDigits_eq_if (by decide)]
    by_cases small : n < 10
    · simp only [small, if_true, List.head?_cons, ne_eq, Option.some.injEq, Nat.digitChar_eq_zero]
      omega
    · have rest := ih (n / 10) (by omega) (by omega)
      obtain ⟨c, ds, same⟩ := List.exists_cons_of_ne_nil (@Nat.toDigits_ne_nil (n / 10) 10)
      simp only [small, if_false, same, List.cons_append, List.head?_cons] at rest ⊢
      exact rest

theorem takeWhile_digits {ds rest : List Char} (hd : ∀ c ∈ ds, isDigit c = true)
    (hr : ∀ c ∈ rest.head?, isDigit c = false) :
    (ds ++ rest).takeWhile isDigit = ds ∧ (ds ++ rest).dropWhile isDigit = rest := by
  constructor
  · rw [List.takeWhile_append_of_pos hd]
    cases rest with
    | nil => simp
    | cons c rest => simp [hr c rfl]
  · rw [List.dropWhile_append_of_pos hd]
    cases rest with
    | nil => rfl
    | cons c rest => simp [hr c rfl]

theorem Closes.head_not_digit {rest : List Char} (h : Closes rest) :
    ∀ c ∈ rest.head?, isDigit c = false := by
  cases rest with
  | nil => simp
  | cons c rest =>
    intro d hd
    cases hd
    rcases h with rfl | rfl | rfl <;> decide

namespace Numeral

/-- A numeral as it may stand in a document. -/
structure WellFormed (n : Numeral) : Prop where
  whole : Digits n.whole
  noZeroInFront : n.whole.head? = some '0' → n.whole.length = 1
  fraction : ∀ ds ∈ n.fraction, Digits ds
  exponent : ∀ e ∈ n.exponent, Digits e.2

def signSpelling (negative : Bool) : List Char := if negative then ['-'] else []

def fractionSpelling : Option (List Char) → List Char
  | some ds => '.' :: ds
  | none => []

def exponentSpelling : Option (Bool × List Char) → List Char
  | some (down, ds) => 'e' :: (if down then '-' else '+') :: ds
  | none => []

def spelling (n : Numeral) : List Char :=
  signSpelling n.negative ++ (n.whole ++ (fractionSpelling n.fraction ++ exponentSpelling n.exponent))

theorem scanExponent_spelling (n : Numeral) {e : Option (Bool × List Char)} {rest : List Char}
    (hn : n.exponent = none) (he : ∀ x ∈ e, Digits x.2) (hr : Closes rest) :
    scanExponent n (exponentSpelling e ++ rest) = (.number { n with exponent := e }, rest) := by
  cases e with
  | none =>
    have same : ({ n with exponent := none } : Numeral) = n := by rw [← hn]
    rw [same]
    cases rest with
    | nil => rfl
    | cons c rest =>
      have other : ¬(c = 'e' ∨ c = 'E') := by rcases hr with rfl | rfl | rfl <;> decide
      simp only [exponentSpelling, List.nil_append, scanExponent, other, if_false]
  | some x =>
    obtain ⟨down, ds⟩ := x
    have digits := he _ rfl
    have taken := takeWhile_digits digits.2 hr.head_not_digit
    have some_digit : ds.isEmpty = false := by simpa using digits.1
    cases down <;> simp [exponentSpelling, scanExponent, taken.1, taken.2, some_digit]

theorem fraction_head_not_digit (f : Option (List Char)) (e : Option (Bool × List Char))
    {rest : List Char} (hr : Closes rest) :
    ∀ c ∈ (fractionSpelling f ++ (exponentSpelling e ++ rest)).head?, isDigit c = false := by
  intro c hc
  cases f with
  | some ds => cases hc; decide
  | none =>
    cases e with
    | some x => cases hc; decide
    | none => exact hr.head_not_digit c hc

theorem exponent_head_not_digit (e : Option (Bool × List Char)) {rest : List Char}
    (hr : Closes rest) : ∀ c ∈ (exponentSpelling e ++ rest).head?, isDigit c = false :=
  fraction_head_not_digit none e hr

/-- Scanning takes a numeral as it was spelled, and nothing of what closes it. -/
theorem scanNumber_spelling {n : Numeral} (hn : n.WellFormed) {rest : List Char} (hr : Closes rest) :
    scanNumber n.negative (n.whole ++ (fractionSpelling n.fraction
      ++ (exponentSpelling n.exponent ++ rest))) = (.number n, rest) := by
  obtain ⟨negative, whole, fraction, exponent⟩ := n
  have taken := takeWhile_digits hn.whole.2 (fraction_head_not_digit fraction exponent hr)
  have some_digit : whole.isEmpty = false := by simpa using hn.whole.1
  have front : ¬(whole.head? = some '0' ∧ 1 < whole.length) := by
    intro both
    have := hn.noZeroInFront both.1
    simp only at this
    omega
  unfold scanNumber
  simp only [taken.1, taken.2, some_digit, front, if_false, Bool.false_eq_true]
  cases fraction with
  | some places =>
    have digits := hn.fraction _ rfl
    have more := takeWhile_digits digits.2 (exponent_head_not_digit exponent hr)
    have some_place : places.isEmpty = false := by simpa using digits.1
    simp only [fractionSpelling, List.cons_append, more.1, more.2, some_place, if_false,
      Bool.false_eq_true]
    exact scanExponent_spelling ⟨negative, whole, some places, none⟩ rfl hn.exponent hr
  | none =>
    have plain := scanExponent_spelling ⟨negative, whole, none, none⟩ rfl hn.exponent hr
    cases exponent with
    | some e => exact plain
    | none =>
      cases rest with
      | nil => exact plain
      | cons c rest =>
        have point : c ≠ '.' := by rcases hr with rfl | rfl | rfl <;> decide
        simp only [fractionSpelling, exponentSpelling, List.nil_append] at plain ⊢
        split
        · next same => exact absurd (List.cons.inj same).1 point
        · exact plain

end Numeral

theorem Digits.part {ds es : List Char} (hd : Digits ds) (some_digit : es ≠ [])
    (h : ∀ c ∈ es, c ∈ ds) : Digits es :=
  ⟨some_digit, fun c member => hd.2 c (h c member)⟩

theorem length_eq_one_of_head {ds : List Char} (h : ds.head? ≠ some '0') :
    ds.head? = some '0' → ds.length = 1 := fun head => absurd head h

/-- Some numeral is spelled with that sign and these characters after it. -/
def Spelled (negative : Bool) (chars : List Char) : Prop :=
  ∃ n : Numeral, n.WellFormed ∧ n.spelling = Numeral.signSpelling negative ++ chars

section Spelled

variable {negative : Bool} {ds : List Char}

theorem spelled_whole (all : Digits ds) (front : ds.head? ≠ some '0') (zeros : Nat) :
    Spelled negative (ds ++ List.replicate zeros '0' ++ ['.', '0']) := by
  refine ⟨⟨negative, ds ++ List.replicate zeros '0', some ['0'], none⟩, ⟨?_, ?_, ?_, ?_⟩, ?_⟩
  · exact all.append fun c member => isDigit_of_mem_replicate member
  · apply length_eq_one_of_head
    obtain ⟨d, more, rfl⟩ := List.exists_cons_of_ne_nil all.1
    exact front
  · intro places hp
    cases hp
    exact ⟨List.cons_ne_nil _ _, List.forall_mem_singleton.mpr rfl⟩
  · intro e he
    cases he
  · simp [Numeral.spelling, Numeral.fractionSpelling, Numeral.exponentSpelling]

/-- The point stands among the digits. -/
theorem spelled_among (all : Digits ds) (front : ds.head? ≠ some '0') {place : Nat}
    (positive : 0 < place) (inside : place < ds.length) :
    Spelled negative (ds.take place ++ '.' :: ds.drop place) := by
  refine ⟨⟨negative, ds.take place, some (ds.drop place), none⟩, ⟨?_, ?_, ?_, ?_⟩, ?_⟩
  · refine all.part ?_ fun c member => List.mem_of_mem_take member
    intro none
    have := congrArg List.length none
    simp only [List.length_take, List.length_nil] at this
    omega
  · apply length_eq_one_of_head
    rw [List.head?_take, if_neg (by omega)]
    exact front
  · intro places hp
    cases hp
    refine all.part ?_ fun c member => List.mem_of_mem_drop member
    intro none
    have := congrArg List.length none
    simp only [List.length_drop, List.length_nil] at this
    omega
  · intro e he
    cases he
  · simp [Numeral.spelling, Numeral.fractionSpelling, Numeral.exponentSpelling]

/-- Zeros stand between the point and the digits. -/
theorem spelled_below (all : Digits ds) (zeros : Nat) :
    Spelled negative (['0', '.'] ++ List.replicate zeros '0' ++ ds) := by
  refine ⟨⟨negative, ['0'], some (List.replicate zeros '0' ++ ds), none⟩, ⟨?_, ?_, ?_, ?_⟩, ?_⟩
  · exact digits_toDigits 0
  · intro _
    rfl
  · intro places hp
    cases hp
    refine ⟨by simp [all.1], ?_⟩
    intro c member
    rcases List.mem_append.mp member with left | right
    · exact isDigit_of_mem_replicate left
    · exact all.2 c right
  · intro e he
    cases he
  · simp [Numeral.spelling, Numeral.fractionSpelling, Numeral.exponentSpelling]

theorem spelled_scientific {d : Char} (all : Digits (d :: ds)) (shift : Int) :
    Spelled negative (d :: (Numeral.fractionSpelling (if ds = [] then none else some ds)
      ++ Numeral.exponentSpelling (some (decide (shift < 0), Nat.toDigits 10 shift.natAbs)))) := by
  have one : Digits [d] :=
    all.part (List.cons_ne_nil d []) fun c member => by
      rw [List.mem_singleton.mp member]
      exact List.mem_cons_self
  refine ⟨⟨negative, [d], if ds = [] then none else some ds,
    some (decide (shift < 0), Nat.toDigits 10 shift.natAbs)⟩, ⟨one, ?_, ?_, ?_⟩, rfl⟩
  · intro _
    rfl
  · intro places hp
    by_cases alone : ds = []
    · simp [alone] at hp
    · simp only [alone, if_false, Option.mem_some_iff] at hp
      subst hp
      exact all.part alone fun c member => List.mem_cons_of_mem d member
  · intro e he
    cases he
    exact digits_toDigits shift.natAbs

end Spelled

theorem spelled_spell (negative : Bool) {digits : Nat} (h : digits ≠ 0) (tens : Int) :
    Spelled negative (Binary64.spell digits tens) := by
  have all : Digits (Binary64.decimal digits) := digits_toDigits digits
  have front : (Binary64.decimal digits).head? ≠ some '0' := head_toDigits_ne_zero (by omega)
  unfold Binary64.spell
  generalize Binary64.decimal digits = ds at all front
  have long : 0 < ds.length := List.length_pos_iff.mpr all.1
  simp only []
  split
  · exact spelled_whole all front _
  · split
    · exact spelled_among all front (by omega) (by omega)
    · split
      · exact spelled_below all _
      · generalize (ds.length + tens - 1 : Int) = shift
        obtain ⟨d, more, rfl⟩ := List.exists_cons_of_ne_nil all.1
        have scientific : Spelled negative _ := spelled_scientific all shift
        cases more <;>
          simpa [Numeral.fractionSpelling, Numeral.exponentSpelling, Binary64.decimal]
            using scientific

end Storyline.Json
