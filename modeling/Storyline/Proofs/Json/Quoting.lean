import Storyline.Json.Scan

/-!
Texts in quotes: scanning stops at the quote that closes the text, and undoing the escapes gives the
text back.
-/

namespace Storyline.Json

theorem writeChar_cases (c : Char) :
    (∃ d, writeChar c = ['\\', d] ∧ d ≠ 'u' ∧ escape? d = some c) ∨
    (c.toNat < 32 ∧ writeChar c =
      ['\\', 'u', '0', '0', hexDigit (c.toNat / 16), hexDigit (c.toNat % 16)]) ∨
    (32 ≤ c.toNat ∧ c ≠ '"' ∧ c ≠ '\\' ∧ writeChar c = [c]) := by
  unfold writeChar
  split
  · exact .inl ⟨'"', rfl, by decide, rfl⟩
  · exact .inl ⟨'\\', rfl, by decide, rfl⟩
  · exact .inl ⟨'b', rfl, by decide, rfl⟩
  · exact .inl ⟨'f', rfl, by decide, rfl⟩
  · exact .inl ⟨'n', rfl, by decide, rfl⟩
  · exact .inl ⟨'r', rfl, by decide, rfl⟩
  · exact .inl ⟨'t', rfl, by decide, rfl⟩
  · next quote slash _ _ _ _ _ =>
    by_cases control : c.toNat < 32
    · exact .inr (.inl ⟨control, by rw [if_pos control]⟩)
    · exact .inr (.inr ⟨by omega, quote, slash, by rw [if_neg control]⟩)

theorem hexValue?_hexDigit {n : Nat} (h : n < 16) : hexValue? (hexDigit n) = some n := by
  have all : ∀ n < 16, hexValue? (hexDigit n) = some n := by decide
  exact all n h

theorem hexUnit?_control {n : Nat} (h : n < 32) :
    hexUnit? '0' '0' (hexDigit (n / 16)) (hexDigit (n % 16)) = some n := by
  have zero : hexValue? '0' = some 0 := by decide
  simp only [hexUnit?, zero, hexValue?_hexDigit (show n / 16 < 16 by omega),
    hexValue?_hexDigit (show n % 16 < 16 by omega), bind, Option.bind, pure]
  congr 1
  omega

theorem unescape_writeChar (room : Nat) (c : Char) (rest : List Char) :
    Quoted.unescape room (writeChar c ++ rest) = (Quoted.unescape room rest).map (c :: ·) := by
  rcases writeChar_cases c with ⟨d, written, other, escape⟩ | ⟨control, written⟩ |
      ⟨plain, quote, slash, written⟩
  · rw [written]
    simp only [List.cons_append, List.nil_append]
    rw [Quoted.unescape, escape]
    · intro a b e f more same
      exact absurd same other
    · exact other
  · rw [written]
    simp only [List.cons_append, List.nil_append]
    rw [Quoted.unescape, hexUnit?_control control]
    have low : isTrail c.toNat = false ∧ isLead c.toNat = false := by
      simp only [isTrail, isLead, Bool.and_eq_false_imp, decide_eq_true_eq, decide_eq_false_iff_not]
      omega
    simp [low.1, low.2, Char.ofNat_toNat]
  · rw [written]
    simp only [List.cons_append, List.nil_append]
    rw [Quoted.unescape, if_neg (by omega)]
    all_goals simp_all

theorem unescape_written {room : Nat} (h : room ≠ 0) (s : List Char) :
    Quoted.unescape room (s.flatMap writeChar) = .ok s := by
  induction s with
  | nil => simp [Quoted.unescape, h]
  | cons c s ih =>
    rw [List.flatMap_cons, unescape_writeChar, ih]
    rfl

/-- A character that is escaped hides no quote. -/
theorem scanQuoted_writeChar (c : Char) (rest : List Char) :
    scanQuoted (writeChar c ++ rest) =
      (⟨writeChar c ++ (scanQuoted rest).1.body, (scanQuoted rest).1.room⟩, (scanQuoted rest).2) := by
  rcases writeChar_cases c with ⟨d, written, _, _⟩ | ⟨control, written⟩ |
      ⟨plain, quote, slash, written⟩
  · rw [written]
    rfl
  · rw [written]
    have digit : ∀ n < 16, hexDigit n ≠ '"' ∧ hexDigit n ≠ '\\' := by decide
    have first := digit (c.toNat / 16) (by omega)
    have second := digit (c.toNat % 16) (by omega)
    simp only [List.cons_append, List.nil_append]
    rw [scanQuoted, scanQuoted, scanQuoted, scanQuoted, scanQuoted]
    all_goals simp_all
  · rw [written]
    simp only [List.cons_append, List.nil_append]
    rw [scanQuoted]
    all_goals simp_all

theorem scanQuoted_written (s rest : List Char) :
    scanQuoted (s.flatMap writeChar ++ '"' :: rest) = (⟨s.flatMap writeChar, roomBefore rest⟩, rest) := by
  induction s with
  | nil => rfl
  | cons c s ih =>
    rw [List.flatMap_cons, List.append_assoc, scanQuoted_writeChar, ih]

theorem roomBefore_ne_zero (rest : List Char) : roomBefore rest ≠ 0 := by
  unfold roomBefore
  omega

/-- What is scanned where a text was written. -/
def Quoted.Holds (q : Quoted) (s : String) : Prop := q.decode = .ok s

theorem scanQuoted_text (s : String) (rest : List Char) :
    ∃ q : Quoted, q.Holds s ∧ scanQuoted (s.toList.flatMap writeChar ++ '"' :: rest) = (q, rest) := by
  refine ⟨_, ?_, scanQuoted_written s.toList rest⟩
  unfold Quoted.Holds Quoted.decode
  rw [unescape_written (roomBefore_ne_zero rest)]
  simp [Except.map, String.ofList_toList]

end Storyline.Json
