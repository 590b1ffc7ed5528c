import Storyline.Proofs.Json.Numerals
import Storyline.Proofs.Text.Words
import Storyline.Terminal.Script

/-!
What is taken for a command at a prompt: a line whose words are a command, whatever blanks stand
around them. A slot is named by its number in decimal, with zeros in front of it or none, and a plus
sign in front of all or none.
-/

namespace Storyline.Terminal

open Storyline.Json (Digits isDigit_eq digits_toDigits isDigit_of_mem_replicate)

/-- A number as it is typed, with a plus sign or without. -/
def Spells (word : String) (n : Nat) : Prop :=
  ∃ digits, (word.toList = digits ∨ word.toList = '+' :: digits) ∧
    Digits digits ∧ Nat.ofDigitChars 10 digits 0 = n

inductive IsCommand : List String → PlayerInput → Prop
  | letter : IsCommand ["q"] .quit
  | quit : IsCommand [":quit"] .quit
  | status : IsCommand [":status"] .status
  | restart : IsCommand [":restart"] .restart
  | save {word : String} {slot : UInt8} (number : Spells word slot.toNat) :
      IsCommand [":save", word] (.save slot)
  | load {word : String} {slot : UInt8} (number : Spells word slot.toNat) :
      IsCommand [":load", word] (.load slot)

theorem IsCommand.ne_event {words : List String} {input : PlayerInput} (h : IsCommand words input)
    (e : Event) : input ≠ .event e := by
  cases h with
  | letter | quit | status | restart | save | load => exact nofun

section

variable {digits : List Char} {word : String} {n limit : Nat}

theorem digitChar_of_isDigit {c : Char} (digit : Json.isDigit c = true) :
    c.toNat - '0'.toNat < 10 ∧ Nat.digitChar (c.toNat - '0'.toNat) = c := by
  rw [isDigit_eq] at digit
  obtain ⟨first, last⟩ : 48 ≤ c.toNat ∧ c.toNat ≤ 57 := Char.isDigit_iff_toNat.mp digit
  have zero : '0'.toNat = 48 := rfl
  have small : c.toNat - '0'.toNat < 10 := by omega
  refine ⟨small, Char.toNat_inj.mp ?_⟩
  rw [Nat.toNat_digitChar_of_lt_ten small]
  omega

theorem toDigits_append (all : ∀ c ∈ digits, Json.isDigit c = true) (pos : 0 < n) :
    Nat.toDigits 10 n ++ digits = Nat.toDigits 10 (Nat.ofDigitChars 10 digits n) := by
  induction digits generalizing n with
  | nil => rw [List.append_nil, Nat.ofDigitChars_nil]
  | cons c digits ih =>
    obtain ⟨first, others⟩ := List.forall_mem_cons.mp all
    obtain ⟨small, same⟩ := digitChar_of_isDigit first
    have longer : Nat.toDigits 10 n ++ [c] = Nat.toDigits 10 (10 * n + (c.toNat - '0'.toNat)) := by
      rw [← Nat.toDigits_append_toDigits (by decide) pos small, Nat.toDigits_of_lt_base small, same]
    rw [Nat.ofDigitChars_cons, List.append_cons, longer]
    exact ih others (by omega)

theorem digits_eq_padded (h : Digits digits) :
    ∃ zeros, digits = List.replicate zeros '0' ++ Nat.toDigits 10 (Nat.ofDigitChars 10 digits 0) := by
  obtain ⟨some, all⟩ := h
  induction digits with
  | nil => exact absurd rfl some
  | cons c digits ih =>
    obtain ⟨first, others⟩ := List.forall_mem_cons.mp all
    obtain ⟨small, same⟩ := digitChar_of_isDigit first
    rw [Nat.ofDigitChars_cons, Nat.mul_zero, Nat.zero_add]
    -- zeros are set aside as long as digits follow; the first other digit begins the number
    by_cases zero : c.toNat - '0'.toNat = 0
    · rw [zero] at same ⊢
      cases digits with
      | nil => exact ⟨0, by rw [← same]; rfl⟩
      | cons d digits =>
        obtain ⟨zeros, padded⟩ := ih (List.cons_ne_nil d digits) others
        exact ⟨zeros + 1, by rw [← same, List.replicate_succ, List.cons_append, ← padded]; rfl⟩
    · have whole := toDigits_append others (Nat.pos_of_ne_zero zero)
      rw [Nat.toDigits_of_lt_base small, same, List.singleton_append] at whole
      exact ⟨0, whole⟩

/-- The digits that stand for a number are its own, after some zeros. -/
theorem digits_iff : Digits digits ∧ Nat.ofDigitChars 10 digits 0 = n ↔
    ∃ zeros, digits = List.replicate zeros '0' ++ Nat.toDigits 10 n := by
  constructor
  · rintro ⟨h, rfl⟩
    exact digits_eq_padded h
  · rintro ⟨zeros, rfl⟩
    obtain ⟨some, all⟩ := digits_toDigits n
    refine ⟨⟨List.append_ne_nil_of_right_ne_nil _ some,
      List.forall_mem_append.mpr ⟨fun _ => isDigit_of_mem_replicate, all⟩⟩, ?_⟩
    rw [Nat.ofDigitChars_append, Nat.ofDigitChars_replicate_zero, Nat.mul_zero,
      Nat.ofDigitChars_ten_toDigits]

theorem spells_iff (word : String) (n : Nat) : Spells word n ↔ ∃ sign ∈ ["", "+"], ∃ zeros,
    word = sign ++ String.ofList (List.replicate zeros '0') ++ toString n := by
  have letters (sign : String) (zeros : Nat) :
      word = sign ++ String.ofList (List.replicate zeros '0') ++ toString n ↔
        word.toList = sign.toList ++ (List.replicate zeros '0' ++ Nat.toDigits 10 n) := by
    rw [← String.toList_inj, String.toList_append, String.toList_append, String.toList_ofList,
      Nat.toString_eq_repr, Nat.toList_repr, List.append_assoc]
  simp only [Spells, digits_iff, letters, List.mem_cons, List.not_mem_nil, or_false]
  constructor
  · rintro ⟨_, plain | plus, zeros, rfl⟩
    · exact ⟨"", .inl rfl, zeros, plain⟩
    · exact ⟨"+", .inr rfl, zeros, plus⟩
  · rintro ⟨_, rfl | rfl, zeros, typed⟩
    · exact ⟨_, .inl typed, zeros, rfl⟩
    · exact ⟨_, .inr typed, zeros, rfl⟩

theorem digitsValue?_eq_some_iff :
    digitsValue? digits = some n ↔ Digits digits ∧ Nat.ofDigitChars 10 digits 0 = n := by
  have value : digits.foldl (fun n d => n * 10 + (d.toNat - '0'.toNat)) 0 =
      Nat.ofDigitChars 10 digits 0 := by
    rw [Nat.ofDigitChars_eq_foldl]
    simp only [Nat.mul_comm]
  have tested : (!digits.isEmpty && digits.all Char.isDigit) = true ↔ Digits digits := by
    simp [Digits, isDigit_eq]
  unfold digitsValue?
  rw [value, Option.ite_none_right_eq_some, tested, Option.some.injEq]

theorem number?_eq_some_iff : number? limit word = some n ↔ Spells word n ∧ n ≤ limit := by
  unfold number? Spells
  rw [Option.filter_eq_some_iff, digitsValue?_eq_some_iff, decide_eq_true_eq]
  refine and_congr_left fun _ => ?_
  split
  · next digits plus =>
    rw [plus]
    constructor
    · exact fun h => ⟨digits, .inr rfl, h⟩
    · rintro ⟨_, rfl | same, h⟩
      · exact absurd (h.1.2 '+' List.mem_cons_self) (by decide)
      · cases same
        exact h
  · next unsigned =>
    constructor
    · exact fun h => ⟨word.toList, .inl rfl, h⟩
    · rintro ⟨digits, rfl | plus, h⟩
      · exact h
      · exact absurd plus (unsigned digits)

theorem slot?_eq_some_iff {slot : UInt8} : slot? word = some slot ↔ Spells word slot.toNat := by
  unfold slot?
  rw [Option.map_eq_some_iff]
  constructor
  · rintro ⟨n, number, rfl⟩
    obtain ⟨spelled, small⟩ := number?_eq_some_iff.mp number
    rwa [UInt8.toNat_ofNat_of_lt' (Nat.lt_succ_of_le small)]
  · intro spelled
    have small : slot.toNat ≤ 255 := Nat.le_of_lt_succ slot.toNat_lt
    exact ⟨slot.toNat, number?_eq_some_iff.mpr ⟨spelled, small⟩, UInt8.ofNat_toNat⟩

end

theorem commandOfWords?_eq_some_iff {words : List String} {input : PlayerInput} :
    commandOfWords? words = some input ↔ IsCommand words input := by
  constructor
  · intro command
    unfold commandOfWords? at command
    split at command
    · cases command
      exact .letter
    · cases command
      exact .quit
    · cases command
      exact .status
    · cases command
      exact .restart
    · obtain ⟨slot, number, rfl⟩ := Option.map_eq_some_iff.mp command
      exact .save (slot?_eq_some_iff.mp number)
    · obtain ⟨slot, number, rfl⟩ := Option.map_eq_some_iff.mp command
      exact .load (slot?_eq_some_iff.mp number)
    · cases command
  · intro command
    cases command with
    | letter | quit | status | restart => rfl
    | save number => exact congrArg (Option.map PlayerInput.save) (slot?_eq_some_iff.mpr number)
    | load number => exact congrArg (Option.map PlayerInput.load) (slot?_eq_some_iff.mpr number)

theorem command?_eq_some_iff {line : String} {input : PlayerInput} :
    command? line = some input ↔ IsCommand (Text.words line) input :=
  commandOfWords?_eq_some_iff

/-- A line is taken for a command just if its words spell that command, and for none if they spell
none. A slot is given by its number in decimal; zeros may stand in front of that, and a plus sign in
front of all. Blanks at either end of a line are all one, and so is how many there are between two
words. -/
theorem takes_commands_as_spelled (line : String) :
    (∀ words, Text.HasWords line.toList words ↔ words = Text.words line) ∧
    (∀ input, command? line = some input ↔ IsCommand (Text.words line) input) ∧
    (command? line = none ↔ ∀ input, ¬IsCommand (Text.words line) input) ∧
    (∀ word n, Spells word n ↔ ∃ sign ∈ ["", "+"], ∃ zeros,
      word = sign ++ String.ofList (List.replicate zeros '0') ++ toString n) ∧
    (∀ front back : String, Text.Blank front.toList → Text.Blank back.toList →
      command? (front ++ line ++ back) = command? line) ∧
    ∀ front gap back : String, Text.Blank gap.toList → gap ≠ "" → line = front ++ gap ++ back →
      command? (front ++ " " ++ back) = command? line := by
  refine ⟨Text.hasWords_iff line, fun _ => command?_eq_some_iff, ?_, spells_iff, ?_, ?_⟩
  · simp only [← command?_eq_some_iff, Option.eq_none_iff_forall_ne_some, ne_eq]
  · intro front back before after
    unfold command?
    rw [Text.words_trail after, Text.words_lead before]
  · rintro front gap back blank some rfl
    have space : Text.Blank " ".toList := List.forall_mem_singleton.mpr rfl
    unfold command?
    rw [Text.words_parted blank some, Text.words_parted space (by decide)]

/-- A slot with zeros and a sign in front, after a wide blank. -/
theorem takes_padded_save :
    let line := ":save\u3000+007"
    Text.HasWords line.toList [":save", "+007"] ∧ IsCommand [":save", "+007"] (.save 7) ∧
      command? line = some (.save 7) ∧
      Text.Blank "\t ".toList ∧ Text.Blank "\r\n".toList ∧
      command? ("\t " ++ line ++ "\r\n") = some (.save 7) ∧
      Text.Blank "\u3000".toList ∧ command? (":save" ++ " " ++ "+007") = some (.save 7) := by
  intro line
  obtain ⟨split, taken, -, spelled, ends, gaps⟩ := takes_commands_as_spelled line
  have words : [":save", "+007"] = Text.words line := by decide +kernel
  have number : Spells "+007" 7 := (spelled "+007" 7).mpr ⟨"+", by decide, 2, by decide +kernel⟩
  have save : command? line = some (.save 7) := (taken (.save 7)).mpr (words ▸ .save number)
  have tab : Text.Blank "\t ".toList := by decide +kernel
  have lineEnd : Text.Blank "\r\n".toList := by decide +kernel
  have wide : Text.Blank "\u3000".toList := by decide +kernel
  exact ⟨(split _).mpr words, .save number, save, tab, lineEnd,
    (ends "\t " "\r\n" tab lineEnd).trans save, wide,
    (gaps ":save" "\u3000" "+007" wide (by decide) (by decide +kernel)).trans save⟩

end Storyline.Terminal
