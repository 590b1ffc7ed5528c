import Mathlib.Data.List.Forall2
import Storyline.Proofs.Json.Numbers
import Storyline.Proofs.Json.Quoting

/-!
Scanning a written value. The tree that comes out shows the value part by part: numerals where
there were numbers, quoted texts where there were texts, and no fault anywhere.

This layer does not say what a reader makes of the tree.
-/

namespace Storyline.Json

mutual

/-- The trees that are scanned where a value was written. -/
inductive Shows : Json → Raw → Prop
  | null : Shows .null .null
  | bool (b : Bool) : Shows (.bool b) (.bool b)
  | number {x : Number} {n : Numeral} : n.Spells x → Shows (.number x) (.number n)
  | string {s : String} {q : Quoted} : q.Holds s → Shows (.string s) (.string q)
  | array {items : List Json} {raws : List Raw} : List.Forall₂ Shows items raws →
      Shows (.array items) (.array raws .closed)
  | object {fields : List (String × Json)} {raws : List (Quoted × Raw)} :
      List.Forall₂ ShowsField fields raws → Shows (.object fields) (.object raws .closed)

inductive ShowsField : String × Json → Quoted × Raw → Prop
  | mk {key : String} {item : Json} {q : Quoted} {r : Raw} : q.Holds key → Shows item r →
      ShowsField (key, item) (q, r)

end

theorem write_head (j : Json) :
    ∃ c cs, write j = c :: cs ∧ isGap c = false ∧ c ≠ ']' := by
  cases j with
  | null => exact ⟨_, _, rfl, by decide, by decide⟩
  | bool b => cases b <;> exact ⟨_, _, rfl, by decide, by decide⟩
  | string s => exact ⟨_, _, rfl, by decide, by decide⟩
  | array items => cases items <;> exact ⟨_, _, rfl, by decide, by decide⟩
  | object fields => cases fields <;> exact ⟨_, _, rfl, by decide, by decide⟩
  | number x =>
    obtain ⟨n, formed, spelled⟩ := exists_spells x
    have digit : ∀ d, isDigit d = true → isGap d = false ∧ d ≠ ']' := by
      intro d hd
      constructor
      · simp only [isGap, Bool.or_eq_false_iff, beq_eq_false_iff_ne, ne_eq]
        refine ⟨⟨⟨?_, ?_⟩, ?_⟩, ?_⟩ <;> (rintro rfl; revert hd; decide)
      · rintro rfl
        revert hd
        decide
    obtain ⟨d, more, same⟩ := List.exists_cons_of_ne_nil formed.whole.1
    have first := digit d (formed.whole.2 d (by simp [same]))
    rw [write, ← spelled, Numeral.spelling, same]
    cases n.negative with
    | true => exact ⟨_, _, rfl, by decide, by decide⟩
    | false => exact ⟨_, _, rfl, first.1, first.2⟩

theorem skipGap_cons {c : Char} (h : isGap c = false) (rest : List Char) :
    skipGap (c :: rest) = c :: rest := by
  simp [skipGap, h]

theorem skipGap_write (j : Json) (rest : List Char) :
    skipGap (write j ++ rest) = write j ++ rest := by
  obtain ⟨c, cs, same, solid, _⟩ := write_head j
  rw [same]
  exact skipGap_cons solid (cs ++ rest)

theorem scanWord_self (meaning : Raw) (word rest : List Char) :
    scanWord meaning word (word ++ rest) = (meaning, rest) := by
  induction word with
  | nil => rfl
  | cons c word ih =>
    simp only [List.cons_append, scanWord, if_true]
    exact ih

theorem scanValue_of_scalar {s : List Char} {c : Char} {cs : List Char} (same : s = c :: cs)
    (solid : isGap c = false) (list : c ≠ '[') (object : c ≠ '\x7b') (fuel : Nat) :
    scanValue (fuel + 1) s = scanScalar s := by
  subst same
  rw [scanValue, skipGap_cons solid]
  split
  · next h => exact absurd (List.cons.inj h).1 list
  · next h => exact absurd (List.cons.inj h).1 object
  · rfl

theorem scanValue_number (x : Number) (fuel : Nat) {rest : List Char} (hr : Closes rest) :
    ∃ n : Numeral, n.Spells x ∧ scanValue (fuel + 1) (writeNumber x ++ rest) = (.number n, rest) := by
  obtain ⟨n, formed, spelled⟩ := exists_spells x
  have scanned := Numeral.scanScalar_spelling formed rest hr
  obtain ⟨c, cs, same, solid, _⟩ := write_head (.number x)
  refine ⟨n, ⟨formed, spelled⟩, ?_⟩
  rw [write] at same
  rw [spelled] at scanned
  rw [← scanned]
  have shape : writeNumber x ++ rest = c :: (cs ++ rest) := by rw [same, List.cons_append]
  have not_open : c ≠ '[' ∧ c ≠ '\x7b' := by
    -- a list or an object would not have been scanned as a number
    rw [shape] at scanned
    constructor
    · rintro rfl
      have opened : scanScalar ('[' :: (cs ++ rest)) = (.broken .expectedValue, []) := rfl
      rw [opened] at scanned
      cases scanned
    · rintro rfl
      have opened : scanScalar ('\x7b' :: (cs ++ rest)) = (.broken .expectedValue, []) := rfl
      rw [opened] at scanned
      cases scanned
  exact scanValue_of_scalar shape solid not_open.1 not_open.2 fuel

theorem closes_writeItems (items : List Json) (rest : List Char) :
    Closes (writeItems items ++ rest) := by
  cases items with
  | nil => exact .inr (.inl rfl)
  | cons item items => exact .inl rfl

theorem closes_writeFields (fields : List (String × Json)) (rest : List Char) :
    Closes (writeFields fields ++ rest) := by
  cases fields with
  | nil => exact .inr (.inr rfl)
  | cons field fields => exact .inl rfl

mutual

/-- A written value is scanned as a tree that shows it, up to its end. -/
theorem scanValue_write : ∀ (j : Json) (fuel : Nat) (rest : List Char),
    2 * (write j).length ≤ fuel → Closes rest →
    ∃ r, Shows j r ∧ scanValue fuel (write j ++ rest) = (r, rest)
  | j, 0, _, h, _ => by
    obtain ⟨c, cs, same, _⟩ := write_head j
    simp [same] at h
  | .null, fuel + 1, rest, _, _ => by
    refine ⟨.null, .null, ?_⟩
    refine (scanValue_of_scalar rfl (by decide) (by decide) (by decide) fuel).trans ?_
    exact scanWord_self .null ['u', 'l', 'l'] rest
  | .bool true, fuel + 1, rest, _, _ => by
    refine ⟨.bool true, .bool true, ?_⟩
    refine (scanValue_of_scalar rfl (by decide) (by decide) (by decide) fuel).trans ?_
    exact scanWord_self (.bool true) ['r', 'u', 'e'] rest
  | .bool false, fuel + 1, rest, _, _ => by
    refine ⟨.bool false, .bool false, ?_⟩
    refine (scanValue_of_scalar rfl (by decide) (by decide) (by decide) fuel).trans ?_
    exact scanWord_self (.bool false) ['a', 'l', 's', 'e'] rest
  | .number x, fuel + 1, rest, _, hr => by
    obtain ⟨n, spells, scanned⟩ := scanValue_number x fuel hr
    exact ⟨.number n, .number spells, scanned⟩
  | .string s, fuel + 1, rest, _, _ => by
    obtain ⟨q, holds, scanned⟩ := scanQuoted_text s rest
    refine ⟨.string q, .string holds, ?_⟩
    simp only [write, writeText, List.cons_append, List.append_assoc, List.nil_append]
    refine (scanValue_of_scalar rfl (by decide) (by decide) (by decide) fuel).trans ?_
    simp only [scanScalar, scanned]
  | .array [], fuel + 1, rest, _, _ => ⟨.array [] .closed, .array .nil, rfl⟩
  | .array (item :: items), fuel + 1, rest, h, hr => by
    simp only [write, List.cons_append, List.length_cons] at h
    obtain ⟨raws, shown, scanned⟩ :=
      scanItems_write (item :: items) fuel (write item ++ writeItems items) rest rfl (by omega)
    obtain ⟨c, cs, same, solid, open_⟩ := write_head item
    refine ⟨.array raws .closed, .array shown, ?_⟩
    have gap : skipGap (write item ++ (writeItems items ++ rest)) =
        write item ++ (writeItems items ++ rest) := skipGap_write item _
    simp only [write, List.cons_append, List.append_assoc] at scanned ⊢
    rw [scanValue, skipGap_cons (by decide)]
    simp only [gap]
    rw [same] at scanned ⊢
    simp only [List.cons_append] at scanned ⊢
    split
    · next h => cases h
    · next h => exact absurd (List.cons.inj h).1 open_
    · rw [scanned]
  | .object [], fuel + 1, rest, _, _ => ⟨.object [] .closed, .object .nil, rfl⟩
  | .object ((key, item) :: fields), fuel + 1, rest, h, hr => by
    simp only [write, writeText, List.length_cons, List.cons_append] at h
    obtain ⟨raws, shown, scanned⟩ := scanFields_write ((key, item) :: fields) fuel
      (key.toList.flatMap writeChar ++ '"' :: ':' :: (write item ++ writeFields fields)) rest
      (by simp [writeFields, writeText]) (by simp at h ⊢; omega)
    refine ⟨.object raws .closed, .object shown, ?_⟩
    simp only [write, writeText, List.cons_append, List.append_assoc, List.nil_append] at scanned ⊢
    rw [scanValue, skipGap_cons (by decide)]
    simp only [skipGap_cons (show isGap '"' = false by decide), scanned]

theorem scanItems_write : ∀ (items : List Json) (fuel : Nat) (text rest : List Char),
    writeItems items = ',' :: text → 2 * text.length ≤ fuel →
    ∃ raws, List.Forall₂ Shows items raws ∧ scanItems fuel (text ++ rest) = (raws, .closed, rest)
  | [], _, _, _, same, _ => by simp [writeItems] at same
  | item :: items, 0, text, _, same, h => by
    obtain ⟨c, cs, first, _⟩ := write_head item
    simp only [writeItems, first, List.cons_append, List.cons.injEq, true_and] at same
    simp [← same] at h
  | item :: items, fuel + 1, text, rest, same, h => by
    simp only [writeItems, List.cons_append, List.cons.injEq, true_and] at same
    subst same
    have tail : (writeItems items).length ≠ 0 := by cases items <;> simp [writeItems]
    simp only [List.length_append] at h
    obtain ⟨r, shown, scanned⟩ := scanValue_write item fuel (writeItems items ++ rest)
      (by omega) (closes_writeItems items rest)
    rw [List.append_assoc, scanItems, scanned]
    cases items with
    | nil => exact ⟨[r], .cons shown .nil, rfl⟩
    | cons next items =>
      obtain ⟨raws, others, more⟩ := scanItems_write (next :: items) fuel
        (write next ++ writeItems items) rest rfl (by simp [writeItems] at h ⊢; omega)
      obtain ⟨c, cs, first, solid, open_⟩ := write_head next
      refine ⟨r :: raws, .cons shown others, ?_⟩
      have gap : skipGap (write next ++ (writeItems items ++ rest)) =
          write next ++ (writeItems items ++ rest) := skipGap_write next _
      simp only [writeItems, List.cons_append, List.append_assoc] at more ⊢
      simp only [skipGap_cons (show isGap ',' = false by decide), gap]
      rw [first] at more ⊢
      simp only [List.cons_append] at more ⊢
      split
      · next h => cases h
      · next h => exact absurd (List.cons.inj h).1 open_
      · rw [more]

/-- The fields of a written object from the first one on, its opening quote taken. -/
theorem scanFields_write : ∀ (fields : List (String × Json)) (fuel : Nat) (text rest : List Char),
    writeFields fields = ',' :: '"' :: text → 2 * text.length ≤ fuel →
    ∃ raws, List.Forall₂ ShowsField fields raws ∧
      scanFields fuel (text ++ rest) = (raws, .closed, rest)
  | [], _, _, _, same, _ => by simp [writeFields] at same
  | (key, item) :: fields, 0, text, _, same, h => by
    simp only [writeFields, writeText, List.cons_append, List.cons.injEq, true_and] at same
    simp [← same] at h
  | (key, item) :: fields, fuel + 1, text, rest, same, h => by
    simp only [writeFields, writeText, List.cons_append, List.cons.injEq, true_and,
      List.append_assoc, List.nil_append] at same
    subst same
    simp only [List.length_append, List.length_cons] at h
    obtain ⟨q, holds, quoted⟩ :=
      scanQuoted_text key (':' :: (write item ++ (writeFields fields ++ rest)))
    obtain ⟨r, shown, scanned⟩ := scanValue_write item fuel (writeFields fields ++ rest)
      (by omega) (closes_writeFields fields rest)
    simp only [List.append_assoc, List.cons_append]
    rw [scanFields, quoted]
    simp only [skipGap_cons (show isGap ':' = false by decide), scanned]
    cases fields with
    | nil => exact ⟨[(q, r)], .cons (.mk holds shown) .nil, rfl⟩
    | cons next fields =>
      obtain ⟨other, value⟩ := next
      obtain ⟨raws, others, more⟩ := scanFields_write ((other, value) :: fields) fuel
        (other.toList.flatMap writeChar ++ '"' :: ':' :: (write value ++ writeFields fields)) rest
        (by simp [writeFields, writeText]) (by simp [writeFields, writeText] at h ⊢; omega)
      refine ⟨(q, r) :: raws, .cons (.mk holds shown) others, ?_⟩
      simp only [writeFields, writeText, List.cons_append, List.append_assoc,
        List.nil_append] at more ⊢
      simp only [skipGap_cons (show isGap ',' = false by decide),
        skipGap_cons (show isGap '"' = false by decide), more]

end

theorem scan_text (j : Json) : ∃ r, Shows j r ∧ scan j.text = ⟨r, false⟩ := by
  obtain ⟨r, shown, scanned⟩ := scanValue_write j (2 * (write j).length + 1) []
    (by omega) trivial
  refine ⟨r, shown, ?_⟩
  rw [List.append_nil] at scanned
  unfold scan text
  simp only [String.toList_ofList, scanned]
  rfl

theorem readText_text {α : Type} (reader : Reader α) (j : Json) :
    ∃ r, Shows j r ∧ readText reader j.text = reader .start r := by
  obtain ⟨r, shown, scanned⟩ := scan_text j
  refine ⟨r, shown, ?_⟩
  unfold readText
  simp only [scanned]
  cases reader .start r <;> rfl

/-- The same for the tree that the scanner makes of what was written, of which no text is left. -/
theorem readText_scanned {α : Type} (reader : Reader α) (j : Json) :
    readText reader j.text = reader .start (scanValue (2 * j.write.length + 1) j.write).1 := by
  obtain ⟨r, _, scanned⟩ := scan_text j
  have root : (scanValue (2 * j.write.length + 1) j.write).1 = r := by
    have roots := congrArg Document.root scanned
    unfold scan text at roots
    rwa [String.toList_ofList] at roots
  unfold readText
  simp only [scanned, root]
  cases reader .start r <;> rfl

theorem exists_shown {fields : List (String × Json)} {raws : List (Quoted × Raw)}
    (shown : List.Forall₂ ShowsField fields raws) :
    ∀ f ∈ raws, ∃ e ∈ fields, lift f.1.decode = .ok e.1 ∧ Shows e.2 f.2 := by
  induction shown with
  | nil => exact fun _ member => nomatch member
  | cons first _ ih =>
    refine List.forall_mem_cons.mpr ⟨?_, ?_⟩
    · cases first with
      | mk holds value => exact ⟨_, List.mem_cons_self, congrArg lift holds, value⟩
    · intro f member
      obtain ⟨e, inside, both⟩ := ih f member
      exact ⟨e, List.mem_cons_of_mem _ inside, both⟩

theorem shown_exists {fields : List (String × Json)} {raws : List (Quoted × Raw)}
    (shown : List.Forall₂ ShowsField fields raws) :
    ∀ e ∈ fields, ∃ f ∈ raws, lift f.1.decode = .ok e.1 := by
  induction shown with
  | nil => exact fun _ member => nomatch member
  | cons first _ ih =>
    refine List.forall_mem_cons.mpr ⟨?_, ?_⟩
    · cases first with
      | mk holds _ => exact ⟨_, List.mem_cons_self, congrArg lift holds⟩
    · intro e member
      obtain ⟨f, inside, named⟩ := ih e member
      exact ⟨f, List.mem_cons_of_mem _ inside, named⟩

end Storyline.Json
