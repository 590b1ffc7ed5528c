import Storyline.Proofs.Json.Scanned

/-!
What readers get back from written values. Each reader is looked at on its own: it recovers a value
where the tree shows that value and enough levels of nesting are allowed. Lists, dictionaries and
records recover what their parts recover.
-/

namespace Storyline

namespace Dict

variable {α : Type}

theorem insertEntry_last {key : String} {value : α} {entries : List (String × α)}
    (h : ∀ e ∈ entries, e.1 < key) :
    insertEntry key value entries = entries ++ [(key, value)] := by
  induction entries with
  | nil => rfl
  | cons head rest ih =>
    have below := h head List.mem_cons_self
    have above : ¬key < head.1 := fun less => String.lt_irrefl _ (String.lt_trans below less)
    have other : key ≠ head.1 := fun same => String.lt_irrefl key (by rw [same] at below ⊢; exact below)
    simp only [insertEntry, if_neg above, if_neg other, List.cons_append]
    rw [ih fun e member => h e (List.mem_cons_of_mem _ member)]

theorem entries_foldl_insert (new : List (String × α)) (d : Dict α)
    (sorted : (d.entries ++ new).Pairwise fun a b => a.1 < b.1) :
    (new.foldl (fun d e => d.insert e.1 e.2) d).entries = d.entries ++ new := by
  induction new generalizing d with
  | nil => simp
  | cons e new ih =>
    have last : (d.insert e.1 e.2).entries = d.entries ++ [e] := by
      refine insertEntry_last fun x member => ?_
      exact (List.pairwise_append.mp sorted).2.2 x member e List.mem_cons_self
    rw [List.foldl_cons, ih]
    · rw [last, List.append_assoc, List.cons_append, List.nil_append]
    · rw [last, List.append_assoc, List.cons_append, List.nil_append]
      exact sorted

theorem ofList_entries (d : Dict α) : ofList d.entries = d :=
  ext (entries_foldl_insert d.entries empty d.sorted)

theorem mem_ofList {entries : List (String × α)} {e : String × α}
    (h : e ∈ (ofList entries).entries) : e ∈ entries := by
  have each : ∀ (new : List (String × α)) (d : Dict α),
      e ∈ (new.foldl (fun d x => d.insert x.1 x.2) d).entries → e ∈ d.entries ∨ e ∈ new := by
    intro new
    induction new with
    | nil => exact fun d member => .inl member
    | cons x new ih =>
      intro d member
      rcases ih (d.insert x.1 x.2) member with old | rest
      · rcases mem_insertEntry old with same | old
        · exact .inr (same ▸ List.mem_cons_self)
        · exact .inl old
      · exact .inr (List.mem_cons_of_mem x rest)
  exact (each entries empty h).resolve_left fun none => nomatch none

end Dict

namespace Json

inductive Within : Nat → Json → Prop
  | null {n : Nat} : Within n .null
  | bool {n : Nat} (b : Bool) : Within n (.bool b)
  | number {n : Nat} (x : Number) : Within n (.number x)
  | string {n : Nat} (s : String) : Within n (.string s)
  | array {n : Nat} {items : List Json} : (∀ j ∈ items, Within n j) → Within (n + 1) (.array items)
  | object {n : Nat} {fields : List (String × Json)} : (∀ f ∈ fields, Within n f.2) →
      Within (n + 1) (.object fields)

/-- A value in which every real number is read as it is written. -/
inductive Faithful : Json → Prop
  | null : Faithful .null
  | bool (b : Bool) : Faithful (.bool b)
  | whole (w : Whole) : Faithful (.number (.whole w))
  | real {x : Binary64} : x.ReadsBack → Faithful (.number (.real x))
  | string (s : String) : Faithful (.string s)
  | array {items : List Json} : (∀ j ∈ items, Faithful j) → Faithful (.array items)
  | object {fields : List (String × Json)} : (∀ f ∈ fields, Faithful f.2) →
      Faithful (.object fields)

section

variable {n : Nat} {items : List Json} {fields : List (String × Json)}

theorem Within.field (h : (Json.object fields).Within (n + 1)) : ∀ f ∈ fields, f.2.Within n := by
  cases h with
  | object each => exact each

theorem Within.item (h : (Json.array items).Within (n + 1)) : ∀ j ∈ items, j.Within n := by
  cases h with
  | array each => exact each

theorem Faithful.field (h : (Json.object fields).Faithful) : ∀ f ∈ fields, f.2.Faithful := by
  cases h with
  | object each => exact each

end

mutual

def decideFaithful : (j : Json) → Decidable j.Faithful
  | .null => isTrue .null
  | .bool b => isTrue (.bool b)
  | .number (.whole w) => isTrue (.whole w)
  | .number (.real x) => decidable_of_iff x.ReadsBack ⟨.real, fun | .real h => h⟩
  | .string s => isTrue (.string s)
  | .array items => @decidable_of_iff _ _ ⟨.array, fun | .array h => h⟩ (decideFaithfulItems items)
  | .object fields =>
    @decidable_of_iff _ _ ⟨.object, fun | .object h => h⟩ (decideFaithfulFields fields)

def decideFaithfulItems : (items : List Json) → Decidable (∀ j ∈ items, j.Faithful)
  | [] => isTrue fun _ absent => (List.not_mem_nil absent).elim
  | j :: items =>
    have _ : Decidable j.Faithful := decideFaithful j
    have _ : Decidable (∀ j ∈ items, j.Faithful) := decideFaithfulItems items
    decidable_of_iff (j.Faithful ∧ ∀ j ∈ items, j.Faithful) List.forall_mem_cons.symm

def decideFaithfulFields : (fields : List (String × Json)) → Decidable (∀ f ∈ fields, f.2.Faithful)
  | [] => isTrue fun _ absent => (List.not_mem_nil absent).elim
  | (_, j) :: fields =>
    have _ : Decidable j.Faithful := decideFaithful j
    have _ : Decidable (∀ f ∈ fields, f.2.Faithful) := decideFaithfulFields fields
    decidable_of_iff (j.Faithful ∧ ∀ f ∈ fields, f.2.Faithful) (by rw [List.forall_mem_cons])

end

instance : DecidablePred Faithful := decideFaithful

/-- Whether so many levels of nesting may follow on a pass. -/
def Pass.Allows : Pass → Nat → Prop
  | .first levels, n => n ≤ levels
  | .again, _ => True

theorem Pass.Allows.enter {p : Pass} {n : Nat} (h : p.Allows (n + 1)) :
    ∃ q : Pass, p.enter = .ok q ∧ q.Allows n := by
  cases p with
  | again => exact ⟨.again, rfl, trivial⟩
  | first levels =>
    cases levels with
    | zero => exact absurd h (Nat.not_succ_le_zero n)
    | succ levels => exact ⟨.first levels, rfl, Nat.le_of_succ_le_succ h⟩

/-- A reader gets `a` back where `j` was written and so many levels are allowed. -/
def Reader.Recovers {α : Type} (reader : Reader α) (levels : Nat) (j : Json) (a : α) : Prop :=
  ∀ (p : Pass) (r : Raw), p.Allows levels → Shows j r → reader p r = .ok a

theorem recovers_text (n : Nat) (s : String) : Reader.text.Recovers n (.string s) s := by
  intro p r _ shown
  cases shown with
  | string holds => exact congrArg lift holds

theorem whole_shown {i low high : Int} {h : -(2 ^ 63) ≤ i ∧ i < 2 ^ 64} {p : Pass} {r : Raw}
    (expected : String) (fits : low ≤ i ∧ i ≤ high) (shown : Shows (.ofWhole i h) r) :
    Reader.whole low high expected p r = .ok i := by
  cases shown with
  | number spells =>
    unfold Reader.whole
    simp only [spells.value_whole, lift, bind, Except.bind]
    rw [if_pos fits]

theorem recovers_uint32 (n : Nat) (x : UInt32) : Reader.uint32.Recovers n (.ofUInt32 x) x := by
  intro p r _ shown
  have fits := x.toNat_lt
  unfold Reader.uint32
  rw [whole_shown "u32" (by omega) shown]
  simp [bind, Except.bind, pure, Except.pure]

theorem recovers_uint64 (n : Nat) (x : UInt64) : Reader.uint64.Recovers n (.ofUInt64 x) x := by
  intro p r _ shown
  have fits := x.toNat_lt
  unfold Reader.uint64
  rw [whole_shown "u64" (by omega) shown]
  simp [bind, Except.bind, pure, Except.pure]

theorem recovers_int32 (n : Nat) (x : Int32) : Reader.int32.Recovers n (.ofInt32 x) x := by
  intro p r _ shown
  have low := x.le_toInt
  have high := x.toInt_lt
  unfold Reader.int32
  rw [whole_shown "i32" (by omega) shown]
  simp [bind, Except.bind, pure, Except.pure]

variable {α : Type}

theorem Reader.Recovers.some {reader : Reader α} {n : Nat} {j : Json} {a : α}
    (h : reader.Recovers n j a) (given : j ≠ .null) :
    (Reader.option reader).Recovers n j (some a) := by
  intro p r allowed shown
  have back := h p r allowed shown
  cases shown <;> first | exact absurd rfl given | simp [Reader.option, back, Except.map]

theorem items_shown {reader : Reader α} {n : Nat} {p : Pass} (allowed : p.Allows n)
    {write : α → Json} {l : List α} (h : ∀ a ∈ l, reader.Recovers n (write a) a) {raws : List Raw}
    (shown : List.Forall₂ Shows (l.map write) raws) : Reader.items reader p raws = .ok l := by
  induction l generalizing raws with
  | nil => cases shown; rfl
  | cons a l ih =>
    cases shown with
    | cons first others =>
      have rest := ih (fun b member => h b (List.mem_cons_of_mem a member)) others
      have head := h a List.mem_cons_self p _ allowed first
      simp only [Reader.items, head, rest, bind, Except.bind, pure, Except.pure]

theorem recovers_list {reader : Reader α} {n : Nat} {write : α → Json} {l : List α}
    (h : ∀ a ∈ l, reader.Recovers n (write a) a) :
    (Reader.list reader).Recovers (n + 1) (.array (l.map write)) l := by
  intro p r allowed shown
  obtain ⟨q, entered, inner⟩ := allowed.enter
  cases shown with
  | array items =>
    have read := items_shown inner h items
    simp only [Reader.list, entered, read, bind, Except.bind]
    rfl

theorem entries_shown {reader : Reader α} {n : Nat} {p : Pass} (allowed : p.Allows n)
    {write : α → Json} {l : List (String × α)} (h : ∀ e ∈ l, reader.Recovers n (write e.2) e.2)
    {raws : List (Quoted × Raw)}
    (shown : List.Forall₂ ShowsField (l.map fun e => (e.1, write e.2)) raws) :
    Reader.entries reader p raws = .ok l := by
  induction l generalizing raws with
  | nil => cases shown; rfl
  | cons e l ih =>
    cases shown with
    | cons first others =>
      cases first with
      | mk holds value =>
        have rest := ih (fun b member => h b (List.mem_cons_of_mem e member)) others
        have head := h e List.mem_cons_self p _ allowed value
        have key : lift (Quoted.decode _) = .ok e.1 := congrArg lift holds
        simp only [Reader.entries, key, head, rest, bind, Except.bind, pure, Except.pure]

theorem recovers_dict {reader : Reader α} {n : Nat} {write : α → Json} {d : Dict α}
    (h : ∀ e ∈ d.entries, reader.Recovers n (write e.2) e.2) :
    (Reader.dict reader).Recovers (n + 1) (.ofDict write d) d := by
  intro p r allowed shown
  obtain ⟨q, entered, inner⟩ := allowed.enter
  cases shown with
  | object fields =>
    have read := entries_shown inner h fields
    simp only [Reader.dict, entered, read, bind, Except.bind, Dict.ofList_entries]
    rfl

/-- The value of a tree whose objects may have their keys in any order. -/
def valueOf : Json → Value
  | .null => .null
  | .bool b => .bool b
  | .number x => .number x
  | .string s => .string s
  | .array items => .array (valuesOf items)
  | .object fields => .object (Dict.ofList (fieldsOf fields))
where
  valuesOf : List Json → List Value
    | [] => []
    | item :: items => valueOf item :: valuesOf items
  fieldsOf : List (String × Json) → List (String × Value)
    | [] => []
    | (key, item) :: fields => (key, valueOf item) :: fieldsOf fields

mutual

theorem json_valueOf : ∀ {j : Json}, j.Canonical → (valueOf j).json = j
  | .null, _ => rfl
  | .bool _, _ => rfl
  | .number _, _ => rfl
  | .string _, _ => rfl
  | .array items, h => by
    cases h with
    | array inner => exact congrArg Json.array (json_valuesOf items inner)
  | .object fields, h => by
    cases h with
    | object sorted inner =>
      have same := json_fieldsOf fields inner
      rw [← same] at sorted
      have keys := List.pairwise_map.mp sorted
      have listed : (Dict.ofList (valueOf.fieldsOf fields)).entries = valueOf.fieldsOf fields :=
        congrArg Dict.entries (Dict.ofList_entries ⟨_, keys⟩)
      refine congrArg Json.object ?_
      rw [listed]
      exact same

theorem json_valuesOf : ∀ (items : List Json), (∀ j ∈ items, j.Canonical) →
    (valueOf.valuesOf items).map Value.json = items
  | [], _ => rfl
  | item :: items, h => by
    have head := json_valueOf (h item List.mem_cons_self)
    have rest := json_valuesOf items fun j member => h j (List.mem_cons_of_mem item member)
    simp only [valueOf.valuesOf, List.map_cons, head, rest]

theorem json_fieldsOf : ∀ (fields : List (String × Json)), (∀ f ∈ fields, f.2.Canonical) →
    (valueOf.fieldsOf fields).map (fun e => (e.1, e.2.json)) = fields
  | [], _ => rfl
  | (key, item) :: fields, h => by
    have head := json_valueOf (h (key, item) List.mem_cons_self)
    have rest := json_fieldsOf fields fun f member => h f (List.mem_cons_of_mem _ member)
    simp only [valueOf.fieldsOf, List.map_cons, head, rest]

end

theorem valueOf_json (v : Value) : valueOf v.json = v := by
  have same := json_valueOf v.canonical
  cases v
  generalize valueOf _ = w at same
  cases w
  cases same
  rfl

theorem value_spelled {x : Number} (faithful : Faithful (.number x)) {n : Numeral}
    (h : n.Spells x) : n.value = .ok x := by
  cases faithful with
  | whole w => exact h.value_whole
  | @real x back =>
    obtain ⟨r, shown, read⟩ := readText_text Reader.value (.number (.real x))
    have known : Reader.value .start r = .ok (.number (.real x)) := read.symm.trans back
    cases shown with
    | @number _ m spells =>
      rw [Numeral.eq_of_spelling h.1 spells.1 (h.2.trans spells.2.symm)]
      simp only [Reader.value] at known
      cases worth : m.value with
      | error f => rw [worth] at known; cases known
      | ok y =>
        rw [worth] at known
        have same : Value.number y = Value.number (.real x) := Except.ok.inj known
        have same := congrArg Value.json same
        rw [Json.number.inj same]

mutual

/-- Any value is recovered if it is faithful and does not nest too deep. -/
theorem recovers_valueOf : ∀ {n : Nat} {j : Json}, Within n j → Faithful j →
    Reader.Recovers Reader.value n j (valueOf j)
  | _, .null, _, _ => by
    intro p r _ shown
    cases shown
    rfl
  | _, .bool b, _, _ => by
    intro p r _ shown
    cases shown
    rfl
  | _, .number x, _, faithful => by
    intro p r _ shown
    cases shown with
    | number spells =>
      simp only [Reader.value, value_spelled faithful spells]
      rfl
  | _, .string s, _, _ => by
    intro p r _ shown
    cases shown with
    | string holds =>
      have key : lift (Quoted.decode _) = .ok s := congrArg lift holds
      simp only [Reader.value, key]
      rfl
  | _, .array items, within, faithful => by
    intro p r allowed shown
    cases within with
    | array inner =>
      cases faithful with
      | array parts =>
        cases shown with
        | array raws =>
          obtain ⟨q, entered, below⟩ := allowed.enter
          have read := values_shown below inner parts raws
          simp only [Reader.value, entered, read, bind, Except.bind]
          rfl
  | _, .object fields, within, faithful => by
    intro p r allowed shown
    cases within with
    | object inner =>
      cases faithful with
      | object parts =>
        cases shown with
        | object raws =>
          obtain ⟨q, entered, below⟩ := allowed.enter
          have read := valueFields_shown below inner parts raws
          simp only [Reader.value, entered, read, bind, Except.bind]
          rfl

theorem values_shown : ∀ {n : Nat} {p : Pass} {items : List Json} {raws : List Raw}, p.Allows n →
    (∀ j ∈ items, Within n j) → (∀ j ∈ items, Faithful j) → List.Forall₂ Shows items raws →
    Reader.values p raws = .ok (valueOf.valuesOf items)
  | _, _, [], _, _, _, _, shown => by
    cases shown
    rfl
  | _, p, item :: items, _, allowed, within, faithful, shown => by
    cases shown with
    | cons first others =>
      have head := recovers_valueOf (within item List.mem_cons_self)
        (faithful item List.mem_cons_self) p _ allowed first
      have rest := values_shown allowed (fun j member => within j (List.mem_cons_of_mem item member))
        (fun j member => faithful j (List.mem_cons_of_mem item member)) others
      simp only [Reader.values, head, rest, bind, Except.bind]
      rfl

theorem valueFields_shown : ∀ {n : Nat} {p : Pass} {fields : List (String × Json)}
    {raws : List (Quoted × Raw)}, p.Allows n → (∀ f ∈ fields, Within n f.2) →
    (∀ f ∈ fields, Faithful f.2) → List.Forall₂ ShowsField fields raws →
    Reader.valueFields p raws = .ok (valueOf.fieldsOf fields)
  | _, _, [], _, _, _, _, shown => by
    cases shown
    rfl
  | _, p, (key, item) :: fields, _, allowed, within, faithful, shown => by
    cases shown with
    | cons first others =>
      cases first with
      | mk holds value =>
        have head := recovers_valueOf (within (key, item) List.mem_cons_self)
          (faithful (key, item) List.mem_cons_self) p _ allowed value
        have rest := valueFields_shown allowed
          (fun f member => within f (List.mem_cons_of_mem _ member))
          (fun f member => faithful f (List.mem_cons_of_mem _ member)) others
        have key : lift (Quoted.decode _) = .ok key := congrArg lift holds
        simp only [Reader.valueFields, key, head, rest, bind, Except.bind]
        rfl

end

theorem recovers_value {n : Nat} {v : Value} (within : v.json.Within n) (faithful : v.json.Faithful) :
    Reader.Recovers Reader.value n v.json v := by
  have back := recovers_valueOf within faithful
  rw [valueOf_json] at back
  exact back

/-- A tree that shows a faithful value is without fault. -/
theorem settle_shown {n : Nat} {j : Json} (within : j.Within n) (faithful : j.Faithful) {p : Pass}
    (allowed : p.Allows n) {r : Raw} (shown : Shows j r) : Reader.settle p r = .ok () := by
  unfold Reader.settle
  rw [recovers_valueOf within faithful p r allowed shown]
  rfl

theorem recovers_texts (n : Nat) (l : List String) :
    (Reader.list .text).Recovers (n + 1) (.ofTexts l) l :=
  recovers_list fun s _ => recovers_text n s

end Json
end Storyline
