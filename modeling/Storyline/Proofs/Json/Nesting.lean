import Storyline.Proofs.Json.Recovery

/-!
How deep a value can be that a reader makes. The first pass counts the levels down; what is kept for
a second pass has been counted before. So each reader is looked at with a bound on the levels that
it can still see, and what it makes stays within that bound on either pass.
-/

namespace Storyline.Json

theorem bind_ok {ε α β : Type} {x : Except ε α} {f : α → Except ε β} {b : β}
    (h : x >>= f = .ok b) : ∃ a, x = .ok a ∧ f a = .ok b := by
  cases x with
  | error e => cases h
  | ok a => exact ⟨a, rfl, h⟩

theorem map_ok {ε α β : Type} {x : Except ε α} {f : α → β} {b : β} (h : x.map f = .ok b) :
    ∃ a, x = .ok a ∧ f a = b := by
  cases x with
  | error e => cases h
  | ok a => exact ⟨a, rfl, Except.ok.inj h⟩

/-- A scanned tree that nests at most so many levels of lists and objects. -/
inductive Raw.Within : Nat → Raw → Prop
  | null {n : Nat} : Within n .null
  | bool {n : Nat} (b : Bool) : Within n (.bool b)
  | number {n : Nat} (x : Numeral) : Within n (.number x)
  | string {n : Nat} (q : Quoted) : Within n (.string q)
  | array {n : Nat} {items : List Raw} (ending : Ending) : (∀ r ∈ items, Within n r) →
      Within (n + 1) (.array items ending)
  | object {n : Nat} {fields : List (Quoted × Raw)} (ending : Ending) :
      (∀ f ∈ fields, Within n f.2) → Within (n + 1) (.object fields ending)

theorem Within.mono {n m : Nat} {j : Json} (h : j.Within n) (le : n ≤ m) : j.Within m := by
  induction h generalizing m with
  | null => exact .null
  | bool b => exact .bool b
  | number x => exact .number x
  | string s => exact .string s
  | array _ ih =>
    obtain ⟨k, rfl⟩ := Nat.exists_eq_add_of_lt le
    exact .array fun j member => ih j member (by omega)
  | object _ ih =>
    obtain ⟨k, rfl⟩ := Nat.exists_eq_add_of_lt le
    exact .object fun f member => ih f member (by omega)

/-- No more than so many levels of a tree are seen on a pass. -/
def Pass.Bounds : Pass → Nat → Raw → Prop
  | .first levels, n, _ => levels ≤ n
  | .again, n, r => r.Within n

namespace Pass.Bounds

variable {p q : Pass} {n : Nat} {ending : Ending}

theorem items {raws : List Raw} (h : p.Bounds n (.array raws ending)) (entered : p.enter = .ok q) :
    ∃ m, n = m + 1 ∧ ∀ r ∈ raws, q.Bounds m r := by
  cases p with
  | again =>
    cases entered
    cases h with
    | array _ inner => exact ⟨_, rfl, inner⟩
  | first levels =>
    cases levels with
    | zero => cases entered
    | succ levels =>
      cases entered
      obtain ⟨k, rfl⟩ := Nat.exists_eq_add_of_lt h
      exact ⟨levels + k, rfl, fun _ _ => Nat.le_add_right levels k⟩

theorem fields {raws : List (Quoted × Raw)} (h : p.Bounds n (.object raws ending))
    (entered : p.enter = .ok q) : ∃ m, n = m + 1 ∧ ∀ f ∈ raws, q.Bounds m f.2 := by
  cases p with
  | again =>
    cases entered
    cases h with
    | object _ inner => exact ⟨_, rfl, inner⟩
  | first levels =>
    cases levels with
    | zero => cases entered
    | succ levels =>
      cases entered
      obtain ⟨k, rfl⟩ := Nat.exists_eq_add_of_lt h
      exact ⟨levels + k, rfl, fun _ _ => Nat.le_add_right levels k⟩

end Pass.Bounds

mutual

/-- Any value that is read stays within the levels seen of it. -/
theorem value_within : ∀ {n : Nat} {p : Pass} {r : Raw} {v : Value}, p.Bounds n r →
    Reader.value p r = .ok v → v.json.Within n
  | _, _, .null, _, _, read => by
    cases read
    exact .null
  | _, _, .bool b, _, _, read => by
    cases read
    exact .bool b
  | _, _, .number m, _, _, read => by
    obtain ⟨x, _, rfl⟩ := map_ok read
    exact .number x
  | _, _, .string q, _, _, read => by
    obtain ⟨s, _, rfl⟩ := map_ok read
    exact .string s
  | _, _, .array raws ending, _, bound, read => by
    obtain ⟨q, entered, read⟩ := bind_ok read
    obtain ⟨found, items, read⟩ := bind_ok read
    obtain ⟨_, _, read⟩ := bind_ok read
    cases read
    obtain ⟨m, rfl, inner⟩ := bound.items entered
    exact .array (List.forall_mem_map.mpr (values_within inner items))
  | _, _, .object raws ending, _, bound, read => by
    obtain ⟨q, entered, read⟩ := bind_ok read
    obtain ⟨found, fields, read⟩ := bind_ok read
    obtain ⟨_, _, read⟩ := bind_ok read
    cases read
    obtain ⟨m, rfl, inner⟩ := bound.fields entered
    have within := valueFields_within inner fields
    exact .object (List.forall_mem_map.mpr fun e member => within e (Dict.mem_ofList member))
  | _, _, .broken f, _, _, read => by cases read
  | _, _, .brokenNumber atEnd, _, _, read => by cases read

theorem values_within : ∀ {n : Nat} {p : Pass} {raws : List Raw} {found : List Value},
    (∀ r ∈ raws, p.Bounds n r) → Reader.values p raws = .ok found → ∀ v ∈ found, v.json.Within n
  | _, _, [], _, _, read => by
    cases read
    exact fun _ member => nomatch member
  | _, _, r :: raws, _, bound, read => by
    obtain ⟨v, head, read⟩ := bind_ok read
    obtain ⟨rest, others, read⟩ := bind_ok read
    cases read
    refine List.forall_mem_cons.mpr ⟨value_within (bound r List.mem_cons_self) head, ?_⟩
    exact values_within (fun x member => bound x (List.mem_cons_of_mem r member)) others

theorem valueFields_within : ∀ {n : Nat} {p : Pass} {raws : List (Quoted × Raw)}
    {found : List (String × Value)}, (∀ f ∈ raws, p.Bounds n f.2) →
    Reader.valueFields p raws = .ok found → ∀ e ∈ found, e.2.json.Within n
  | _, _, [], _, _, read => by
    cases read
    exact fun _ member => nomatch member
  | _, _, (q, r) :: raws, _, bound, read => by
    obtain ⟨key, _, read⟩ := bind_ok read
    obtain ⟨v, head, read⟩ := bind_ok read
    obtain ⟨rest, others, read⟩ := bind_ok read
    cases read
    refine List.forall_mem_cons.mpr ⟨value_within (bound (q, r) List.mem_cons_self) head, ?_⟩
    exact valueFields_within (fun x member => bound x (List.mem_cons_of_mem _ member)) others

end

mutual

/-- A tree that was read as a value has no more levels than were seen of it. -/
theorem raw_within : ∀ {n : Nat} {p : Pass} {r : Raw} {v : Value}, p.Bounds n r →
    Reader.value p r = .ok v → r.Within n
  | _, _, .null, _, _, _ => .null
  | _, _, .bool b, _, _, _ => .bool b
  | _, _, .number m, _, _, _ => .number m
  | _, _, .string q, _, _, _ => .string q
  | _, _, .array raws ending, _, bound, read => by
    obtain ⟨q, entered, read⟩ := bind_ok read
    obtain ⟨found, items, _⟩ := bind_ok read
    obtain ⟨m, rfl, inner⟩ := bound.items entered
    exact .array ending (raws_within inner items)
  | _, _, .object raws ending, _, bound, read => by
    obtain ⟨q, entered, read⟩ := bind_ok read
    obtain ⟨found, fields, _⟩ := bind_ok read
    obtain ⟨m, rfl, inner⟩ := bound.fields entered
    exact .object ending (rawFields_within inner fields)
  | _, _, .broken f, _, _, read => by cases read
  | _, _, .brokenNumber atEnd, _, _, read => by cases read

theorem raws_within : ∀ {n : Nat} {p : Pass} {raws : List Raw} {found : List Value},
    (∀ r ∈ raws, p.Bounds n r) → Reader.values p raws = .ok found → ∀ r ∈ raws, r.Within n
  | _, _, [], _, _, _ => fun _ member => nomatch member
  | _, _, r :: raws, _, bound, read => by
    obtain ⟨v, head, read⟩ := bind_ok read
    obtain ⟨rest, others, _⟩ := bind_ok read
    refine List.forall_mem_cons.mpr ⟨raw_within (bound r List.mem_cons_self) head, ?_⟩
    exact raws_within (fun x member => bound x (List.mem_cons_of_mem r member)) others

theorem rawFields_within : ∀ {n : Nat} {p : Pass} {raws : List (Quoted × Raw)}
    {found : List (String × Value)}, (∀ f ∈ raws, p.Bounds n f.2) →
    Reader.valueFields p raws = .ok found → ∀ f ∈ raws, f.2.Within n
  | _, _, [], _, _, _ => fun _ member => nomatch member
  | _, _, (q, r) :: raws, _, bound, read => by
    obtain ⟨key, _, read⟩ := bind_ok read
    obtain ⟨v, head, read⟩ := bind_ok read
    obtain ⟨rest, others, _⟩ := bind_ok read
    refine List.forall_mem_cons.mpr ⟨raw_within (bound (q, r) List.mem_cons_self) head, ?_⟩
    exact rawFields_within (fun x member => bound x (List.mem_cons_of_mem _ member)) others

end

theorem settle_within {n : Nat} {p : Pass} {r : Raw} (bound : p.Bounds n r)
    (settled : Reader.settle p r = .ok ()) : r.Within n := by
  obtain ⟨v, read, _⟩ := map_ok settled
  exact raw_within bound read

/-- What a reader makes is as `P` asks, where no more than so many levels are seen. -/
def Reader.Ensures {α : Type} (reader : Reader α) (n : Nat) (P : α → Prop) : Prop :=
  ∀ (p : Pass) (r : Raw) (a : α), p.Bounds n r → reader p r = .ok a → P a

namespace Reader.Ensures

variable {α β : Type} {n : Nat} {P : α → Prop} {reader : Reader α}

theorem any (reader : Reader α) (n : Nat) : reader.Ensures n fun _ => True :=
  fun _ _ _ _ _ => trivial

theorem option (h : reader.Ensures n P) :
    (Reader.option reader).Ensures n fun o => ∀ a, o = some a → P a := by
  intro p r o bound read a given
  subst given
  unfold Reader.option at read
  split at read
  · cases read
  · obtain ⟨b, inner, same⟩ := map_ok read
    cases same
    exact h p _ a bound inner

theorem items {p : Pass} (h : reader.Ensures n P) : ∀ {raws : List Raw} {found : List α},
    (∀ r ∈ raws, p.Bounds n r) → Reader.items reader p raws = .ok found → ∀ a ∈ found, P a := by
  intro raws
  induction raws with
  | nil =>
    intro found _ read
    cases read
    exact fun _ member => nomatch member
  | cons r raws ih =>
    intro found bound read
    obtain ⟨a, head, read⟩ := bind_ok read
    obtain ⟨rest, others, read⟩ := bind_ok read
    cases read
    refine List.forall_mem_cons.mpr ⟨h p r a (bound r List.mem_cons_self) head, ?_⟩
    exact ih (fun x member => bound x (List.mem_cons_of_mem r member)) others

theorem entries {p : Pass} (h : reader.Ensures n P) : ∀ {raws : List (Quoted × Raw)}
    {found : List (String × α)}, (∀ f ∈ raws, p.Bounds n f.2) →
    Reader.entries reader p raws = .ok found → ∀ e ∈ found, P e.2 := by
  intro raws
  induction raws with
  | nil =>
    intro found _ read
    cases read
    exact fun _ member => nomatch member
  | cons f raws ih =>
    intro found bound read
    obtain ⟨key, _, read⟩ := bind_ok read
    obtain ⟨a, head, read⟩ := bind_ok read
    obtain ⟨rest, others, read⟩ := bind_ok read
    cases read
    refine List.forall_mem_cons.mpr ⟨h p f.2 a (bound f List.mem_cons_self) head, ?_⟩
    exact ih (fun x member => bound x (List.mem_cons_of_mem f member)) others

theorem list (h : reader.Ensures n P) :
    (Reader.list reader).Ensures (n + 1) fun l => ∀ a ∈ l, P a := by
  intro p r l bound read
  unfold Reader.list at read
  split at read
  · obtain ⟨q, entered, read⟩ := bind_ok read
    obtain ⟨found, each, read⟩ := bind_ok read
    obtain ⟨_, _, read⟩ := bind_ok read
    cases read
    obtain ⟨m, same, inner⟩ := bound.items entered
    cases same
    exact h.items inner each
  · obtain ⟨_, _, read⟩ := bind_ok read
    cases read

theorem dict (h : reader.Ensures n P) :
    (Reader.dict reader).Ensures (n + 1) fun d => ∀ e ∈ d.entries, P e.2 := by
  intro p r d bound read
  unfold Reader.dict at read
  split at read
  · obtain ⟨q, entered, read⟩ := bind_ok read
    obtain ⟨found, each, read⟩ := bind_ok read
    obtain ⟨_, _, read⟩ := bind_ok read
    cases read
    obtain ⟨m, same, inner⟩ := bound.fields entered
    cases same
    exact fun e member => h.entries inner each e (Dict.mem_ofList member)
  · obtain ⟨_, _, read⟩ := bind_ok read
    cases read

end Reader.Ensures

theorem ensures_value (n : Nat) : Reader.Ensures Reader.value n fun v => v.json.Within n :=
  fun _ _ _ bound read => value_within bound read

/-- A member that keeps a record as `P` asks. -/
def Member.Keeps {σ : Type} (m : Member σ) (n : Nat) (P : σ → Prop) : Prop :=
  ∀ (p : Pass) (r : Raw) (s s' : σ), p.Bounds n r → P s → m.read p r s = .ok s' → P s'

theorem Member.keeps_optional {σ α : Type} {n : Nat} {P : σ → Prop} {Q : α → Prop} {reader : Reader α}
    {put : σ → α → σ} (h : reader.Ensures n Q) (kept : ∀ s a, P s → Q a → P (put s a))
    (name : String) : (Member.optional name reader put).Keeps n P := by
  intro p r s s' bound holds read
  obtain ⟨a, inner, rfl⟩ := map_ok read
  exact kept s a holds (h p r a bound inner)

theorem Member.keeps_mandatory {σ α : Type} {n : Nat} {P : σ → Prop} {Q : α → Prop}
    {reader : Reader α} {put : σ → α → σ} (h : reader.Ensures n Q)
    (kept : ∀ s a, P s → Q a → P (put s a)) (name : String) :
    (Member.mandatory name reader put).Keeps n P :=
  Member.keeps_optional h kept name

end Storyline.Json
