/-!
Dictionaries keyed by text, kept in the order of their keys.

Two dictionaries that answer every look-up alike are equal, so equal contents are also written
alike. The lemmas say what each operation does to a look-up.
-/

namespace Storyline

/-- Entries in strictly ascending order of their keys. -/
structure Dict (α : Type) where
  entries : List (String × α)
  sorted : entries.Pairwise fun a b => a.1 < b.1

namespace Dict

variable {α β : Type}

/-- Puts a value under a key of a sorted list, replacing the one that is there. -/
def insertEntry (key : String) (value : α) : List (String × α) → List (String × α)
  | [] => [(key, value)]
  | entry :: rest =>
    if key < entry.1 then (key, value) :: entry :: rest
    else if key = entry.1 then (key, value) :: rest
    else entry :: insertEntry key value rest

theorem mem_insertEntry {key : String} {value : α} {entries : List (String × α)}
    {e : String × α} (h : e ∈ insertEntry key value entries) : e = (key, value) ∨ e ∈ entries := by
  induction entries with
  | nil => simpa [insertEntry] using h
  | cons head rest ih =>
    simp only [insertEntry] at h
    split at h
    · simpa using h
    · split at h
      · rcases List.mem_cons.1 h with h | h
        · exact .inl h
        · exact .inr (List.mem_cons_of_mem _ h)
      · rcases List.mem_cons.1 h with h | h
        · exact .inr (h ▸ List.mem_cons_self)
        · exact (ih h).imp_right (List.mem_cons_of_mem _)

theorem sorted_insertEntry (key : String) (value : α) {entries : List (String × α)}
    (h : entries.Pairwise fun a b => a.1 < b.1) :
    (insertEntry key value entries).Pairwise fun a b => a.1 < b.1 := by
  induction entries with
  | nil => simp [insertEntry]
  | cons head rest ih =>
    have ⟨first, others⟩ := List.pairwise_cons.1 h
    simp only [insertEntry]
    split
    · next below =>
      refine List.pairwise_cons.2 ⟨fun e he => ?_, h⟩
      rcases List.mem_cons.1 he with rfl | he
      · exact below
      · exact String.lt_trans below (first e he)
    · next notBelow =>
      split
      · next same =>
        subst same
        exact List.pairwise_cons.2 ⟨first, others⟩
      · next different =>
        refine List.pairwise_cons.2 ⟨fun e he => ?_, ih others⟩
        rcases mem_insertEntry he with rfl | he
        · exact Std.lt_of_le_of_ne (String.not_lt.1 notBelow) (Ne.symm different)
        · exact first e he

def empty : Dict α := ⟨[], .nil⟩

instance : EmptyCollection (Dict α) := ⟨empty⟩
instance : Inhabited (Dict α) := ⟨empty⟩

def find? (d : Dict α) (key : String) : Option α :=
  (d.entries.find? fun e => e.1 == key).map (·.2)

def contains (d : Dict α) (key : String) : Bool := (d.find? key).isSome

def insert (d : Dict α) (key : String) (value : α) : Dict α :=
  ⟨insertEntry key value d.entries, sorted_insertEntry key value d.sorted⟩

def erase (d : Dict α) (key : String) : Dict α :=
  ⟨d.entries.filter fun e => e.1 != key, d.sorted.filter _⟩

/-- Of several values for a key the last one stays. -/
def ofList (entries : List (String × α)) : Dict α :=
  entries.foldl (fun d e => d.insert e.1 e.2) empty

/-- Every value changed with its key in sight, the keys kept. -/
def mapValues (f : String → α → β) (d : Dict α) : Dict β :=
  ⟨d.entries.map fun e => (e.1, f e.1 e.2), List.pairwise_map.2 d.sorted⟩

/-- The entries of `extra` put over those of `d`. -/
def override (d extra : Dict α) : Dict α :=
  extra.entries.foldl (fun d e => d.insert e.1 e.2) d

def keys (d : Dict α) : List String := d.entries.map (·.1)

def size (d : Dict α) : Nat := d.entries.length

def isEmpty (d : Dict α) : Bool := d.entries.isEmpty

theorem ext {d e : Dict α} (h : d.entries = e.entries) : d = e := by
  cases d; cases e; cases h; rfl

instance [DecidableEq α] : DecidableEq (Dict α) := fun d e =>
  decidable_of_iff (d.entries = e.entries) ⟨ext, fun h => h ▸ rfl⟩

@[simp] theorem find?_empty (key : String) : (empty : Dict α).find? key = none := rfl

theorem find?_insertEntry_self (key : String) (value : α) (entries : List (String × α)) :
    (insertEntry key value entries).find? (fun e => e.1 == key) = some (key, value) := by
  induction entries with
  | nil => simp [insertEntry]
  | cons head rest ih =>
    simp only [insertEntry]
    split
    · simp
    · split
      · simp
      · next different => simp [Ne.symm different, ih]

theorem find?_insertEntry_of_ne {key other : String} (h : other ≠ key) (value : α)
    (entries : List (String × α)) :
    (insertEntry key value entries).find? (fun e => e.1 == other)
      = entries.find? (fun e => e.1 == other) := by
  induction entries with
  | nil => simp [insertEntry, Ne.symm h]
  | cons head rest ih =>
    simp only [insertEntry]
    split
    · simp [Ne.symm h]
    · split
      · next same => simp [← same, Ne.symm h]
      · simp [List.find?_cons, ih]

@[simp] theorem find?_insert_self (d : Dict α) (key : String) (value : α) :
    (d.insert key value).find? key = some value := by
  simp [find?, insert, find?_insertEntry_self]

theorem find?_insert_of_ne (d : Dict α) {key other : String} (h : other ≠ key) (value : α) :
    (d.insert key value).find? other = d.find? other := by
  simp [find?, insert, find?_insertEntry_of_ne h]

@[simp] theorem find?_erase_self (d : Dict α) (key : String) : (d.erase key).find? key = none := by
  simp [find?, erase, List.find?_filter]

theorem find?_erase_of_ne (d : Dict α) {key other : String} (h : other ≠ key) :
    (d.erase key).find? other = d.find? other := by
  have same (e : String × α) : ((e.1 != key) && (e.1 == other)) = (e.1 == other) := by
    by_cases he : e.1 = other
    · simp [he, h]
    · simp [he]
  simp only [find?, erase, List.find?_filter, ← Bool.and_eq_true, Bool.decide_eq_true, same]

theorem find?_insert (d : Dict α) (key : String) (value : α) (other : String) :
    (d.insert key value).find? other = if other = key then some value else d.find? other := by
  split
  · next same => rw [same, find?_insert_self]
  · next different => exact find?_insert_of_ne d different value

theorem find?_erase (d : Dict α) (key other : String) :
    (d.erase key).find? other = if other = key then none else d.find? other := by
  split
  · next same => rw [same, find?_erase_self]
  · next different => exact find?_erase_of_ne d different

@[simp] theorem keys_mapValues (f : String → α → β) (d : Dict α) :
    (d.mapValues f).keys = d.keys := by
  simp [keys, mapValues]

theorem find?_mapValues (f : String → α → β) (d : Dict α) (key : String) :
    (d.mapValues f).find? key = (d.find? key).map (f key) := by
  unfold find? mapValues
  simp only [List.find?_map, Function.comp_def]
  cases found : d.entries.find? fun e => e.1 == key with
  | none => rfl
  | some e =>
    have named : e.1 = key := by simpa using List.find?_some found
    simp only [Option.map_some, named]

theorem mem_keys {d : Dict α} {key : String} : key ∈ d.keys ↔ d.contains key = true := by
  unfold keys contains find?
  rw [Option.isSome_map, List.find?_isSome, List.mem_map]
  simp only [beq_iff_eq]

/-- A key has one entry. -/
theorem find?_of_mem {d : Dict α} {e : String × α} (h : e ∈ d.entries) :
    d.find? e.1 = some e.2 := by
  obtain ⟨entries, sorted⟩ := d
  unfold find?
  induction entries with
  | nil => cases h
  | cons head rest ih =>
    have ⟨first, others⟩ := List.pairwise_cons.1 sorted
    rcases List.mem_cons.1 h with rfl | later
    · simp only [List.find?_cons, beq_self_eq_true, Option.map_some]
    · have before : head.1 ≠ e.1 := fun same => String.lt_irrefl e.1 (same ▸ first e later)
      simp only [List.find?_cons, beq_false_of_ne before]
      exact ih others later

/-- A key is not among greater ones. -/
theorem find?_above {key : String} {entries : List (String × α)} (above : ∀ e ∈ entries, key < e.1) :
    entries.find? (fun e => e.1 == key) = none :=
  List.find?_eq_none.2 fun e member same =>
    String.lt_irrefl key (beq_iff_eq.1 same ▸ above e member)

theorem filter_key (d : Dict α) (key : String) :
    d.entries.filter (fun e => e.1 == key) = ((d.find? key).map fun value => (key, value)).toList := by
  obtain ⟨entries, sorted⟩ := d
  unfold find?
  induction entries with
  | nil => rfl
  | cons head rest ih =>
    have ⟨first, others⟩ := List.pairwise_cons.1 sorted
    by_cases same : head.1 = key
    · subst same
      have last : rest.filter (fun e => e.1 == head.1) = [] := by
        refine List.filter_eq_nil_iff.2 fun e later again => ?_
        have above := first e later
        rw [beq_iff_eq.1 again] at above
        exact String.lt_irrefl _ above
      simp only [List.filter_cons, List.find?_cons, beq_self_eq_true, if_true, last]
      rfl
    · have other : (head.1 == key) = false := beq_false_of_ne same
      simp only [List.filter_cons, List.find?_cons, other]
      exact ih others

theorem insertEntry_modify {key : String} (f : α → α) {entries : List (String × α)}
    (sorted : entries.Pairwise fun a b => a.1 < b.1) {e : String × α}
    (found : entries.find? (fun e => e.1 == key) = some e) :
    insertEntry key (f e.2) entries
      = entries.map fun e => (e.1, if e.1 = key then f e.2 else e.2) := by
  induction entries with
  | nil => cases found
  | cons head rest ih =>
    have ⟨first, others⟩ := List.pairwise_cons.1 sorted
    by_cases same : head.1 = key
    · subst same
      have here : head = e := by simpa using found
      subst here
      have after : rest.map (fun e => (e.1, if e.1 = head.1 then f e.2 else e.2)) = rest := by
        refine (List.map_congr_left fun e member => ?_).trans (List.map_id rest)
        have above := first e member
        rw [if_neg fun same => String.lt_irrefl _ (same ▸ above)]
        rfl
      simp only [insertEntry, List.map_cons, if_true, after]
      rw [if_neg (String.lt_irrefl _)]
    · have later : rest.find? (fun e => e.1 == key) = some e := by
        rwa [List.find?_cons_of_neg (by simpa using same)] at found
      have above := first e (List.mem_of_find?_eq_some later)
      have key_eq : e.1 = key := by simpa using List.find?_some later
      rw [key_eq] at above
      have notBelow : ¬key < head.1 := fun below => String.lt_irrefl _ (String.lt_trans above below)
      simp only [insertEntry, List.map_cons, if_neg notBelow, if_neg same, if_neg (Ne.symm same),
        ih others later]

/-- Putting a new value in the place of an old one changes it where it stands. -/
theorem insert_modify {d : Dict α} {key : String} {value : α} (found : d.find? key = some value)
    (f : α → α) : d.insert key (f value) = d.mapValues fun k v => if k = key then f v else v := by
  obtain ⟨e, listed, rfl⟩ := Option.map_eq_some_iff.mp found
  exact ext (insertEntry_modify f d.sorted listed)

theorem mapValues_absent {d : Dict α} {key : String} (absent : d.find? key = none) (f : α → α) :
    (d.mapValues fun k v => if k = key then f v else v) = d := by
  refine ext ((List.map_congr_left fun e member => ?_).trans (List.map_id d.entries))
  have other : e.1 ≠ key := by
    have none := List.find?_eq_none.mp (Option.map_eq_none_iff.mp absent) e member
    simpa using none
  exact congrArg (e.1, ·) (if_neg other)

/-- Putting a value where it already is changes nothing. -/
theorem insert_same {d : Dict α} {key : String} {value : α} (found : d.find? key = some value) :
    d.insert key value = d := by
  have kept : d.insert key value = d.mapValues fun _ v => v := by
    simpa using insert_modify found id
  exact kept.trans (ext (List.map_id d.entries))

theorem mapValues_mapValues {γ : Type} (d : Dict α) (f : String → α → β) (g : String → β → γ) :
    (d.mapValues f).mapValues g = d.mapValues fun k v => g k (f k v) :=
  ext (List.map_map ..)

theorem contains_insert (d : Dict α) (key : String) (value : α) (other : String) :
    (d.insert key value).contains other = (other == key || d.contains other) := by
  by_cases same : other = key
  · subst same
    simp [contains]
  · simp [contains, find?_insert_of_ne d same, same]

theorem mem_override {d extra : Dict α} {e : String × α} (h : e ∈ (d.override extra).entries) :
    e ∈ d.entries ∨ e ∈ extra.entries := by
  unfold override at h
  generalize extra.entries = entries at h ⊢
  induction entries generalizing d with
  | nil => exact .inl h
  | cons f rest ih =>
    rcases ih h with early | late
    · rcases mem_insertEntry early with rfl | old
      · exact .inr List.mem_cons_self
      · exact .inl old
    · exact .inr (List.mem_cons_of_mem f late)

theorem find?_override (d extra : Dict α) (key : String) :
    (d.override extra).find? key = (extra.find? key).or (d.find? key) := by
  obtain ⟨entries, sorted⟩ := extra
  unfold override
  simp only [find?.eq_def ⟨entries, sorted⟩]
  induction entries generalizing d with
  | nil => rfl
  | cons e rest ih =>
    have ⟨first, others⟩ := List.pairwise_cons.1 sorted
    rw [List.foldl_cons, ih _ others, find?_insert, List.find?_cons]
    by_cases same : key = e.1
    · subst same
      simp [find?_above first]
    · simp [same, beq_false_of_ne (Ne.symm same)]

/-- What was put over a dictionary once changes nothing the second time. -/
theorem override_override (d extra : Dict α) :
    (d.override extra).override extra = d.override extra := by
  have there : ∀ e ∈ extra.entries, (d.override extra).find? e.1 = some e.2 := by
    intro e member
    rw [find?_override, find?_of_mem member, Option.some_or]
  generalize d.override extra = d at there ⊢
  unfold override
  generalize extra.entries = entries at there ⊢
  induction entries with
  | nil => rfl
  | cons e rest ih =>
    obtain ⟨first, others⟩ := List.forall_mem_cons.1 there
    rw [List.foldl_cons, insert_same first]
    exact ih others

theorem contains_override {d : Dict α} {key : String} (there : d.contains key = true)
    (extra : Dict α) : (d.override extra).contains key = true := by
  unfold override
  induction extra.entries generalizing d with
  | nil => exact there
  | cons e rest ih =>
    have still : (d.insert e.1 e.2).contains key = true := by
      rw [contains_insert, there, Bool.or_true]
    exact ih still

end Dict
end Storyline
