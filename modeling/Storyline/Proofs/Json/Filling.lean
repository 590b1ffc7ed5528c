import Storyline.Proofs.Json.Nesting

/-!
What a record that was read says of its text. One field fills a record in one of three ways; what
all of these keep is kept by all fields together. The parts of a record, of a tagged alternative
and of a record in list form stay within the levels seen of them.
-/

namespace Storyline.Json

namespace Record

variable {σ : Type} {members : List (Member σ)} {strange : Strange} {p : Pass} {n : Nat}
  {P : σ → Prop}

/-- What one field makes of a record: a member takes it, or no member does and it is passed over or
kept. -/
inductive Fills (members : List (Member σ)) (p : Pass) (so : Filled σ) (field : Quoted × Raw) :
    Strange → Filled σ → Prop
  | known {strange : Strange} (m : Member σ) (record : σ) : m ∈ members →
      lift field.1.decode = .ok m.name → m.name ∉ so.seen →
      m.read p field.2 so.record = .ok record →
      Fills members p so field strange { so with record := record, seen := m.name :: so.seen }
  | ignored (key : String) : lift field.1.decode = .ok key → (∀ m ∈ members, m.name ≠ key) →
      Fills members p so field .ignored so
  | kept (key : String) : lift field.1.decode = .ok key → (∀ m ∈ members, m.name ≠ key) →
      Reader.settle p field.2 = .ok () →
      Fills members p so field .kept { so with kept := so.kept ++ [field] }

theorem fill_cases {so so' : Filled σ} {field : Quoted × Raw}
    (h : fill members strange p so field = .ok so') : Fills members p so field strange so' := by
  obtain ⟨key, decoded, h⟩ := bind_ok h
  cases found : members.find? (fun m => m.name == key) with
  | some m =>
    have named : m.name = key := by simpa using List.find?_some found
    subst named
    simp only [found] at h
    by_cases seen : so.seen.contains m.name = true
    · rw [if_pos seen] at h
      cases h
    · rw [if_neg seen] at h
      obtain ⟨record, read, h⟩ := bind_ok h
      cases h
      exact .known m record (List.mem_of_find?_eq_some found) decoded (by simpa using seen) read
  | none =>
    have unknown : ∀ m ∈ members, m.name ≠ key := by
      intro m member same
      exact List.find?_eq_none.mp found m member (by simpa using same)
    simp only [found] at h
    cases strange with
    | ignored =>
      obtain ⟨_, _, h⟩ := bind_ok h
      cases h
      exact .ignored key decoded unknown
    | kept =>
      obtain ⟨_, settled, h⟩ := bind_ok h
      cases h
      exact .kept key decoded unknown settled

theorem fillAll_keeps {I : Filled σ → Prop} {raws : List (Quoted × Raw)}
    (step : ∀ so field so', field ∈ raws → I so → Fills members p so field strange so' → I so')
    {so so' : Filled σ} (start : I so) (h : fillAll members strange p so raws = .ok so') : I so' := by
  induction raws generalizing so with
  | nil =>
    cases h
    exact start
  | cons field raws ih =>
    obtain ⟨next, first, h⟩ := bind_ok h
    refine ih (fun so field so' member => step so field so' (List.mem_cons_of_mem _ member)) ?_ h
    exact step so field next List.mem_cons_self start (fill_cases first)

/-- A field that has been read was taken by a member, or else no member knows it; where such fields
are kept, it was kept. -/
theorem fillAll_reads {raws : List (Quoted × Raw)} {so so' : Filled σ}
    (h : fillAll members strange p so raws = .ok so') : ∀ f ∈ raws,
      (∃ m ∈ members, lift f.1.decode = .ok m.name ∧ m.name ∈ so'.seen) ∨
      (∃ key, lift f.1.decode = .ok key ∧ (∀ m ∈ members, m.name ≠ key) ∧
        (strange = .kept → f ∈ so'.kept)) := by
  induction raws generalizing so with
  | nil => exact fun _ absent => (List.not_mem_nil absent).elim
  | cons field raws ih =>
    obtain ⟨next, first, h⟩ := bind_ok h
    refine List.forall_mem_cons.mpr ⟨?_, ih h⟩
    -- what the later fields add never takes away what the first one left
    have stays : (∀ n ∈ next.seen, n ∈ so'.seen) ∧ ∀ f ∈ next.kept, f ∈ so'.kept := by
      refine fillAll_keeps (I := fun so => (∀ n ∈ next.seen, n ∈ so.seen) ∧ ∀ f ∈ next.kept, f ∈ so.kept)
        ?_ ⟨fun _ member => member, fun _ member => member⟩ h
      intro so _ so' _ holds filled
      cases filled with
      | known => exact ⟨fun n member => List.mem_cons_of_mem _ (holds.1 n member), holds.2⟩
      | ignored => exact holds
      | kept => exact ⟨holds.1, fun f member => List.mem_append_left _ (holds.2 f member)⟩
    cases fill_cases first with
    | known m _ known key _ _ => exact .inl ⟨m, known, key, stays.1 _ List.mem_cons_self⟩
    | ignored key decoded unknown => exact .inr ⟨key, decoded, unknown, fun same => nomatch same⟩
    | kept key decoded unknown _ =>
      exact .inr ⟨key, decoded, unknown, fun _ => stays.2 _ (List.mem_append_right _ List.mem_cons_self)⟩

theorem record_fillAll (keeps : ∀ m ∈ members, m.Keeps n P) {raws : List (Quoted × Raw)}
    (bound : ∀ f ∈ raws, p.Bounds n f.2) {so so' : Filled σ} (start : P so.record)
    (h : fillAll members strange p so raws = .ok so') : P so'.record := by
  refine fillAll_keeps (I := fun so => P so.record) ?_ start h
  intro so field so' member holds filled
  cases filled with
  | known m record known _ _ read =>
    exact keeps m known p field.2 so.record record (bound field member) holds read
  | ignored key _ _ => exact holds
  | kept key _ _ _ => exact holds

/-- A field that was kept comes from the text, is not known by any member, and is without fault. -/
theorem kept_fillAll {raws : List (Quoted × Raw)} {so so' : Filled σ} (start : so.kept = [])
    (h : fillAll members .kept p so raws = .ok so') : ∀ f ∈ so'.kept, f ∈ raws ∧
      Reader.settle p f.2 = .ok () ∧
      ∃ key, lift f.1.decode = .ok key ∧ ∀ m ∈ members, m.name ≠ key := by
  refine fillAll_keeps (I := fun so => ∀ f ∈ so.kept, f ∈ raws ∧ Reader.settle p f.2 = .ok () ∧
    ∃ key, lift f.1.decode = .ok key ∧ ∀ m ∈ members, m.name ≠ key) ?_ ?_ h
  · intro so field so' member holds filled
    cases filled with
    | known m record _ _ _ _ => exact holds
    | kept key decoded unknown settled =>
      intro f inside
      rcases List.mem_append.mp inside with old | new
      · exact holds f old
      · rw [List.mem_singleton.mp new]
        exact ⟨member, settled, key, decoded, unknown⟩
  · rw [start]
    exact fun _ absent => (List.not_mem_nil absent).elim

theorem fillInOrder_keeps {title : String} {total : Nat} {ending : Ending}
    (keeps : ∀ m ∈ members, m.Keeps n P) {i : Nat} {raws left : List Raw}
    (bound : ∀ r ∈ raws, p.Bounds n r) {record record' : σ} (start : P record)
    (h : fillInOrder title total p ending members i raws record = .ok (record', left)) :
    P record' := by
  induction members generalizing i raws record with
  | nil =>
    cases h
    exact start
  | cons m members ih =>
    have others := fun x member => keeps x (List.mem_cons_of_mem m member)
    cases raws with
    | nil =>
      obtain ⟨_, _, h⟩ := bind_ok h
      by_cases needed : m.required = true
      · rw [if_pos needed] at h
        cases h
      · rw [if_neg needed] at h
        exact ih others bound start h
    | cons r raws =>
      obtain ⟨next, read, h⟩ := bind_ok h
      refine ih others (fun x member => bound x (List.mem_cons_of_mem r member)) ?_ h
      exact keeps m List.mem_cons_self p r record next (bound r List.mem_cons_self) start read

theorem ensures_read (title : String) {blank : σ} (start : P blank)
    (keeps : ∀ m ∈ members, m.Keeps n P) : (read title members blank).Ensures (n + 1) P := by
  intro p r a bound h
  unfold read at h
  split at h
  · obtain ⟨q, entered, h⟩ := bind_ok h
    obtain ⟨so, filled, h⟩ := bind_ok h
    obtain ⟨_, _, h⟩ := bind_ok h
    obtain ⟨_, _, h⟩ := bind_ok h
    cases h
    obtain ⟨m, same, inner⟩ := bound.fields entered
    cases same
    exact record_fillAll keeps inner start filled
  · obtain ⟨q, entered, h⟩ := bind_ok h
    obtain ⟨⟨record, left⟩, filled, h⟩ := bind_ok h
    obtain ⟨_, _, h⟩ := bind_ok h
    cases h
    obtain ⟨m, same, inner⟩ := bound.items entered
    cases same
    exact fillInOrder_keeps keeps inner start filled
  · obtain ⟨_, _, h⟩ := bind_ok h
    cases h

theorem ensures_readOpen (title : String) {blank : σ} (start : P blank)
    (keeps : ∀ m ∈ members, m.Keeps n P) : (readOpen title members blank).Ensures (n + 1) fun x =>
      P x.1 ∧ ∀ f ∈ x.2, f.2.Within n ∧
        ∃ key, lift f.1.decode = .ok key ∧ ∀ m ∈ members, m.name ≠ key := by
  intro p r a bound h
  unfold readOpen at h
  split at h
  · obtain ⟨q, entered, h⟩ := bind_ok h
    obtain ⟨so, filled, h⟩ := bind_ok h
    obtain ⟨_, _, h⟩ := bind_ok h
    obtain ⟨_, _, h⟩ := bind_ok h
    cases h
    obtain ⟨m, same, inner⟩ := bound.fields entered
    cases same
    refine ⟨record_fillAll keeps inner start filled, ?_⟩
    intro f member
    obtain ⟨inside, settled, named⟩ := kept_fillAll rfl filled f member
    exact ⟨settle_within (inner f inside) settled, named⟩
  · obtain ⟨_, _, h⟩ := bind_ok h
    cases h

end Record

namespace Tagged

theorem kept_split {tag : String} {names : List String} {p : Pass} {raws : List (Quoted × Raw)} :
    ∀ {so so' : Option Nat} {kept kept' : List (Quoted × Raw)},
      split tag names p so kept raws = .ok (so', kept') →
      ∀ f ∈ kept', f ∈ kept ∨ (f ∈ raws ∧ Reader.settle p f.2 = .ok ()) := by
  induction raws with
  | nil =>
    intro so so' kept kept' h
    cases h
    exact fun f member => .inl member
  | cons field raws ih =>
    obtain ⟨key, r⟩ := field
    intro so so' kept kept' h f member
    obtain ⟨name, _, h⟩ := bind_ok h
    by_cases tagged : name = tag
    · rw [if_pos tagged] at h
      cases so with
      | some i => cases h
      | none =>
        obtain ⟨i, _, h⟩ := bind_ok h
        rcases ih h f member with old | ⟨inside, settled⟩
        · exact .inl old
        · exact .inr ⟨List.mem_cons_of_mem _ inside, settled⟩
    · rw [if_neg tagged] at h
      obtain ⟨_, first, h⟩ := bind_ok h
      rcases ih h f member with old | ⟨inside, settled⟩
      · rcases List.mem_append.mp old with old | new
        · exact .inl old
        · cases List.mem_singleton.mp new
          exact .inr ⟨List.mem_cons_self, first⟩
      · exact .inr ⟨List.mem_cons_of_mem _ inside, settled⟩

theorem ensures_read {α : Type} {P : α → Prop} {n : Nat} (title tag : String) (names : List String)
    {readers : Nat → Reader α} (each : ∀ i, (readers i).Ensures (n + 1) P) :
    (read title tag names readers).Ensures (n + 1) P := by
  intro p r a bound h
  unfold read at h
  split at h
  · obtain ⟨q, entered, h⟩ := bind_ok h
    obtain ⟨⟨so, kept⟩, divided, h⟩ := bind_ok h
    obtain ⟨_, _, h⟩ := bind_ok h
    obtain ⟨i, _, h⟩ := bind_ok h
    obtain ⟨m, same, inner⟩ := bound.fields entered
    cases same
    refine each i .again _ a (.object .closed ?_) h
    intro f member
    obtain ⟨inside, settled⟩ := (kept_split divided f member).resolve_left List.not_mem_nil
    exact settle_within (inner f inside) settled
  · obtain ⟨_, _, h⟩ := bind_ok h
    obtain ⟨_, _, h⟩ := bind_ok h
    cases h
  · obtain ⟨q, entered, h⟩ := bind_ok h
    obtain ⟨i, _, h⟩ := bind_ok h
    obtain ⟨found, items, h⟩ := bind_ok h
    obtain ⟨_, _, h⟩ := bind_ok h
    obtain ⟨m, same, inner⟩ := bound.items entered
    cases same
    refine each i .again _ a (.array .closed ?_) h
    exact raws_within (fun r member => inner r (List.mem_cons_of_mem _ member)) items
  · obtain ⟨_, _, h⟩ := bind_ok h
    cases h

end Tagged
end Storyline.Json
