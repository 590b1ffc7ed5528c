import Storyline.Proofs.Json.Records
import Storyline.Schema.Story

/-!
Records of which parts may be left out when they are written. The fields of a record are written in
the order of its members, so a record is followed member by member: a field is there for a member, or
the record already has what the member would say.
-/

namespace Storyline.Json

variable {α σ : Type} {n : Nat}

/-- A reader gets `a` back where `j` was written and so many levels are allowed, and `j` needs no more
of them on any pass. -/
structure Reader.Restores (reader : Reader α) (n : Nat) (j : Json) (a : α) : Prop where
  recovers : reader.Recovers n j a
  within : j.Within n
  faithful : j.Faithful

theorem number_ne_null (x : Number) : Json.number x ≠ .null := fun same => Json.noConfusion same

theorem string_ne_null (s : String) : Json.string s ≠ .null := fun same => Json.noConfusion same

theorem array_ne_null (items : List Json) : Json.array items ≠ .null :=
  fun same => Json.noConfusion same

theorem object_ne_null (fields : List (String × Json)) : Json.object fields ≠ .null :=
  fun same => Json.noConfusion same

section

variable {reader : Reader α} {j : Json} {a : α}

theorem restores_text (n : Nat) (s : String) : Reader.text.Restores n (.string s) s :=
  ⟨recovers_text n s, .string s, .string s⟩

theorem restores_uint32 (n : Nat) (x : UInt32) : Reader.uint32.Restores n (.ofUInt32 x) x :=
  ⟨recovers_uint32 n x, .number _, .whole _⟩

theorem restores_int32 (n : Nat) (x : Int32) : Reader.int32.Restores n (.ofInt32 x) x :=
  ⟨recovers_int32 n x, .number _, .whole _⟩

theorem restores_value {v : Value} (within : v.json.Within n) (faithful : v.json.Faithful) :
    Reader.Restores Reader.value n v.json v :=
  ⟨recovers_value within faithful, within, faithful⟩

theorem Reader.Restores.some (h : reader.Restores n j a) (given : j ≠ .null) :
    (Reader.option reader).Restores n j (some a) :=
  ⟨h.recovers.some given, h.within, h.faithful⟩

theorem restores_orNull {write : α → Json} {o : Option α}
    (h : ∀ a, o = some a → reader.Restores n (write a) a) (written : ∀ a, write a ≠ .null) :
    (Reader.option reader).Restores n ((o.map write).getD .null) o := by
  cases o with
  | some a => exact (h a rfl).some (written a)
  | none =>
    refine ⟨?_, .null, .null⟩
    intro p r _ shown
    cases shown
    rfl

theorem restores_list {write : α → Json} {l : List α}
    (h : ∀ a ∈ l, reader.Restores n (write a) a) :
    (Reader.list reader).Restores (n + 1) (.array (l.map write)) l where
  recovers := recovers_list fun a member => (h a member).recovers
  within := .array (List.forall_mem_map.mpr fun a member => (h a member).within)
  faithful := .array (List.forall_mem_map.mpr fun a member => (h a member).faithful)

theorem restores_texts (n : Nat) (l : List String) : texts.Restores (n + 1) (.ofTexts l) l :=
  restores_list fun s _ => restores_text n s

theorem restores_dict {write : α → Json} {d : Dict α}
    (h : ∀ e ∈ d.entries, reader.Restores n (write e.2) e.2) :
    (Reader.dict reader).Restores (n + 1) (.ofDict write d) d where
  recovers := recovers_dict fun e member => (h e member).recovers
  within := .object (List.forall_mem_map.mpr fun e member => (h e member).within)
  faithful := .object (List.forall_mem_map.mpr fun e member => (h e member).faithful)

end

namespace Record

/-- The fields that were written for some members in their order, and what they make of a record. A
member that is not required may have been left out. -/
inductive Writes (n : Nat) : List (Member σ) → σ → List (String × Json) → σ → Prop
  | nil (s : σ) : Writes n [] s [] s
  | left {m : Member σ} {members : List (Member σ)} {s a : σ} {fields : List (String × Json)} :
      m.required = false → Writes n members s fields a → Writes n (m :: members) s fields a
  | part {members : List (Member σ)} {s a : σ} {fields : List (String × Json)} (part : Piece σ) :
      part.Sets n → part.json.Within n → part.json.Faithful →
      Writes n members (part.put s) fields a →
      Writes n (part.member :: members) s (part.field :: fields) a

variable {members : List (Member σ)} {s a : σ} {fields : List (String × Json)}

namespace Writes

variable {β : Type} {reader : Reader β} {put : σ → β → σ} {name : String}

theorem mandatory {j : Json} {b : β} (h : reader.Restores n j b)
    (rest : Writes n members (put s b) fields a) :
    Writes n (.mandatory name reader put :: members) s ((name, j) :: fields) a :=
  .part ⟨.mandatory name reader put, j, fun s => put s b⟩ (Piece.sets_mandatory h.recovers _ _)
    h.within h.faithful rest

theorem optional {j : Json} {b : β} (h : reader.Restores n j b)
    (rest : Writes n members (put s b) fields a) :
    Writes n (.optional name reader put :: members) s ((name, j) :: fields) a :=
  .part ⟨.optional name reader put, j, fun s => put s b⟩ (Piece.sets_optional h.recovers _ _)
    h.within h.faithful rest

theorem given {put : σ → Option β → σ} {write : β → Json} (o : Option β)
    (h : ∀ b, o = some b → reader.Restores n (write b) b) (written : ∀ b, write b ≠ .null)
    (absent : put s none = s) (rest : Writes n members (put s o) fields a) :
    Writes n (.optional name (.option reader) put :: members) s (given name write o ++ fields) a := by
  cases o with
  | some b => exact .optional ((h b rfl).some (written b)) rest
  | none => exact .left rfl (absent ▸ rest)

theorem givenDict {put : σ → Dict β → σ} {write : β → Json} (d : Dict β)
    (h : ∀ e ∈ d.entries, reader.Restores n (write e.2) e.2) (absent : put s .empty = s)
    (rest : Writes (n + 1) members (put s d) fields a) :
    Writes (n + 1) (.optional name (.dict reader) put :: members) s
      (givenDict name write d ++ fields) a := by
  unfold Storyline.givenDict
  by_cases empty : d.isEmpty = true
  · have nothing : d = .empty := Dict.ext (List.isEmpty_iff.mp empty)
    rw [if_pos empty]
    subst nothing
    exact .left rfl (absent ▸ rest)
  · rw [if_neg empty]
    exact .optional (restores_dict h) rest

theorem givenList {put : σ → List β → σ} {write : β → Json} (l : List β)
    (h : ∀ b ∈ l, reader.Restores n (write b) b) (absent : put s [] = s)
    (rest : Writes (n + 1) members (put s l) fields a) :
    Writes (n + 1) (.optional name (.list reader) put :: members) s
      (givenList name write l ++ fields) a := by
  unfold Storyline.givenList
  cases l with
  | nil => exact .left rfl (absent ▸ rest)
  | cons b l => exact .optional (restores_list h) rest

/-- What was written is a list of parts, each of a member, that are put in one after the other. -/
theorem parts (h : Writes n members s fields a) : ∃ parts : List (Piece σ),
    fields = parts.map Piece.field ∧ (∀ part ∈ parts, part.Sets n) ∧
    (parts.map Piece.member).Sublist members ∧
    (∀ m ∈ members, m.required = true → m ∈ parts.map Piece.member) ∧
    parts.foldl (fun s part => part.put s) s = a := by
  induction h with
  | nil s => exact ⟨[], rfl, List.forall_mem_nil _, .slnil, List.forall_mem_nil _, rfl⟩
  | left spare _ ih =>
    obtain ⟨parts, same, sets, sub, required, made⟩ := ih
    refine ⟨parts, same, sets, sub.cons _, ?_, made⟩
    refine List.forall_mem_cons.mpr ⟨fun needed => ?_, required⟩
    rw [spare] at needed
    cases needed
  | part part setting _ _ _ ih =>
    obtain ⟨parts, rfl, sets, sub, required, made⟩ := ih
    exact ⟨part :: parts, rfl, List.forall_mem_cons.mpr ⟨setting, sets⟩,
      sub.cons_cons part.member, List.forall_mem_cons.mpr
        ⟨fun _ => List.mem_cons_self, fun m member needed =>
          List.mem_cons_of_mem part.member (required m member needed)⟩, made⟩

theorem names (h : Writes n members s fields a) : ∀ f ∈ fields, f.1 ∈ members.map Member.name := by
  induction h with
  | nil s => exact List.forall_mem_nil _
  | left _ _ ih => exact fun f member => List.mem_cons_of_mem _ (ih f member)
  | part part _ _ _ _ ih =>
    exact List.forall_mem_cons.mpr
      ⟨List.mem_cons_self, fun f member => List.mem_cons_of_mem _ (ih f member)⟩

theorem each (h : Writes n members s fields a) : ∀ f ∈ fields, f.2.Within n ∧ f.2.Faithful := by
  induction h with
  | nil s => exact List.forall_mem_nil _
  | left _ _ ih => exact ih
  | part part _ within faithful _ ih => exact List.forall_mem_cons.mpr ⟨⟨within, faithful⟩, ih⟩

end Writes

theorem find?_name (distinct : (members.map Member.name).Nodup) {m : Member σ}
    (member : m ∈ members) : members.find? (fun f => f.name == m.name) = some m := by
  induction members with
  | nil => exact (List.not_mem_nil member).elim
  | cons f members ih =>
    obtain ⟨new, distinct⟩ := List.nodup_cons.mp distinct
    rcases List.mem_cons.mp member with rfl | later
    · exact List.find?_cons_of_pos (by rw [beq_iff_eq])
    · have other : f.name ≠ m.name := fun same => new (same ▸ List.mem_map_of_mem later)
      rw [List.find?_cons_of_neg (by rwa [beq_iff_eq])]
      exact ih distinct later

theorem restores_read (title : String) {blank : σ} (distinct : (members.map Member.name).Nodup)
    (h : Writes n members blank fields a) :
    (read title members blank).Restores (n + 1) (.object fields) a := by
  refine ⟨?_, .object fun f member => (h.each f member).1,
    .object fun f member => (h.each f member).2⟩
  obtain ⟨parts, rfl, sets, sub, required, made⟩ := h.parts
  have names : (parts.map Piece.member).map Member.name = parts.map fun part => part.member.name :=
    List.map_map ..
  refine recovers_read title ?_ sets ?_ ?_ made
  · exact fun part member => find?_name distinct (sub.subset (List.mem_map_of_mem member))
  · exact names ▸ distinct.sublist (sub.map Member.name)
  · exact fun m member needed => names ▸ List.mem_map_of_mem (required m member needed)

/-- A record that keeps other fields is read back from those of its members, and the others are kept
as they were scanned. -/
theorem readOpen_shown (title : String) {blank : σ} (distinct : (members.map Member.name).Nodup)
    (h : Writes n members blank fields a) {others : List (String × Json)}
    (within : ∀ f ∈ others, f.2.Within n) (faithful : ∀ f ∈ others, f.2.Faithful)
    (unknown : ∀ f ∈ others, ∀ m ∈ members, m.name ≠ f.1) {p : Pass} (allowed : p.Allows (n + 1))
    {r : Raw} (shown : Shows (.object (fields ++ others)) r) :
    ∃ kept, Shows (.object others) (.object kept .closed) ∧
      readOpen title members blank p r = .ok (a, kept) := by
  obtain ⟨parts, rfl, sets, sub, required, rfl⟩ := h.parts
  obtain ⟨q, entered, inner⟩ := allowed.enter
  have names : (parts.map Piece.member).map Member.name = parts.map fun part => part.member.name :=
    List.map_map ..
  cases shown with
  | object raws =>
    obtain ⟨common, kept, first, rest, rfl⟩ := shown_append raws
    have filled := fillAll_parts .kept inner
      (fun part member => find?_name distinct (sub.subset (List.mem_map_of_mem member)))
      sets (names ▸ distinct.sublist (sub.map Member.name)) ⟨blank, [], []⟩
      (fun _ _ => List.not_mem_nil) first
    have absent : ∀ f ∈ others, members.find? (fun m => m.name == f.1) = none := by
      intro f member
      rw [List.find?_eq_none]
      intro m inside same
      exact unknown f member m inside (beq_iff_eq.mp same)
    have stay := fillAll_strangers inner absent within faithful
      { record := parts.foldl (fun s part => part.put s) blank
        seen := (parts.map fun part => part.member.name).reverse ++ []
        kept := [] } rest
    have all : complete members
        { record := parts.foldl (fun s part => part.put s) blank
          seen := (parts.map fun part => part.member.name).reverse ++ []
          kept := [] ++ kept } = .ok () := by
      refine complete_of_seen fun m member needed => ?_
      have written : m.name ∈ parts.map fun part => part.member.name :=
        names ▸ List.mem_map_of_mem (required m member needed)
      exact List.mem_append_left _ (List.mem_reverse.mpr written)
    refine ⟨kept, .object rest, ?_⟩
    simp only [readOpen, entered, bind, Except.bind, fillAll_append, filled, stay, lift_check_closed,
      all]
    rfl

/-- What is made of a record and of the other fields beside it is read back if both are. -/
theorem restores_open {β γ : Type} {inner : Reader β} {b : β} {others : List (String × Json)}
    (title : String) {blank : σ} (make : σ → β → γ) (distinct : (members.map Member.name).Nodup)
    (h : Writes n members blank fields a) (rest : inner.Restores (n + 1) (.object others) b)
    (unknown : ∀ f ∈ others, ∀ m ∈ members, m.name ≠ f.1) :
    Reader.Restores (fun p r => do
        let (s, kept) ← readOpen title members blank p r
        let b ← inner .again (.object kept .closed)
        return make s b)
      (n + 1) (.object (fields ++ others)) (make a b) := by
  have within : ∀ f ∈ others, f.2.Within n := rest.within.field
  have faithful : ∀ f ∈ others, f.2.Faithful := rest.faithful.field
  refine ⟨?_, .object (List.forall_mem_append.mpr ⟨fun f member => (h.each f member).1, within⟩),
    .object (List.forall_mem_append.mpr ⟨fun f member => (h.each f member).2, faithful⟩)⟩
  intro p r allowed shown
  obtain ⟨kept, stay, opened⟩ := readOpen_shown title distinct h within faithful unknown allowed shown
  have back := rest.recovers .again _ trivial stay
  simp only [opened, back, bind, Except.bind]
  rfl

end Record

namespace Tagged

variable {tag : String} {names : List String} {p : Pass}

theorem split_shown (allowed : p.Allows n) {fields : List (String × Json)}
    (untagged : ∀ f ∈ fields, f.1 ≠ tag) (within : ∀ f ∈ fields, f.2.Within n)
    (faithful : ∀ f ∈ fields, f.2.Faithful) (so : Option Nat) (kept : List (Quoted × Raw))
    {raws : List (Quoted × Raw)} (shown : List.Forall₂ ShowsField fields raws) :
    split tag names p so kept raws = .ok (so, kept ++ raws) := by
  induction fields generalizing kept raws with
  | nil =>
    cases shown
    rw [List.append_nil]
    rfl
  | cons f fields ih =>
    cases shown with
    | cons first others =>
      cases first with
      | @mk name item q r holds value =>
        obtain ⟨own, untagged⟩ := List.forall_mem_cons.mp untagged
        obtain ⟨bounded, within⟩ := List.forall_mem_cons.mp within
        obtain ⟨sound, faithful⟩ := List.forall_mem_cons.mp faithful
        have key : lift (Quoted.decode q) = .ok name := congrArg lift holds
        have other : ¬name = tag := own
        have settled := settle_shown bounded sound allowed value
        have rest := ih untagged within faithful (kept ++ [(q, r)]) others
        simp only [split, key, if_neg other, settled, bind, Except.bind, rest, List.append_assoc,
          List.cons_append, List.nil_append]

/-- An alternative is read back from its tag, written first, and its own fields. -/
theorem restores_read {readers : Nat → Reader α} {i : Nat} {name : String}
    {fields : List (String × Json)} {a : α} (title : String)
    (named : names.findIdx? (· == name) = some i) (untagged : ∀ f ∈ fields, f.1 ≠ tag)
    (h : (readers i).Restores (n + 1) (.object fields) a) :
    (read title tag names readers).Restores (n + 1) (.object ((tag, .string name) :: fields)) a := by
  have within : ∀ f ∈ fields, f.2.Within n := h.within.field
  have faithful : ∀ f ∈ fields, f.2.Faithful := h.faithful.field
  refine ⟨?_, .object (List.forall_mem_cons.mpr ⟨.string name, within⟩),
    .object (List.forall_mem_cons.mpr ⟨.string name, faithful⟩)⟩
  intro p r allowed shown
  obtain ⟨q, entered, inner⟩ := allowed.enter
  cases shown with
  | object raws =>
    cases raws with
    | cons first others =>
      cases first with
      | mk key value =>
        cases value with
        | string holds =>
          have tagged : lift (Quoted.decode _) = .ok tag := congrArg lift key
          have told : lift (Quoted.decode _) = .ok name := congrArg lift holds
          have indexed : split tag names q (some i) [] _ = .ok (some i, _) :=
            split_shown inner untagged within faithful (some i) [] others
          have back := h.recovers .again _ trivial (.object others)
          simp only [read, entered, split, tagged, index, told, named, Option.isSome_none,
            Bool.false_eq_true, if_true, if_false, bind, Except.bind, indexed, found, List.nil_append,
            Record.lift_check_closed, back]

theorem restores_record {readers : Nat → Reader α} {i : Nat} {name inner : String}
    {members : List (Member α)} {blank a : α} {fields : List (String × Json)} (title : String)
    (reads : readers i = Record.read inner members blank)
    (named : names.findIdx? (· == name) = some i) (distinct : (members.map Member.name).Nodup)
    (other : tag ∉ members.map Member.name) (h : Record.Writes n members blank fields a) :
    (read title tag names readers).Restores (n + 1) (.object ((tag, .string name) :: fields)) a := by
  refine restores_read title named ?_ (reads ▸ Record.restores_read inner distinct h)
  intro f member same
  exact other (same ▸ h.names f member)

end Tagged
end Storyline.Json
