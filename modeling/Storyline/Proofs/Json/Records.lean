import Storyline.Proofs.Json.Recovery

/-!
Records from their written fields. A part of a record is a field together with what its member makes
of it; the parts that were written are put in one by one, and fields that no member knows are kept
as they were scanned.
-/

namespace Storyline.Json

/-- A field of a record as it was written, and what it changes in the record. -/
structure Piece (σ : Type) where
  member : Member σ
  json : Json
  put : σ → σ

namespace Piece

variable {σ α : Type}

def field (part : Piece σ) : String × Json := (part.member.name, part.json)

def Sets (part : Piece σ) (levels : Nat) : Prop :=
  ∀ (p : Pass) (r : Raw) (s : σ), p.Allows levels → Shows part.json r →
    part.member.read p r s = .ok (part.put s)

theorem sets_mandatory {reader : Reader α} {n : Nat} {j : Json} {a : α}
    (h : reader.Recovers n j a) (name : String) (put : σ → α → σ) :
    Sets ⟨.mandatory name reader put, j, fun s => put s a⟩ n := by
  intro p r s allowed shown
  simp only [Member.mandatory, h p r allowed shown]
  rfl

theorem sets_optional {reader : Reader α} {n : Nat} {j : Json} {a : α}
    (h : reader.Recovers n j a) (name : String) (put : σ → α → σ) :
    Sets ⟨.optional name reader put, j, fun s => put s a⟩ n := by
  intro p r s allowed shown
  simp only [Member.optional, h p r allowed shown]
  rfl

end Piece

namespace Record

variable {σ : Type} {members : List (Member σ)} {n : Nat} {p : Pass}

theorem shown_append {left right : List (String × Json)} {raws : List (Quoted × Raw)}
    (h : List.Forall₂ ShowsField (left ++ right) raws) :
    ∃ a b, List.Forall₂ ShowsField left a ∧ List.Forall₂ ShowsField right b ∧ raws = a ++ b :=
  ⟨raws.take left.length, raws.drop left.length,
    (List.forall₂_take_append raws left right h.flip).flip,
    (List.forall₂_drop_append raws left right h.flip).flip, (List.take_append_drop _ _).symm⟩

theorem fillAll_append (strange : Strange) (so : Filled σ) (left right : List (Quoted × Raw)) :
    fillAll members strange p so (left ++ right) =
      fillAll members strange p so left >>= fun so => fillAll members strange p so right := by
  induction left generalizing so with
  | nil => rfl
  | cons field left ih =>
    simp only [List.cons_append, fillAll]
    cases filled : fill members strange p so field with
    | error e => rfl
    | ok so' => exact ih so'

theorem fillAll_parts (strange : Strange) (allowed : p.Allows n) {parts : List (Piece σ)}
    (known : ∀ part ∈ parts,
      members.find? (fun m => m.name == part.member.name) = some part.member)
    (sets : ∀ part ∈ parts, part.Sets n)
    (distinct : (parts.map fun part => part.member.name).Nodup) (so : Filled σ)
    (fresh : ∀ part ∈ parts, part.member.name ∉ so.seen) {raws : List (Quoted × Raw)}
    (shown : List.Forall₂ ShowsField (parts.map Piece.field) raws) :
    fillAll members strange p so raws = .ok
      { record := parts.foldl (fun s part => part.put s) so.record
        seen := (parts.map fun part => part.member.name).reverse ++ so.seen
        kept := so.kept } := by
  induction parts generalizing so raws with
  | nil => cases shown; rfl
  | cons part parts ih =>
    cases shown with
    | cons first others =>
      obtain ⟨new, distinct⟩ := List.nodup_cons.mp distinct
      cases first with
      | mk holds value =>
        have key : lift (Quoted.decode _) = .ok part.member.name := congrArg lift holds
        have found := known part List.mem_cons_self
        have unseen : so.seen.contains part.member.name = false := by
          simpa using fresh part List.mem_cons_self
        have read := sets part List.mem_cons_self p _ so.record allowed value
        have rest := ih (fun x member => known x (List.mem_cons_of_mem part member))
          (fun x member => sets x (List.mem_cons_of_mem part member)) distinct
          { so with
            record := part.put so.record
            seen := part.member.name :: so.seen }
          (by
            intro x member same
            rcases List.mem_cons.mp same with same | seen
            · exact new (List.mem_map.mpr ⟨x, member, same⟩)
            · exact fresh x (List.mem_cons_of_mem part member) seen)
          others
        simp only [fillAll, fill, key, found, unseen, read, bind, Except.bind, pure, Except.pure,
          Bool.false_eq_true, if_false, rest, List.map_cons, List.reverse_cons, List.append_assoc,
          List.cons_append, List.nil_append, List.foldl_cons]

/-- Fields that no member knows are kept if they are without fault. -/
theorem fillAll_strangers (allowed : p.Allows n) {fields : List (String × Json)}
    (unknown : ∀ f ∈ fields, members.find? (fun m => m.name == f.1) = none)
    (within : ∀ f ∈ fields, f.2.Within n) (faithful : ∀ f ∈ fields, f.2.Faithful)
    (so : Filled σ) {raws : List (Quoted × Raw)} (shown : List.Forall₂ ShowsField fields raws) :
    fillAll members .kept p so raws = .ok { so with kept := so.kept ++ raws } := by
  induction fields generalizing so raws with
  | nil => cases shown; simp [fillAll]
  | cons f fields ih =>
    cases shown with
    | cons first others =>
      cases first with
      | @mk name item q r holds value =>
        have key : lift (Quoted.decode q) = .ok name := congrArg lift holds
        have none := unknown (name, item) List.mem_cons_self
        have settled := settle_shown (within (name, item) List.mem_cons_self)
          (faithful (name, item) List.mem_cons_self) allowed value
        have rest := ih (fun x member => unknown x (List.mem_cons_of_mem _ member))
          (fun x member => within x (List.mem_cons_of_mem _ member))
          (fun x member => faithful x (List.mem_cons_of_mem _ member))
          { so with kept := so.kept ++ [(q, r)] } others
        simp only [fillAll, fill, key, none, settled, bind, Except.bind, pure, Except.pure, rest,
          List.append_assoc, List.cons_append, List.nil_append]

theorem lift_check_closed : lift Ending.closed.check = .ok () := rfl

theorem complete_of_seen {so : Filled σ}
    (h : ∀ m ∈ members, m.required = true → m.name ∈ so.seen) : complete members so = .ok () := by
  unfold complete
  have none : members.find? (fun f => f.required && !so.seen.contains f.name) = none := by
    rw [List.find?_eq_none]
    intro m member missed
    simp only [Bool.and_eq_true, Bool.not_eq_true', List.contains_eq_mem,
      decide_eq_false_iff_not] at missed
    exact missed.2 (h m member missed.1)
  rw [none]

theorem recovers_read (title : String) {blank a : σ} {parts : List (Piece σ)}
    (known : ∀ part ∈ parts,
      members.find? (fun m => m.name == part.member.name) = some part.member)
    (sets : ∀ part ∈ parts, part.Sets n)
    (distinct : (parts.map fun part => part.member.name).Nodup)
    (required : ∀ m ∈ members, m.required = true → m.name ∈ parts.map fun part => part.member.name)
    (made : parts.foldl (fun s part => part.put s) blank = a) :
    (read title members blank).Recovers (n + 1) (.object (parts.map Piece.field)) a := by
  subst made
  intro p r allowed shown
  obtain ⟨q, entered, inner⟩ := allowed.enter
  cases shown with
  | object raws =>
    have filled := fillAll_parts .ignored inner known sets distinct ⟨blank, [], []⟩
      (fun _ _ h => nomatch h) raws
    have seen : ∀ m ∈ members, m.required = true →
        m.name ∈ (parts.map fun part => part.member.name).reverse ++ [] := by
      intro m member needed
      simpa using required m member needed
    have all : complete members
        ⟨parts.foldl (fun s part => part.put s) blank, _, []⟩ = .ok () := complete_of_seen seen
    simp only [read, entered, filled, lift_check_closed, all, bind, Except.bind, pure, Except.pure]

end Record
end Storyline.Json
