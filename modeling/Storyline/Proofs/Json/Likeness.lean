import Storyline.Proofs.Json.Filling
import Storyline.Proofs.Json.Records

/-!
Trees that show one value. They may differ in how their texts are quoted and in what follows these in
the document. What a reader gets from one of them it gets from all.

Only the second pass is looked at where a reader passes over fields: the first one looks at the
quoting of what it does not read.
-/

namespace Storyline.Json

mutual

/-- Trees of one shape with the same numerals, and texts that are quoted one way or another. -/
inductive Like : Raw → Raw → Prop
  | null : Like .null .null
  | bool (b : Bool) : Like (.bool b) (.bool b)
  | number (n : Numeral) : Like (.number n) (.number n)
  | string {q q' : Quoted} : q.decode = q'.decode → Like (.string q) (.string q')
  | array {raws raws' : List Raw} : List.Forall₂ Like raws raws' →
      Like (.array raws .closed) (.array raws' .closed)
  | object {raws raws' : List (Quoted × Raw)} : List.Forall₂ LikeField raws raws' →
      Like (.object raws .closed) (.object raws' .closed)

inductive LikeField : Quoted × Raw → Quoted × Raw → Prop
  | mk {q q' : Quoted} {r r' : Raw} : q.decode = q'.decode → Like r r' → LikeField (q, r) (q', r')

end

mutual

theorem like_of_shows : ∀ {j : Json} {r r' : Raw}, Shows j r → Shows j r' → Like r r'
  | .null, _, _, .null, .null => .null
  | .bool b, _, _, .bool _, .bool _ => .bool b
  | .number _, _, _, .number spells, .number spells' => by
    rw [Numeral.eq_of_spelling spells.1 spells'.1 (spells.2.trans spells'.2.symm)]
    exact .number _
  | .string _, _, _, .string holds, .string holds' => .string (holds.trans holds'.symm)
  | .array _, _, _, .array items, .array items' => .array (likes_of_shows items items')
  | .object _, _, _, .object fields, .object fields' => .object (likeFields_of_shows fields fields')

theorem likes_of_shows : ∀ {items : List Json} {raws raws' : List Raw},
    List.Forall₂ Shows items raws → List.Forall₂ Shows items raws' → List.Forall₂ Like raws raws'
  | [], _, _, .nil, .nil => .nil
  | _ :: _, _, _, .cons first rest, .cons first' rest' =>
    .cons (like_of_shows first first') (likes_of_shows rest rest')

theorem likeFields_of_shows : ∀ {fields : List (String × Json)} {raws raws' : List (Quoted × Raw)},
    List.Forall₂ ShowsField fields raws → List.Forall₂ ShowsField fields raws' →
    List.Forall₂ LikeField raws raws'
  | [], _, _, .nil, .nil => .nil
  | (_, _) :: _, _, _, .cons (.mk key value) rest, .cons (.mk key' value') rest' =>
    .cons (.mk (key.trans key'.symm) (like_of_shows value value')) (likeFields_of_shows rest rest')

end

mutual

theorem value_like : ∀ {r r' : Raw} {p : Pass} {v : Value}, Like r r' →
    Reader.value p r = .ok v → Reader.value p r' = .ok v
  | .null, _, _, _, .null, read => read
  | .bool _, _, _, _, .bool _, read => read
  | .number _, _, _, _, .number _, read => read
  | .string _, _, _, _, .string same, read => by
    simp only [Reader.value] at read ⊢
    rwa [← same]
  | .array _ _, _, _, _, .array items, read => by
    simp only [Reader.value] at read ⊢
    obtain ⟨q, entered, read⟩ := bind_ok read
    obtain ⟨found, read, closed⟩ := bind_ok read
    rw [entered]
    simp only [bind, Except.bind, values_like items read]
    exact closed
  | .object _ _, _, _, _, .object fields, read => by
    simp only [Reader.value] at read ⊢
    obtain ⟨q, entered, read⟩ := bind_ok read
    obtain ⟨found, read, closed⟩ := bind_ok read
    rw [entered]
    simp only [bind, Except.bind, valueFields_like fields read]
    exact closed

theorem values_like : ∀ {raws raws' : List Raw} {p : Pass} {l : List Value},
    List.Forall₂ Like raws raws' → Reader.values p raws = .ok l → Reader.values p raws' = .ok l
  | [], _, _, _, .nil, read => read
  | _ :: _, _, _, _, .cons first rest, read => by
    simp only [Reader.values] at read ⊢
    obtain ⟨v, head, read⟩ := bind_ok read
    obtain ⟨l, others, made⟩ := bind_ok read
    simp only [value_like first head, values_like rest others, bind, Except.bind]
    exact made

theorem valueFields_like : ∀ {raws raws' : List (Quoted × Raw)} {p : Pass}
    {l : List (String × Value)}, List.Forall₂ LikeField raws raws' →
    Reader.valueFields p raws = .ok l → Reader.valueFields p raws' = .ok l
  | [], _, _, _, .nil, read => read
  | (_, _) :: _, _, _, _, .cons (.mk same value) rest, read => by
    simp only [Reader.valueFields] at read ⊢
    rw [← same]
    obtain ⟨key, decoded, read⟩ := bind_ok read
    obtain ⟨v, head, read⟩ := bind_ok read
    obtain ⟨l, others, made⟩ := bind_ok read
    simp only [decoded, value_like value head, valueFields_like rest others, bind, Except.bind]
    exact made

end

/-- What the reader gets from a tree on a pass it gets from any that is like it. -/
def Reader.Agrees {α : Type} (reader : Reader α) (p : Pass) : Prop :=
  ∀ ⦃r r' : Raw⦄ ⦃a : α⦄, Like r r' → reader p r = .ok a → reader p r' = .ok a

section

variable {α β σ : Type} {reader : Reader α} {p : Pass}

theorem refuse_ne_ok {expected : String} {r : Raw} {a : α} : refuse expected r ≠ .ok a := by
  intro read
  obtain ⟨_, _, read⟩ := bind_ok read
  cases read

theorem agrees_value (p : Pass) : Reader.Agrees Reader.value p :=
  fun _ _ _ like read => value_like like read

theorem settle_like {r r' : Raw} (like : Like r r') (read : Reader.settle p r = .ok ()) :
    Reader.settle p r' = .ok () := by
  obtain ⟨v, found, _⟩ := map_ok read
  unfold Reader.settle
  rw [value_like like found]
  rfl

theorem agrees_text (p : Pass) : Reader.text.Agrees p := by
  intro r r' a like read
  cases like with
  | string same =>
    simp only [Reader.text] at read ⊢
    rwa [← same]
  | _ => exact absurd read refuse_ne_ok

theorem agrees_whole (low high : Int) (expected : String) (p : Pass) :
    (Reader.whole low high expected).Agrees p := by
  intro r r' a like read
  cases like with
  | number n => exact read
  | _ => exact absurd read refuse_ne_ok

theorem Reader.Agrees.followed (h : reader.Agrees p) (f : α → Except ReadError β) :
    Reader.Agrees (fun p r => reader p r >>= f) p := by
  intro r r' b like read
  obtain ⟨a, found, made⟩ := bind_ok read
  simp only [h like found]
  exact made

theorem Reader.Agrees.option (h : reader.Agrees p) : (Reader.option reader).Agrees p := by
  intro r r' a like read
  have other : ∀ {r r' : Raw}, Like r r' → ∀ {a}, (reader p r).map some = .ok a →
      (reader p r').map some = .ok a := by
    intro r r' like a read
    obtain ⟨b, found, rfl⟩ := map_ok read
    rw [h like found]
    rfl
  cases like with
  | null => exact read
  | bool b => exact other (.bool b) read
  | number n => exact other (.number n) read
  | string same => exact other (.string same) read
  | array items => exact other (.array items) read
  | object fields => exact other (.object fields) read

theorem items_like (h : reader.Agrees p) {raws raws' : List Raw} (likes : List.Forall₂ Like raws raws')
    {l : List α} (read : Reader.items reader p raws = .ok l) : Reader.items reader p raws' = .ok l := by
  induction likes generalizing l with
  | nil => exact read
  | cons first _ ih =>
    obtain ⟨a, head, read⟩ := bind_ok read
    obtain ⟨l, others, made⟩ := bind_ok read
    simp only [Reader.items, h first head, ih others, bind, Except.bind]
    exact made

theorem Reader.Agrees.list (h : reader.Agrees .again) : (Reader.list reader).Agrees .again := by
  intro r r' l like read
  cases like with
  | array likes =>
    obtain ⟨q, entered, read⟩ := bind_ok read
    cases entered
    obtain ⟨found, items, made⟩ := bind_ok read
    simp only [Reader.list, Pass.enter, items_like h likes items, bind, Except.bind]
    exact made
  | _ => exact absurd read refuse_ne_ok

theorem entries_like (h : reader.Agrees p) {raws raws' : List (Quoted × Raw)}
    (likes : List.Forall₂ LikeField raws raws') {l : List (String × α)}
    (read : Reader.entries reader p raws = .ok l) : Reader.entries reader p raws' = .ok l := by
  induction likes generalizing l with
  | nil => exact read
  | cons first _ ih =>
    cases first with
    | mk same value =>
      obtain ⟨key, decoded, read⟩ := bind_ok read
      obtain ⟨a, head, read⟩ := bind_ok read
      obtain ⟨l, others, made⟩ := bind_ok read
      simp only [Reader.entries, ← same, decoded, h value head, ih others, bind, Except.bind]
      exact made

theorem Reader.Agrees.dict (h : reader.Agrees .again) : (Reader.dict reader).Agrees .again := by
  intro r r' d like read
  cases like with
  | object likes =>
    obtain ⟨q, entered, read⟩ := bind_ok read
    cases entered
    obtain ⟨found, entries, made⟩ := bind_ok read
    simp only [Reader.dict, Pass.enter, pure, Except.pure, entries_like h likes entries, bind,
      Except.bind]
    exact made
  | _ => exact absurd read refuse_ne_ok

/-- What the member makes of a tree on a pass it makes of any that is like it. -/
def Member.Agrees (m : Member σ) (p : Pass) : Prop :=
  ∀ ⦃r r' : Raw⦄ ⦃s s' : σ⦄, Like r r' → m.read p r s = .ok s' → m.read p r' s = .ok s'

theorem Reader.Agrees.optional (h : reader.Agrees p) (name : String) (put : σ → α → σ) :
    (Member.optional name reader put).Agrees p := by
  intro r r' s s' like read
  obtain ⟨a, found, rfl⟩ := map_ok read
  simp only [Member.optional, h like found]
  rfl

theorem Reader.Agrees.mandatory (h : reader.Agrees p) (name : String) (put : σ → α → σ) :
    (Member.mandatory name reader put).Agrees p := h.optional name put

end

namespace Record

variable {σ : Type} {members : List (Member σ)} {strange : Strange} {p q : Pass}

/-- Records under way with the same in them, that have kept like fields. -/
structure FilledLike (so so' : Filled σ) : Prop where
  record : so.record = so'.record
  seen : so.seen = so'.seen
  kept : List.Forall₂ LikeField so.kept so'.kept

theorem fill_like (agrees : ∀ m ∈ members, m.Agrees p) (calm : strange = .kept ∨ p = .again)
    {so so' f : Filled σ} (same : FilledLike so so') {field field' : Quoted × Raw}
    (like : LikeField field field') (filled : fill members strange p so field = .ok f) :
    ∃ f', fill members strange p so' field' = .ok f' ∧ FilledLike f f' := by
  obtain ⟨record, seen, kept⟩ := same
  have fields := List.rel_append kept (.cons like .nil)
  cases like with
  | mk named value =>
    obtain ⟨key, decoded, filled⟩ := bind_ok filled
    unfold fill
    simp only [← named, decoded, bind, Except.bind, ← seen, ← record]
    cases found : members.find? fun m => m.name == key with
    | some m =>
      simp only [found] at filled ⊢
      by_cases again : so.seen.contains key = true
      · rw [if_pos again] at filled
        cases filled
      · rw [if_neg again] at filled ⊢
        obtain ⟨s, read, made⟩ := bind_ok filled
        cases made
        simp only [agrees m (List.mem_of_find?_eq_some found) value read]
        exact ⟨_, rfl, rfl, rfl, kept⟩
    | none =>
      simp only [found] at filled ⊢
      -- a field that is passed over is looked at as it is quoted, but only on the first pass
      cases strange with
      | ignored =>
        obtain rfl := calm.resolve_left nofun
        obtain ⟨_, _, made⟩ := bind_ok filled
        cases made
        exact ⟨_, rfl, record, seen, kept⟩
      | kept =>
        obtain ⟨_, settled, made⟩ := bind_ok filled
        cases made
        simp only [settle_like value settled]
        exact ⟨_, rfl, rfl, rfl, fields⟩

theorem fillAll_like (agrees : ∀ m ∈ members, m.Agrees p) (calm : strange = .kept ∨ p = .again)
    {raws raws' : List (Quoted × Raw)} (likes : List.Forall₂ LikeField raws raws')
    {so so' f : Filled σ} (same : FilledLike so so')
    (filled : fillAll members strange p so raws = .ok f) :
    ∃ f', fillAll members strange p so' raws' = .ok f' ∧ FilledLike f f' := by
  induction likes generalizing so so' with
  | nil =>
    cases filled
    exact ⟨so', rfl, same⟩
  | cons first _ ih =>
    obtain ⟨next, head, filled⟩ := bind_ok filled
    obtain ⟨next', head', same⟩ := fill_like agrees calm same first head
    obtain ⟨f', others, same⟩ := ih same filled
    refine ⟨f', ?_, same⟩
    simp only [fillAll, head', bind, Except.bind]
    exact others

theorem complete_like {so so' : Filled σ} (same : FilledLike so so') :
    complete members so = complete members so' := by
  unfold complete
  rw [same.seen]

theorem read_like (title : String) (blank : σ) (agrees : ∀ m ∈ members, m.Agrees .again)
    {raws raws' : List (Quoted × Raw)} (likes : List.Forall₂ LikeField raws raws') {a : σ}
    (found : read title members blank .again (.object raws .closed) = .ok a) :
    read title members blank .again (.object raws' .closed) = .ok a := by
  obtain ⟨_, entered, found⟩ := bind_ok found
  cases entered
  obtain ⟨f, filled, found⟩ := bind_ok found
  obtain ⟨_, _, found⟩ := bind_ok found
  obtain ⟨_, all, made⟩ := bind_ok found
  cases made
  obtain ⟨f', filled', same⟩ := fillAll_like agrees (.inr rfl) likes ⟨rfl, rfl, .nil⟩ filled
  rw [complete_like same] at all
  simp only [read, Pass.enter, pure, Except.pure, filled', lift_check_closed, all, bind, Except.bind,
    same.record]

theorem readOpen_like (title : String) (blank : σ) (entered : p.enter = .ok q)
    (agrees : ∀ m ∈ members, m.Agrees q) {r r' : Raw} {s : σ} {kept : List (Quoted × Raw)}
    (like : Like r r') (found : readOpen title members blank p r = .ok (s, kept)) :
    ∃ kept', readOpen title members blank p r' = .ok (s, kept') ∧
      List.Forall₂ LikeField kept kept' := by
  cases like with
  | object likes =>
    obtain ⟨q', same, found⟩ := bind_ok found
    cases entered.symm.trans same
    obtain ⟨f, filled, found⟩ := bind_ok found
    obtain ⟨_, _, found⟩ := bind_ok found
    obtain ⟨_, all, made⟩ := bind_ok found
    cases made
    obtain ⟨f', filled', same⟩ := fillAll_like agrees (.inl rfl) likes ⟨rfl, rfl, .nil⟩ filled
    rw [complete_like same] at all
    refine ⟨f'.kept, ?_, same.kept⟩
    simp only [readOpen, entered, filled', lift_check_closed, all, bind, Except.bind, pure, Except.pure,
      same.record]
  | _ => exact absurd found refuse_ne_ok

end Record
end Storyline.Json
