import Storyline.Proofs.Saves.Requests

/-!
Stores that may refuse any call. What they refuse is not done, and all else they answer as the memory
store would that was asked for nothing but that. As with stores that work, nothing is said of how they
keep their texts.
-/

namespace Storyline

def StoreAnswer.isRefusal : StoreAnswer → Bool
  | .found (.error _) | .done (.error _) => true
  | .found (.ok _) | .done (.ok _) => false

namespace Store

theorem isOk_found {result : Except StoreError (Option String)}
    (refused : (StoreAnswer.found result).isRefusal = true) : result.isOk = false := by
  cases result with
  | error e => rfl
  | ok text => cases refused

theorem isOk_done {result : Except StoreError Unit}
    (refused : (StoreAnswer.done result).isRefusal = true) : result.isOk = false := by
  cases result with
  | error e => rfl
  | ok done => cases refused

variable {σ : Type} [Store σ]

/-- The texts that a store holds after some requests, told by its answers: what it refused changed
nothing. -/
def held (entries : Dict String) : List StoreRequest → σ → Dict String
  | [], _ => entries
  | r :: rs, s =>
    held (if (answer r s).1.isRefusal then entries
      else (answer r (MemoryStore.mk entries)).2.entries) rs (answer r s).2

/-- Under some keys the store refuses a request, or answers it as a memory store would that holds these
texts and what came to them since. -/
def Falters (keys : String → Prop) (s : σ) (entries : Dict String) : Prop :=
  ∀ rs : List StoreRequest, (∀ r ∈ rs, keys r.key) → ∀ r, keys r.key →
    (answer r (after rs s)).1.isRefusal = true ∨
      (answer r (after rs s)).1 = (answer r (MemoryStore.mk (held entries rs s))).1

/-- One request to such a store: it is refused and changes nothing, or it is done. -/
def Obeys (R : σ → Dict String → Prop) (s : σ) (entries : Dict String) (r : StoreRequest) : Prop :=
  ((answer r s).1.isRefusal = true ∧ R (answer r s).2 entries) ∨
    ((answer r s).1 = (answer r (MemoryStore.mk entries)).1 ∧
      R (answer r s).2 (answer r (MemoryStore.mk entries)).2.entries)

theorem accepts_memory (entries : Dict String) (r : StoreRequest) :
    (answer r (MemoryStore.mk entries)).1.isRefusal = false := by
  cases r <;> rfl

variable {keys : String → Prop} {s : σ} {entries : Dict String} {key : String}

theorem falters_of_obeys {R : σ → Dict String → Prop}
    (obeys : ∀ s entries, R s entries → ∀ r, keys r.key → Obeys R s entries r)
    (start : R s entries) : Falters keys s entries := by
  intro rs used r last
  induction rs generalizing s entries with
  | nil =>
    rcases obeys s entries start r last with refused | done
    · exact .inl refused.1
    · exact .inr done.1
  | cons first rs ih =>
    obtain ⟨known, others⟩ := List.forall_mem_cons.mp used
    rcases obeys s entries start first known with ⟨refused, next⟩ | ⟨done, next⟩
    · simp only [after, held, refused, if_pos]
      exact ih next others
    · simp only [after, held, done, accepts_memory, Bool.false_eq_true, if_false]
      exact ih next others

namespace Falters

theorem obeys (h : Falters keys s entries) (r : StoreRequest) (used : keys r.key) :
    Obeys (Falters keys) s entries r := by
  have next : Falters keys (answer r s).2 (if (answer r s).1.isRefusal then entries
      else (answer r (MemoryStore.mk entries)).2.entries) := by
    intro rs others
    exact h (r :: rs) (List.forall_mem_cons.mpr ⟨used, others⟩)
  rcases h [] (fun _ none => nomatch none) r used with refused | done
  · change (answer r s).1.isRefusal = true at refused
    rw [if_pos refused] at next
    exact .inl ⟨refused, next⟩
  · change (answer r s).1 = (answer r (MemoryStore.mk entries)).1 at done
    rw [done, accepts_memory, if_neg Bool.false_ne_true] at next
    exact .inr ⟨done, next⟩

theorem get (h : Falters keys s entries) (used : keys key) :
    ((Store.get key s).1.isOk = false ∨ (Store.get key s).1 = .ok (entries.find? key)) ∧
      Falters keys (Store.get key s).2 entries := by
  rcases h.obeys (.get key) used with ⟨refused, next⟩ | ⟨done, next⟩
  · exact ⟨.inl (isOk_found refused), next⟩
  · exact ⟨.inr (StoreAnswer.found.inj done), next⟩

theorem set (h : Falters keys s entries) (used : keys key) (text : String) :
    ((Store.set key text s).1.isOk = false ∧ Falters keys (Store.set key text s).2 entries) ∨
      ((Store.set key text s).1.isOk = true ∧
        Falters keys (Store.set key text s).2 (entries.insert key text)) := by
  rcases h.obeys (.set key text) used with ⟨refused, next⟩ | ⟨done, next⟩
  · exact .inl ⟨isOk_done refused, next⟩
  · exact .inr ⟨congrArg Except.isOk (StoreAnswer.done.inj done), next⟩

theorem delete (h : Falters keys s entries) (used : keys key) :
    ((Store.delete key s).1.isOk = false ∧ Falters keys (Store.delete key s).2 entries) ∨
      ((Store.delete key s).1.isOk = true ∧
        Falters keys (Store.delete key s).2 (entries.erase key)) := by
  rcases h.obeys (.delete key) used with ⟨refused, next⟩ | ⟨done, next⟩
  · exact .inl ⟨isOk_done refused, next⟩
  · exact .inr ⟨congrArg Except.isOk (StoreAnswer.done.inj done), next⟩

end Falters

theorem WorksAs.falters (h : WorksAs keys s entries) : Falters keys s entries :=
  falters_of_obeys (fun _ _ works r used => .inr ⟨works.answer_eq r used, works.after_answer r used⟩) h

/-- A store over another, which refuses a request and leaves the other as it is, or passes it on. -/
def Fronts {τ : Type} [Store τ] (under : τ → σ) : Prop :=
  ∀ r t, ((answer r t).1.isRefusal = true ∧ under (answer r t).2 = under t) ∨
    ((answer r t).1 = (answer r (under t)).1 ∧ under (answer r t).2 = (answer r (under t)).2)

theorem Fronts.falters {τ : Type} [Store τ] {under : τ → σ} (fronts : Fronts under) {t : τ}
    (h : Falters keys (under t) entries) : Falters keys t entries := by
  refine falters_of_obeys (R := fun t entries => Falters keys (under t) entries) ?_ h
  intro t entries h r used
  rcases fronts r t with ⟨refused, same⟩ | ⟨passed, next⟩
  · refine .inl ⟨refused, ?_⟩
    dsimp only
    rw [same]
    exact h
  · unfold Obeys
    dsimp only
    rw [passed, next]
    exact h.obeys r used

end Store

/-- A store over another that refuses calls by a plan: the next one if the plan begins so, and so on;
and none when the plan is over. -/
structure Wavering (σ : Type) where
  store : σ
  plan : List Bool

namespace Wavering

variable {σ α : Type}

def attempt (w : Wavering σ) (act : σ → Except StoreError α × σ) :
    Except StoreError α × Wavering σ :=
  match w.plan with
  | true :: plan => (.error (.unavailable "busy"), ⟨w.store, plan⟩)
  | plan =>
    let (result, store) := act w.store
    (result, ⟨store, plan.tail⟩)

instance [Store σ] : Store (Wavering σ) where
  get key w := w.attempt (Store.get key)
  set key text w := w.attempt (Store.set key text)
  delete key w := w.attempt (Store.delete key)

theorem fronts [Store σ] : Store.Fronts (Wavering.store : Wavering σ → σ) := by
  rintro r ⟨s, plan⟩
  match plan with
  | true :: plan => cases r <;> exact .inl ⟨rfl, rfl⟩
  | [] | false :: plan => cases r <;> exact .inr ⟨rfl, rfl⟩

end Wavering

end Storyline
