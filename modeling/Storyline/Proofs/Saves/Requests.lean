import Storyline.Saves.Store

/-!
What can be relied on from a store, told by its answers alone. Nothing is said of how a store keeps
its texts: a store that works answers as the memory store does, and one that may fail at any time is
honest if it never answers with a text that it was not given.
-/

namespace Storyline

inductive StoreRequest
  | get (key : String)
  | set (key text : String)
  | delete (key : String)

inductive StoreAnswer
  | found (result : Except StoreError (Option String))
  | done (result : Except StoreError Unit)

def StoreRequest.key : StoreRequest → String
  | get key | set key _ | delete key => key

namespace Store

variable {σ : Type} [Store σ]

def answer : StoreRequest → σ → StoreAnswer × σ
  | .get key, s => ((Store.get key s).map .found id)
  | .set key text, s => ((Store.set key text s).map .done id)
  | .delete key, s => ((Store.delete key s).map .done id)

def answers : List StoreRequest → σ → List StoreAnswer
  | [], _ => []
  | r :: rs, s => (answer r s).1 :: answers rs (answer r s).2

def after : List StoreRequest → σ → σ
  | [], s => s
  | r :: rs, s => after rs (answer r s).2

theorem after_append (left right : List StoreRequest) (s : σ) :
    after (left ++ right) s = after right (after left s) := by
  induction left generalizing s with
  | nil => rfl
  | cons r left ih => exact ih (answer r s).2

/-- Under some keys the store answers every request as a memory store with these entries would. -/
def WorksAs (keys : String → Prop) (s : σ) (entries : Dict String) : Prop :=
  ∀ rs : List StoreRequest, (∀ r ∈ rs, keys r.key) → answers rs s = answers rs (MemoryStore.mk entries)

/-- Under some keys the store does all that it is asked to do. -/
def Works (keys : String → Prop) (s : σ) : Prop := ∃ entries, WorksAs keys s entries

namespace WorksAs

variable {keys : String → Prop} {s : σ} {entries : Dict String} {key : String}

theorem answer_eq (h : WorksAs keys s entries) (r : StoreRequest) (used : keys r.key) :
    (answer r s).1 = (answer r (MemoryStore.mk entries)).1 := by
  have each := h [r] (List.forall_mem_singleton.mpr used)
  exact (List.cons.inj each).1

theorem after_answer (h : WorksAs keys s entries) (r : StoreRequest) (used : keys r.key) :
    WorksAs keys (answer r s).2 (answer r (MemoryStore.mk entries)).2.entries := by
  intro rs all
  have each := h (r :: rs) (List.forall_mem_cons.mpr ⟨used, all⟩)
  exact (List.cons.inj each).2

theorem get (h : WorksAs keys s entries) (used : keys key) :
    (Store.get key s).1 = .ok (entries.find? key) ∧ WorksAs keys (Store.get key s).2 entries := by
  have answered := h.answer_eq (.get key) used
  exact ⟨StoreAnswer.found.inj answered, h.after_answer (.get key) used⟩

theorem set (h : WorksAs keys s entries) (used : keys key) (text : String) :
    (Store.set key text s).1 = .ok () ∧
    WorksAs keys (Store.set key text s).2 (entries.insert key text) := by
  have answered := h.answer_eq (.set key text) used
  exact ⟨StoreAnswer.done.inj answered, h.after_answer (.set key text) used⟩

theorem delete (h : WorksAs keys s entries) (used : keys key) :
    (Store.delete key s).1 = .ok () ∧ WorksAs keys (Store.delete key s).2 (entries.erase key) := by
  have answered := h.answer_eq (.delete key) used
  exact ⟨StoreAnswer.done.inj answered, h.after_answer (.delete key) used⟩

end WorksAs

theorem worksAs_memory (keys : String → Prop) (entries : Dict String) :
    WorksAs keys (MemoryStore.mk entries) entries := fun _ _ => rfl

theorem works_memory (keys : String → Prop) (entries : Dict String) :
    Works keys (MemoryStore.mk entries) := ⟨entries, worksAs_memory keys entries⟩

/-- Whatever calls fail, a text is answered only after it was put under that key. At the start there
is no text to answer with. -/
def Honest (start : σ) : Prop :=
  ∀ (rs : List StoreRequest) (key text : String),
    (Store.get key (after rs start)).1 = .ok (some text) → .set key text ∈ rs

theorem found_memory {rs : List StoreRequest} {s : MemoryStore} {key text : String}
    (found : (Store.get key (after rs s)).1 = .ok (some text)) :
    .set key text ∈ rs ∨ s.entries.find? key = some text := by
  induction rs generalizing s with
  | nil => exact .inr (Except.ok.inj found)
  | cons r rs ih =>
    rcases ih found with later | held
    · exact .inl (List.mem_cons_of_mem r later)
    · cases r with
      | get other => exact .inr held
      | set other text' =>
        have held : (s.entries.insert other text').find? key = some text := held
        rw [Dict.find?_insert] at held
        split at held
        · next same =>
          cases held
          rw [same]
          exact .inl List.mem_cons_self
        · exact .inr held
      | delete other =>
        have held : (s.entries.erase other).find? key = some text := held
        rw [Dict.find?_erase] at held
        split at held
        · cases held
        · exact .inr held

theorem honest_memory : Honest (MemoryStore.mk .empty) := by
  intro rs key text found
  rcases found_memory found with given | held
  · exact given
  · cases held

/-- A store that was given nothing but texts as `P` asks. -/
def Trusted (P : String → Prop) (start s : σ) : Prop :=
  ∃ rs : List StoreRequest, s = after rs start ∧ ∀ key text, .set key text ∈ rs → P text

namespace Trusted

variable {P : String → Prop} {start s : σ}

theorem refl : Trusted P start start := ⟨[], rfl, fun _ _ none => nomatch none⟩

theorem after_answer (h : Trusted P start s) {r : StoreRequest}
    (good : ∀ key text, r = .set key text → P text) : Trusted P start (answer r s).2 := by
  obtain ⟨rs, rfl, texts⟩ := h
  refine ⟨rs ++ [r], (after_append rs [r] start).symm, ?_⟩
  intro key text member
  rcases List.mem_append.mp member with old | new
  · exact texts key text old
  · exact good key text (List.mem_singleton.mp new).symm

theorem get (h : Trusted P start s) (key : String) : Trusted P start (Store.get key s).2 :=
  h.after_answer (r := .get key) fun _ _ none => nomatch none

theorem set (h : Trusted P start s) (key : String) {text : String} (good : P text) :
    Trusted P start (Store.set key text s).2 := by
  refine h.after_answer (r := .set key text) ?_
  intro _ _ same
  cases same
  exact good

theorem delete (h : Trusted P start s) (key : String) : Trusted P start (Store.delete key s).2 :=
  h.after_answer (r := .delete key) fun _ _ none => nomatch none

/-- An honest store answers with nothing but such texts. -/
theorem found (h : Trusted P start s) (honest : Honest start) {key text : String}
    (read : (Store.get key s).1 = .ok (some text)) : P text := by
  obtain ⟨rs, rfl, texts⟩ := h
  exact texts key text (honest rs key text read)

end Trusted
end Store
end Storyline
