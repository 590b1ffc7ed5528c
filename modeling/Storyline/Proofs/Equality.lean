import Storyline.Story

/-!
Whether two stories, states or values are the same can be decided, so what is said of them can be
tested. Values nest, so theirs is decided together with that of the lists inside them.
-/

namespace Storyline

namespace Json

mutual

def decideEq : (a b : Json) → Decidable (a = b)
  | .null, b =>
    match b with
    | .null => isTrue rfl
    | .bool _ | .number _ | .string _ | .array _ | .object _ => isFalse nofun
  | .bool a, b =>
    match b with
    | .bool b => decidable_of_iff (a = b) ⟨congrArg _, Json.bool.inj⟩
    | .null | .number _ | .string _ | .array _ | .object _ => isFalse nofun
  | .number a, b =>
    match b with
    | .number b => decidable_of_iff (a = b) ⟨congrArg _, Json.number.inj⟩
    | .null | .bool _ | .string _ | .array _ | .object _ => isFalse nofun
  | .string a, b =>
    match b with
    | .string b => decidable_of_iff (a = b) ⟨congrArg _, Json.string.inj⟩
    | .null | .bool _ | .number _ | .array _ | .object _ => isFalse nofun
  | .array a, b =>
    match b with
    | .array b => @decidable_of_iff _ _ ⟨congrArg _, Json.array.inj⟩ (decideEqItems a b)
    | .null | .bool _ | .number _ | .string _ | .object _ => isFalse nofun
  | .object a, b =>
    match b with
    | .object b => @decidable_of_iff _ _ ⟨congrArg _, Json.object.inj⟩ (decideEqFields a b)
    | .null | .bool _ | .number _ | .string _ | .array _ => isFalse nofun

def decideEqItems : (a b : List Json) → Decidable (a = b)
  | [], [] => isTrue rfl
  | [], _ :: _ | _ :: _, [] => isFalse nofun
  | a :: as, b :: bs =>
    have _ : Decidable (a = b) := decideEq a b
    have _ : Decidable (as = bs) := decideEqItems as bs
    decidable_of_iff (a = b ∧ as = bs) List.cons_eq_cons.symm

def decideEqFields : (a b : List (String × Json)) → Decidable (a = b)
  | [], [] => isTrue rfl
  | [], _ :: _ | _ :: _, [] => isFalse nofun
  | (name, a) :: as, (name', b) :: bs =>
    have _ : Decidable (a = b) := decideEq a b
    have _ : Decidable (as = bs) := decideEqFields as bs
    decidable_of_iff ((name = name' ∧ a = b) ∧ as = bs) (by rw [List.cons_eq_cons, Prod.mk.injEq])

end

instance : DecidableEq Json := decideEq

end Json

deriving instance DecidableEq for Value, VoteRecord, GameState, Test, Condition, Effects, Choice,
  NodeKind, Node, Character, Cast, Titles, Content

instance decidableEqOutcome {ε α : Type} [DecidableEq ε] [DecidableEq α] : DecidableEq (Except ε α)
  | .ok a, .ok b => decidable_of_iff (a = b) ⟨congrArg _, Except.ok.inj⟩
  | .error e, .error f => decidable_of_iff (e = f) ⟨congrArg _, Except.error.inj⟩
  | .ok _, .error _ | .error _, .ok _ => isFalse nofun

end Storyline
