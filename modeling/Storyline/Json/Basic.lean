import Storyline.Binary64
import Storyline.Dict

/-!
JSON values.

`Json` is any tree that can be written. `Value` is a tree in its canonical form: the keys of every
object ascend strictly, so that equal values are written alike.
-/

namespace Storyline

structure Whole where
  value : Int
  inRange : -(2 ^ 63) ≤ value ∧ value < 2 ^ 64
  deriving DecidableEq

inductive Number
  | whole (n : Whole)
  | real (x : Binary64)
  deriving DecidableEq

/-- A JSON tree; the fields of an object in the order in which they are written. -/
inductive Json
  | null
  | bool (b : Bool)
  | number (n : Number)
  | string (s : String)
  | array (items : List Json)
  | object (fields : List (String × Json))
  deriving Inhabited

namespace Json

/-- Every object in the tree has its keys in strictly ascending order. -/
inductive Canonical : Json → Prop
  | null : Canonical .null
  | bool (b : Bool) : Canonical (.bool b)
  | number (n : Number) : Canonical (.number n)
  | string (s : String) : Canonical (.string s)
  | array {items : List Json} : (∀ j ∈ items, Canonical j) → Canonical (.array items)
  | object {fields : List (String × Json)} : fields.Pairwise (fun a b => a.1 < b.1) →
      (∀ f ∈ fields, Canonical f.2) → Canonical (.object fields)

def ofWhole (n : Int) (h : -(2 ^ 63) ≤ n ∧ n < 2 ^ 64) : Json := .number (.whole ⟨n, h⟩)

/-- A count; one that does not fit in 64 bits is written as the largest that does. -/
def ofNat (n : Nat) : Json :=
  ofWhole (min n (2 ^ 64 - 1) : Nat) (by omega)

def ofUInt8 (n : UInt8) : Json :=
  ofWhole n.toNat (by have := n.toNat_lt; omega)

def ofUInt32 (n : UInt32) : Json :=
  ofWhole n.toNat (by have := n.toNat_lt; omega)

def ofUInt64 (n : UInt64) : Json :=
  ofWhole n.toNat (by have := n.toNat_lt; omega)

def ofInt32 (n : Int32) : Json :=
  ofWhole n.toInt (by have := n.le_toInt; have := n.toInt_lt; omega)

def ofTexts (texts : List String) : Json := .array (texts.map .string)

def ofDict {α : Type} (write : α → Json) (d : Dict α) : Json :=
  .object (d.entries.map fun e => (e.1, write e.2))

end Json

/-- A JSON value: a tree in canonical form. -/
structure Value where
  json : Json
  canonical : json.Canonical

namespace Value

def null : Value := ⟨.null, .null⟩

instance : Inhabited Value := ⟨null⟩

def bool (b : Bool) : Value := ⟨.bool b, .bool b⟩

def number (n : Number) : Value := ⟨.number n, .number n⟩

def string (s : String) : Value := ⟨.string s, .string s⟩

def array (items : List Value) : Value :=
  ⟨.array (items.map Value.json), .array fun j hj => by
    obtain ⟨v, _, rfl⟩ := List.mem_map.1 hj
    exact v.canonical⟩

def object (fields : Dict Value) : Value :=
  ⟨Json.ofDict Value.json fields, .object (List.pairwise_map.2 fields.sorted) fun f hf => by
    obtain ⟨e, _, rfl⟩ := List.mem_map.1 hf
    exact e.2.canonical⟩

end Value
end Storyline
