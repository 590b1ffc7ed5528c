import Storyline.Json.Scan

/-!
Reading scanned documents as values of given types.

A reader takes a tree in the order of its text and stops at the first fault or mismatch. Records,
dictionaries, alternatives and tagged alternatives are read here for any type; the types of the
story say only which fields they have.
-/

namespace Storyline.Json

/-- How often a tree is being read: for the first time, with so many further levels of nesting
allowed, or again, after it has been found to be without fault. -/
inductive Pass
  | first (levels : Nat)
  | again
  deriving DecidableEq

namespace Pass

/-- The first pass over a whole document, which may be 127 levels deep. -/
def start : Pass := .first 127

def enter : Pass → Except ReadError Pass
  | first 0 => .error (.fault .tooDeep)
  | first (levels + 1) => .ok (.first levels)
  | again => .ok .again

end Pass

abbrev Reader (α : Type) := Pass → Raw → Except ReadError α

def lift {α : Type} : Except Fault α → Except ReadError α
  | .ok a => .ok a
  | .error f => .error (.fault f)

def refuse {α : Type} (expected : String) (r : Raw) : Except ReadError α := do
  let found ← lift r.found
  .error (.mismatch (.wrongType found expected))

namespace Reader

def text : Reader String
  | _, .string q => lift q.decode
  | _, r => refuse "a string" r

def bool : Reader Bool
  | _, .bool b => .ok b
  | _, r => refuse "a boolean" r

def whole (low high : Int) (expected : String) : Reader Int
  | _, .number n => do
    match ← lift n.value with
    | .whole w =>
      if low ≤ w.value ∧ w.value ≤ high then .ok w.value
      else .error (.mismatch (.outOfRange w.value expected))
    | .real x => .error (.mismatch (.wrongType (.number (.real x)) expected))
  | _, r => refuse expected r

def uint8 : Reader UInt8 := fun p r => do return UInt8.ofNat (← whole 0 (2 ^ 8 - 1) "u8" p r).toNat

def uint32 : Reader UInt32 := fun p r => do
  return UInt32.ofNat (← whole 0 (2 ^ 32 - 1) "u32" p r).toNat

def uint64 : Reader UInt64 := fun p r => do
  return UInt64.ofNat (← whole 0 (2 ^ 64 - 1) "u64" p r).toNat

def count : Reader Nat := fun p r => do return (← whole 0 (2 ^ 64 - 1) "usize" p r).toNat

def millis : Reader Nat := fun p r => do return (← whole 0 (2 ^ 64 - 1) "u64" p r).toNat

def int32 : Reader Int32 := fun p r => do
  return Int32.ofInt (← whole (-(2 ^ 31)) (2 ^ 31 - 1) "i32" p r)

def option {α : Type} (reader : Reader α) : Reader (Option α)
  | _, .null => .ok none
  | p, r => (reader p r).map some

def items {α : Type} (reader : Reader α) (p : Pass) : List Raw → Except ReadError (List α)
  | [] => .ok []
  | r :: rest => do
    let a ← reader p r
    return a :: (← items reader p rest)

def list {α : Type} (reader : Reader α) : Reader (List α)
  | p, .array raws ending => do
    let found ← items reader (← p.enter) raws
    lift ending.check
    return found
  | _, r => refuse "a sequence" r

def entries {α : Type} (reader : Reader α) (p : Pass) :
    List (Quoted × Raw) → Except ReadError (List (String × α))
  | [] => .ok []
  | (key, r) :: rest => do
    let key ← lift key.decode
    let a ← reader p r
    return (key, a) :: (← entries reader p rest)

/-- A dictionary; of several fields with one key the last one stays. -/
def dict {α : Type} (reader : Reader α) : Reader (Dict α)
  | p, .object fields ending => do
    let found ← entries reader (← p.enter) fields
    lift ending.check
    return Dict.ofList found
  | _, r => refuse "a map" r

mutual

def value (p : Pass) : Raw → Except ReadError Value
  | .null => .ok .null
  | .bool b => .ok (.bool b)
  | .number n => (lift n.value).map Value.number
  | .string q => (lift q.decode).map Value.string
  | .array raws ending => do
    let found ← values (← p.enter) raws
    lift ending.check
    return .array found
  | .object fields ending => do
    let found ← valueFields (← p.enter) fields
    lift ending.check
    return .object (Dict.ofList found)
  | .broken f => .error (.fault f)
  | .brokenNumber atEnd => .error (.fault (if atEnd then .endInValue else .invalidNumber))

def values (p : Pass) : List Raw → Except ReadError (List Value)
  | [] => .ok []
  | r :: rest => do
    let v ← value p r
    return v :: (← values p rest)

def valueFields (p : Pass) : List (Quoted × Raw) → Except ReadError (List (String × Value))
  | [] => .ok []
  | (key, r) :: rest => do
    let key ← lift key.decode
    let v ← value p r
    return (key, v) :: (← valueFields p rest)

end

/-- Goes over a value that will be read again: it has to be without fault. -/
def settle (p : Pass) (r : Raw) : Except ReadError Unit := (value p r).map fun _ => ()

/-- Goes over a value that will not be read. -/
def ignore (p : Pass) (r : Raw) : Except ReadError Unit :=
  match p, r.skim with
  | .first _, some f => .error (.fault f)
  | _, _ => .ok ()

end Reader

structure Member (σ : Type) where
  name : String
  required : Bool
  read : Pass → Raw → σ → Except ReadError σ

namespace Member

variable {σ α : Type}

def mandatory (name : String) (reader : Reader α) (put : σ → α → σ) : Member σ :=
  ⟨name, true, fun p r s => (reader p r).map (put s)⟩

/-- A member that may be left out, the record then staying as it is. -/
def optional (name : String) (reader : Reader α) (put : σ → α → σ) : Member σ :=
  ⟨name, false, fun p r s => (reader p r).map (put s)⟩

end Member

/-- What becomes of a field that a record does not know: it is passed over, or kept for a second
reading. -/
inductive Strange
  | ignored
  | kept
  deriving DecidableEq

/-- A record under way: the names seen so far and the unknown fields kept so far. -/
structure Filled (σ : Type) where
  record : σ
  seen : List String
  kept : List (Quoted × Raw)

namespace Record

variable {σ : Type}

def fill (fields : List (Member σ)) (strange : Strange) (p : Pass) (so : Filled σ)
    (field : Quoted × Raw) : Except ReadError (Filled σ) := do
  let key ← lift field.1.decode
  match fields.find? fun f => f.name == key with
  | some f =>
    if so.seen.contains key then .error (.mismatch (.duplicateField key))
    else
      let record ← f.read p field.2 so.record
      return { so with record := record, seen := key :: so.seen }
  | none =>
    match strange with
    | .ignored => Reader.ignore p field.2; return so
    | .kept => Reader.settle p field.2; return { so with kept := so.kept ++ [field] }

def fillAll (fields : List (Member σ)) (strange : Strange) (p : Pass) (so : Filled σ) :
    List (Quoted × Raw) → Except ReadError (Filled σ)
  | [] => .ok so
  | field :: rest => do
    let so ← fill fields strange p so field
    fillAll fields strange p so rest

def complete (fields : List (Member σ)) (so : Filled σ) : Except ReadError Unit :=
  match fields.find? fun f => f.required && !so.seen.contains f.name with
  | some f => .error (.mismatch (.missingField f.name))
  | none => .ok ()

def elements (n : Nat) : String := if n = 1 then "1 element" else s!"{n} elements"

/-- Takes the items of a list as the fields in their order, and answers the items that are left.
Fields without an item keep what they have, but for the required ones. -/
def fillInOrder (title : String) (total : Nat) (p : Pass) (ending : Ending) :
    List (Member σ) → Nat → List Raw → σ → Except ReadError (σ × List Raw)
  | [], _, items, record => .ok (record, items)
  | f :: fields, i, item :: items, record => do
    let record ← f.read p item record
    fillInOrder title total p ending fields (i + 1) items record
  | f :: fields, i, [], record => do
    lift ending.check
    if f.required then
      .error (.mismatch (.wrongLength i s!"{title} with {elements total}"))
    else fillInOrder title total p ending fields (i + 1) [] record

def closeList (p : Pass) (total : Nat) (left : List Raw) (ending : Ending) :
    Except ReadError Unit :=
  match p with
  | .again =>
    if left.isEmpty then .ok ()
    else .error (.mismatch (.wrongLength (total + left.length) s!"{elements total} in sequence"))
  | .first _ =>
    if !left.isEmpty then .error (.fault .trailingCharacters)
    else
      match ending with
      | .closed => .ok ()
      | .cut .trailingComma => .error (.fault .trailingComma)
      | .cut .endInList => .error (.fault .endInList)
      | _ => .error (.fault .trailingCharacters)

/-- A record from an object, or from a list of its fields in order. -/
def read (title : String) (fields : List (Member σ)) (blank : σ) : Reader σ
  | p, .object given ending => do
    let so ← fillAll fields .ignored (← p.enter) ⟨blank, [], []⟩ given
    lift ending.check
    complete fields so
    return so.record
  | p, .array items ending => do
    let p ← p.enter
    let (record, left) ← fillInOrder title fields.length p ending fields 0 items blank
    closeList p fields.length left ending
    return record
  | _, r => refuse title r

/-- A record from an object only, with the unknown fields kept for a second reading. -/
def readOpen (title : String) (fields : List (Member σ)) (blank : σ) :
    Reader (σ × List (Quoted × Raw))
  | p, .object given ending => do
    let so ← fillAll fields .kept (← p.enter) ⟨blank, [], []⟩ given
    lift ending.check
    complete fields so
    return (so.record, so.kept)
  | _, r => refuse title r

end Record

inductive Alternative (α : Type)
  | plain (a : α)
  | payload (reader : Reader α)
  | record (reader : Reader α)

namespace Alternative

variable {α : Type}

def named (alternatives : List (String × Alternative α)) (name : String) :
    Except ReadError (Alternative α) :=
  match alternatives.find? fun a => a.1 == name with
  | some a => .ok a.2
  | none => .error (.mismatch (.unknownVariant name (alternatives.map (·.1))))

def nothing : Reader Unit
  | _, .null => .ok ()
  | _, r => refuse "unit" r

def close (more : List (Quoted × Raw)) (ending : Ending) : Except ReadError Unit :=
  match more, ending with
  | [], .closed => .ok ()
  | [], .cut .endInObject => .error (.fault .endInObject)
  | _, _ => .error (.fault .expectedValue)

/-- An alternative: its name, or an object of one field with its name and its value. -/
def read (alternatives : List (String × Alternative α)) : Reader α
  | _, .string q => do
    let name ← lift q.decode
    match ← named alternatives name with
    | .plain a => .ok a
    | .payload _ => .error (.mismatch (.wrongType .unitVariant "newtype variant"))
    | .record _ => .error (.mismatch (.wrongType .unitVariant "struct variant"))
  | p, .object fields ending => do
    let p ← p.enter
    match fields with
    | [] =>
      match ending with
      | .cut .keyNotText => .error (.fault .keyNotText)
      | .cut _ => .error (.fault .endInValue)
      | .closed => .error (.fault .expectedValue)
    | (key, r) :: more => do
      let name ← lift key.decode
      let a ← match ← named alternatives name with
        | .plain a => (nothing p r).map fun _ => a
        | .payload reader => reader p r
        | .record reader => reader p r
      close more ending
      return a
  | _, .broken .endInValue => .error (.fault .endInValue)
  | _, _ => .error (.fault .expectedValue)

end Alternative

namespace Tagged

/-- The index of a tag among the names. On a second pass a number stands for itself. -/
def index (names : List String) : Reader Nat
  | _, .string q => do
    let name ← lift q.decode
    match names.findIdx? (· == name) with
    | some i => .ok i
    | none => .error (.mismatch (.unknownVariant name names))
  | .again, .number n => do
    match ← lift n.value with
    | .whole w =>
      if w.value < 0 then refuse "variant identifier" (.number n)
      else if w.value < names.length then .ok w.value.toNat
      else .error (.mismatch (.outOfRange w.value s!"variant index 0 <= i < {names.length}"))
    | .real _ => refuse "variant identifier" (.number n)
  | _, r => refuse "variant identifier" r

def split (tag : String) (names : List String) (p : Pass) (so : Option Nat)
    (kept : List (Quoted × Raw)) :
    List (Quoted × Raw) → Except ReadError (Option Nat × List (Quoted × Raw))
  | [] => .ok (so, kept)
  | (key, r) :: rest => do
    let name ← lift key.decode
    if name = tag then
      if so.isSome then .error (.mismatch (.duplicateField tag))
      else
        let i ← index names p r
        split tag names p (some i) kept rest
    else
      Reader.settle p r
      split tag names p so (kept ++ [(key, r)]) rest

def found (tag : String) : Option Nat → Except ReadError Nat
  | some i => .ok i
  | none => .error (.mismatch (.missingField tag))

/-- An alternative that is told by a tag among its own fields, or by the first item of a list. The
rest of its fields is read again by the reader of that alternative. -/
def read {α : Type} (title tag : String) (names : List String) (readers : Nat → Reader α) : Reader α
  | p, .object fields ending => do
    let p ← p.enter
    let (so, kept) ← split tag names p none [] fields
    lift ending.check
    let i ← found tag so
    readers i .again (.object kept .closed)
  | p, .array [] ending => do
    let _ ← p.enter
    lift ending.check
    .error (.mismatch (.missingField tag))
  | p, .array (first :: items) ending => do
    let p ← p.enter
    let i ← index names p first
    let _ ← Reader.values p items
    lift ending.check
    readers i .again (.array items .closed)
  | _, r => refuse title r

end Tagged

/-- Reads a whole text: one value, and nothing but blanks after it. -/
def readText {α : Type} (reader : Reader α) (text : String) : Except ReadError α := do
  let document := scan text
  let a ← reader .start document.root
  if document.trailing then .error (.fault .trailingCharacters) else return a

end Storyline.Json
