import Storyline.Json.Numeral

/-!
Documents as scanned: the shape of a text, with each fault at the place where it stands.

A tree reaches up to the first fault that makes the rest of the text unreadable. Faults inside a
text or a number show only to a reader that wants its value.
-/

namespace Storyline.Json

/-- What stands between quotes. `room` counts the bytes of the document from the second quote on,
but no more than four; it is zero when the document ends before that quote. -/
structure Quoted where
  body : List Char
  room : Nat
  deriving DecidableEq

inductive Ending
  | closed
  | cut (f : Fault)

inductive Raw
  | null
  | bool (b : Bool)
  | number (n : Numeral)
  | string (s : Quoted)
  | array (items : List Raw) (ending : Ending)
  | object (fields : List (Quoted × Raw)) (ending : Ending)
  | broken (f : Fault)
  | brokenNumber (atEnd : Bool)
  deriving Inhabited

def hexValue? (c : Char) : Option Nat :=
  if '0' ≤ c ∧ c ≤ '9' then some (c.toNat - '0'.toNat)
  else if 'a' ≤ c ∧ c ≤ 'f' then some (c.toNat - 'a'.toNat + 10)
  else if 'A' ≤ c ∧ c ≤ 'F' then some (c.toNat - 'A'.toNat + 10)
  else none

def hexUnit? (a b c d : Char) : Option Nat := do
  let a ← hexValue? a
  let b ← hexValue? b
  let c ← hexValue? c
  let d ← hexValue? d
  return ((a * 16 + b) * 16 + c) * 16 + d

def escape? (c : Char) : Option Char :=
  match c with
  | '"' => some '"'
  | '\\' => some '\\'
  | '/' => some '/'
  | 'b' => some '\x08'
  | 'f' => some '\x0c'
  | 'n' => some '\n'
  | 'r' => some '\r'
  | 't' => some '\t'
  | _ => none

def isLead (n : Nat) : Bool := 0xd800 ≤ n && n ≤ 0xdbff

def isTrail (n : Nat) : Bool := 0xdc00 ≤ n && n ≤ 0xdfff

def pairChar (lead trail : Nat) : Char :=
  Char.ofNat ((lead - 0xd800) * 0x400 + (trail - 0xdc00) + 0x10000)

namespace Quoted

/-- What is wrong when `rest` follows the letter of an escape that takes four digits and has no
four characters: the document may have four bytes all the same, which are then no digits. -/
def shortEscape (room : Nat) (rest : List Char) : Fault :=
  if 4 ≤ (String.ofList rest).utf8ByteSize + room then .invalidEscape else .endInText

/-- Undoes the escapes. Units that are half of a pair must come as a pair. -/
def unescape (room : Nat) : List Char → Except Fault (List Char)
  | [] => if room = 0 then .error .endInText else .ok []
  | '\\' :: 'u' :: a :: b :: c :: d :: rest =>
    match hexUnit? a b c d with
    | none => .error .invalidEscape
    | some n =>
      if isTrail n then .error .loneSurrogate
      else if isLead n then
        match rest with
        | '\\' :: 'u' :: e :: f :: g :: h :: rest =>
          match hexUnit? e f g h with
          | none => .error .invalidEscape
          | some m =>
            if isTrail m then (unescape room rest).map (pairChar n m :: ·)
            else .error .loneSurrogate
        | '\\' :: 'u' :: rest => .error (shortEscape room rest)
        | ['\\'] => .error .endInText
        | [] => .error (if room = 0 then .endInText else .unexpectedEndOfEscape)
        | _ => .error .unexpectedEndOfEscape
      else (unescape room rest).map (Char.ofNat n :: ·)
  | '\\' :: 'u' :: rest => .error (shortEscape room rest)
  | '\\' :: c :: rest =>
    match escape? c with
    | some d => (unescape room rest).map (d :: ·)
    | none => .error .invalidEscape
  | ['\\'] => .error .endInText
  | c :: rest =>
    if c.toNat < 32 then .error .controlCharacter
    else (unescape room rest).map (c :: ·)

def decode (q : Quoted) : Except Fault String := (unescape q.room q.body).map String.ofList

/-- The first fault that shows without undoing the escapes. -/
def skimBody (room : Nat) : List Char → Option Fault
  | [] => if room = 0 then some .endInText else none
  | '\\' :: 'u' :: a :: b :: c :: d :: rest =>
    if (hexUnit? a b c d).isSome then skimBody room rest else some .invalidEscape
  | '\\' :: 'u' :: rest => some (shortEscape room rest)
  | '\\' :: c :: rest => if (escape? c).isSome then skimBody room rest else some .invalidEscape
  | ['\\'] => some .endInText
  | c :: rest => if c.toNat < 32 then some .controlCharacter else skimBody room rest

def skim (q : Quoted) : Option Fault := skimBody q.room q.body

end Quoted

namespace Ending

def check : Ending → Except Fault Unit
  | closed => .ok ()
  | cut f => .error f

def skimItems : Ending → Option Fault
  | closed => none
  | cut .trailingComma => some .expectedValue
  | cut f => some f

def skimFields : Ending → Option Fault
  | closed => none
  | cut .trailingComma => some .keyNotText
  | cut .endInValue => some .endInObject
  | cut f => some f

end Ending

namespace Raw

/-- What a value is, for a message; a scalar has to be without fault. -/
def found : Raw → Except Fault Found
  | null => .ok .null
  | bool b => .ok (.bool b)
  | number n => n.value.map .number
  | string s => s.decode.map .text
  | array _ _ => .ok .sequence
  | object _ _ => .ok .map
  | broken f => .error f
  | brokenNumber atEnd => .error (if atEnd then .endInValue else .invalidNumber)

mutual

/-- The first fault of a value that nobody reads. Its depth and the size of its numbers do not
matter, nor do halves of pairs in its texts. -/
def skim : Raw → Option Fault
  | null | bool _ | number _ => none
  | string s => s.skim
  | array items ending => (skimItems items).or ending.skimItems
  | object fields ending => (skimFields fields).or ending.skimFields
  | broken f => some f
  | brokenNumber _ => some .invalidNumber

def skimItems : List Raw → Option Fault
  | [] => none
  | item :: items => (skim item).or (skimItems items)

def skimFields : List (Quoted × Raw) → Option Fault
  | [] => none
  | (key, item) :: fields => (key.skim.or (skim item)).or (skimFields fields)

end

end Raw
end Storyline.Json
