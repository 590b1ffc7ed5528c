import Storyline.Json.Raw

/-!
From a text to the tree of what stands in it.

Every function takes what is left of the text and answers a part of the tree with what is left
after it. After a part that is broken nothing more is scanned.
-/

namespace Storyline.Json

def isGap (c : Char) : Bool := c == ' ' || c == '\t' || c == '\n' || c == '\r'

def skipGap (s : List Char) : List Char := s.dropWhile isGap

def isDigit (c : Char) : Bool := '0' ≤ c && c ≤ '9'

/-- The room from a quote on that is followed by a text. -/
def roomBefore (rest : List Char) : Nat := min 4 (1 + (String.ofList (rest.take 3)).utf8ByteSize)

/-- The text up to the quote that closes it; a backslash takes the next character along. -/
def scanQuoted : List Char → Quoted × List Char
  | [] => (⟨[], 0⟩, [])
  | '"' :: rest => (⟨[], roomBefore rest⟩, rest)
  | ['\\'] => (⟨['\\'], 0⟩, [])
  | '\\' :: c :: rest =>
    let (q, left) := scanQuoted rest
    (⟨'\\' :: c :: q.body, q.room⟩, left)
  | c :: rest =>
    let (q, left) := scanQuoted rest
    (⟨c :: q.body, q.room⟩, left)

def scanWord (meaning : Raw) : List Char → List Char → Raw × List Char
  | [], s => (meaning, s)
  | _ :: _, [] => (.broken .endInValue, [])
  | w :: word, c :: rest =>
    if c = w then scanWord meaning word rest else (.broken .expectedWord, [])

def scanExponent (n : Numeral) (s : List Char) : Raw × List Char :=
  match s with
  | e :: rest =>
    if e = 'e' ∨ e = 'E' then
      let (down, rest) := match rest with
        | '-' :: rest => (true, rest)
        | '+' :: rest => (false, rest)
        | rest => (false, rest)
      let digits := rest.takeWhile isDigit
      if digits.isEmpty then (.brokenNumber rest.isEmpty, [])
      else (.number { n with exponent := some (down, digits) }, rest.dropWhile isDigit)
    else (.number n, s)
  | [] => (.number n, s)

/-- A number after its sign. It has a digit before the point, and more than one only if the first
is not zero. -/
def scanNumber (negative : Bool) (s : List Char) : Raw × List Char :=
  let digits := s.takeWhile isDigit
  let rest := s.dropWhile isDigit
  if digits.isEmpty then (.brokenNumber s.isEmpty, [])
  else if digits.head? = some '0' ∧ 1 < digits.length then (.brokenNumber false, [])
  else
    match rest with
    | '.' :: rest =>
      let places := rest.takeWhile isDigit
      if places.isEmpty then (.brokenNumber rest.isEmpty, [])
      else scanExponent ⟨negative, digits, some places, none⟩ (rest.dropWhile isDigit)
    | rest => scanExponent ⟨negative, digits, none, none⟩ rest

def scanScalar (s : List Char) : Raw × List Char :=
  match s with
  | [] => (.broken .endInValue, [])
  | '"' :: rest => let (q, left) := scanQuoted rest; (.string q, left)
  | 'n' :: rest => scanWord .null ['u', 'l', 'l'] rest
  | 't' :: rest => scanWord (.bool true) ['r', 'u', 'e'] rest
  | 'f' :: rest => scanWord (.bool false) ['a', 'l', 's', 'e'] rest
  | '-' :: rest => scanNumber true rest
  | c :: rest => if isDigit c then scanNumber false (c :: rest) else (.broken .expectedValue, [])

mutual

def scanValue : Nat → List Char → Raw × List Char
  | 0, _ => (.broken .tooDeep, [])
  | fuel + 1, s =>
    match skipGap s with
    | '[' :: rest =>
      match skipGap rest with
      | [] => (.array [] (.cut .endInList), [])
      | ']' :: rest => (.array [] .closed, rest)
      | rest => let (items, ending, left) := scanItems fuel rest; (.array items ending, left)
    | '\x7b' :: rest =>
      match skipGap rest with
      | [] => (.object [] (.cut .endInObject), [])
      | '\x7d' :: rest => (.object [] .closed, rest)
      | '"' :: rest => let (fields, ending, left) := scanFields fuel rest; (.object fields ending, left)
      | _ => (.object [] (.cut .keyNotText), [])
    | rest => scanScalar rest

def scanItems : Nat → List Char → List Raw × Ending × List Char
  | 0, _ => ([], .cut .tooDeep, [])
  | fuel + 1, s =>
    let (item, rest) := scanValue fuel s
    match skipGap rest with
    | [] => ([item], .cut .endInList, [])
    | ']' :: rest => ([item], .closed, rest)
    | ',' :: rest =>
      match skipGap rest with
      | [] => ([item], .cut .endInValue, [])
      | ']' :: _ => ([item], .cut .trailingComma, [])
      | rest => let (items, ending, left) := scanItems fuel rest; (item :: items, ending, left)
    | _ => ([item], .cut .expectedListCommaOrEnd, [])

def scanFields : Nat → List Char → List (Quoted × Raw) × Ending × List Char
  | 0, _ => ([], .cut .tooDeep, [])
  | fuel + 1, s =>
    let (key, rest) := scanQuoted s
    match skipGap rest with
    | [] => ([(key, .broken .endInObject)], .cut .endInObject, [])
    | ':' :: rest =>
      let (item, rest) := scanValue fuel rest
      match skipGap rest with
      | [] => ([(key, item)], .cut .endInObject, [])
      | '\x7d' :: rest => ([(key, item)], .closed, rest)
      | ',' :: rest =>
        match skipGap rest with
        | [] => ([(key, item)], .cut .endInValue, [])
        | '\x7d' :: _ => ([(key, item)], .cut .trailingComma, [])
        | '"' :: rest =>
          let (fields, ending, left) := scanFields fuel rest
          ((key, item) :: fields, ending, left)
        | _ => ([(key, item)], .cut .keyNotText, [])
      | _ => ([(key, item)], .cut .expectedObjectCommaOrEnd, [])
    | _ => ([(key, .broken .expectedColon)], .cut .expectedColon, [])

end

/-- A scanned document: its value, and whether anything but blanks follows that. -/
structure Document where
  root : Raw
  trailing : Bool

/-- Scans a text. Each step takes a character from it or follows one that does, so twice the
length is enough fuel. -/
def scan (text : String) : Document :=
  let s := text.toList
  let (root, rest) := scanValue (2 * s.length + 1) s
  ⟨root, !(skipGap rest).isEmpty⟩

end Storyline.Json
