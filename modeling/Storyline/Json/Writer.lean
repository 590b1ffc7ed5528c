import Storyline.Binary64.Shortest
import Storyline.Json.Basic

/-!
The written form of JSON trees.

It is compact. In a text the quote, the backslash and the characters below U+0020 are escaped, the
common ones of those by a letter and the rest by four lower-case hexadecimal digits.
-/

namespace Storyline.Json

def hexDigit (n : Nat) : Char := Nat.digitChar n

def writeChar (c : Char) : List Char :=
  match c with
  | '"' => ['\\', '"']
  | '\\' => ['\\', '\\']
  | '\x08' => ['\\', 'b']
  | '\x0c' => ['\\', 'f']
  | '\n' => ['\\', 'n']
  | '\r' => ['\\', 'r']
  | '\t' => ['\\', 't']
  | c =>
    if c.toNat < 32 then ['\\', 'u', '0', '0', hexDigit (c.toNat / 16), hexDigit (c.toNat % 16)]
    else [c]

def writeText (s : String) : List Char := '"' :: s.toList.flatMap writeChar ++ ['"']

def writeInt (n : Int) : List Char :=
  if n < 0 then '-' :: Nat.toDigits 10 n.natAbs else Nat.toDigits 10 n.natAbs

/-- A number; a real one always shows a point or an exponent. -/
def writeNumber : Number → List Char
  | .whole n => writeInt n.value
  | .real x => x.written

mutual

def write : Json → List Char
  | .null => ['n', 'u', 'l', 'l']
  | .bool true => ['t', 'r', 'u', 'e']
  | .bool false => ['f', 'a', 'l', 's', 'e']
  | .number n => writeNumber n
  | .string s => writeText s
  | .array [] => ['[', ']']
  | .array (item :: items) => '[' :: write item ++ writeItems items
  | .object [] => ['\x7b', '\x7d']
  | .object ((key, item) :: fields) =>
    '\x7b' :: writeText key ++ ':' :: write item ++ writeFields fields

/-- The rest of an array after its first item. -/
def writeItems : List Json → List Char
  | [] => [']']
  | item :: items => ',' :: write item ++ writeItems items

def writeFields : List (String × Json) → List Char
  | [] => ['\x7d']
  | (key, item) :: fields => ',' :: writeText key ++ ':' :: write item ++ writeFields fields

end

def text (j : Json) : String := String.ofList j.write

end Storyline.Json
