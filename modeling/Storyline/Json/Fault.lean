import Storyline.Json.Writer
import Storyline.Text.Quoted

/-!
What can be wrong with a text that should hold JSON of a given shape.

A `Fault` is a text that is no JSON. A `Mismatch` is JSON of another shape than the one asked for.
Each has its wording here and nowhere else.
-/

namespace Storyline.Json

/-- Ways in which a text is no JSON. -/
inductive Fault
  | endInList
  | endInObject
  | endInText
  | endInValue
  | expectedColon
  | expectedListCommaOrEnd
  | expectedObjectCommaOrEnd
  | expectedWord
  | expectedValue
  | invalidEscape
  | invalidNumber
  | numberOutOfRange
  | controlCharacter
  | keyNotText
  | loneSurrogate
  | unexpectedEndOfEscape
  | trailingComma
  | trailingCharacters
  | tooDeep
  deriving DecidableEq

def Fault.message : Fault → String
  | endInList => "EOF while parsing a list"
  | endInObject => "EOF while parsing an object"
  | endInText => "EOF while parsing a string"
  | endInValue => "EOF while parsing a value"
  | expectedColon => "expected `:`"
  | expectedListCommaOrEnd => "expected `,` or `]`"
  | expectedObjectCommaOrEnd => "expected `,` or `\x7d`"
  | expectedWord => "expected ident"
  | expectedValue => "expected value"
  | invalidEscape => "invalid escape"
  | invalidNumber => "invalid number"
  | numberOutOfRange => "number out of range"
  | controlCharacter => "control character (\\u0000-\\u001F) found while parsing a string"
  | keyNotText => "key must be a string"
  | loneSurrogate => "lone leading surrogate in hex escape"
  | unexpectedEndOfEscape => "unexpected end of hex escape"
  | trailingComma => "trailing comma"
  | trailingCharacters => "trailing characters"
  | tooDeep => "recursion limit exceeded"

inductive Found
  | null
  | bool (b : Bool)
  | number (n : Number)
  | text (s : String)
  | sequence
  | map
  | unitVariant
  deriving DecidableEq

def Found.message : Found → String
  | null => "null"
  | bool true => "boolean `true`"
  | bool false => "boolean `false`"
  | number (.whole n) => s!"integer `{String.ofList (writeInt n.value)}`"
  | number (.real x) => s!"floating point `{String.ofList x.written}`"
  | text s => "string " ++ Text.quoted s
  | sequence => "sequence"
  | map => "map"
  | unitVariant => "unit variant"

/-- Ways in which JSON has another shape than the one asked for. -/
inductive Mismatch
  | missingField (name : String)
  | duplicateField (name : String)
  | unknownVariant (name : String) (known : List String)
  | wrongType (found : Found) (expected : String)
  | outOfRange (value : Int) (expected : String)
  | wrongLength (length : Nat) (expected : String)
  deriving DecidableEq

def listed (names : List String) : String :=
  match names with
  | [] => ""
  | [a] => s!"`{a}`"
  | [a, b] => s!"`{a}` or `{b}`"
  | names => "one of " ++ String.intercalate ", " (names.map fun n => s!"`{n}`")

def Mismatch.message : Mismatch → String
  | missingField name => s!"missing field `{name}`"
  | duplicateField name => s!"duplicate field `{name}`"
  | unknownVariant name known => s!"unknown variant `{name}`, expected {listed known}"
  | wrongType found expected => s!"invalid type: {found.message}, expected {expected}"
  | outOfRange value expected =>
    s!"invalid value: integer `{String.ofList (writeInt value)}`, expected {expected}"
  | wrongLength length expected => s!"invalid length {length}, expected {expected}"

inductive ReadError
  | fault (f : Fault)
  | mismatch (m : Mismatch)
  deriving DecidableEq

def ReadError.message : ReadError → String
  | fault f => f.message
  | mismatch m => m.message

end Storyline.Json
