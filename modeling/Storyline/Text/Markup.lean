import Storyline.Text.Blank

/-!
Inline markup: line breaks, speaker tags such as `[JORDAN]:`, and emphasis between asterisks.

A text is split from left to right. What is no markup stays text, and neighbouring text is one
span, so writing the spans back gives the text.
-/

namespace Storyline.Text

inductive Span
  | text (s : String)
  | speaker (tag : String)
  | emphasis (inner : String)
  | lineBreak
  deriving DecidableEq

/-- The characters of a speaker's name: capitals, blanks, and the apostrophe. -/
def isSpeakerChar (c : Char) : Bool := ('A' ≤ c && c ≤ 'Z') || isBlank c || c.toNat == 0x27

def speakerName? (rest : List Char) : Option (List Char) :=
  let name := rest.takeWhile (· != ']')
  match rest.drop name.length with
  | ']' :: ':' :: _ => if !name.isEmpty && name.all isSpeakerChar then some name else none
  | _ => none

/-- What is emphasized after an asterisk: it is not empty, and a second asterisk follows it. -/
def emphasized? (rest : List Char) : Option (List Char) :=
  let inner := rest.takeWhile (· != '*')
  match rest.drop inner.length with
  | '*' :: _ => if inner.isEmpty then none else some inner
  | _ => none

def plainSpan (plain : List Char) : List Span :=
  if plain.isEmpty then [] else [.text (String.ofList plain.reverse)]

/-- The spans from here on, after plain text that is given last character first. -/
def spansFrom (plain : List Char) (s : List Char) : List Span :=
  match s with
  | [] => plainSpan plain
  | '\n' :: rest => plainSpan plain ++ .lineBreak :: spansFrom [] rest
  | '[' :: rest =>
    match speakerName? rest with
    | some name =>
      plainSpan plain ++ .speaker (String.ofList ('[' :: name ++ [']', ':']))
        :: spansFrom [] (rest.drop (name.length + 2))
    | none => spansFrom ('[' :: plain) rest
  | '*' :: rest =>
    match emphasized? rest with
    | some inner =>
      plainSpan plain ++ .emphasis (String.ofList inner)
        :: spansFrom [] (rest.drop (inner.length + 1))
    | none => spansFrom ('*' :: plain) rest
  | c :: rest => spansFrom (c :: plain) rest
termination_by s.length
decreasing_by all_goals simp only [List.length_cons, List.length_drop]; omega

def spans (s : String) : List Span := spansFrom [] s.toList

end Storyline.Text
