/-!
White space of any script, and what is done with it: trimming, and splitting into words and lines.
-/

namespace Storyline.Text

/-- The code points of white space beyond ASCII. -/
def wideBlanks : List Nat :=
  [0x85, 0xa0, 0x1680, 0x2000, 0x2001, 0x2002, 0x2003, 0x2004, 0x2005, 0x2006, 0x2007, 0x2008,
    0x2009, 0x200a, 0x2028, 0x2029, 0x202f, 0x205f, 0x3000]

def isBlank (c : Char) : Bool :=
  (9 ≤ c.toNat && c.toNat ≤ 13) || c == ' ' || wideBlanks.contains c.toNat

def trim (s : String) : String :=
  String.ofList (((s.toList.dropWhile isBlank).reverse.dropWhile isBlank).reverse)

/-- The maximal runs of other characters, `word` being the one that is under way. -/
def splitBlanks (word : List Char) : List Char → List (List Char)
  | [] => if word.isEmpty then [] else [word]
  | c :: rest =>
    if isBlank c then
      if word.isEmpty then splitBlanks [] rest else word :: splitBlanks [] rest
    else splitBlanks (word ++ [c]) rest

def words (s : String) : List String := (splitBlanks [] s.toList).map String.ofList

def closeLine (line : List Char) : String :=
  match line with
  | '\r' :: rest => String.ofList rest.reverse
  | line => String.ofList line.reverse

def linesFrom (line : List Char) : List Char → List String
  | [] => if line.isEmpty then [] else [String.ofList line.reverse]
  | c :: rest => if c = '\n' then closeLine line :: linesFrom [] rest else linesFrom (c :: line) rest

/-- The lines of a text. A line ends with a line feed, or a carriage return and a line feed; the
last one may end with the text. -/
def lines (s : String) : List String := linesFrom [] s.toList

end Storyline.Text
