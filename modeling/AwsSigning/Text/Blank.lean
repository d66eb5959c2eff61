/-
AwsSigning/Text/Blank.lean

White space and what is cut along it: trimming, words, lines.

Blank characters are those with the Unicode property White_Space, 25 in all.
A line ends at a line feed, and one carriage return before that line feed
belongs to the ending; text after the last line feed is a line only if there
is any.  The two rules make a file with CR LF endings read like one with LF.
-/

namespace AwsSigning.Text

/-! ### Blank characters -/

/-- Closed ranges of the code points with the property White_Space. -/
def blankRanges : List (Nat × Nat) :=
  [(0x09, 0x0D), (0x20, 0x20), (0x85, 0x85), (0xA0, 0xA0), (0x1680, 0x1680), (0x2000, 0x200A),
   (0x2028, 0x2029), (0x202F, 0x202F), (0x205F, 0x205F), (0x3000, 0x3000)]

/-- Whether a code point lies in one of some closed ranges. -/
def inRanges (ranges : List (Nat × Nat)) (n : Nat) : Bool :=
  ranges.any fun r => r.1 ≤ n && n ≤ r.2

/-- White space. -/
def isBlank (c : Char) : Bool := inRanges blankRanges c.toNat

/-- White space among the ASCII characters: tab, line feed, form feed, carriage return, space. -/
def isAsciiBlank (c : Char) : Bool :=
  c = '\t' || c = '\n' || c = '\x0c' || c = '\r' || c = ' '

/-- The text holds nothing but white space. -/
def isBlankText (s : List Char) : Bool := s.all isBlank

/-! ### Trimming and words -/

/-- The text without its leading white space. -/
def trimStart (s : List Char) : List Char := s.dropWhile isBlank

/-- The text without its trailing white space. -/
def trimEnd (s : List Char) : List Char := (s.reverse.dropWhile isBlank).reverse

/-- The text without white space at either end. -/
def trim (s : List Char) : List Char := trimEnd (trimStart s)

/-- Pieces of a text between the characters that `cut` accepts; there is always at least one. -/
def splitWhen (cut : Char → Bool) : List Char → List (List Char)
  | [] => [[]]
  | c :: rest =>
    if cut c then [] :: splitWhen cut rest
    else match splitWhen cut rest with
      | [] => [[c]]
      | piece :: pieces => (c :: piece) :: pieces

/-- The non-empty pieces between white space. -/
def words (s : List Char) : List (List Char) := (splitWhen isBlank s).filter (· ≠ [])

/-- The part before the first `mark` and the part after it, if there is one. -/
def splitFirst? (mark : Char) : List Char → Option (List Char × List Char)
  | [] => none
  | c :: rest =>
    if c = mark then some ([], rest)
    else (splitFirst? mark rest).map fun (before, after) => (c :: before, after)

/-- The part before the last `mark` and the part after it, if there is one. -/
def splitLast? (mark : Char) (s : List Char) : Option (List Char × List Char) :=
  (splitFirst? mark s.reverse).map fun (after, before) => (before.reverse, after.reverse)

/-! ### Lines -/

/-- The line without the one carriage return that belongs to its ending. -/
def dropLineEnd (line : List Char) : List Char :=
  match line.reverse with
  | '\r' :: rest => rest.reverse
  | _ => line

/-- The lines of pieces that stood between line feeds: the last piece has no ending of its own. -/
def linesOfPieces : List (List Char) → List (List Char)
  | [] => []
  | [last] => if last = [] then [] else [last]
  | piece :: rest => dropLineEnd piece :: linesOfPieces rest

/-- The lines of a text, without their endings. -/
def lines (s : List Char) : List (List Char) := linesOfPieces (splitWhen (· = '\n') s)

end AwsSigning.Text
