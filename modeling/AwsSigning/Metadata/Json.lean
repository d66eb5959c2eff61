/-
AwsSigning/Metadata/Json.lean

As much of JSON as answers of the metadata service need: strings are read,
and all other values are checked and passed over.

A value is passed over with a stack of the brackets that are open, so values
nested to any depth take no deeper recursion than flat ones.  Each step takes
something off the text, which is why the length of the text bounds their
number.

A string that is read has to spell text: an escape for half a surrogate pair
is refused.  A string that is passed over may hold any escape.
-/
import AwsSigning.Digest.Hex

namespace AwsSigning.Json

/-! ### White space -/

/-- White space between tokens. -/
def isSpace (c : Char) : Bool := c = ' ' || c = '\n' || c = '\t' || c = '\r'

/-- The text from its next token on. -/
def skipSpace (s : List Char) : List Char := s.dropWhile isSpace

/-! ### Strings -/

/-- The number spelled by four hexadecimal digits, and what follows them. -/
def hex4? : List Char → Option (Nat × List Char)
  | a :: b :: c :: d :: rest => do
    let a ← Hex.value? a
    let b ← Hex.value? b
    let c ← Hex.value? c
    let d ← Hex.value? d
    pure (((a * 16 + b) * 16 + c) * 16 + d, rest)
  | _ => none

/-- The character that a letter stands for behind a backslash. -/
def escape? (c : Char) : Option Char :=
  if c = '"' || c = '\\' || c = '/' then some c
  else if c = 'b' then some '\x08'
  else if c = 'f' then some '\x0c'
  else if c = 'n' then some '\n'
  else if c = 'r' then some '\r'
  else if c = 't' then some '\t'
  else none

/-- The character behind a backslash and `u`: one number, or two that make a surrogate pair. -/
def unicode? (s : List Char) : Option (Char × List Char) := do
  let (n, rest) ← hex4? s
  if 0xDC00 ≤ n ∧ n ≤ 0xDFFF then none
  else if n < 0xD800 ∨ 0xDBFF < n then some (Char.ofNat n, rest)
  else match rest with
    | '\\' :: 'u' :: rest => do
      let (low, rest) ← hex4? rest
      if 0xDC00 ≤ low ∧ low ≤ 0xDFFF then
        some (Char.ofNat ((n - 0xD800) * 0x400 + (low - 0xDC00) + 0x10000), rest)
      else none
    | _ => none

/-- The rest of a string, with what has been read of it in reverse. -/
def stringFrom? : Nat → List Char → List Char → Option (String × List Char)
  | 0, _, _ => none
  | fuel + 1, read, s =>
    match s with
    | '"' :: rest => some (String.ofList read.reverse, rest)
    | '\\' :: 'u' :: rest =>
      match unicode? rest with
      | some (c, rest) => stringFrom? fuel (c :: read) rest
      | none => none
    | '\\' :: c :: rest =>
      match escape? c with
      | some c => stringFrom? fuel (c :: read) rest
      | none => none
    | c :: rest => if c < ' ' || c = '\\' then none else stringFrom? fuel (c :: read) rest
    | [] => none

/-- The string at the front of a text, and what follows it. -/
def string? (s : List Char) : Option (String × List Char) :=
  match s with
  | '"' :: rest => stringFrom? s.length [] rest
  | _ => none

/-- What follows a string whose opening quote is gone; nothing is made of its escapes. -/
def skipString? : Nat → List Char → Option (List Char)
  | 0, _ => none
  | fuel + 1, s =>
    match s with
    | '"' :: rest => some rest
    | '\\' :: 'u' :: rest =>
      match hex4? rest with
      | some (_, rest) => skipString? fuel rest
      | none => none
    | '\\' :: c :: rest => if (escape? c).isSome then skipString? fuel rest else none
    | c :: rest => if c < ' ' || c = '\\' then none else skipString? fuel rest
    | [] => none

/-! ### Numbers -/

/-- What follows one digit or more. -/
def skipDigits? (s : List Char) : Option (List Char) :=
  match s with
  | c :: rest => if c.isDigit then some (rest.dropWhile Char.isDigit) else none
  | [] => none

/-- What follows an exponent, if there is one. -/
def skipExponent? (s : List Char) : Option (List Char) :=
  match s with
  | c :: rest =>
    if c = 'e' || c = 'E' then
      match rest with
      | '+' :: rest | '-' :: rest => skipDigits? rest
      | rest => skipDigits? rest
    else some s
  | [] => some s

/-- What follows the digits of a number; a zero is not followed by another digit. -/
def skipNumber? (s : List Char) : Option (List Char) := do
  let afterDigits ← match s with
    | '0' :: c :: rest => if c.isDigit then none else some (c :: rest)
    | s => skipDigits? s
  match afterDigits with
  | '.' :: rest => do skipExponent? (← skipDigits? rest)
  | rest => skipExponent? rest

/-! ### Passing over values -/

/-- A bracket that is open. -/
inductive Open where
  | array
  | object
deriving DecidableEq, Repr

/-- What comes next in a value that is passed over. -/
inductive Next where
  /-- A value. -/
  | value
  /-- The first item of what was just opened, or its end. -/
  | firstItem
  /-- A comma or the end of what is open. -/
  | more
  /-- A key with its colon. -/
  | key
deriving DecidableEq, Repr

/-- What follows a word. -/
def skipWord? (word : String) (s : List Char) : Option (List Char) :=
  if word.toList.isPrefixOf s then some (s.drop word.length) else none

/-- What follows a value that holds no others. -/
def skipScalar? (s : List Char) : Option (List Char) :=
  match s with
  | 'n' :: _ => skipWord? "null" s
  | 't' :: _ => skipWord? "true" s
  | 'f' :: _ => skipWord? "false" s
  | '"' :: rest => skipString? s.length rest
  | '-' :: rest => skipNumber? rest
  | s => skipNumber? s

/-- What is expected where an item of an open bracket may stand. -/
def Open.item : Open → Next
  | .array => .value
  | .object => .key

/-- The character that closes a bracket. -/
def Open.closing : Open → Char
  | .array => ']'
  | .object => '\x7d'

/-- What follows the value under way, with the brackets that are open. -/
def skipFrom? : Nat → List Open → Next → List Char → Option (List Char)
  | 0, _, _, _ => none
  | fuel + 1, stack, next, s =>
    let s := skipSpace s
    match next, stack, s with
    | .value, _, '[' :: rest => skipFrom? fuel (.array :: stack) .firstItem rest
    | .value, _, '\x7b' :: rest => skipFrom? fuel (.object :: stack) .firstItem rest
    | .value, _, s =>
      match skipScalar? s with
      | some rest => skipFrom? fuel stack .more rest
      | none => none
    | .firstItem, top :: below, c :: rest =>
      if c = top.closing then skipFrom? fuel below .more rest
      else skipFrom? fuel stack top.item s
    | .more, [], _ => some s
    | .more, top :: below, c :: rest =>
      if c = top.closing then skipFrom? fuel below .more rest
      else if c = ',' then skipFrom? fuel stack top.item rest
      else none
    | .key, _, '"' :: rest =>
      match (skipString? s.length rest).map skipSpace with
      | some (':' :: rest) => skipFrom? fuel stack .value rest
      | _ => none
    | _, _, _ => none

/-- What follows the value at the front of a text. -/
def skipValue? (s : List Char) : Option (List Char) := skipFrom? (3 * s.length + 3) [] .value s

end AwsSigning.Json
