/-
AwsSigning/Http/Uri.lean

URIs of requests: reading, writing and the rules on their characters.

A URI is one of three shapes.  `/path?query` names a target on a server that
is known already; a bare authority such as `host:80` names a server; and
`scheme://authority/path?query` names both.  A fragment is read and dropped.
An empty path after an authority stands for `/`.

A path and its query are kept with the proof that they hold nothing but
characters of their own (`Target`), so what is built can also be sent.

Faults are found from left to right: the length, the scheme, the authority,
the path and the query.
-/
import AwsSigning.Error

namespace AwsSigning

/-! ### Characters -/

/-- A character outside of ASCII. -/
def isBeyondAscii (c : Char) : Bool := 0x80 ≤ c.toNat

/-- A character that may stand in a path. -/
def isPathChar (c : Char) : Bool :=
  let n := c.toNat
  n = 0x21 || n = 0x22 || (0x24 ≤ n && n ≤ 0x3B) || n = 0x3D || (0x40 ≤ n && n ≤ 0x5F)
    || (0x61 ≤ n && n ≤ 0x7E) || isBeyondAscii c

/-- A character that may stand in a query. -/
def isQueryChar (c : Char) : Bool :=
  let n := c.toNat
  n = 0x21 || (0x24 ≤ n && n ≤ 0x3B) || n = 0x3D || (0x3F ≤ n && n ≤ 0x7E) || isBeyondAscii c

/-- A character that may stand in a scheme. -/
def isSchemeChar (c : Char) : Bool := c.isAlphanum || c = '+' || c = '-' || c = '.' || c = '~'

/-- A character that may stand in an authority; brackets, colons and `@` have rules of their own. -/
def isAuthorityChar (c : Char) : Bool := c.isAlphanum || "!$&'()*+,-.:;=@[]_~".toList.contains c

/-- A character that ends an authority. -/
def endsAuthority (c : Char) : Bool := c = '/' || c = '?' || c = '#'

/-! ### Shapes -/

/-- Whether a path and a query may stand together: path characters behind a slash and query
characters behind the question mark, or a lone `*`. -/
def isTarget (path : String) (query : Option String) : Bool :=
  (path = "*" && query.isNone) ||
    (path.toList.head? = some '/' && path.toList.all isPathChar
      && query.all fun query => query.toList.all isQueryChar)

/-- A path and, behind a question mark, a query. -/
structure Target where
  /-- The path, as it is written. -/
  path : String
  /-- The query, as it is written. -/
  query : Option String
  /-- Each holds nothing but what may stand in it. -/
  legal : isTarget path query = true
deriving DecidableEq, Repr

/-- The target of a request that names none. -/
def Target.root : Target := ⟨"/", none, by decide⟩

/-- The target of a request that is about a whole server. -/
def Target.star : Target := ⟨"*", none, by decide⟩

/-- Where a request goes. -/
structure Uri where
  /-- The scheme, without its colon. -/
  scheme : Option String
  /-- The host with port and user information. -/
  authority : Option String
  /-- Path and query. -/
  target : Option Target
deriving DecidableEq, Repr

/-- The URI of a request that names nothing. -/
def Uri.root : Uri := ⟨none, none, some .root⟩

/-! ### Writing -/

/-- Path and query as they are sent. -/
def Target.render (t : Target) : String :=
  t.path ++ (match t.query with | some query => "?" ++ query | none => "")

/-- The whole URI. -/
def Uri.render (u : Uri) : String :=
  (match u.scheme with | some scheme => scheme ++ "://" | none => "")
    ++ u.authority.getD ""
    ++ (match u.target with | some target => target.render | none => "")

/-! ### Targets -/

/-- The text before a fragment. -/
def dropFragment (s : List Char) : List Char := s.takeWhile (· ≠ '#')

/-- The query behind a path, if there is one. -/
def queryAfter (s : List Char) : Option String :=
  match s with
  | '?' :: rest => some (String.ofList (dropFragment rest))
  | _ => none

/-- Path and query behind an authority, or alone; an empty path stands for `/`. -/
def Target.ofChars (s : List Char) : Except UriFault Target :=
  let path := s.takeWhile fun c => c ≠ '?' && c ≠ '#'
  let shown := if path = [] then "/" else String.ofList path
  let query := queryAfter (s.drop path.length)
  if h : isTarget shown query = true then .ok ⟨shown, query, h⟩ else .error .character

/-- Path and query that stand alone: not empty, and the path starts with a slash unless it is
empty or a lone `*`. -/
def Target.parse (s : String) : Except UriFault Target :=
  match s.toList with
  | [] => .error .empty
  | ['*'] => .ok .star
  | c :: rest =>
    if endsAuthority c then Target.ofChars (c :: rest) else .error .pathWithoutSlash

/-! ### Authorities -/

/-- What has been seen of an authority. -/
structure AuthorityScan where
  /-- Colons since the user information or the brackets. -/
  colons : Nat := 0
  /-- An opening bracket has been seen. -/
  opened : Bool := false
  /-- A closing bracket has been seen. -/
  shut : Bool := false
  /-- A percent sign since the user information or the brackets. -/
  percent : Bool := false
  /-- The last character was the `@` after user information. -/
  bareAt : Bool := false
deriving DecidableEq, Repr

/-- The most colons there may be without brackets around them being closed. -/
def maxColons : Nat := 8

/-- One more character of an authority. -/
def AuthorityScan.step (scan : AuthorityScan) (c : Char) : Except UriFault AuthorityScan :=
  let scan' := { scan with bareAt := false }
  if c = ':' then
    if scan.colons ≥ maxColons then .error .authority
    else .ok { scan' with colons := scan.colons + 1 }
  else if c = '[' then
    if scan.percent || scan.opened then .error .authority else .ok { scan' with opened := true }
  else if c = ']' then
    if !scan.opened || scan.shut then .error .authority
    else .ok { scan' with shut := true, colons := 0, percent := false }
  else if c = '@' then .ok { scan with colons := 0, percent := false, bareAt := true }
  else if c = '%' then .ok { scan' with percent := true }
  else if isAuthorityChar c then .ok scan'
  else .error .character

/-- Whether what has been seen is a whole authority. -/
def AuthorityScan.complete (scan : AuthorityScan) : Bool :=
  scan.opened == scan.shut && scan.colons ≤ 1 && !scan.bareAt && !scan.percent

/-- The authority at the front of a text, and what follows it. -/
def splitAuthority (s : List Char) : Except UriFault (List Char × List Char) := do
  if s = [] then throw .empty
  let authority := s.takeWhile (!endsAuthority ·)
  let scan ← authority.foldlM AuthorityScan.step {}
  if scan.complete then pure (authority, s.drop authority.length) else throw .authority

/-! ### Schemes -/

/-- The longest scheme there may be. -/
def maxSchemeLength : Nat := 64

/-- The scheme at the front of a text, if there is one, and what follows its `://`. -/
def splitScheme (s : List Char) : Except UriFault (Option String × List Char) :=
  let scheme := s.takeWhile isSchemeChar
  match s.drop scheme.length with
  | ':' :: '/' :: '/' :: rest =>
    if scheme = [] ∧ rest = [] then .ok (none, s)
    else if scheme.length > maxSchemeLength then .error .schemeTooLong
    else
      let small := scheme.map Char.toLower
      let known := small = "http".toList || small = "https".toList
      .ok (some (String.ofList (if known then small else scheme)), rest)
  | _ => .ok (none, s)

/-! ### Whole URIs -/

/-- The longest URI there may be, in bytes. -/
def maxUriLength : Nat := 65534

/-- A URI that is more than a target. -/
def Uri.parseFull (s : List Char) : Except UriFault Uri := do
  let (scheme, rest) ← splitScheme s
  let (authority, after) ← splitAuthority rest
  match scheme with
  | none =>
    if after = [] then pure ⟨none, some (String.ofList authority), none⟩
    else if s.length = 1 then throw .character
    else throw .format
  | some _ =>
    if authority = [] then throw .format
    else
      let target ← Target.ofChars after
      pure ⟨scheme, some (String.ofList authority), some target⟩

/-- The URI that a text spells. -/
def Uri.parse (s : String) : Except UriFault Uri :=
  if s.utf8ByteSize > maxUriLength then .error .tooLong
  else match s.toList with
    | [] => .error .empty
    | ['*'] => .ok ⟨none, none, some .star⟩
    | '/' :: rest => (Target.ofChars ('/' :: rest)).map fun target => ⟨none, none, some target⟩
    | chars => Uri.parseFull chars

end AwsSigning
