/-
AwsSigning/Platform.lean

The world around a program: a clock, environment variables, properties,
files, and a server that answers requests.

A platform is a value.  The clock moves only when it is moved, files are a
table from paths to contents, and the server answers from a list of replies
that are used up one by one.  Whatever is sent and every warning that is
given is written down, so what an operation did can be read off the platform
after it.
-/
import AwsSigning.Http.Request
import AwsSigning.Operation
import AwsSigning.Table
import AwsSigning.Text.Description
import AwsSigning.Time.Instant

namespace AwsSigning

/-! ### The record -/

/-- What stands under a path. -/
inductive FileState where
  /-- A file with its contents. -/
  | contents (bytes : Bytes)
  /-- A file that cannot be read. -/
  | unreadable
deriving DecidableEq, Repr

/-- What a request gets. -/
abbrev Reply := Except Error Response

/-- A reply with a status given as a number. -/
def Reply.ofCode (code : Int) (payload : Bytes) : Reply :=
  match Status.ofCode? code with
  | some status => .ok ⟨status, payload⟩
  | none => .error (.http .status)

/-- The world around a program. -/
structure Platform where
  /-- The time on the clock. -/
  now : Instant
  /-- Environment variables. -/
  environment : Table String := []
  /-- The home directory that the system knows for the user. -/
  systemHome : Option String := none
  /-- Properties of the process. -/
  properties : Table String := []
  /-- Files by path, if files can be read at all. -/
  files : Option (Table FileState) := none
  /-- Replies still to come, if requests can be sent at all. -/
  replies : Option (List Reply) := none
  /-- Requests sent so far, the first one first. -/
  sent : List Outgoing := []
  /-- Warnings given so far, the first one first. -/
  warnings : List String := []

namespace Platform

/-! ### Looking things up -/

/-- The value of an environment variable. -/
def envVariable? (p : Platform) (name : String) : Option String := p.environment.get? name

/-- The value of a property. -/
def property? (p : Platform) (name : String) : Option String := p.properties.get? name

/-- The contents of a file. -/
def fileBytes (p : Platform) (path : String) : Except Error Bytes :=
  match p.files with
  | none => .error (.platform .noFileReader)
  | some files =>
    match files.get? path with
    | some (.contents bytes) => .ok bytes
    | some .unreadable => .error (.platform .fileUnreadable)
    | none => .error ((Error.platform .fileNotFound).within ("path: " ++ path))

/-- The contents of a file as text; what is no text becomes U+FFFD. -/
def fileText (p : Platform) (path : String) : Except Error String :=
  (p.fileBytes path).map Utf8.toStringLossy

/-! ### The home directory -/

/-- A text that is not empty. -/
def nonEmpty (s : Option String) : Option String := s.filter (· ≠ "")

/-- The home directory of the user: the variable `HOME`, the property `user.home`, or what the
system knows. -/
def home? (p : Platform) : Option String :=
  nonEmpty (p.envVariable? "HOME") <|> nonEmpty (p.property? "user.home") <|> p.systemHome

/-- A path with a leading `~` replaced by the home directory; other paths stay. -/
def expandHome? (p : Platform) (path : String) : Option String :=
  match path.toList with
  | ['~'] => p.home?
  | '~' :: '/' :: rest => p.home?.map (· ++ String.ofList ('/' :: rest))
  | '~' :: '\\' :: rest => p.home?.map (· ++ String.ofList ('\\' :: rest))
  | _ => some path

/-! ### Acting -/

/-- The clock moved by a span. -/
def advance (p : Platform) (d : Duration) : Platform := { p with now := p.now.add d }

/-- The platform with one more warning. -/
def warn (p : Platform) (text : String) : Platform := { p with warnings := p.warnings ++ [text] }

/-- A request sent: it is written down, and the next reply is used up. -/
def send (request : Outgoing) : Operation Platform Response := Operation.of fun p =>
  match p.replies with
  | none => (.error (.platform .noHttpClient), p)
  | some [] => (.error (.platform .noResponseLeft), { p with sent := p.sent ++ [request] })
  | some (reply :: rest) =>
    (reply, { p with replies := some rest, sent := p.sent ++ [request] })

/-! ### Description -/

/-- A platform on which nothing has been set up but the clock of the system. -/
def describeBare : String :=
  Text.describeRecord "Context"
    [("fs", "NoopFileRead"), ("http", "NoopHttpSend"), ("env", "NoopEnv"),
     ("props", "NoopProperties"), ("clock", "SystemClock")]

end Platform

end AwsSigning
