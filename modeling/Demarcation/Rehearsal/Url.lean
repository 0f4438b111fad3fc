/-
URLs.

`Url.parse` takes a URL apart the way browsers do; so does the database driver for
which it stands in.  The schemes of the web have rules of their own: a backslash
counts as a slash, the slashes before the host may be missing, and there must be a
host.  The parts are left as they are written, percent signs included.
-/
import Demarcation.Rehearsal.Url.Host

namespace Demarcation.Rehearsal

/-- A URL in its parts. -/
structure Url where
  scheme : String
  username : List Char := []
  password : List Char := []
  host : Option (List Char) := none
  /-- The number of the socket, unless it is the usual one of the scheme. -/
  socket : Option Nat := none
  path : List (List Char) := []
  query : List Char := []

namespace Url

/-- What may be wrong with a URL. -/
inductive Problem where
  | noScheme
  | emptyHost
  | badHost
  | badSocket
deriving DecidableEq

def Problem.message : Problem → String
  | .noScheme => "relative URL without a base"
  | .emptyHost => "empty host"
  | .badHost => "invalid host"
  | .badSocket => "invalid socket number"

/-! ## Schemes -/

/-- What a scheme says about the rest of a URL. -/
inductive Kind where
  | web
  | file
  | other
deriving DecidableEq

/-- The schemes of the web and their usual sockets. -/
def webSchemes : List (String × Nat) :=
  [("http", 80), ("https", 443), ("ws", 80), ("wss", 443), ("ftp", 21)]

def kind (scheme : String) : Kind :=
  if scheme = "file" then .file
  else if (webSchemes.lookup scheme).isSome then .web
  else .other

/-- Whether a character can stand in a scheme, after its first letter. -/
def isSchemeChar (c : Char) : Bool := c.isAlphanum || c ∈ ['+', '-', '.']

/-- The scheme in lower case, and what follows its colon. -/
def scheme? (cs : List Char) : Option (String × List Char) :=
  let scheme := cs.takeWhile isSchemeChar
  match scheme.head?, cs.drop scheme.length with
  | some c, ':' :: rest =>
    if c.isAlpha then some (String.ofList (scheme.map Char.toLower), rest) else none
  | _, _ => none

/-! ## Parts -/

/-- The text without blanks and control characters around it, and without line
ends and tabs in it. -/
def clean (cs : List Char) : List Char :=
  let start := cs.dropWhile (·.toNat ≤ 0x20)
  let whole := (start.reverse.dropWhile (·.toNat ≤ 0x20)).reverse
  whole.filter fun c => c ∉ ['\t', '\n', '\r']

/-- Whether a character counts as a slash. -/
def isSlash (kind : Kind) (c : Char) : Bool := c = '/' || c = '\\' && kind != .other

/-- Whether a character ends the part of a URL that names a host. -/
def endsAuthority (kind : Kind) (c : Char) : Bool := isSlash kind c || c = '?' || c = '#'

/-- The text before the last `@` and the text behind it, if there is one. -/
def cutLastAt (cs : List Char) : Option (List Char × List Char) :=
  if '@' ∈ cs then
    let behind := (cs.reverse.takeWhile (· ≠ '@')).reverse
    some (cs.take (cs.length - behind.length - 1), behind)
  else none

/-- The text before the first colon that is not in brackets, and the text from
it on. -/
def cutHost (inBrackets : Bool) : List Char → List Char × List Char
  | [] => ([], [])
  | c :: rest =>
    if c = ':' ∧ !inBrackets then ([], c :: rest)
    else
      let inside := if c = '[' then true else if c = ']' then false else inBrackets
      (c :: (cutHost inside rest).1, (cutHost inside rest).2)

/-- The number of a socket behind its colon, and what follows its digits.  Only a
backslash may follow them. -/
def parseSocket (cs : List Char) : Except Problem (Option Nat × List Char) :=
  let (digits, rest) := Text.scanDigits cs
  if 65535 < Text.ofDigits digits ∨ rest.head?.any (· ≠ '\\') then .error .badSocket
  else .ok (if digits = [] then none else some (Text.ofDigits digits), rest)

/-- Whether a segment of a path stands for the directory itself. -/
def isDot (segment : List Char) : Bool :=
  String.ofList (segment.map Char.toLower) ∈ [".", "%2e"]

/-- Whether a segment of a path stands for the directory above. -/
def isDoubleDot (segment : List Char) : Bool :=
  String.ofList (segment.map Char.toLower) ∈ ["..", ".%2e", "%2e.", "%2e%2e"]

/-- Whether a text starts with the letter of a drive and a mark, and goes on with a
backslash if at all. -/
def startsWithDrive : List Char → Bool
  | letter :: mark :: rest =>
    letter.isAlpha && (mark = ':' || mark = '|') && rest.head?.all (· = '\\')
  | _ => false

/-- Whether a text is the letter of a drive and a mark. -/
def isDrive (cs : List Char) : Bool := cs.length = 2 && startsWithDrive cs

/-- The segments above those given, the last one first.  Nothing is above a drive. -/
def above : List (List Char) → List (List Char)
  | [] => []
  | last :: rest => if startsWithDrive last then last :: rest else rest

/-- The segments of a path, without those that only lead about. -/
def segments (kind : Kind) (path : List Char) : List (List Char) :=
  let plain := path.map fun c => if isSlash kind c then '/' else c
  ((parts '/' plain).foldl (fun segments segment =>
    if isDoubleDot segment then above segments
    else if isDot segment then segments
    else segment :: segments) []).reverse

/-- The URL with the path and the query that follow its host. -/
def withPath (url : Url) (kind : Kind) (cs : List Char) : Url :=
  let (path, rest) := cs.span fun c => c ≠ '?' ∧ c ≠ '#'
  let query := if rest.head? = some '?' then (rest.drop 1).takeWhile (· ≠ '#') else []
  let path := if path.head?.any (isSlash kind) then path.drop 1 else path
  { url with path := segments kind path, query }

/-- The URL with the user, the host, the path and the query that follow two
slashes. -/
def parseAuthority (scheme : String) (cs : List Char) : Except Problem Url := do
  let kind := kind scheme
  let (authority, rest) := cs.span fun c => !endsAuthority kind c
  let (user, place) := (cutLastAt authority).getD ([], authority)
  if '@' ∈ authority ∧ user = [] ∧ place = [] ∧ rest ≠ [] then throw .emptyHost
  let (username, password) := cutFirst ':' user
  let (host, behind) := cutHost false place
  let named := username ≠ [] ∨ password ≠ []
  if host = [] ∧ (kind = .web ∨ behind ≠ [] ∨ named) then throw .emptyHost
  let some host := parseHost? (kind = .web) host | throw .badHost
  let (socket, behind) ← parseSocket (behind.drop 1)
  let usual := socket = webSchemes.lookup scheme
  return withPath
    { scheme, username, password
      host := if host = [] then none else some host
      socket := if usual then none else socket }
    kind (behind ++ rest)

/-- The URL of a file, from behind its scheme.  A path on a drive leaves no host. -/
def parseFile (cs : List Char) : Except Problem Url :=
  match cs with
  | a :: b :: rest =>
    if isSlash .file a ∧ isSlash .file b then
      let (host, path) := rest.span fun c => !endsAuthority .file c
      if host = [] then .ok (withPath { scheme := "file" } .file path)
      else if isDrive host then .ok (withPath { scheme := "file" } .file rest)
      else
        match parseHost? true host with
        | none => .error .badHost
        | some host =>
          let url := withPath { scheme := "file" } .file path
          let named := host ≠ "localhost".toList ∧ !url.path.head?.any isDrive
          .ok { url with host := if named then some host else none }
    else .ok (withPath { scheme := "file" } .file cs)
  | cs => .ok (withPath { scheme := "file" } .file cs)

/-- The parts of a URL. -/
def parse (text : String) : Except Problem Url :=
  match scheme? (clean text.toList) with
  | none => .error .noScheme
  | some (scheme, rest) =>
    match kind scheme with
    | .file => parseFile rest
    | .web => parseAuthority scheme (rest.dropWhile (isSlash .web))
    | .other =>
      match rest with
      | '/' :: '/' :: rest => parseAuthority scheme rest
      | '/' :: _ => .ok (withPath { scheme } .other rest)
      | _ =>
        let url := withPath { scheme } .other rest
        .ok { url with path := [rest.takeWhile fun c => c ≠ '?' ∧ c ≠ '#'] }

/-- The parameters of the query: names and values, as the bytes that they stand
for. -/
def parameters (url : Url) : List (List UInt8 × List UInt8) :=
  ((parts '&' url.query).filter (· ≠ [])).map fun pair =>
    let (name, value) := cutFirst '=' pair
    (formDecode name, formDecode value)

example : (parse "Redis://u:p@h:80/a/../b?x=1#y").toOption.map
      (fun url => (url.username, url.host, url.socket, url.path))
    = some (['u'], some ['h'], some 80, [['b']]) := by decide +kernel
example : segments .other "a/D:/../b".toList = [['a'], "D:".toList, ['b']] := by decide +kernel
example : segments .web "a\\..\\b/.".toList = [['b']] := by decide +kernel
example : (parse "postgres://u@/db").toOption.isNone ∧ (parse "a b:c").toOption.isNone := by
  decide +kernel

end Url

end Demarcation.Rehearsal
