/-
Addresses of database servers.

Reading a URL is the business of the database driver.  In a rehearsal there is none,
and this module and those that it imports stand in for it: they read a URL as the driver
reads it, so that a rehearsed unit connects where a real one would, or fails where it
would.  No other part of the library looks into a URL.

A database URL names a server: by the directory of a local socket or by a host,
and by the number of the socket.  The parameters of its query have the last
word; those that are not known are passed over.  A parameter or a part of the
URL that can not be understood is a fault of the configuration.

The server of a rehearsal listens at one local socket and nowhere else.  It knows no
encryption.
-/
import Demarcation.Failure
import Demarcation.Rehearsal.Url

namespace Demarcation.Rehearsal

/-- How a connection is encrypted. -/
inductive Encryption where
  | disable
  | allow
  | prefer
  | require
  | verifyAuthority
  | verifyFull
deriving DecidableEq

namespace Encryption

/-- The names of the modes. -/
def names : List (String × Encryption) :=
  [("disable", .disable), ("allow", .allow), ("prefer", .prefer), ("require", .require),
    ("verify-ca", .verifyAuthority), ("verify-full", .verifyFull)]

/-- Whether there must be no connection without encryption. -/
def isRequired : Encryption → Bool
  | .disable | .allow | .prefer => false
  | .require | .verifyAuthority | .verifyFull => true

end Encryption

/-- The address of a server.  Names are kept as the bytes that they stand for. -/
structure Address where
  /-- The directory of the local socket; it goes before the host. -/
  directory : Option (List UInt8) := none
  host : List UInt8 := "localhost".toList.flatMap Url.bytesOf
  socket : Nat := 5432
  encryption : Encryption := .prefer

namespace Address

/-- A name that starts with a slash is a directory, any other name a host. -/
def isDirectory (name : List UInt8) : Bool := name.head? = some '/'.toUInt8

/-- What `read` makes of the text that bytes encode. -/
def readText {α : Type} (what : String) (read : String → Option α) (bytes : List UInt8) :
    Except DatabaseFailure α :=
  match (Url.text? bytes).bind read with
  | some value => .ok value
  | none => .error (.configuration s!"bad value for {what}")

/-- The mode of encryption that a text names, in either case. -/
def encryptionNamed? (text : String) : Option Encryption :=
  Encryption.names.lookup (String.ofList (text.toList.map Char.toLower))

/-- An address of the net, in its usual form. -/
def isNetAddress (text : String) : Bool :=
  Url.isDottedQuad text.toList || Url.isIpv6 text.toList

/-- The address that a host leads to, by its name or by a directory. -/
def withHost (address : Address) (name : List UInt8) : Address :=
  if isDirectory name then { address with directory := some name }
  else { address with host := name }

/-- The address after one more parameter. -/
def withParameter (address : Address) (parameter : List UInt8 × List UInt8) :
    Except DatabaseFailure Address := do
  let (name, value) := parameter
  match Url.text? name with
  | some "sslmode" | some "ssl-mode" =>
    return { address with encryption := ← readText "sslmode" encryptionNamed? value }
  | some "statement-cache-capacity" =>
    let _ ← readText "statement-cache-capacity" (Text.word? 64 ·.toList) value
    return address
  | some "host" => return address.withHost value
  | some "hostaddr" =>
    let () ← readText "hostaddr" (fun text => if isNetAddress text then some () else none) value
    return { address with host := value }
  | some "port" =>
    return { address with socket := ← readText "port" (Text.word? 16 ·.toList) value }
  | _ => return address

/-- The address that the host of a URL leads to.  A directory must be a text; a
host is taken as it is written. -/
def withUrlHost (address : Address) (written : List Char) : Except DatabaseFailure Address := do
  let name := Url.percentDecode written
  if isDirectory name then
    let _ ← readText "the directory" some name
    return { address with directory := some name }
  else return { address with host := written.flatMap Url.bytesOf }

/-- The address that a URL names. -/
def ofUrl (text : String) : Except DatabaseFailure Address := do
  match Url.parse text with
  | .error problem => throw (.configuration problem.message)
  | .ok url =>
    let address : Address := { socket := url.socket.getD 5432 }
    let address ← match url.host with
      | none => pure address
      | some written => address.withUrlHost written
    (url.username :: url.password :: url.path).forM fun part => do
      let _ ← readText "a part of the URL" some (Url.percentDecode part)
    url.parameters.foldlM withParameter address

/-- Whether the host is the machine itself. -/
def isLocal (address : Address) : Bool :=
  match Url.text? address.host with
  | none => false
  | some host =>
    host ∈ ["localhost", "::1", "0.0.0.0"]
      || Url.isDottedQuad host.toList && host.toList.take 4 == "127.".toList

end Address

/-! ## The server of a rehearsal -/

/-- The directory of the socket at which the server listens. -/
def serverDirectory : String := "/stage"

/-- A URL of the server. -/
def serverUrl : String := s!"postgres://user@localhost/db?host={serverDirectory}&sslmode=disable"

/-- Why no connection to the server can be had at an address, if there is a reason.
At the sockets of the machine itself nobody answers, until patience ends. -/
def obstacle? (address : Address) : Option DatabaseFailure :=
  match address.directory with
  | some directory =>
    if Url.text? directory ≠ some serverDirectory ∨ address.socket ≠ 5432 then
      some (.io "No such file or directory")
    else if address.encryption.isRequired then some (.other "encryption is required")
    else none
  | none => if address.isLocal then some .poolTimedOut else some (.io "unknown host")

end Demarcation.Rehearsal
