import SeriesQuery.Url.Host
import SeriesQuery.Url.Path

/-!
What stands between the two slashes of a URL and its path: user, host and port.
-/

namespace SeriesQuery.Url

/-- The schemes of hosts on a network, with their usual ports. -/
def defaultPort? (scheme : List Char) : Option Nat :=
  if scheme = ['h', 't', 't', 'p'] ∨ scheme = ['w', 's'] then some 80
  else if scheme = ['h', 't', 't', 'p', 's'] ∨ scheme = ['w', 's', 's'] then some 443
  else if scheme = ['f', 't', 'p'] then some 21
  else none

/-- Whether URLs of the scheme have a host that is never empty. -/
def isHosted (scheme : List Char) : Bool := (defaultPort? scheme).isSome

structure Authority where
  /-- Already encoded, and with its `@` if there is any. -/
  userinfo : List Char := []
  host : List Char := []
  /-- Left out if it is the usual one of the scheme. -/
  port : Option Nat := none

namespace Authority

/-- The user information before the last `@`, if there is one, and the rest. -/
def splitUserinfo (cs : List Char) : Option (List Char) × List Char :=
  match Text.splitAt '@' cs with
  | [rest] => (none, rest)
  | parts => (some (['@'].intercalate parts.dropLast), parts.getLastD [])

/-- An empty password is left out with its colon, and with an empty name nothing is left. -/
def encodeUserinfo (cs : List Char) : List Char :=
  let (name, password) := Text.cutAt ':' cs
  let password := password.getD []
  percentEncode keepInUserinfo name ++
    (if password.isEmpty then [] else ':' :: percentEncode keepInUserinfo password) ++
    if name.isEmpty && password.isEmpty then [] else ['@']

/-- The host and what follows its colon. Colons between brackets belong to the host. -/
def splitPort : Bool → List Char → List Char × Option (List Char)
  | _, [] => ([], none)
  | inBrackets, c :: cs =>
    if c = ':' ∧ !inBrackets then ([], some cs)
    else
      let (host, port) := splitPort (c = '[' || inBrackets && c != ']') cs
      (c :: host, port)

def readPort (scheme digits : List Char) : Except Fault (Option Nat) :=
  let port := Nat.ofDigitChars 10 digits 0
  if !digits.all Char.isDigit || 65535 < port then .error .invalidPort
  else if digits.isEmpty || defaultPort? scheme = some port then .ok none
  else .ok (some port)

/-- A host may be missing where the scheme allows it, if there is no port and no user information.
A colon alone is none, but nothing at all before an `@` is a fault. -/
def mustHaveHost (scheme : List Char) (userinfo port : Option (List Char)) : Bool :=
  isHosted scheme || port.isSome ||
    match userinfo with
    | none => false
    | some cs => cs.isEmpty || !(encodeUserinfo cs).isEmpty

/-- The authority, and the beginning of a path that a backslash after the port marks. -/
def read (scheme cs : List Char) : Except Fault (Authority × List Char) := do
  let (userinfo, rest) := splitUserinfo cs
  let (host, port) := splitPort false rest
  if host.isEmpty && mustHaveHost scheme userinfo port then throw .emptyHost
  let host ← if isHosted scheme then readDomain host else readOpaqueHost host
  let userinfo := encodeUserinfo (userinfo.getD [])
  match port with
  | none => return ({ userinfo, host }, [])
  | some port =>
    let (digits, path) := (port.takeWhile (· != '\\'), port.dropWhile (· != '\\'))
    return ({ userinfo, host, port := ← readPort scheme digits }, path)

/-- The host of a file, of which the local one is not named. -/
def readFileHost (cs : List Char) : Except Fault Authority := do
  if cs.isEmpty then return {}
  let host ← readDomain cs
  return { host := if host = ['l', 'o', 'c', 'a', 'l', 'h', 'o', 's', 't'] then [] else host }

def chars (a : Authority) : List Char :=
  ['/', '/'] ++ a.userinfo ++ a.host ++
    match a.port with
    | none => []
    | some port => ':' :: Nat.toDigits 10 port

end Authority

end SeriesQuery.Url
