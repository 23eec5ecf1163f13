import SeriesQuery.Error
import SeriesQuery.Json.Decode
import SeriesQuery.Url.Basic

/-!
The settings of a connection, their JSON form, and the endpoints that they lead to.
-/

namespace SeriesQuery

structure Connection where
  /-- With its scheme. -/
  host : String
  port : UInt16 := 6041
  username : String := ""
  password : String := ""
  database : String := ""
  timeoutSeconds : UInt64 := 5
  /-- Requests a second. -/
  rateLimit : UInt32 := 150
  rateBurst : UInt32 := 1
  deriving DecidableEq

namespace Connection

def default : Connection := { host := "http://localhost" }

def withCredentials (c : Connection) (username password : String) : Connection :=
  { c with username, password }

def withDatabase (c : Connection) (database : String) : Connection :=
  { c with database }

/-- A timeout is kept in whole seconds. -/
def withTimeout (c : Connection) (milliseconds : Nat) : Connection :=
  { c with timeoutSeconds := .ofNat (milliseconds / 1000) }

def withRateLimit (c : Connection) (limit burst : UInt32) : Connection :=
  { c with rateLimit := limit, rateBurst := burst }

def timeoutMilliseconds (c : Connection) : Nat := c.timeoutSeconds.toNat * 1000

def hasCredentials (c : Connection) : Bool := !c.username.isEmpty

/-! ## JSON -/

/-- A setting: its key, how it is written and how it is read. -/
structure Setting where
  key : String
  write : Connection → Json
  read : Json → Connection → Json.Decoded Connection

/-- The settings in the order in which they are written. -/
def settings : List Setting :=
  [⟨"host", fun c => .string c.host, fun j c => do return { c with host := ← j.asText }⟩,
    ⟨"port", fun c => .int c.port.toNat, fun j c => do return { c with port := ← j.asWord16 }⟩,
    ⟨"username", fun c => .string c.username,
      fun j c => do return { c with username := ← j.asText }⟩,
    ⟨"password", fun c => .string c.password,
      fun j c => do return { c with password := ← j.asText }⟩,
    ⟨"database", fun c => .string c.database,
      fun j c => do return { c with database := ← j.asText }⟩,
    ⟨"query_timeout_secs", fun c => .int c.timeoutSeconds.toNat,
      fun j c => do return { c with timeoutSeconds := ← j.asWord64 }⟩,
    ⟨"rate_limit", fun c => .int c.rateLimit.toNat,
      fun j c => do return { c with rateLimit := ← j.asWord32 }⟩,
    ⟨"rate_burst", fun c => .int c.rateBurst.toNat,
      fun j c => do return { c with rateBurst := ← j.asWord32 }⟩]

def toJson (c : Connection) : Json :=
  .object (settings.map fun s => (s.key, s.write c))

/-- Reads one field. A key that is no setting is ignored. -/
def readField (c : Connection) (field : String × Json) : Json.Decoded Connection :=
  match settings.find? (·.key == field.1) with
  | some s => s.read field.2 c
  | none => .ok c

/-- What messages call the settings as a whole. -/
def description : String := "struct ConnConfig"

/-- Settings by their keys. Only the host has to be there. -/
def ofFields (fields : List (String × Json)) : Json.Decoded Connection := do
  let c ← fields.foldlM readField { host := "" }
  if fields.any (·.1 == "host") then return c else throw (.missingField "host")

/-- Settings by their places. Only the first one has to be there. -/
def ofItems (items : List Json) : Json.Decoded Connection := do
  if items.isEmpty then throw (.tooFewItems 0 settings.length description)
  let c ← (settings.zip items).foldlM (fun c (s, j) => s.read j c) { host := "" }
  if settings.length < items.length then throw (.tooManyItems items.length) else return c

/-- The fields of an object are read in their order, which is ascending by key. -/
def ofJson : Json → Json.Decoded Connection
  | .object fields => ofFields fields
  | .array items => ofItems items
  | j => .error (.wrongType j description)

/-! ## Endpoints -/

def address (c : Connection) : String := c.host ++ ":" ++ toString c.port.toNat

def readEndpoint (c : Connection) : String := c.address ++ "/rest/sql/" ++ c.database

def writeBase (c : Connection) : String := c.address ++ "/influxdb/v1/write"

def writeEndpoint (c : Connection) : Except Error Url :=
  match Url.parse c.writeBase with
  | .ok u =>
    .ok (u.appendPairs
      [("consistency", ""), ("db", c.database), ("precision", "s"), ("rp", "")])
  | .error fault =>
    .error (.invalidConfig ("write endpoint " ++ c.writeBase ++ ": " ++ fault.message))

end Connection

end SeriesQuery
