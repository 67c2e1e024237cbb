import TelemetryRelay.Settings.Basic
import TelemetryRelay.Toml.Document

/-!
# Settings in a document

Reading settings from a TOML document.  What is missing has its default and
what is unknown is passed over; a value of the wrong type or size is refused.
-/

namespace TelemetryRelay.Settings

open Toml

/-- The fields of a record.  A record is a table, or an array of its fields in
order; a date in its place stands for a record without any field. -/
def fields (names : List String) : Value → Option (List (Option Value))
  | .table _ entries => some (names.map (Entries.get? entries))
  | .array items => some ((List.range names.length).map fun i => items[i]?)
  | .tables rows =>
      some ((List.range names.length).map fun i => rows[i]?.map (.table .header))
  | .datetime => some (names.map fun _ => none)
  | _ => none

/-- A field that may be missing. -/
def field {α : Type} (fallback : α) (decode : Value → Option α) : Option Value → Option α
  | none => some fallback
  | some v => decode v

def text : Value → Option String
  | .text s => some s
  | _ => none

def truth : Value → Option Bool
  | .boolean b => some b
  | _ => none

def anyInteger : Value → Option Int
  | .integer n => some n
  | _ => none

/-- A natural number of at most `bits` bits. -/
def natural (bits : Nat) : Value → Option Nat
  | .integer n => if 0 ≤ n ∧ n < Nat.pow 2 bits then some n.toNat else none
  | _ => none

def port (v : Value) : Option UInt16 := (natural 16 v).map UInt16.ofNat

def connectionKindNamed : String → Option ConnectionKind
  | "stream" => some .stream
  | "datagram" => some .datagram
  | _ => none

/-- A kind is written as its name, or as a table that holds nothing but an empty
value under that name. -/
def connectionKind : Value → Option ConnectionKind
  | .text name => connectionKindNamed name
  | .table _ [(name, content)] =>
    match content with
    | .array [] | .table _ [] => connectionKindNamed name
    | _ => none
  | _ => none

/-- An endpoint names its kind; as an array the kind comes first and nothing may
follow its fields. -/
def endpoint (v : Value) : Option Endpoint := do
  let (kind, fieldsOf) ← match v with
    | .table _ entries =>
        some (← Entries.get? entries "kind",
          fun (names : List String) => names.mapM (Entries.get? entries))
    | .array (kind :: items) =>
        some (kind, fun names => if items.length = names.length then some items else none)
    | _ => none
  match ← text kind with
  | "tcp" => match ← fieldsOf ["host", "port"] with
    | [host, number] => some (.tcp (← text host) (← port number))
    | _ => none
  | "unix" => match ← fieldsOf ["path"] with
    | [path] => some (.unix (← text path))
    | _ => none
  | _ => none

def linkSettings (v : Value) : Option LinkSettings := do
  match ← fields ["connection_kind", "reconnection_timeout_ms", "maximum_reconnects",
      "connection"] v with
  | [kind, pause, maximum, connection] =>
    let kind ← field .stream connectionKind kind
    let pause ← field 1000 (natural 64) pause
    let maximum ← field 100 (natural 32) maximum
    let connection ← field none (fun v => (endpoint v).map some) connection
    some ⟨kind, pause, maximum, connection⟩
  | _ => none

def bufferSettings (v : Value) : Option BufferSettings := do
  match ← fields ["capacity"] v with
  | [capacity] => some ⟨← field 10 (natural 64) capacity⟩
  | _ => none

def mapping (v : Value) : Option MappingConfig := do
  match ← fields ["name", "tag", "class_name", "advertise"] v with
  | [name, tag, className, advertise] =>
    let name ← field "" text name
    let tag ← field none (fun v => (anyInteger v).map some) tag
    let className ← field none (fun v => (text v).map some) className
    let advertise ← field false truth advertise
    some ⟨name, tag, className, advertise⟩
  | _ => none

def mappingList : Value → Option (List MappingConfig)
  | .array items => items.mapM mapping
  | .tables rows => rows.mapM fun row => mapping (.table .header row)
  | _ => none

def tcpListener (v : Value) : Option TcpSettings := do
  match ← fields ["bind_address", "port", "max_peers"] v with
  | [address, number, maxPeers] =>
    let address ← field "0.0.0.0" text address
    let number ← field 7000 port number
    let maxPeers ← field 64 (natural 64) maxPeers
    some ⟨address, number, maxPeers⟩
  | _ => none

def udpListener (v : Value) : Option UdpSettings := do
  match ← fields ["bind_address", "port", "receive_timeout_ms", "client_timeout_ms"] v with
  | [address, number, receive, client] =>
    let address ← field "0.0.0.0" text address
    let number ← field 7001 port number
    let receive ← field 500 (natural 64) receive
    let client ← field 10000 (natural 64) client
    some ⟨address, number, receive, client⟩
  | _ => none

def ofEntries (entries : Entries) : Option Settings := do
  let part {α : Type} (name : String) (fallback : α) (decode : Value → Option α) : Option α :=
    field fallback decode (Entries.get? entries name)
  let link ← part "transport" {} linkSettings
  let buffer ← part "buffer" {} bufferSettings
  let mappings ← part "mappings" [] mappingList
  let tcp ← part "tcp" {} tcpListener
  let udp ← part "udp" {} udpListener
  some ⟨link, buffer, mappings, tcp, udp⟩

def ofDocument? (document : String) : Option Settings :=
  (Toml.parse? document).bind ofEntries

end TelemetryRelay.Settings
