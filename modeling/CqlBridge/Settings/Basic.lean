import CqlBridge.Fault
import CqlBridge.Text.Blank

/-!
# `CqlBridge.Settings.Basic` — connection settings and what follows from them

Settings name the contact points (a comma-separated list of hosts, each maybe with `:port`),
the default port (9042), a keyspace, credentials, a consistency level (`ONE` by default),
whether to use TLS and to verify the peer, TLS material (CA, client certificate and key, as
PEM text), and a cloud gateway: a client id and secret, host, port (29042 by default),
datacenter and TLS material of its own.

The gateway is *enabled* when a client id or a client secret is set. Then it decides the
nodes (`host:port`, the host defaulting to `127.0.0.1`), the TLS material and the credentials
(id and secret, each defaulting to empty); TLS is then always on. Otherwise the nodes are the
non-blank contact points, trimmed, with the default port added to those without a colon, and
the credentials are the username with the password (empty by default), if a username is set.
-/

namespace CqlBridge

/-- Consistency levels of reads and writes. -/
inductive Consistency where
  | any | one | two | three | quorum | all | localQuorum | eachQuorum | localOne | serial
  | localSerial
  deriving Repr, DecidableEq, Inhabited

namespace Consistency

/-- All levels. -/
def all' : List Consistency :=
  [.any, .one, .two, .three, .quorum, .all, .localQuorum, .eachQuorum, .localOne, .serial,
   .localSerial]

/-- The name of a level, in upper case with underscores. -/
def name : Consistency → String
  | .any => "ANY" | .one => "ONE" | .two => "TWO" | .three => "THREE" | .quorum => "QUORUM"
  | .all => "ALL" | .localQuorum => "LOCAL_QUORUM" | .eachQuorum => "EACH_QUORUM"
  | .localOne => "LOCAL_ONE" | .serial => "SERIAL" | .localSerial => "LOCAL_SERIAL"

/-- The name of a level in debugging output, in camel case. -/
def debugName : Consistency → String
  | .any => "Any" | .one => "One" | .two => "Two" | .three => "Three" | .quorum => "Quorum"
  | .all => "All" | .localQuorum => "LocalQuorum" | .eachQuorum => "EachQuorum"
  | .localOne => "LocalOne" | .serial => "Serial" | .localSerial => "LocalSerial"

/-- The level with a name in any case; the refusal reports the name upper-cased. -/
def parse (s : String) : Except ConfigFault Consistency :=
  let upper := s.map Char.toUpper
  match all'.find? (·.name == upper) with
  | some c => .ok c
  | none => .error (.unknownConsistency upper)

end Consistency

/-- PEM material for TLS: a CA certificate, a client certificate and a client key. -/
structure TlsBundle where
  ca : Option String := none
  cert : Option String := none
  key : Option String := none
  deriving Repr, DecidableEq, Inhabited

namespace TlsBundle

/-- No material at all. -/
def isEmpty (t : TlsBundle) : Bool := t.ca.isNone && t.cert.isNone && t.key.isNone

/-- Both a client certificate and a client key. -/
def hasClientIdentity (t : TlsBundle) : Bool := t.cert.isSome && t.key.isSome

end TlsBundle

/-- A cloud gateway's credentials and endpoint. -/
structure Gateway where
  clientId : Option String := none
  clientSecret : Option String := none
  host : Option String := none
  port : Nat := 29042
  datacenter : Option String := none
  tls : TlsBundle := {}
  deriving Repr, DecidableEq, Inhabited

/-- The gateway is enabled by a client id or a client secret. -/
def Gateway.enabled (g : Gateway) : Bool := g.clientId.isSome || g.clientSecret.isSome

/-- Connection settings. -/
structure Settings where
  contactPoints : String := "127.0.0.1"
  port : Nat := 9042
  keyspace : Option String := none
  username : Option String := none
  password : Option String := none
  consistency : Consistency := .one
  useSsl : Bool := false
  verifyPeer : Bool := true
  tls : TlsBundle := {}
  gateway : Gateway := {}
  deriving Repr, DecidableEq, Inhabited

namespace Settings

/-- The `host:port` entries to contact first. -/
def knownNodes (s : Settings) : List String :=
  if s.gateway.enabled then
    [s.gateway.host.getD "127.0.0.1" ++ ":" ++ toString s.gateway.port]
  else
    ((s.contactPoints.splitOn ",").map Text.trim).filter (!·.isEmpty) |>.map fun p =>
      if p.contains ':' then p else p ++ ":" ++ toString s.port

/-- TLS is on for the gateway and whenever it was asked for. -/
def tlsEnabled (s : Settings) : Bool := s.gateway.enabled || s.useSsl

/-- The TLS material of the connection: the gateway's when it is enabled. -/
def material (s : Settings) : TlsBundle := if s.gateway.enabled then s.gateway.tls else s.tls

/-- The user and password, or the gateway's id and secret. -/
def credentials (s : Settings) : Option (String × String) :=
  if s.gateway.enabled then some (s.gateway.clientId.getD "", s.gateway.clientSecret.getD "")
  else s.username.map fun u => (u, s.password.getD "")

end Settings

end CqlBridge
