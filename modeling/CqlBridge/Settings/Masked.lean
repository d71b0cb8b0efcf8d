import CqlBridge.Settings.Attach
import CqlBridge.Text.Record

/-!
# `CqlBridge.Settings.Masked` — settings shown with their secrets hidden

Two views never show a secret:

* `Settings.debugText`, the record form `Name { field: value, … }` of the settings. Texts are
  quoted with escapes, optional texts are `None` or `Some("…")`, and the password, the gateway's
  client secret and the client keys show as `Some("***")` when set. Of the CA and client
  certificates only whether they are set is shown.
* `redact`, the attach string with its tokens joined by single spaces and the value of every
  secret key replaced by `***`. The secret keys are `password`, `client_secret`, `userkey`,
  `userkey_b64`, `astra_client_key` and `astra_client_key_b64`, in any ASCII case.
-/

namespace CqlBridge

open Text (recordText)

/-- A secret in debugging form: `Some("***")` when set. -/
def maskedText (secret : Option String) : String :=
  Text.quotedOption (secret.map fun _ => "***")

/-- TLS material in debugging form. -/
def TlsBundle.debugText (t : TlsBundle) : String :=
  recordText "TlsMaterial"
    [("ca_cert", toString t.ca.isSome), ("client_cert", toString t.cert.isSome),
     ("client_key", maskedText t.key)]

/-- A gateway in debugging form. -/
def Gateway.debugText (g : Gateway) : String :=
  recordText "GatewayConfig"
    [("client_id", Text.quotedOption g.clientId), ("client_secret", maskedText g.clientSecret),
     ("host", Text.quotedOption g.host), ("port", toString g.port),
     ("datacenter", Text.quotedOption g.datacenter), ("tls", g.tls.debugText)]

/-- Settings in debugging form. -/
def Settings.debugText (s : Settings) : String :=
  recordText "ConnectionConfig"
    [("contact_points", Text.quoted s.contactPoints), ("port", toString s.port),
     ("keyspace", Text.quotedOption s.keyspace), ("username", Text.quotedOption s.username),
     ("password", maskedText s.password), ("consistency", s.consistency.debugName),
     ("use_ssl", toString s.useSsl), ("verify_peer", toString s.verifyPeer),
     ("tls", s.tls.debugText), ("gateway", s.gateway.debugText)]

/-- Keys whose values are secret. -/
def secretKeys : List String :=
  ["password", "client_secret", "userkey", "userkey_b64", "astra_client_key",
   "astra_client_key_b64"]

/-- A token with its value replaced by `***` when its key is secret. -/
def redactToken (token : String) : String :=
  match Settings.splitToken token with
  | some (k, _) => if secretKeys.contains (k.map Char.toLower) then k ++ "=***" else token
  | none => token

/-- An attach string with its secrets replaced by `***`, its tokens joined by single spaces. -/
def redact (text : String) : String :=
  " ".intercalate ((Text.words text).map redactToken)

end CqlBridge
