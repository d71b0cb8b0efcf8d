import CqlBridge.Settings.Basic
import CqlBridge.Codec.Hex
import CqlBridge.Codec.Base64
import CqlBridge.Text.Digits

/-!
# `CqlBridge.Settings.Attach` — settings from `key=value` tokens

An attach string is a list of tokens separated by Unicode white space; each token with an `=`
sets the option named before its first `=` to the text after it, and a token without one is
skipped. `Settings.put` sets one option:

| key (any ASCII case) | effect |
|---|---|
| `host`, `contact_points` | the contact points, as given |
| `port`, `astra_port` | a port: the trimmed value, digits with an optional `+`, at most 65535 |
| `keyspace`, `username`, `astra_host`, `astra_dc` | the value, or nothing when it is empty |
| `password`, `client_id`, `client_secret` | the value, even when empty |
| `consistency` | a level by name, in any case |
| `ssl`, `use_ssl`, `verify_peer` | on for `true`, `1`, `on`, `yes` in any case, else off |
| `certfile`, `cacert`, `usercert`, `userkey` | PEM text in hex; also turns TLS on |
| `certfile_b64`, `usercert_b64`, `userkey_b64` | PEM text in base64; also turns TLS on |
| `astra_ca_cert`, `astra_client_cert`, `astra_client_key` | PEM text with `\n` for newlines |
| `astra_ca_cert_b64`, … | gateway PEM text in base64 |

Other keys are ignored. A value that cannot be read leaves the settings as they were, and an
attach string stops at its first such value, keeping what the tokens before it set.
-/

namespace CqlBridge

namespace Settings

/-- A port: after trimming, ASCII digits with an optional leading `+`, at most 65535. -/
def readPort? (value : String) : Option Nat :=
  Text.readBelow? 65536 (Text.trim value).toList

/-- A switch is on for `true`, `1`, `on` and `yes`, in any ASCII case. -/
def flag (value : String) : Bool :=
  ["true", "1", "on", "yes"].contains (value.map Char.toLower)

/-- Text that stands for nothing when it is empty. -/
def nonEmpty (value : String) : Option String := if value.isEmpty then none else some value

/-- PEM text that travels with the two characters `\n` for each line break. -/
def unescapeLines (value : String) : String := value.replace "\\n" "\n"

/-- Bytes that must be UTF-8 text. -/
def textOfBytes (key : String) (bytes : List UInt8) : Except ConfigFault String :=
  match String.fromUTF8? (ByteArray.mk bytes.toArray) with
  | some s => .ok s
  | none => .error (.notText key)

/-- PEM text written in hex. -/
def pemOfHex (key value : String) : Except ConfigFault String :=
  match Codec.decodeHex value with
  | .ok bytes => textOfBytes key bytes
  | .error e => .error (.badHex key e)

/-- PEM text written in base64. -/
def pemOfBase64 (key value : String) : Except ConfigFault String :=
  match Codec.decodeBase64 value with
  | .ok bytes => textOfBytes key bytes
  | .error e => .error (.badBase64 key e)

/-- A port option, refused with the key and the value as given. -/
def port? (key value : String) : Except ConfigFault Nat :=
  match readPort? value with
  | some p => .ok p
  | none => .error (.badPort key value)

/-- Sets the option `key` (in any ASCII case) to `value`; unknown keys change nothing. -/
def put (s : Settings) (key value : String) : Except ConfigFault Settings :=
  let key := key.map Char.toLower
  let withCa := fun (pem : String) => { s with tls.ca := some pem, useSsl := true }
  let withCert := fun (pem : String) => { s with tls.cert := some pem, useSsl := true }
  let withKey := fun (pem : String) => { s with tls.key := some pem, useSsl := true }
  match key with
  | "host" | "contact_points" => .ok { s with contactPoints := value }
  | "port" => return { s with port := ← port? key value }
  | "keyspace" => .ok { s with keyspace := nonEmpty value }
  | "username" => .ok { s with username := nonEmpty value }
  | "password" => .ok { s with password := some value }
  | "consistency" => match Consistency.parse value with
    | .ok c => .ok { s with consistency := c }
    | .error e => .error e
  | "ssl" | "use_ssl" => .ok { s with useSsl := flag value }
  | "verify_peer" => .ok { s with verifyPeer := flag value }
  | "certfile" | "cacert" => withCa <$> pemOfHex key value
  | "usercert" => withCert <$> pemOfHex key value
  | "userkey" => withKey <$> pemOfHex key value
  | "certfile_b64" => withCa <$> pemOfBase64 key value
  | "usercert_b64" => withCert <$> pemOfBase64 key value
  | "userkey_b64" => withKey <$> pemOfBase64 key value
  | "client_id" => .ok { s with gateway.clientId := some value }
  | "client_secret" => .ok { s with gateway.clientSecret := some value }
  | "astra_host" => .ok { s with gateway.host := nonEmpty value }
  | "astra_port" => return { s with gateway.port := ← port? key value }
  | "astra_dc" => .ok { s with gateway.datacenter := nonEmpty value }
  | "astra_ca_cert" => .ok { s with gateway.tls.ca := some (unescapeLines value) }
  | "astra_client_cert" => .ok { s with gateway.tls.cert := some (unescapeLines value) }
  | "astra_client_key" => .ok { s with gateway.tls.key := some (unescapeLines value) }
  | "astra_ca_cert_b64" => return { s with gateway.tls.ca := some (← pemOfBase64 key value) }
  | "astra_client_cert_b64" =>
    return { s with gateway.tls.cert := some (← pemOfBase64 key value) }
  | "astra_client_key_b64" =>
    return { s with gateway.tls.key := some (← pemOfBase64 key value) }
  | _ => .ok s

/-- A token's key and value: the text before and after its first `=`. -/
def splitToken (token : String) : Option (String × String) :=
  match token.toList.span (· != '=') with
  | (k, '=' :: v) => some (String.ofList k, String.ofList v)
  | _ => none

/-- Applies tokens in order; stops at the first refused value, with the settings reached so
far and the reason. -/
def applyTokens (s : Settings) : List String → Settings × Option ConfigFault
  | [] => (s, none)
  | t :: ts =>
    match splitToken t with
    | none => applyTokens s ts
    | some (k, v) =>
      match s.put k v with
      | .ok s' => applyTokens s' ts
      | .error e => (s, some e)

/-- Applies the tokens of an attach string. -/
def applyAttach (s : Settings) (text : String) : Settings × Option ConfigFault :=
  s.applyTokens (Text.words text)

/-- The settings an attach string gives, starting from the defaults. -/
def ofAttach (text : String) : Except ConfigFault Settings :=
  match ({} : Settings).applyAttach text with
  | (s, none) => .ok s
  | (_, some e) => .error e

/-- The environment variables read for defaults, in order, with the option each sets. -/
def envKeys : List (String × String) :=
  [("CASSANDRA_CONTACT_POINTS", "contact_points"), ("CASSANDRA_PORT", "port"),
   ("CASSANDRA_USERNAME", "username"), ("CASSANDRA_PASSWORD", "password"),
   ("CASSANDRA_KEYSPACE", "keyspace"), ("CASSANDRA_CONSISTENCY", "consistency"),
   ("CASSANDRA_USE_SSL", "use_ssl")]

/-- The defaults with each non-empty environment variable of `envKeys` applied in order. -/
def ofEnv (lookup : String → Option String) : Except ConfigFault Settings :=
  let step := fun (s : Settings) ((var, key) : String × String) =>
    match lookup var with
    | some v => if v.isEmpty then .ok s else s.put key v
    | none => .ok s
  envKeys.foldlM step {}

end Settings

end CqlBridge
