import CqlBridge.Settings.Attach
import Mathlib.Data.List.Induction

/-!
# `CqlBridge.Proofs.SettingsFields` — an option writes fixed fields, with values its text decides

Settings are nineteen fields (`SettingsField`): the contact points, the port, the keyspace, the user
and password, the consistency level, the two TLS switches, the CA, client certificate and
client key, and the gateway's id, secret, host, port, datacenter and TLS material.
`Settings.field` reads them and `Settings.ofFields` builds settings from them, so settings
are equal when all their fields are (`Settings.ext_field`).

Setting one option (`Settings.put`) writes the fields `fieldsOf key` names and no others.
What it writes there, and whether it refuses the value, depends on the key and the value
only, never on the settings it is applied to (`put_eq_overwrite`):

| key (any ASCII case) | fields written |
|---|---|
| `host`, `contact_points` | contact points |
| `ssl`, `use_ssl` | the TLS switch |
| `certfile`, `cacert`, `certfile_b64` | the CA, and the TLS switch |
| `usercert`, `usercert_b64` | the client certificate, and the TLS switch |
| `userkey`, `userkey_b64` | the client key, and the TLS switch |
| `astra_ca_cert`, `astra_ca_cert_b64` | the gateway's CA |
| any other known key | the one field it names |
| an unknown key | none |

Option calls applied in order (`putAll`) therefore succeed exactly when each call is
accepted on its own (`toBool_putAll`), and leave in every field the value that the last call
writing it gives, or the field as it was when no call writes it (`field_putAll`). An attach
string is such a list of calls: its tokens with an `=`, in order (`ofAttach_eq_putAll`).
-/

namespace CqlBridge

/-- The fields of connection settings, those of the gateway and of the TLS material included. -/
inductive SettingsField where
  | contactPoints | port | keyspace | username | password | consistency | useSsl | verifyPeer
  | tlsCa | tlsCert | tlsKey
  | gatewayId | gatewaySecret | gatewayHost | gatewayPort | gatewayDatacenter
  | gatewayCa | gatewayCert | gatewayKey
  deriving DecidableEq, Repr

/-- The values a field holds. -/
abbrev SettingsField.Ty : SettingsField → Type
  | .contactPoints => String
  | .port | .gatewayPort => Nat
  | .consistency => Consistency
  | .useSsl | .verifyPeer => Bool
  | _ => Option String

namespace Settings

/-! ## Settings as a function of their fields

Settings are equal when every field is. -/

/-- The value of a field. -/
def field (s : Settings) : (f : SettingsField) → f.Ty
  | .contactPoints => s.contactPoints
  | .port => s.port
  | .keyspace => s.keyspace
  | .username => s.username
  | .password => s.password
  | .consistency => s.consistency
  | .useSsl => s.useSsl
  | .verifyPeer => s.verifyPeer
  | .tlsCa => s.tls.ca
  | .tlsCert => s.tls.cert
  | .tlsKey => s.tls.key
  | .gatewayId => s.gateway.clientId
  | .gatewaySecret => s.gateway.clientSecret
  | .gatewayHost => s.gateway.host
  | .gatewayPort => s.gateway.port
  | .gatewayDatacenter => s.gateway.datacenter
  | .gatewayCa => s.gateway.tls.ca
  | .gatewayCert => s.gateway.tls.cert
  | .gatewayKey => s.gateway.tls.key

/-- The settings with the given field values. -/
def ofFields (g : (f : SettingsField) → f.Ty) : Settings where
  contactPoints := g .contactPoints
  port := g .port
  keyspace := g .keyspace
  username := g .username
  password := g .password
  consistency := g .consistency
  useSsl := g .useSsl
  verifyPeer := g .verifyPeer
  tls := ⟨g .tlsCa, g .tlsCert, g .tlsKey⟩
  gateway := ⟨g .gatewayId, g .gatewaySecret, g .gatewayHost, g .gatewayPort,
    g .gatewayDatacenter, ⟨g .gatewayCa, g .gatewayCert, g .gatewayKey⟩⟩

@[simp] theorem ofFields_field (s : Settings) : ofFields s.field = s := rfl

@[simp] theorem field_ofFields (g : (f : SettingsField) → f.Ty) : (ofFields g).field = g := by
  funext f
  cases f <;> rfl

theorem ext_field {s t : Settings} (h : ∀ f, s.field f = t.field f) : s = t := by
  rw [← ofFields_field s, ← ofFields_field t, funext h]

/-! ## What one option writes

Whether an option is refused, and with which fault, does not depend on the settings it meets;
an accepted option leaves the fields it does not write as they were and gives those the
defaults' values in the settings it makes. The options that write the TLS switch are the two
switches and the certificate keys, so every option that writes TLS material of the connection
also writes the switch, giving it the flag its value reads as, or on for a certificate key. -/

/-- The fields that setting the option `key`, in any ASCII case, writes. -/
def fieldsOf (key : String) : List SettingsField :=
  match key.map Char.toLower with
  | "host" | "contact_points" => [.contactPoints]
  | "port" => [.port]
  | "keyspace" => [.keyspace]
  | "username" => [.username]
  | "password" => [.password]
  | "consistency" => [.consistency]
  | "ssl" | "use_ssl" => [.useSsl]
  | "verify_peer" => [.verifyPeer]
  | "certfile" | "cacert" | "certfile_b64" => [.tlsCa, .useSsl]
  | "usercert" | "usercert_b64" => [.tlsCert, .useSsl]
  | "userkey" | "userkey_b64" => [.tlsKey, .useSsl]
  | "client_id" => [.gatewayId]
  | "client_secret" => [.gatewaySecret]
  | "astra_host" => [.gatewayHost]
  | "astra_port" => [.gatewayPort]
  | "astra_dc" => [.gatewayDatacenter]
  | "astra_ca_cert" | "astra_ca_cert_b64" => [.gatewayCa]
  | "astra_client_cert" | "astra_client_cert_b64" => [.gatewayCert]
  | "astra_client_key" | "astra_client_key_b64" => [.gatewayKey]
  | _ => []

/-- `s` with the fields `fs` taken from `d`. -/
def overwrite (fs : List SettingsField) (d s : Settings) : Settings :=
  ofFields fun f => if f ∈ fs then d.field f else s.field f

@[simp] theorem field_overwrite (fs : List SettingsField) (d s : Settings) (f : SettingsField) :
    (overwrite fs d s).field f = if f ∈ fs then d.field f else s.field f := by
  simp [overwrite]

/-- Setting an option is overwriting the fields its key writes with those of the settings the
option makes of the defaults; when the value is refused, it is refused whatever the settings. -/
theorem put_eq_overwrite (s : Settings) (key value : String) :
    s.put key value = (({} : Settings).put key value).map (overwrite (fieldsOf key) · s) := by
  unfold put
  generalize hk : key.map Char.toLower = k
  dsimp only
  -- the readings of the value do not mention the settings: name them, and split on the key
  generalize port? k value = rp
  generalize Consistency.parse value = rc
  generalize pemOfHex k value = rh
  generalize pemOfBase64 k value = rb
  split
  case h_29 =>
    -- an unknown key writes no field
    have hnone : fieldsOf key = [] := by
      rw [fieldsOf, hk]
      split <;> simp_all
    rw [hnone]
    rfl
  all_goals
    simp only [fieldsOf, hk]
    cases rp <;> cases rc <;> cases rh <;> cases rb <;> rfl

theorem put_eq_error_iff (s t : Settings) (key value : String) (e : ConfigFault) :
    s.put key value = .error e ↔ t.put key value = .error e := by
  rw [put_eq_overwrite s, put_eq_overwrite t]
  cases ({} : Settings).put key value with
  | error e' => exact Iff.rfl
  | ok d => exact ⟨nofun, nofun⟩

theorem put_eq_ok_iff {s s' : Settings} {key value : String} :
    s.put key value = .ok s' ↔
      ∃ d, ({} : Settings).put key value = .ok d ∧ s' = overwrite (fieldsOf key) d s := by
  rw [put_eq_overwrite s]
  cases ({} : Settings).put key value with
  | error e => exact ⟨nofun, fun ⟨_, h, _⟩ => nomatch h⟩
  | ok d =>
    constructor
    · intro h
      exact ⟨d, rfl, (Except.ok.inj h).symm⟩
    · rintro ⟨d', hd', rfl⟩
      cases hd'
      rfl

/-- Whether the option `key := value` is accepted; the settings do not matter (`toBool_put`). -/
def accepts (key value : String) : Bool := (({} : Settings).put key value).toBool

theorem toBool_put (s : Settings) (key value : String) :
    (s.put key value).toBool = accepts key value := by
  rw [accepts, put_eq_overwrite s]
  cases ({} : Settings).put key value <;> rfl

theorem accepts_of_put_eq_ok {key value : String} {d : Settings}
    (hd : ({} : Settings).put key value = .ok d) : accepts key value = true := by
  rw [accepts, hd]
  rfl

/-- The value the option `key := value` gives field `f`, when the value is accepted: the
field in the settings the option makes of the defaults. -/
def given (key value : String) (f : SettingsField) : Option f.Ty :=
  (({} : Settings).put key value).toOption.map (·.field f)

theorem given_of_put_eq_ok {key value : String} {d : Settings}
    (hd : ({} : Settings).put key value = .ok d) (f : SettingsField) :
    given key value f = some (d.field f) := by
  rw [given, hd]
  rfl

theorem field_put_of_not_mem {s s' : Settings} {key value : String} (h : s.put key value = .ok s')
    {f : SettingsField} (hf : f ∉ fieldsOf key) : s'.field f = s.field f := by
  obtain ⟨d, -, rfl⟩ := put_eq_ok_iff.1 h
  simp [hf]

theorem given_of_not_mem {key value : String} {f : SettingsField} (hf : f ∉ fieldsOf key)
    (ha : accepts key value = true) : given key value f = some (({} : Settings).field f) := by
  cases hd : ({} : Settings).put key value with
  | error e => rw [accepts, hd] at ha; cases ha
  | ok d => rw [given_of_put_eq_ok hd, field_put_of_not_mem hd hf]

theorem mem_fieldsOf_useSsl {key : String} (h : SettingsField.useSsl ∈ fieldsOf key) :
    key.map Char.toLower ∈ ["ssl", "use_ssl", "certfile", "cacert", "certfile_b64", "usercert",
      "usercert_b64", "userkey", "userkey_b64"] := by
  unfold fieldsOf at h
  split at h <;> simp_all

theorem useSsl_mem_fieldsOf {key : String} {f : SettingsField} (hf : f ∈ [.tlsCa, .tlsCert, .tlsKey])
    (h : f ∈ fieldsOf key) : SettingsField.useSsl ∈ fieldsOf key := by
  simp only [List.mem_cons, List.not_mem_nil, or_false] at hf
  unfold fieldsOf at h ⊢
  split at h <;> rcases hf with rfl | rfl | rfl <;> simp_all

theorem given_of_map {α : Type} {r : Except ConfigFault α} {g : α → Settings} {f : SettingsField}
    {v : f.Ty} (hg : ∀ a, (g a).field f = v) (h : (g <$> r).toBool = true) :
    (g <$> r).toOption.map (·.field f) = some v := by
  cases r with
  | error e => cases h
  | ok a => exact congrArg some (hg a)

theorem given_useSsl {key value : String} (hw : SettingsField.useSsl ∈ fieldsOf key)
    (ha : accepts key value = true) :
    given key value .useSsl =
      some (if key.map Char.toLower ∈ ["ssl", "use_ssl"] then flag value else true) := by
  have hk := mem_fieldsOf_useSsl hw
  unfold accepts at ha
  unfold given
  simp only [List.mem_cons, List.not_mem_nil, or_false] at hk
  rcases hk with hk | hk | hk | hk | hk | hk | hk | hk | hk
  -- the two switches give the flag
  · simp only [put, hk]
    rfl
  · simp only [put, hk]
    rfl
  -- a certificate key turns TLS on, once its value reads
  all_goals
    simp only [put, hk] at ha ⊢
    rw [if_neg (by decide)]
    exact given_of_map (fun _ => rfl) ha

/-! ## Option calls in order

A run of calls succeeds exactly when every call is accepted on its own, and a field a run
changes has a last writer. -/

/-- Applies option calls in order, stopping at the first refused one. -/
def putAll (s : Settings) (calls : List (String × String)) : Except ConfigFault Settings :=
  calls.foldlM (fun s c => s.put c.1 c.2) s

@[simp] theorem putAll_nil (s : Settings) : putAll s [] = .ok s := rfl

@[simp] theorem putAll_cons (s : Settings) (c : String × String) (calls : List (String × String)) :
    putAll s (c :: calls) = s.put c.1 c.2 >>= fun t => putAll t calls := rfl

@[simp] theorem putAll_singleton (s : Settings) (c : String × String) :
    putAll s [c] = s.put c.1 c.2 :=
  bind_pure _

@[simp] theorem putAll_append (s : Settings) (xs ys : List (String × String)) :
    putAll s (xs ++ ys) = putAll s xs >>= fun t => putAll t ys :=
  List.foldlM_append ..

theorem bind_eq_ok {α β : Type} {x : Except ConfigFault α} {g : α → Except ConfigFault β} {b : β} :
    x >>= g = .ok b ↔ ∃ a, x = .ok a ∧ g a = .ok b := by
  cases x with
  | error e => exact ⟨nofun, fun ⟨_, h, _⟩ => nomatch h⟩
  | ok a => exact ⟨fun h => ⟨a, rfl, h⟩, fun ⟨_, ha, h⟩ => by cases ha; exact h⟩

theorem toBool_putAll (s : Settings) (calls : List (String × String)) :
    (putAll s calls).toBool = calls.all fun c => accepts c.1 c.2 := by
  induction calls generalizing s with
  | nil => rfl
  | cons c calls ih =>
    rw [putAll_cons, List.all_cons, ← toBool_put s]
    cases s.put c.1 c.2 with
    | error e => rfl
    | ok t => exact ih t

theorem accepts_of_putAll {s c : Settings} {calls : List (String × String)}
    (h : putAll s calls = .ok c) {w : String × String} (hw : w ∈ calls) :
    accepts w.1 w.2 = true := by
  have hall := toBool_putAll s calls
  rw [h] at hall
  exact List.all_eq_true.1 hall.symm w hw

/-- The last of the calls that writes field `f`. -/
def lastWriter (f : SettingsField) (calls : List (String × String)) : Option (String × String) :=
  calls.reverse.find? fun c => f ∈ fieldsOf c.1

theorem lastWriter_append_of_mem {f : SettingsField} {c : String × String} (calls : List (String × String))
    (h : f ∈ fieldsOf c.1) : lastWriter f (calls ++ [c]) = some c := by
  simp [lastWriter, h]

theorem lastWriter_append_of_not_mem {f : SettingsField} {c : String × String}
    (calls : List (String × String)) (h : f ∉ fieldsOf c.1) :
    lastWriter f (calls ++ [c]) = lastWriter f calls := by
  simp [lastWriter, h]

theorem lastWriter_eq_none_iff {f : SettingsField} {calls : List (String × String)} :
    lastWriter f calls = none ↔ ∀ w ∈ calls, f ∉ fieldsOf w.1 := by
  simp [lastWriter]

theorem lastWriter_mem {f : SettingsField} {calls : List (String × String)} {w : String × String}
    (h : lastWriter f calls = some w) : w ∈ calls ∧ f ∈ fieldsOf w.1 := by
  unfold lastWriter at h
  exact ⟨List.mem_reverse.1 (List.mem_of_find?_eq_some h), by simpa using List.find?_some h⟩

/-- After a run of calls every field holds the value the last call writing it gives, or its
value before the run when no call writes it. -/
theorem field_putAll {s c : Settings} {calls : List (String × String)}
    (h : putAll s calls = .ok c) (f : SettingsField) :
    c.field f = ((lastWriter f calls).bind fun w => given w.1 w.2 f).getD (s.field f) := by
  -- induction from the back: the last call either writes `f` or leaves it as it was
  induction calls using List.reverseRecOn generalizing c with
  | nil =>
    cases h
    rfl
  | append_singleton calls w ih =>
    rw [putAll_append] at h
    obtain ⟨t, hrun, h⟩ := bind_eq_ok.1 h
    rw [putAll_singleton] at h
    obtain ⟨d, hd, rfl⟩ := put_eq_ok_iff.1 h
    by_cases hf : f ∈ fieldsOf w.1
    · simp [lastWriter_append_of_mem calls hf, given_of_put_eq_ok hd, hf]
    · simp [lastWriter_append_of_not_mem calls hf, hf, ih hrun]

theorem lastWriter_of_field_ne {s c : Settings} {calls : List (String × String)}
    (h : putAll s calls = .ok c) {f : SettingsField} (hf : c.field f ≠ s.field f) :
    ∃ w, lastWriter f calls = some w := by
  cases hw : lastWriter f calls with
  | none => rw [field_putAll h f, hw] at hf; exact absurd rfl hf
  | some w => exact ⟨w, rfl⟩

/-! ## Attach strings

Applying tokens one by one, stopping at the first refusal, ends as the run of their calls does,
so the settings of an attach string are the run of its calls on the defaults. -/

/-- The option calls of an attach string: its tokens with an `=`, split at the first. -/
def attachCalls (text : String) : List (String × String) :=
  (Text.words text).filterMap splitToken

theorem putAll_filterMap_splitToken (s : Settings) (tokens : List String) :
    putAll s (tokens.filterMap splitToken) =
      match s.applyTokens tokens with
      | (s', none) => .ok s'
      | (_, some e) => .error e := by
  induction tokens generalizing s with
  | nil => rfl
  | cons t tokens ih =>
    rw [List.filterMap_cons, applyTokens]
    cases splitToken t with
    | none => exact ih s
    | some kv =>
      obtain ⟨k, v⟩ := kv
      rw [putAll_cons]
      dsimp only
      cases s.put k v with
      | error e => rfl
      | ok s' => exact ih s'

theorem ofAttach_eq_putAll (text : String) : ofAttach text = putAll {} (attachCalls text) := by
  rw [attachCalls, putAll_filterMap_splitToken]
  -- both sides are one match on the tokens' outcome
  rfl

end Settings

end CqlBridge
