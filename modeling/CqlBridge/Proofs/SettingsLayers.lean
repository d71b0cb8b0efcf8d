import Mathlib
import CqlBridge.Proofs.SettingsFields
import CqlBridge.TableFunction.Host

/-!
# `CqlBridge.Proofs.SettingsLayers` — a table function's settings, layer by layer

A table function without a catalog builds its connection settings in layers, all through the
one option setter (`BridgeCall.connectionSettings`):

1. the defaults;
2. the environment: each variable of `envKeys` that is set and not empty, in order;
3. the `connection` named parameter, when given: its `key=value` tokens from left to right;
4. the connection options given as named parameters, in the fixed order of `textOptions`,
   then `integerOptions` (`port`, `astra_port`), then `booleanOptions` (`ssl`, `use_ssl`,
   `verify_peer`).

Together these are one run of option calls (`layerCalls`), so the settings are refused
exactly when one of the calls is, and otherwise every field holds the value its last writer
gives it (`connectionSettings_last_writer`).

The TLS switch is one such field. Certificate keys turn it on, but an `ssl` or `use_ssl`
option written after them turns it off again, so certificate material can be present while
TLS is not in effect. Exactly then the last writer of the switch is an `ssl` or `use_ssl`
option whose value is not a true flag (`SwitchedOff`), and the gateway is not enabled
(`tlsEnabled_iff_not_switchedOff`):

    cacert=2d ssl=false

reads, holds the CA `-`, and has TLS off (`ofAttach_certificate_switched_off`).
-/

namespace CqlBridge

namespace Settings

/-! ## The layers as one run of option calls

A fold that applies an option call for each element mapped to one is the run of those calls. -/

theorem foldlM_eq_putAll_filterMap {α : Type} (g : α → Option (String × String)) (l : List α)
    (s : Settings) :
    l.foldlM (fun s a => match g a with | some c => s.put c.1 c.2 | none => .ok s) s =
      putAll s (l.filterMap g) := by
  induction l generalizing s with
  | nil => rfl
  | cons a l ih =>
    rw [List.foldlM_cons, List.filterMap_cons]
    cases g a with
    | none => exact ih s
    | some c =>
      rw [putAll_cons]
      dsimp only
      cases s.put c.1 c.2 with
      | error e => rfl
      | ok t => exact ih t

/-- The environment's option calls: each variable of `envKeys` that is set and not empty, with
its option, in order. -/
def envCalls (env : String → Option String) : List (String × String) :=
  envKeys.filterMap fun (var, key) =>
    match env var with
    | some v => if v.isEmpty then none else some (key, v)
    | none => none

theorem ofEnv_eq_putAll (env : String → Option String) : ofEnv env = putAll {} (envCalls env) := by
  rw [ofEnv, envCalls, ← foldlM_eq_putAll_filterMap]
  congr
  funext s a
  obtain ⟨var, key⟩ := a
  dsimp only
  cases env var with
  | none => rfl
  | some v => by_cases hv : v.isEmpty <;> simp [hv]

/-! ## Certificate material and the TLS switch

Settings with TLS material have the connection's own material written, unless the gateway is
enabled. -/

/-- The last call writing the TLS switch is an `ssl` or `use_ssl` option whose value is not a
true flag. -/
def SwitchedOff (calls : List (String × String)) : Prop :=
  ∃ key value, lastWriter .useSsl calls = some (key, value) ∧
    key.map Char.toLower ∈ ["ssl", "use_ssl"] ∧ flag value = false

theorem tls_written {calls : List (String × String)} {c : Settings} (h : putAll {} calls = .ok c)
    (hm : c.material.isEmpty = false) (hg : c.gateway.enabled = false) :
    ∃ f ∈ [SettingsField.tlsCa, .tlsCert, .tlsKey], ∃ w, lastWriter f calls = some w := by
  simp only [material, hg, Bool.false_eq_true, ite_false, TlsBundle.isEmpty,
    Bool.and_eq_false_iff] at hm
  -- a CA, client certificate or client key that is set differs from the default's, `none`
  rcases hm with (hca | hcert) | hkey
  · exact ⟨.tlsCa, by simp, lastWriter_of_field_ne h fun heq => by
      simp [show c.tls.ca = none from heq] at hca⟩
  · exact ⟨.tlsCert, by simp, lastWriter_of_field_ne h fun heq => by
      simp [show c.tls.cert = none from heq] at hcert⟩
  · exact ⟨.tlsKey, by simp, lastWriter_of_field_ne h fun heq => by
      simp [show c.tls.key = none from heq] at hkey⟩

/-- With TLS material in place, TLS is in effect exactly when the gateway is enabled or the last
call writing the TLS switch did not switch it off. -/
theorem tlsEnabled_iff_of_putAll {calls : List (String × String)} {c : Settings}
    (h : putAll {} calls = .ok c) (hm : c.material.isEmpty = false) :
    c.tlsEnabled = true ↔ c.gateway.enabled = true ∨ ¬ SwitchedOff calls := by
  unfold tlsEnabled
  cases hg : c.gateway.enabled with
  | true => simp
  | false =>
    simp only [Bool.false_or, Bool.false_eq_true, false_or]
    -- a certificate key wrote the material, and with it the switch
    obtain ⟨f, hf, w, hw⟩ := tls_written h hm hg
    obtain ⟨hwmem, hwf⟩ := lastWriter_mem hw
    have hssl : SettingsField.useSsl ∈ fieldsOf w.1 := useSsl_mem_fieldsOf hf hwf
    obtain ⟨⟨k, v⟩, hlast⟩ : ∃ w', lastWriter .useSsl calls = some w' := by
      cases hlast : lastWriter .useSsl calls with
      | none => exact absurd hssl (lastWriter_eq_none_iff.1 hlast w hwmem)
      | some w' => exact ⟨w', rfl⟩
    obtain ⟨hlmem, hlf⟩ := lastWriter_mem hlast
    -- the switch holds what its last writer gives it
    have hval : c.useSsl = if k.map Char.toLower ∈ ["ssl", "use_ssl"] then flag v else true := by
      have := field_putAll h .useSsl
      rwa [hlast, Option.bind_some, given_useSsl hlf (accepts_of_putAll h hlmem),
        Option.getD_some] at this
    rw [hval, SwitchedOff, hlast]
    simp only [List.mem_cons, List.not_mem_nil, or_false]
    by_cases hk : k.map Char.toLower = "ssl" ∨ k.map Char.toLower = "use_ssl" <;> simp [hk]

end Settings

namespace BridgeCall

open Settings Sql

/-- The calls of the `connection` named parameter: its tokens with an `=`, when it is given. -/
def connectionCalls (named : List (String × Val)) : List (String × String) :=
  match named? named "connection" with
  | some text => attachCalls text
  | none => []

/-- The calls of the connection options given as named parameters, in their fixed order. -/
def paramCalls (named : List (String × Val)) : List (String × String) :=
  (textOptions ++ integerOptions ++ booleanOptions).filterMap fun key =>
    (named? named key).map (key, ·)

/-- All the option calls that build a table function's settings, layer after layer. -/
def layerCalls (env : String → Option String) (named : List (String × Val)) :
    List (String × String) :=
  envCalls env ++ connectionCalls named ++ paramCalls named

theorem connectionSettings_eq_putAll (env : String → Option String)
    (named : List (String × Val)) :
    connectionSettings env named = putAll {} (layerCalls env named) := by
  -- the named options, as a run from any settings
  have hparams : ∀ s : Settings,
      (textOptions ++ integerOptions ++ booleanOptions).foldlM (fun s key =>
        match named? named key with
        | some v => s.put key v
        | none => pure s) s = putAll s (paramCalls named) := by
    intro s
    rw [paramCalls, ← foldlM_eq_putAll_filterMap]
    congr
    funext s key
    cases named? named key <;> rfl
  rw [connectionSettings, ofEnv_eq_putAll, layerCalls, putAll_append, putAll_append, bind_assoc]
  congr 1
  funext s
  -- the `connection` layer, when given, is the run of its tokens' calls
  rw [connectionCalls]
  cases named? named "connection" with
  | none =>
    simp only [pure_bind]
    erw [hparams]
    rfl
  | some text =>
    dsimp only
    rw [attachCalls, putAll_filterMap_splitToken, applyAttach]
    rcases s.applyTokens (Text.words text) with ⟨s', _ | e⟩
    · simp only [pure_bind]
      erw [hparams]
      rfl
    · rfl

/-- A table function's settings are refused exactly when one option call of its layers is,
whatever the settings it meets; otherwise every field holds the value the last call writing it
gives it, in the order defaults, environment (empty values skipped), the `connection`
string's tokens from left to right, then the named options in their fixed order. -/
theorem connectionSettings_last_writer (env : String → Option String)
    (named : List (String × Val)) :
    (connectionSettings env named).toBool = (layerCalls env named).all (fun c => accepts c.1 c.2) ∧
    ∀ c, connectionSettings env named = .ok c → ∀ f : SettingsField,
      c.field f = ((lastWriter f (layerCalls env named)).bind fun w => given w.1 w.2 f).getD
        (({} : Settings).field f) := by
  rw [connectionSettings_eq_putAll]
  exact ⟨toBool_putAll _ _, fun c h f => field_putAll h f⟩

/-- The port set in the environment, then in the `connection` string, then as a named option:
the named option writes it last. -/
theorem connectionSettings_last_writer_port :
    connectionSettings (fun var => if var = "CASSANDRA_PORT" then some "9000" else none)
      [("connection", .text "port=9100"), ("port", .int 9200)] = .ok { port := 9200 } ∧
    ({ port := 9200 } : Settings).field .port =
      ((lastWriter .port (layerCalls (fun var => if var = "CASSANDRA_PORT" then some "9000" else none)
        [("connection", .text "port=9100"), ("port", .int 9200)])).bind
          fun w => given w.1 w.2 .port).getD (({} : Settings).field .port) := by
  have hc : connectionSettings (fun var => if var = "CASSANDRA_PORT" then some "9000" else none)
      [("connection", .text "port=9100"), ("port", .int 9200)] = .ok { port := 9200 } := by cbv
  exact ⟨hc, (connectionSettings_last_writer _ _).2 _ hc .port⟩

/-- Settings with TLS material, read from an attach string or layered for a table function,
have TLS in effect exactly when the gateway is enabled or the last option writing the TLS
switch did not turn it off. -/
theorem tlsEnabled_iff_not_switchedOff (text : String) (env : String → Option String)
    (named : List (String × Val)) :
    (∀ c, ofAttach text = .ok c → c.material.isEmpty = false →
      (c.tlsEnabled = true ↔ c.gateway.enabled = true ∨ ¬ SwitchedOff (attachCalls text))) ∧
    (∀ c, connectionSettings env named = .ok c → c.material.isEmpty = false →
      (c.tlsEnabled = true ↔ c.gateway.enabled = true ∨ ¬ SwitchedOff (layerCalls env named))) := by
  constructor
  · intro c h hm
    rw [ofAttach_eq_putAll] at h
    exact tlsEnabled_iff_of_putAll h hm
  · intro c h hm
    rw [connectionSettings_eq_putAll] at h
    exact tlsEnabled_iff_of_putAll h hm

theorem ofAttach_cacert_ssl_false :
    ofAttach "cacert=2d ssl=false" = .ok { tls := { ca := some "-" } } := by
  cbv

/-- Certificate material with TLS not in effect: the CA of `cacert=2d ssl=false`. -/
theorem ofAttach_certificate_switched_off :
    ∃ c, ofAttach "cacert=2d ssl=false" = .ok c ∧ c.material.isEmpty = false ∧
      c.tlsEnabled = false :=
  ⟨_, ofAttach_cacert_ssl_false, rfl, rfl⟩

theorem tlsEnabled_iff_not_switchedOff_cacert :
    ofAttach "cacert=2d ssl=false" = .ok { tls := { ca := some "-" } } ∧
    ({ tls := { ca := some "-" } } : Settings).material.isEmpty = false ∧
    ((({ tls := { ca := some "-" } } : Settings).tlsEnabled = true ↔
      ({ tls := { ca := some "-" } } : Settings).gateway.enabled = true ∨
        ¬ SwitchedOff (attachCalls "cacert=2d ssl=false"))) :=
  ⟨ofAttach_cacert_ssl_false, rfl,
    (tlsEnabled_iff_not_switchedOff "cacert=2d ssl=false" (fun _ => none) []).1 _
      ofAttach_cacert_ssl_false rfl⟩

end BridgeCall

end CqlBridge
