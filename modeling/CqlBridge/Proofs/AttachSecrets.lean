import Mathlib
import CqlBridge.Proofs.SettingsFields
import CqlBridge.Settings.Masked

/-!
# `CqlBridge.Proofs.AttachSecrets` — masking an attach string hides exactly its secret values

Two attach strings that have the same tokens but for the values of tokens with a secret key
(`SameButSecret`, token by token) cannot be told apart by what the bridge shows of them:

* their masked forms (`redact`, the catalog's path) are equal;
* if both read, their settings agree on every field but the four secret ones
  (`secretFields`: the password, the gateway's client secret, and the two client keys);
* and this is so because those four fields are written through secret keys only.

The middle part is a two-run argument over the calls of the two strings, related call by call
(`SameCallButSecret`: one key, one value unless the key is secret). One option keeps two
settings agreeing off the secrets (`put_agreeOffSecrets`): a secret key writes secret fields,
and besides them only the TLS switch, which the client-key options turn on whatever the key.
A run keeps it by induction (`putAll_agreeOffSecrets`).
-/

namespace CqlBridge

open Settings

/-! ## Secret keys and secret fields

Only secret keys write secret fields, and a secret key writes secret fields and, for the client
keys, the TLS switch. An accepted secret option gives every other field the same value, whatever
its own value. -/

/-- The fields that hold secrets: the password, the gateway's client secret, and the client
keys of the connection and of the gateway. -/
def secretFields : List SettingsField := [.password, .gatewaySecret, .tlsKey, .gatewayKey]

theorem secret_of_mem_fieldsOf {key : String} {f : SettingsField} (hf : f ∈ fieldsOf key)
    (hs : f ∈ secretFields) : secretKeys.contains (key.map Char.toLower) = true := by
  revert f
  unfold fieldsOf
  split <;> simp_all [secretFields, secretKeys]

theorem mem_fieldsOf_of_secret {key : String} {f : SettingsField}
    (hk : secretKeys.contains (key.map Char.toLower) = true) (hf : f ∈ fieldsOf key) :
    f ∈ secretFields ∨ f = .useSsl := by
  revert f
  unfold fieldsOf
  split <;> simp_all [secretFields, secretKeys]

theorem given_secret {key value value' : String} {f : SettingsField}
    (hk : secretKeys.contains (key.map Char.toLower) = true) (hf : f ∉ secretFields)
    (ha : accepts key value = true) (ha' : accepts key value' = true) :
    given key value f = given key value' f := by
  by_cases hw : f ∈ fieldsOf key
  · -- the only such field is the TLS switch, which no secret key reads a flag for
    have hssl : f = .useSsl := (mem_fieldsOf_of_secret hk hw).resolve_left hf
    subst hssl
    have hflag : key.map Char.toLower ∉ ["ssl", "use_ssl"] := by
      intro hmem
      simp only [List.mem_cons, List.not_mem_nil, or_false] at hmem
      rcases hmem with h | h <;> simp [h, secretKeys] at hk
    rw [given_useSsl hw ha, given_useSsl hw ha', if_neg hflag, if_neg hflag]
  · rw [given_of_not_mem hw ha, given_of_not_mem hw ha']

/-! ## One masking, two runs

Token by token the masked forms agree, and one option keeps two settings agreeing off the
secrets when the two calls differ at most in the value of a secret key. -/

/-- Two tokens that are the same, or have one secret key and any two values. -/
def SameButSecret (t t' : String) : Prop :=
  t = t' ∨ ∃ key v v', secretKeys.contains (key.map Char.toLower) = true ∧
    splitToken t = some (key, v) ∧ splitToken t' = some (key, v')

/-- Two option calls with one key, and one value unless the key is secret. -/
def SameCallButSecret (c c' : String × String) : Prop :=
  c.1 = c'.1 ∧ (c.2 = c'.2 ∨ secretKeys.contains (c.1.map Char.toLower) = true)

/-- Settings that agree on every field but the secret ones. -/
def AgreeOffSecrets (s s' : Settings) : Prop := ∀ f ∉ secretFields, s.field f = s'.field f

theorem redactToken_eq {t t' : String} (h : SameButSecret t t') :
    redactToken t = redactToken t' := by
  rcases h with rfl | ⟨key, v, v', hk, ht, ht'⟩
  · rfl
  · simp [redactToken, ht, ht', List.contains_iff_mem.1 hk]

theorem map_redactToken_eq {ts ts' : List String} (h : List.Forall₂ SameButSecret ts ts') :
    ts.map redactToken = ts'.map redactToken := by
  induction h with
  | nil => rfl
  | cons ht _ ih => rw [List.map_cons, List.map_cons, redactToken_eq ht, ih]

theorem forall₂_filterMap_splitToken {ts ts' : List String}
    (h : List.Forall₂ SameButSecret ts ts') :
    List.Forall₂ SameCallButSecret (ts.filterMap splitToken) (ts'.filterMap splitToken) := by
  induction h with
  | nil => exact .nil
  | @cons t t' ts ts' ht _ ih =>
    rcases ht with rfl | ⟨key, v, v', hk, hs, hs'⟩
    · cases hsplit : splitToken t with
      | none => rwa [List.filterMap_cons_none hsplit, List.filterMap_cons_none hsplit]
      | some c =>
        rw [List.filterMap_cons_some hsplit, List.filterMap_cons_some hsplit]
        exact .cons ⟨rfl, .inl rfl⟩ ih
    · rw [List.filterMap_cons_some hs, List.filterMap_cons_some hs']
      exact .cons ⟨rfl, .inr hk⟩ ih

theorem put_agreeOffSecrets {s s' t t' : Settings} {c c' : String × String}
    (hs : AgreeOffSecrets s s') (hc : SameCallButSecret c c')
    (h : s.put c.1 c.2 = .ok t) (h' : s'.put c'.1 c'.2 = .ok t') : AgreeOffSecrets t t' := by
  obtain ⟨k, v⟩ := c
  obtain ⟨k', v'⟩ := c'
  obtain ⟨rfl, hv⟩ := hc
  obtain ⟨d, hd, rfl⟩ := put_eq_ok_iff.1 h
  obtain ⟨d', hd', rfl⟩ := put_eq_ok_iff.1 h'
  intro f hf
  simp only [field_overwrite]
  split
  · -- a written field: what the two calls give it
    have hgiven : given k v f = given k v' f := by
      rcases hv with rfl | hk
      · rfl
      · exact given_secret hk hf (accepts_of_put_eq_ok hd) (accepts_of_put_eq_ok hd')
    rw [given_of_put_eq_ok hd, given_of_put_eq_ok hd'] at hgiven
    exact Option.some.inj hgiven
  · exact hs f hf

/-- Two runs of calls related call by call keep their settings agreeing off the secrets. -/
theorem putAll_agreeOffSecrets {calls calls' : List (String × String)}
    (hcalls : List.Forall₂ SameCallButSecret calls calls') :
    ∀ {s s' c c' : Settings}, AgreeOffSecrets s s' → putAll s calls = .ok c →
      putAll s' calls' = .ok c' → AgreeOffSecrets c c' := by
  induction hcalls with
  | nil =>
    intro s s' c c' hs h h'
    cases h
    cases h'
    exact hs
  | @cons w w' ws ws' hw _ ih =>
    intro s s' c c' hs h h'
    rw [putAll_cons] at h h'
    obtain ⟨t, ht, h⟩ := bind_eq_ok.1 h
    obtain ⟨t', ht', h'⟩ := bind_eq_ok.1 h'
    exact ih (put_agreeOffSecrets hs hw ht ht') h h'

/-- Attach strings with the same tokens but for the values of secret keys have one masked form;
when both read, their settings agree on every field but the password, the gateway's client
secret and the two client keys; and these four fields are written through secret keys only. -/
theorem redact_hides_secrets {text text' : String}
    (h : List.Forall₂ SameButSecret (Text.words text) (Text.words text')) :
    redact text = redact text' ∧
    (∀ c c', ofAttach text = .ok c → ofAttach text' = .ok c' →
      ∀ f ∉ secretFields, c.field f = c'.field f) ∧
    (∀ (key : String) (f : SettingsField), f ∈ fieldsOf key → f ∈ secretFields →
      secretKeys.contains (key.map Char.toLower) = true) := by
  refine ⟨?_, ?_, fun _ _ => secret_of_mem_fieldsOf⟩
  · rw [redact, redact, map_redactToken_eq h]
  · intro c c' hc hc'
    rw [ofAttach_eq_putAll] at hc hc'
    exact putAll_agreeOffSecrets (forall₂_filterMap_splitToken h) (fun _ _ => rfl) hc hc'

/-- Two attach strings that differ in the password only have one masked form. -/
theorem redact_hides_secrets_password :
    List.Forall₂ SameButSecret (Text.words "username=u password=hunter2")
      (Text.words "username=u password=x") ∧
    redact "username=u password=hunter2" = redact "username=u password=x" := by
  have hwords : Text.words "username=u password=hunter2" = ["username=u", "password=hunter2"] ∧
      Text.words "username=u password=x" = ["username=u", "password=x"] := by decide
  have hsame : List.Forall₂ SameButSecret (Text.words "username=u password=hunter2")
      (Text.words "username=u password=x") := by
    rw [hwords.1, hwords.2]
    exact .cons (.inl rfl) (.cons (.inr ⟨"password", "hunter2", "x", by cbv, by cbv, by cbv⟩) .nil)
  exact ⟨hsame, (redact_hides_secrets hsame).1⟩

end CqlBridge
