import Mathlib
import CqlBridge.Proofs.SettingsFields

/-!
# `CqlBridge.Proofs.AttachOrder` — attach tokens commute unless they write a common field

An attach string is read token by token, and a token is one option call (`attachCalls`).
Since a call's outcome does not depend on the settings it meets (`put_eq_error_iff`), whether
an attach string is refused depends only on which `key=value` tokens it holds, counted with
their multiplicity, not on their order.

Two tokens *conflict* when their keys write a common field (`Conflict`): `host` and
`contact_points`; `ssl`, `use_ssl` and every certificate key, which all write the TLS switch;
`certfile`, `cacert` and `certfile_b64`, which all write the CA; a key and itself. A reordering
of the tokens *keeps the conflict order* (`KeepsConflictOrder`) when, for every conflicting
pair, the occurrences of the two tokens come in the same order in both lists. Then an attach
string that reads gives the same settings in every such order (`ofAttach_reorder`): each field
is written last by the same token.

The argument: the tokens writing one field conflict pairwise, so keeping the order of every
pair keeps the order of all of them (`filter_eq_of_pairs`), and the last writer of each field
is found among those tokens only (`lastWriter_filter`).
-/

namespace CqlBridge

namespace Settings

/-! ## Conflicting tokens

Swapping two adjacent tokens that do not conflict keeps the conflict order. -/

/-- The fields an attach token writes: those of its key, none for a token without `=`. -/
def tokenFields (token : String) : List SettingsField :=
  match splitToken token with
  | some (k, _) => fieldsOf k
  | none => []

/-- Two tokens conflict when their keys write a common field. -/
def Conflict (a b : String) : Prop := ∃ f ∈ tokenFields a, f ∈ tokenFields b

instance (a b : String) : Decidable (Conflict a b) :=
  inferInstanceAs (Decidable (∃ f ∈ tokenFields a, f ∈ tokenFields b))

theorem Conflict.symm {a b : String} (h : Conflict a b) : Conflict b a := by
  obtain ⟨f, ha, hb⟩ := h
  exact ⟨f, hb, ha⟩

/-- The occurrences of `a` and `b` in a token list, in order. -/
def pairProjection (a b : String) (tokens : List String) : List String :=
  tokens.filter fun t => decide (t = a ∨ t = b)

/-- `tokens'` keeps the relative order of every two conflicting tokens of `tokens`. -/
def KeepsConflictOrder (tokens tokens' : List String) : Prop :=
  ∀ a b, Conflict a b → pairProjection a b tokens = pairProjection a b tokens'

theorem keepsConflictOrder_swap (l₁ l₂ : List String) {x y : String} (hxy : ¬ Conflict x y) :
    KeepsConflictOrder (l₁ ++ x :: y :: l₂) (l₁ ++ y :: x :: l₂) := by
  intro a b hab
  simp only [pairProjection, List.filter_append]
  congr 1
  by_cases hx : x = a ∨ x = b
  · by_cases hy : y = a ∨ y = b
    · -- both belong to the pair: they are one token, or they would conflict
      have hxy' : x = y := by
        rcases hx with rfl | rfl <;> rcases hy with rfl | rfl
        · rfl
        · exact absurd hab hxy
        · exact absurd hab.symm hxy
        · rfl
      subst hxy'
      rfl
    · simp [hx, hy]
  · by_cases hy : y = a ∨ y = b <;> simp [hx, hy]

/-! ## Keeping every pair's order keeps a whole class's order

Two lists whose projections on every pair of their elements agree are equal. -/

theorem eq_of_pairProjection {u u' : List String}
    (h : ∀ a ∈ u ++ u', ∀ b ∈ u ++ u', pairProjection a b u = pairProjection a b u') :
    u = u' := by
  induction u generalizing u' with
  | nil =>
    cases u' with
    | nil => rfl
    | cons y r' =>
      have hy := h y (by simp) y (by simp)
      simp [pairProjection] at hy
  | cons x r ih =>
    cases u' with
    | nil =>
      have hx := h x (by simp) x (by simp)
      simp [pairProjection] at hx
    | cons y r' =>
      -- the pair `x, y` is seen first as `x` in one list and as `y` in the other
      have hxy : x = y := by
        have h₀ := h x (by simp) y (by simp)
        simp only [pairProjection, List.filter_cons, true_or, or_true, decide_true,
          ite_true, List.cons.injEq] at h₀
        exact h₀.1
      subst hxy
      congr 1
      apply ih
      intro a ha b hb
      have hmem : ∀ t ∈ r ++ r', t ∈ x :: r ++ x :: r' := by
        intro t ht
        rcases List.mem_append.1 ht with ht | ht <;> simp [ht]
      have hab := h a (hmem a ha) b (hmem b hb)
      by_cases hx : x = a ∨ x = b
      · simpa [pairProjection, List.filter_cons, hx] using hab
      · simpa [pairProjection, List.filter_cons, hx] using hab

/-- If every two tokens satisfying `p` conflict, a reordering that keeps the conflict order
keeps the order of the tokens satisfying `p`. -/
theorem filter_eq_of_pairs {p : String → Bool} {tokens tokens' : List String}
    (hp : ∀ a b, p a → p b → Conflict a b) (h : KeepsConflictOrder tokens tokens') :
    tokens.filter p = tokens'.filter p := by
  apply eq_of_pairProjection
  intro a ha b hb
  have hfiltered : ∀ t ∈ tokens.filter p ++ tokens'.filter p, p t := by
    intro t ht
    rcases List.mem_append.1 ht with ht | ht <;> exact (List.mem_filter.1 ht).2
  have hpa := hfiltered a ha
  have hpb := hfiltered b hb
  -- a pair of tokens satisfying `p` projects the same before and after filtering by `p`
  have hsub : ∀ l : List String, pairProjection a b (l.filter p) = pairProjection a b l := by
    intro l
    rw [pairProjection, pairProjection, List.filter_filter]
    congr 1
    funext t
    by_cases ht : t = a ∨ t = b
    · rcases ht with rfl | rfl <;> simp [hpa, hpb]
    · simp [ht]
  rw [hsub, hsub]
  exact h a b (hp a b hpa hpb)

/-! ## The last writer of a field among the tokens

The calls of the tokens writing a field are the calls writing it. -/

theorem lastWriter_filter (f : SettingsField) (calls : List (String × String)) :
    lastWriter f (calls.filter fun c => f ∈ fieldsOf c.1) = lastWriter f calls := by
  simp only [lastWriter, ← List.filter_reverse, List.find?_filter, decide_eq_true_eq, and_self]

theorem filterMap_splitToken_filter (f : SettingsField) (tokens : List String) :
    (tokens.filter fun t => f ∈ tokenFields t).filterMap splitToken =
      (tokens.filterMap splitToken).filter fun c => f ∈ fieldsOf c.1 := by
  rw [List.filterMap_filter, List.filter_filterMap]
  congr 1
  funext t
  cases h : splitToken t with
  | none => simp [tokenFields, h]
  | some c =>
    obtain ⟨k, v⟩ := c
    by_cases hf : f ∈ fieldsOf k <;> simp [tokenFields, h, hf, Option.filter]

/-- The last writer of a field depends only on the order of the tokens writing it. -/
theorem lastWriter_attachCalls_eq {text text' : String} (f : SettingsField)
    (h : KeepsConflictOrder (Text.words text) (Text.words text')) :
    lastWriter f (attachCalls text) = lastWriter f (attachCalls text') := by
  have hwriters : (Text.words text).filter (fun t => f ∈ tokenFields t) =
      (Text.words text').filter (fun t => f ∈ tokenFields t) := by
    apply filter_eq_of_pairs _ h
    intro a b ha hb
    exact ⟨f, by simpa using ha, by simpa using hb⟩
  rw [attachCalls, attachCalls, ← lastWriter_filter, ← filterMap_splitToken_filter, hwriters,
    filterMap_splitToken_filter, lastWriter_filter]

/-! ## Reading an attach string in another order -/

/-- The `key=value` tokens of an attach string. -/
def kvTokens (text : String) : List String :=
  (Text.words text).filter fun t => (splitToken t).isSome

theorem attachCalls_eq_kvTokens (text : String) :
    attachCalls text = (kvTokens text).filterMap splitToken := by
  rw [attachCalls, kvTokens, List.filterMap_filter]
  congr 1
  funext t
  cases splitToken t <;> rfl

theorem toBool_ofAttach (text : String) :
    (ofAttach text).toBool = (attachCalls text).all fun c => accepts c.1 c.2 := by
  rw [ofAttach_eq_putAll, toBool_putAll]

/-- Setting an option is refused, with one fault, whatever the settings; so an attach string
is refused or not according to its `key=value` tokens with their multiplicity; and one that
reads gives the same settings after any reordering of its tokens that keeps the order of every
two tokens writing a common field. -/
theorem ofAttach_reorder (text text' : String) :
    (∀ (s t : Settings) (key value : String) (e : ConfigFault),
      s.put key value = .error e ↔ t.put key value = .error e) ∧
    ((kvTokens text).Perm (kvTokens text') →
      (ofAttach text).toBool = (ofAttach text').toBool) ∧
    (∀ c, ofAttach text = .ok c → (Text.words text).Perm (Text.words text') →
      KeepsConflictOrder (Text.words text) (Text.words text') → ofAttach text' = .ok c) := by
  -- the calls' acceptance is a property of the multiset of `key=value` tokens
  have hrefused : (kvTokens text).Perm (kvTokens text') →
      (ofAttach text).toBool = (ofAttach text').toBool := by
    intro hperm
    have hcalls := (hperm.filterMap splitToken)
    rw [← attachCalls_eq_kvTokens, ← attachCalls_eq_kvTokens] at hcalls
    rw [toBool_ofAttach, toBool_ofAttach, Bool.eq_iff_iff, List.all_eq_true, List.all_eq_true]
    exact ⟨fun h c hc => h c (hcalls.mem_iff.2 hc), fun h c hc => h c (hcalls.mem_iff.1 hc)⟩
  refine ⟨put_eq_error_iff, hrefused, ?_⟩
  intro c hc hperm horder
  have hok : (ofAttach text').toBool = true := by
    rw [← hrefused (hperm.filter _), hc]
    rfl
  cases hc' : ofAttach text' with
  | error e => rw [hc'] at hok; cases hok
  | ok c' =>
    -- every field is written last by the same token on both sides
    congr 1
    apply ext_field
    intro f
    rw [ofAttach_eq_putAll] at hc hc'
    rw [field_putAll hc f, field_putAll hc' f, lastWriter_attachCalls_eq f horder]

/-- `port=1 host=a` reads, and reads the same with its two tokens swapped: they write different
fields. -/
theorem ofAttach_reorder_port_host :
    ofAttach "port=1 host=a" = .ok { contactPoints := "a", port := 1 } ∧
    (Text.words "port=1 host=a").Perm (Text.words "host=a port=1") ∧
    KeepsConflictOrder (Text.words "port=1 host=a") (Text.words "host=a port=1") ∧
    ofAttach "host=a port=1" = .ok { contactPoints := "a", port := 1 } := by
  have hc : ofAttach "port=1 host=a" = .ok { contactPoints := "a", port := 1 } := by cbv
  have hwords : Text.words "port=1 host=a" = ["port=1", "host=a"] ∧
      Text.words "host=a port=1" = ["host=a", "port=1"] := by decide
  have hperm : (Text.words "port=1 host=a").Perm (Text.words "host=a port=1") := by
    rw [hwords.1, hwords.2]
    exact List.Perm.swap _ _ _
  have horder : KeepsConflictOrder (Text.words "port=1 host=a") (Text.words "host=a port=1") := by
    have hport : tokenFields "port=1" = [.port] := by cbv
    have hhost : tokenFields "host=a" = [.contactPoints] := by cbv
    rw [hwords.1, hwords.2]
    exact keepsConflictOrder_swap [] [] (by rw [Conflict, hport, hhost]; decide)
  exact ⟨hc, hperm, horder, (ofAttach_reorder _ _).2.2 _ hc hperm horder⟩

end Settings

end CqlBridge
