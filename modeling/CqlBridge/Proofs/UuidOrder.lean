import Mathlib
import CqlBridge.TableFunction.Host

/-!
# `CqlBridge.Proofs.UuidOrder` — UUIDs stored as hugeints keep their identity and order

A UUID column reaches the engine as hugeints (`Uuid.toHugeint`): the 16 bytes read as one
big-endian number `v < 2 ^ 128`, split into halves, with the top bit of the upper half flipped
and the upper half read as signed. The engine orders hugeints by the signed upper half, then the
unsigned lower half, which is the order of the numbers they stand for (`Hugeint.toInt`). So

| UUID | number | hugeint |
|---|---|---|
| bytes `u` | `v` (big-endian) | `toInt = v - 2 ^ 127` |

and the order of byte strings, the order of big-endian numbers and the engine's order of
hugeints agree (`Uuid.toHugeint_keeps_order`). The map is onto: `Hugeint.toUuid`, which flips
bit 127 back and writes the number big-endian, undoes it on both sides, and the engine value read
from a stored UUID is the UUID's own number. That last part goes through `Slot.toVal`, the model of
how the engine reads a slot back; the rest is about the bridge's own conversion.
-/

namespace CqlBridge

/-! ## Bytes as a big-endian number

Reading on from `acc` puts `acc` above the bytes read, and a smaller leading digit makes a
smaller number whatever the digits after it. -/

/-- The value of bytes read most significant first. -/
def bytesValue (bs : List UInt8) : Nat := bs.foldl (fun acc b => acc * 256 + b.toNat) 0

theorem Uuid.toNat_eq_bytesValue (u : Uuid) : u.toNat = bytesValue u.bytes := rfl

theorem foldl_bytes (bs : List UInt8) (acc : Nat) :
    bs.foldl (fun acc b => acc * 256 + b.toNat) acc = acc * 256 ^ bs.length + bytesValue bs := by
  induction bs generalizing acc with
  | nil => simp [bytesValue]
  | cons b bs ih =>
      simp only [List.foldl_cons, bytesValue]
      rw [ih, ih (0 * 256 + b.toNat), List.length_cons, Nat.pow_succ']
      simp only [Nat.zero_mul, Nat.zero_add, Nat.add_mul, Nat.mul_assoc, Nat.add_assoc]

@[simp] theorem bytesValue_cons (b : UInt8) (bs : List UInt8) :
    bytesValue (b :: bs) = b.toNat * 256 ^ bs.length + bytesValue bs := by
  simpa [bytesValue] using foldl_bytes bs (0 * 256 + b.toNat)

theorem bytesValue_append_singleton (bs : List UInt8) (b : UInt8) :
    bytesValue (bs ++ [b]) = bytesValue bs * 256 + b.toNat := by
  simp [bytesValue, List.foldl_append]

theorem bytesValue_lt (bs : List UInt8) : bytesValue bs < 256 ^ bs.length := by
  induction bs using List.reverseRecOn with
  | nil => simp [bytesValue]
  | append_singleton bs b ih =>
      rw [bytesValue_append_singleton, List.length_append, List.length_singleton, Nat.pow_succ]
      have hb := b.toNat_lt
      omega

theorem lead_lt_of_lt {x y r s w : Nat} (hxy : x < y) (hr : r < w) : x * w + r < y * w + s := by
  have h : (x + 1) * w ≤ y * w := Nat.mul_le_mul_right w hxy
  rw [Nat.add_mul] at h
  omega

/-- Of two byte strings of one length, the lexicographically smaller has the smaller value. -/
theorem lt_iff_bytesValue_lt {bs cs : List UInt8} (hlen : bs.length = cs.length) :
    bs < cs ↔ bytesValue bs < bytesValue cs := by
  induction bs generalizing cs with
  | nil =>
      obtain rfl : cs = [] := List.length_eq_zero_iff.1 hlen.symm
      simp [bytesValue]
  | cons b bs ih =>
      obtain ⟨c, cs, rfl⟩ := List.exists_cons_of_length_eq_add_one hlen.symm
      have hlen' : bs.length = cs.length := by simpa using hlen
      rw [List.cons_lt_cons_iff, ih hlen', bytesValue_cons, bytesValue_cons, ← hlen',
        UInt8.lt_iff_toNat_lt, ← UInt8.toNat_inj]
      -- the first bytes weigh more than all the bytes after them
      have hx := bytesValue_lt bs
      have hy := bytesValue_lt cs
      rw [← hlen'] at hy
      generalize 256 ^ bs.length = w at hx hy
      constructor
      · rintro (hlt | ⟨heq, hrest⟩)
        · exact lead_lt_of_lt hlt hx
        · rw [heq]
          omega
      · intro h
        rcases Nat.lt_trichotomy b.toNat c.toNat with hlt | heq | hgt
        · exact .inl hlt
        · rw [heq] at h
          exact .inr ⟨heq, by omega⟩
        · exact absurd h (lt_asymm (lead_lt_of_lt hgt hy))

/-! ## Numbers as big-endian bytes -/

@[simp] theorem bytesValue_bytesOfNat (k n : Nat) :
    bytesValue (Uuid.bytesOfNat k n) = n % 256 ^ k := by
  induction k generalizing n with
  | zero => simp [Uuid.bytesOfNat, bytesValue, Nat.mod_one]
  | succ k ih =>
      rw [Uuid.bytesOfNat, bytesValue_append_singleton, ih, Nat.pow_succ, Nat.mul_comm (256 ^ k),
        Nat.mod_mul]
      have hbyte : ((n % 256).toUInt8).toNat = n % 256 := by
        simp [Nat.toUInt8, UInt8.toNat_ofNat']
      rw [hbyte]
      omega

@[simp] theorem bytesOfNat_bytesValue (bs : List UInt8) :
    Uuid.bytesOfNat bs.length (bytesValue bs) = bs := by
  induction bs using List.reverseRecOn with
  | nil => rfl
  | append_singleton bs b ih =>
      rw [List.length_append, List.length_singleton, Uuid.bytesOfNat, bytesValue_append_singleton]
      have hdiv : (bytesValue bs * 256 + b.toNat) / 256 = bytesValue bs := by
        have := b.toNat_lt
        omega
      have hmod : ((bytesValue bs * 256 + b.toNat) % 256).toUInt8 = b := by
        have := b.toNat_lt
        rw [show (bytesValue bs * 256 + b.toNat) % 256 = b.toNat by omega]
        exact UInt8.ofNat_toNat
      rw [hdiv, ih, hmod]

@[simp] theorem Uuid.ofNat_toNat (u : Uuid) : Uuid.ofNat u.toNat = u := by
  obtain ⟨bytes, size⟩ := u
  simp only [ofNat, Uuid.mk.injEq]
  rw [toNat_eq_bytesValue, ← size]
  exact bytesOfNat_bytesValue bytes

@[simp] theorem Uuid.toNat_ofNat (n : Nat) : (Uuid.ofNat n).toNat = n % 2 ^ 128 := by
  rw [toNat_eq_bytesValue]
  exact bytesValue_bytesOfNat 16 n

theorem Uuid.toNat_lt (u : Uuid) : u.toNat < 2 ^ 128 := by
  have h := bytesValue_lt u.bytes
  rw [u.size] at h
  exact h

theorem Uuid.toNat_injective : Function.Injective Uuid.toNat := by
  intro u v h
  rw [← Uuid.ofNat_toNat u, h, Uuid.ofNat_toNat]

/-! ## Flipping the top bit

Flipping the top bit of a number below `2 ^ (k + 1)` adds `2 ^ k` when the bit is clear and
takes it away when it is set; so the bits of a hugeint with the top one flipped count up from
its least value. -/

theorem xor_top_bit {x k : Nat} (hx : x < 2 ^ (k + 1)) :
    x ^^^ 2 ^ k = if x < 2 ^ k then x + 2 ^ k else x - 2 ^ k := by
  have hpos : 0 < 2 ^ k := Nat.two_pow_pos k
  have hdiv : (x ^^^ 2 ^ k) / 2 ^ k = x / 2 ^ k ^^^ 1 := by
    rw [Nat.xor_div_two_pow, Nat.div_self hpos]
  have hmod : (x ^^^ 2 ^ k) % 2 ^ k = x % 2 ^ k := by
    rw [Nat.xor_mod_two_pow, Nat.mod_self, Nat.xor_zero]
  have hx' : x < 2 * 2 ^ k := by rwa [Nat.pow_succ, Nat.mul_comm] at hx
  have hsplit := Nat.div_add_mod (x ^^^ 2 ^ k) (2 ^ k)
  have hsplit' := Nat.div_add_mod x (2 ^ k)
  rw [hdiv, hmod] at hsplit
  -- the top bit is the quotient by `2 ^ k`, 0 or 1, and the flip turns it over
  by_cases hlow : x < 2 ^ k
  · have hq : x / 2 ^ k = 0 := Nat.div_eq_of_lt hlow
    rw [hq] at hsplit hsplit'
    rw [if_pos hlow]
    simp only [Nat.zero_xor, Nat.mul_one, Nat.mul_zero, Nat.zero_add] at hsplit hsplit'
    omega
  · have hq : x / 2 ^ k = 1 := by
      apply Nat.div_eq_of_lt_le <;> omega
    rw [hq] at hsplit hsplit'
    rw [if_neg hlow]
    simp only [Nat.xor_self, Nat.mul_one, Nat.mul_zero, Nat.zero_add] at hsplit hsplit'
    omega

theorem UInt64.toInt_toInt64 (y : UInt64) :
    y.toInt64.toInt = if y.toNat < 2 ^ 63 then (y.toNat : Int) else y.toNat - 2 ^ 64 := by
  rw [← Int64.toInt_toBitVec, UInt64.toBitVec_toInt64, BitVec.toInt_eq_toNat_cond,
    UInt64.toNat_toBitVec]
  by_cases h : y.toNat < 2 ^ 63
  · rw [if_pos (by omega), if_pos h]
  · rw [if_neg (by omega), if_neg h]
    rfl

/-! ## The engine's order of hugeints -/

namespace Hugeint

/-- The number a hugeint stands for. -/
def toInt (h : Hugeint) : Int := h.upper.toInt * 2 ^ 64 + h.lower.toNat

/-- The engine's order of hugeints is the order of the numbers they stand for: the lower half
never outweighs one step of the upper half. -/
theorem lt_iff_toInt_lt {a b : Hugeint} : a < b ↔ a.toInt < b.toInt := by
  have ha := a.lower.toNat_lt
  have hb := b.lower.toNat_lt
  change (a.upper < b.upper ∨ a.upper = b.upper ∧ a.lower < b.lower) ↔ _
  rw [Int64.lt_iff_toInt_lt, ← Int64.toInt_inj, UInt64.lt_iff_toNat_lt]
  unfold toInt
  omega

theorem toInt_injective : Function.Injective toInt := by
  intro a b h
  have ha := a.lower.toNat_lt
  have hb := b.lower.toNat_lt
  unfold toInt at h
  have hupper : a.upper.toInt = b.upper.toInt := by omega
  have hlower : a.lower.toNat = b.lower.toNat := by omega
  rw [Int64.toInt_inj] at hupper
  rw [UInt64.toNat_inj] at hlower
  cases a
  cases b
  simp_all

theorem toInt_lt (h : Hugeint) : h.toInt < 2 ^ 127 := by
  have hu := h.upper.toInt_lt
  have hl := h.lower.toNat_lt
  unfold toInt
  omega

theorem le_toInt (h : Hugeint) : -2 ^ 127 ≤ h.toInt := by
  have hu := h.upper.le_toInt
  unfold toInt
  omega

theorem bits_xor_top (h : Hugeint) : ((h.bits ^^^ 2 ^ 127 : Nat) : Int) = h.toInt + 2 ^ 127 := by
  have hu := h.upper.toUInt64.toNat_lt
  have hl := h.lower.toNat_lt
  have hsigned := UInt64.toInt_toInt64 h.upper.toUInt64
  rw [Int64.toInt64_toUInt64] at hsigned
  have hbits : h.bits = h.upper.toUInt64.toNat * 2 ^ 64 + h.lower.toNat := rfl
  rw [xor_top_bit (by omega : h.bits < 2 ^ (127 + 1))]
  unfold toInt
  -- the top bit of the bits is the sign of the upper half
  split_ifs at hsigned ⊢ <;> omega

end Hugeint

/-! ## From UUIDs to hugeints and back

The upper half of a UUID's hugeint is its high 64 bits with the top one flipped, which read as
signed is those bits less `2 ^ 63`; so the number the hugeint stands for is the UUID's number
less `2 ^ 127`. -/

namespace Uuid

theorem toHugeint_lower (u : Uuid) : u.toHugeint.lower.toNat = u.toNat % 2 ^ 64 := by
  simp [toHugeint, UInt64.toNat_ofNat']

theorem toHugeint_upper_word (u : Uuid) :
    u.toHugeint.upper.toUInt64.toNat = u.toNat / 2 ^ 64 ^^^ 2 ^ 63 := by
  have hv := u.toNat_lt
  have hhigh : u.toNat / 2 ^ 64 < 2 ^ 64 := by omega
  simp only [toHugeint, UInt64.toUInt64_toInt64, UInt64.toNat_xor, UInt64.toNat_ofNat',
    Nat.shiftRight_eq_div_pow, Nat.mod_eq_of_lt hhigh]
  rfl

theorem toHugeint_upper (u : Uuid) :
    u.toHugeint.upper.toInt = ((u.toNat / 2 ^ 64 : Nat) : Int) - 2 ^ 63 := by
  have hv := u.toNat_lt
  have hword := toHugeint_upper_word u
  have hsigned := UInt64.toInt_toInt64 u.toHugeint.upper.toUInt64
  rw [Int64.toInt64_toUInt64] at hsigned
  rw [xor_top_bit (by omega : u.toNat / 2 ^ 64 < 2 ^ (63 + 1))] at hword
  split_ifs at hword hsigned <;> omega

theorem toInt_toHugeint (u : Uuid) : u.toHugeint.toInt = (u.toNat : Int) - 2 ^ 127 := by
  unfold Hugeint.toInt
  rw [toHugeint_upper, toHugeint_lower]
  omega

@[simp] theorem toUuid_toHugeint (u : Uuid) : u.toHugeint.toUuid = u := by
  have hflip := Hugeint.bits_xor_top u.toHugeint
  rw [toInt_toHugeint] at hflip
  have hv : u.toHugeint.bits ^^^ Nat.pow 2 127 = u.toNat := by
    change u.toHugeint.bits ^^^ 2 ^ 127 = u.toNat
    omega
  rw [Hugeint.toUuid, hv, ofNat_toNat]

end Uuid

@[simp] theorem Hugeint.toHugeint_toUuid (h : Hugeint) : h.toUuid.toHugeint = h := by
  apply Hugeint.toInt_injective
  have hflip := h.bits_xor_top
  have hlt := h.toInt_lt
  have hle := h.le_toInt
  rw [Uuid.toInt_toHugeint, Hugeint.toUuid, Uuid.toNat_ofNat]
  change (((h.bits ^^^ 2 ^ 127) % 2 ^ 128 : Nat) : Int) - 2 ^ 127 = h.toInt
  omega

/-- Stored as hugeints, UUIDs keep their identity and their order. The conversion of a UUID's
bytes succeeds; the engine's order of the hugeints is the order of the bytes; reading a
hugeint back as a UUID undoes the conversion, and every hugeint is the conversion of the UUID it
reads back as, so the conversion is a bijection; and the engine value of a stored UUID is the
UUID's own number. -/
theorem Uuid.toHugeint_keeps_order :
    (∀ u : Uuid, uuidToHugeint u.bytes = .ok u.toHugeint) ∧
    (∀ u v : Uuid, u.toHugeint = v.toHugeint ↔ u = v) ∧
    (∀ u v : Uuid, u.bytes < v.bytes ↔ u.toHugeint < v.toHugeint) ∧
    Function.LeftInverse Hugeint.toUuid Uuid.toHugeint ∧
    Function.RightInverse Hugeint.toUuid Uuid.toHugeint ∧
    Function.Bijective Uuid.toHugeint ∧
    ∀ u : Uuid, Slot.toVal .uuid (.hugeint u.toHugeint) = .uuid u.toNat := by
  have hleft : Function.LeftInverse Hugeint.toUuid Uuid.toHugeint := Uuid.toUuid_toHugeint
  have hright : Function.RightInverse Hugeint.toUuid Uuid.toHugeint := Hugeint.toHugeint_toUuid
  refine ⟨?conversion, ?identity, ?order, hleft, hright, ⟨hleft.injective, hright.surjective⟩,
    ?value⟩
  case conversion =>
    intro u
    simp [uuidToHugeint, u.size]
  case identity =>
    intro u v
    exact hleft.injective.eq_iff
  case order =>
    intro u v
    rw [lt_iff_bytesValue_lt (u.size.trans v.size.symm), Hugeint.lt_iff_toInt_lt,
      Uuid.toInt_toHugeint, Uuid.toInt_toHugeint, ← Uuid.toNat_eq_bytesValue,
      ← Uuid.toNat_eq_bytesValue]
    omega
  case value =>
    intro u
    simp [Slot.toVal]

end CqlBridge
