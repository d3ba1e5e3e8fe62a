import NffNat.Types

/-!
# Address prefixes and masked comparison

A CIDR network `a/n` is the set of addresses that agree with `a` on their first `n` bits, read
from the most significant bit of the first byte.  The configuration code never compares
prefixes: it ANDs both addresses with a mask and compares the results, a byte array at a time
for IPv6 (`ipv6Subnet.andMask`) and a `uint32` at a time for IPv4.  This file shows that for
the masks `CIDRMask` builds the two are the same thing.

* `prefixEq n x a` is the specification: the first `n` bits of `x` and `a` agree.
* `and_maskByte_eq_iff` is the one-byte case: masking with the top `j` bits set compares the
  top `j` bits.
* `bitAt_cidrMaskBytes`: the mask `CIDRMask` builds has exactly its first `n` bits set.
* `zipWith_and_cidrMaskBytes_iff` is the whole mask, by induction over the bytes: the `n` ones
  of `cidrMaskBytes l n` are spent eight at a time, just as the loop of `CIDRMask` spends them.
-/

set_option autoImplicit false

namespace NffNat

/-- Bit `k` of a byte string, counting from the most significant bit of the first byte. -/
def bitAt (l : List UInt8) (k : Nat) : Bool := (l.getD (k / 8) 0).toNat.testBit (7 - k % 8)

/-- `x` and `a` agree on their first `n` bits: `x` lies in the network `a/n`. -/
def prefixEq (n : Nat) (x a : List UInt8) : Prop := ∀ k < n, bitAt x k = bitAt a k

instance (n : Nat) (x a : List UInt8) : Decidable (prefixEq n x a) :=
  inferInstanceAs (Decidable (∀ k < n, bitAt x k = bitAt a k))

theorem bitAt_cons_of_lt (b : UInt8) (l : List UInt8) {k : Nat} (hk : k < 8) :
    bitAt (b :: l) k = b.toNat.testBit (7 - k) := by
  simp [bitAt, Nat.div_eq_of_lt hk, Nat.mod_eq_of_lt hk]

theorem bitAt_cons_add (b : UInt8) (l : List UInt8) (k : Nat) :
    bitAt (b :: l) (k + 8) = bitAt l k := by
  simp [bitAt, Nat.add_div_right k (show 0 < 8 by omega)]

/-! ## One byte -/

theorem UInt8.testBit_toNat_of_le (x : UInt8) {i : Nat} (hi : 8 ≤ i) :
    x.toNat.testBit i = false := by
  apply Nat.testBit_lt_two_pow
  have := x.toNat_lt_size
  have := Nat.pow_le_pow_right (show 0 < 2 by omega) hi
  simp only [UInt8.size, Nat.reducePow] at *
  omega

theorem UInt8.eq_iff_testBit (x y : UInt8) :
    x = y ↔ ∀ i < 8, x.toNat.testBit i = y.toNat.testBit i := by
  refine ⟨by rintro rfl _ _; rfl, fun h ↦ UInt8.toNat.inj (Nat.eq_of_testBit_eq fun i ↦ ?_)⟩
  by_cases hi : i < 8
  · exact h i hi
  · simp [UInt8.testBit_toNat_of_le _ (Nat.le_of_not_lt hi)]

/-- The byte `CIDRMask` writes when `j` ones are left has its top `min j 8` bits set. -/
theorem testBit_maskByte (j : Nat) {i : Nat} (hi : i < 8) :
    (if 8 ≤ j then (0xff : UInt8) else ~~~((0xff : UInt8) >>> j.toUInt8)).toNat.testBit i =
      decide (8 - min j 8 ≤ i) := by
  have ones : ∀ i < 8, (0xff : UInt8).toNat.testBit i = true := by decide
  have tops : ∀ j < 8, ∀ i < 8,
      (~~~((0xff : UInt8) >>> j.toUInt8)).toNat.testBit i = decide (8 - j ≤ i) := by decide
  split
  · rw [ones i hi, eq_comm, decide_eq_true_iff]; omega
  · rw [tops j (by omega) i hi, decide_eq_decide]; omega

/-- On one byte, masking with the top `j` bits set compares the top `j` bits. -/
theorem and_maskByte_eq_iff (x a : UInt8) (j : Nat) :
    x &&& (if 8 ≤ j then 0xff else ~~~((0xff : UInt8) >>> j.toUInt8)) =
      a &&& (if 8 ≤ j then 0xff else ~~~((0xff : UInt8) >>> j.toUInt8)) ↔
    ∀ t < min j 8, x.toNat.testBit (7 - t) = a.toNat.testBit (7 - t) := by
  rw [UInt8.eq_iff_testBit]
  simp only [UInt8.and_toNat, Nat.testBit_and]
  constructor
  · intro h t ht
    simpa [testBit_maskByte j (show 7 - t < 8 by omega), show 8 - min j 8 ≤ 7 - t by omega]
      using h (7 - t) (by omega)
  · intro h i hi
    rw [testBit_maskByte j hi]
    by_cases hm : 8 - min j 8 ≤ i
    · simpa [hm, show 7 - (7 - i) = i by omega] using h (7 - i) (by omega)
    · simp [hm]

/-! ## A whole mask -/

/-- Bit `j` of the mask `cidrMaskBytes l n` is set exactly when `j < n`. -/
theorem bitAt_cidrMaskBytes (l n : Nat) {j : Nat} (hj : j < 8 * l) :
    bitAt (cidrMaskBytes l n) j = decide (j < n) := by
  induction l generalizing n j with
  | zero => omega
  | succ l ih =>
    rw [cidrMaskBytes]
    by_cases j8 : j < 8
    · rw [bitAt_cons_of_lt _ _ j8, testBit_maskByte n (by omega), decide_eq_decide]
      omega
    · obtain ⟨j, rfl⟩ : ∃ j', j = j' + 8 := ⟨j - 8, by omega⟩
      rw [bitAt_cons_add, ih (n - 8) (by omega), decide_eq_decide]
      omega

/-- **Masked comparison is prefix comparison.**  Two byte strings of length `l` agree under the
mask `cidrMaskBytes l n` exactly when their first `n` bits agree (all of them, if `n` exceeds
the `8 * l` there are). -/
theorem zipWith_and_cidrMaskBytes_iff {l n : Nat} {x a : List UInt8} (hx : x.length = l)
    (ha : a.length = l) :
    List.zipWith (· &&& ·) x (cidrMaskBytes l n) = List.zipWith (· &&& ·) a (cidrMaskBytes l n) ↔
      prefixEq (min n (8 * l)) x a := by
  induction l generalizing x a n with
  | zero =>
    rw [List.length_eq_zero.1 hx, List.length_eq_zero.1 ha]
    simp [prefixEq]
  | succ l ih =>
    obtain ⟨x0, xs, rfl⟩ := List.exists_cons_of_length_eq_add_one hx
    obtain ⟨a0, as, rfl⟩ := List.exists_cons_of_length_eq_add_one ha
    simp only [cidrMaskBytes, List.zipWith_cons_cons, List.cons.injEq]
    rw [and_maskByte_eq_iff, ih (by simpa using hx) (by simpa using ha)]
    constructor
    · rintro ⟨h0, hs⟩ k hk
      by_cases k8 : k < 8
      · rw [bitAt_cons_of_lt _ _ k8, bitAt_cons_of_lt _ _ k8]
        exact h0 k (by omega)
      · obtain ⟨k, rfl⟩ : ∃ k', k = k' + 8 := ⟨k - 8, by omega⟩
        rw [bitAt_cons_add, bitAt_cons_add]
        exact hs k (by omega)
    · intro h
      refine ⟨fun t ht ↦ ?_, fun k hk ↦ ?_⟩
      · simpa [bitAt_cons_of_lt _ _ (show t < 8 by omega)] using h t (by omega)
      · simpa [bitAt_cons_add] using h (k + 8) (by omega)

end NffNat
