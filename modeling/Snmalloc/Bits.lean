import Mathlib

/-! `size_t` arithmetic (a `Nat` below `2 ^ 64`, the wrapping operations reduced) and the helpers
of `ds/bits.h` that the chunk map and the malloc front end call. -/

namespace Snmalloc.Bits

def BITS : Nat := 64

def sizeMax : Nat := 2 ^ 64 - 1

def uadd (a b : Nat) : Nat := (a + b) % 2 ^ 64

def usub (a b : Nat) : Nat := (a + 2 ^ 64 - b) % 2 ^ 64

def unot (a : Nat) : Nat := sizeMax - a

@[simp] lemma BITS_eq : BITS = 64 := rfl

@[simp] lemma toNat_toUInt8 (n : Nat) : n.toUInt8.toNat = n % 256 := rfl

lemma uadd_of_lt {a b : Nat} (h : a + b < 2 ^ 64) : uadd a b = a + b :=
  Nat.mod_eq_of_lt h

lemma usub_of_le {a b : Nat} (h : b ≤ a) (ha : a < 2 ^ 64) : usub a b = a - b := by
  unfold usub
  rw [show a + 2 ^ 64 - b = (a - b) + 2 ^ 64 by omega, Nat.add_mod_right]
  exact Nat.mod_eq_of_lt (by omega)

/-- Modelled from the spec: `bits::next_pow2_bits` (ds/bits.h is not under src/) is
`log2(next_pow2(x))`, the least `b` with `x ≤ 2 ^ b`, searched over the bits of a word. -/
def nextPow2BitsFrom (x b : Nat) : Nat → Nat
  | 0 => b
  | fuel + 1 => if x ≤ 2 ^ b then b else nextPow2BitsFrom x (b + 1) fuel

def nextPow2Bits (x : Nat) : Nat := nextPow2BitsFrom x 0 BITS

/-- Modelled from the spec: `bits::next_pow2` is the least power of two at least `x`. -/
def nextPow2 (x : Nat) : Nat := 2 ^ nextPow2Bits x

lemma nextPow2BitsFrom_le (x : Nat) : ∀ fuel b, nextPow2BitsFrom x b fuel ≤ b + fuel
  | 0, b => le_refl b
  | fuel + 1, b => by
    unfold nextPow2BitsFrom
    split
    · omega
    · have := nextPow2BitsFrom_le x fuel (b + 1); omega

lemma nextPow2Bits_le (x : Nat) : nextPow2Bits x ≤ 64 :=
  nextPow2BitsFrom_le x 64 0

private lemma le_iff_of_least {x b n : Nat} (hb : x ≤ 2 ^ b) (hlt : ∀ b' < b, 2 ^ b' < x) :
    b ≤ n ↔ x ≤ 2 ^ n := by
  constructor
  · intro h
    exact hb.trans (Nat.pow_le_pow_right (by norm_num) h)
  · intro h
    by_contra hn
    exact absurd h (Nat.not_le.2 (hlt n (by omega)))

lemma nextPow2BitsFrom_le_iff (x n : Nat) : ∀ fuel b, (∀ b' < b, 2 ^ b' < x) →
    x ≤ 2 ^ (b + fuel) → (nextPow2BitsFrom x b fuel ≤ n ↔ x ≤ 2 ^ n)
  | 0, b, hlt, hx => le_iff_of_least hx hlt
  | fuel + 1, b, hlt, hx => by
    unfold nextPow2BitsFrom
    split
    case isTrue h => exact le_iff_of_least h hlt
    case isFalse h =>
      refine nextPow2BitsFrom_le_iff x n fuel (b + 1) (fun b' hb' => ?_)
        (by rwa [Nat.add_right_comm])
      rcases Nat.lt_succ_iff_lt_or_eq.1 hb' with hb' | rfl
      · exact hlt b' hb'
      · omega

theorem nextPow2Bits_le_iff {x : Nat} (hx : x ≤ 2 ^ 64) (n : Nat) :
    nextPow2Bits x ≤ n ↔ x ≤ 2 ^ n :=
  nextPow2BitsFrom_le_iff x n 64 0 (fun _ h => absurd h (Nat.not_lt_zero _)) hx

lemma nextPow2Bits_two_pow {k : Nat} (hk : k ≤ 64) : nextPow2Bits (2 ^ k) = k := by
  have hx : 2 ^ k ≤ 2 ^ 64 := Nat.pow_le_pow_right (by norm_num) hk
  apply le_antisymm ((nextPow2Bits_le_iff hx k).2 le_rfl)
  by_contra h
  have := (nextPow2Bits_le_iff hx (k - 1)).1 (by omega)
  have := Nat.pow_lt_pow_right (by norm_num : 1 < 2) (show k - 1 < k by omega)
  omega

/-- Modelled from the spec: `bits::umul(x, y, overflow)` (ds/bits.h is not under src/)
gives the product wrapped to `size_t` and whether the true product overflowed. -/
def umul (x y : Nat) : Nat × Bool := ((x * y) % 2 ^ 64, decide (2 ^ 64 ≤ x * y))

def lowestBit (x : Nat) : Nat := x &&& uadd (unot x) 1

private lemma div_pred_eq {x m : Nat} (hm : 0 < m) (h : x % m ≠ 0) : (x - 1) / m = x / m := by
  have hx := Nat.div_add_mod' x m
  have hr := Nat.mod_lt x hm
  apply Nat.div_eq_of_lt_le
  · omega
  · rw [Nat.add_mul]; omega

private lemma testBit_pred {x j i : Nat} (h : x % 2 ^ j ≠ 0) (hi : j ≤ i) :
    (x - 1).testBit i = x.testBit i := by
  have hi' : x % 2 ^ i ≠ 0 := fun h0 => h (by
    rw [← Nat.mod_mod_of_dvd x (Nat.pow_dvd_pow 2 hi), h0, Nat.zero_mod])
  simp only [Nat.testBit_to_div_mod, div_pred_eq (Nat.two_pow_pos i) hi']

theorem lowestBit_lt_of_not_dvd {x j : Nat} (h : ¬ 2 ^ j ∣ x) : lowestBit x < 2 ^ j := by
  have hj : j ≠ 0 := by rintro rfl; exact h (one_dvd x)
  have hmod : x % 2 ^ j ≠ 0 := fun h0 => h (Nat.dvd_of_mod_eq_zero h0)
  unfold lowestBit unot uadd sizeMax
  by_cases hx : x < 2 ^ 64
  · have hpos : 0 < x := Nat.pos_of_ne_zero (by rintro rfl; simp at hmod)
    rw [show (2 ^ 64 - 1 - x + 1) % 2 ^ 64 = 2 ^ 64 - ((x - 1) + 1) by
      rw [Nat.mod_eq_of_lt (by omega)]; omega]
    apply Nat.lt_pow_two_of_testBit
    intro i hi
    rw [Nat.testBit_land, Nat.testBit_two_pow_sub_succ (by omega), testBit_pred hmod hi]
    cases x.testBit i <;> simp
  · rw [show 2 ^ 64 - 1 - x + 1 = 1 by omega]
    calc x &&& 1 % 2 ^ 64 ≤ 1 := Nat.and_le_right
      _ < 2 ^ j := Nat.one_lt_two_pow hj

def popcount (n : Nat) : Nat := if n = 0 then 0 else n % 2 + popcount (n / 2)

@[simp] lemma popcount_zero : popcount 0 = 0 := by
  rw [popcount]; simp

lemma popcount_eq (n : Nat) : popcount n = n % 2 + popcount (n / 2) := by
  rw [popcount]
  split
  case isTrue h => subst h; simp
  case isFalse => rfl

theorem popcount_two_pow_add (m : Nat) : ∀ r < 2 ^ m, popcount (2 ^ m + r) = popcount r + 1 := by
  induction m with
  | zero =>
    intro r hr
    obtain rfl : r = 0 := by omega
    rw [popcount_eq]
    simp only [pow_zero, Nat.add_zero, Nat.reduceMod, Nat.reduceDiv]
    omega
  | succ m ih =>
    intro r hr
    have hp : 2 ^ (m + 1) = 2 * 2 ^ m := Nat.pow_succ'
    rw [popcount_eq, popcount_eq r, show (2 ^ (m + 1) + r) / 2 = 2 ^ m + r / 2 by omega,
      ih (r / 2) (by omega), show (2 ^ (m + 1) + r) % 2 = r % 2 by omega]
    omega

end Snmalloc.Bits
