import Snmalloc.Bits

/-! The constants of `chunkmap_consts.h`, the address helpers of `ds/address.h` and the pagemap
the chunk maps write through; an `Option` result is `none` where an assertion of the source fails. -/

namespace Snmalloc

def CMNotOurs : Nat := 0

def CMSuperslab : Nat := 1

def CMMediumslab : Nat := 2

structure Config where
  superslabBits : Nat
  medium_lt : CMMediumslab < superslabBits

def superslabSize (c : Config) : Nat := 2 ^ c.superslabBits

lemma superslabSize_pos (c : Config) : 0 < superslabSize c := Nat.two_pow_pos _

inductive SlabKind
  | superslab
  | mediumslab
  deriving DecidableEq, Repr

def SlabKind.code : SlabKind → Nat
  | .superslab => CMSuperslab
  | .mediumslab => CMMediumslab

lemma SlabKind.code_le (k : SlabKind) : k.code ≤ CMMediumslab := by
  cases k <;> decide

lemma SlabKind.code_pos (k : SlabKind) : 0 < k.code := by
  cases k <;> decide

@[simp] lemma SlabKind.code_inj {k k' : SlabKind} : k.code = k'.code ↔ k = k' := by
  cases k <;> cases k' <;> decide

def pointerOffset (base diff : Nat) : Nat := base + diff

def pointerAlignDown (granule p : Nat) : Nat := p / granule * granule

/-- Modelled from the spec: `pointer_diff(base, cursor)` (not under src/) is the distance
from `base` to `cursor` as a `size_t`. -/
def pointerDiff (base cursor : Nat) : Nat := Bits.usub cursor base

def isAlignedBlock (alignment p size : Nat) : Option Bool :=
  if Bits.nextPow2 alignment = alignment then some ((p ||| size) &&& (alignment - 1) == 0) else none

lemma mod_two_pow_eq_zero_iff {x k : Nat} : x % 2 ^ k = 0 ↔ ∀ i < k, x.testBit i = false := by
  constructor
  · intro h i hi
    have := Nat.testBit_mod_two_pow x k i
    rw [h, Nat.zero_testBit] at this
    simpa [hi] using this.symm
  · intro h
    exact Nat.zero_of_testBit_eq_false fun i => by
      rw [Nat.testBit_mod_two_pow]
      by_cases hi : i < k <;> simp [hi, h i]

theorem isAlignedBlock_two_pow {k : Nat} (hk : k ≤ 64) (p size : Nat) :
    isAlignedBlock (2 ^ k) p size = some (decide (2 ^ k ∣ p ∧ 2 ^ k ∣ size)) := by
  rw [isAlignedBlock, Bits.nextPow2, Bits.nextPow2Bits_two_pow hk, if_pos rfl]
  rw [Option.some.injEq, Bool.eq_iff_iff, beq_iff_eq, decide_eq_true_eq]
  simp only [Nat.and_pow_two_sub_one_eq_mod, Nat.dvd_iff_mod_eq_zero, mod_two_pow_eq_zero_iff,
    Nat.testBit_or, Bool.or_eq_false_iff, imp_and, forall_and]

theorem isAlignedBlock_two_pow_page :
    12 ≤ 64 ∧
      isAlignedBlock (2 ^ 12) 0x3000 0x2000 = some (decide (2 ^ 12 ∣ 0x3000 ∧ 2 ^ 12 ∣ 0x2000)) :=
  ⟨by decide, isAlignedBlock_two_pow (by decide) 0x3000 0x2000⟩

namespace Pagemap

variable (c : Config) {α : Type}

/-! Modelled from the spec: the pagemap (`ds/pagemap.h`, not under src/) keeps one cell per
superslab granule, addressed by `p >> SUPERSLAB_BITS`; a cell never written reads as the
default value. -/

def get (t : Nat → α) (p : Nat) : α := t (p >>> c.superslabBits)

def set (t : Nat → α) (p : Nat) (x : α) : Nat → α :=
  fun i => if i = p >>> c.superslabBits then x else t i

def setRange (t : Nat → α) (p : Nat) (x : α) (length : Nat) : Nat → α :=
  fun i => if p >>> c.superslabBits ≤ i ∧ i < (p >>> c.superslabBits) + length then x else t i

lemma shiftRight_add_mul (p k : Nat) :
    (p + k * superslabSize c) >>> c.superslabBits = p >>> c.superslabBits + k := by
  simp only [Nat.shiftRight_eq_div_pow, superslabSize,
    Nat.add_mul_div_right _ _ (Nat.two_pow_pos _)]

lemma shiftRight_add_of_lt {p r : Nat} (hp : p % superslabSize c = 0) (hr : r < superslabSize c) :
    (p + r) >>> c.superslabBits = p >>> c.superslabBits := by
  simp only [Nat.shiftRight_eq_div_pow]
  unfold superslabSize at hp hr
  obtain ⟨q, rfl⟩ := Nat.dvd_of_mod_eq_zero hp
  rw [Nat.mul_comm, Nat.add_comm, Nat.add_mul_div_right _ _ (Nat.two_pow_pos _),
    Nat.mul_div_cancel _ (Nat.two_pow_pos _), Nat.div_eq_of_lt hr, Nat.zero_add]

end Pagemap

end Snmalloc
