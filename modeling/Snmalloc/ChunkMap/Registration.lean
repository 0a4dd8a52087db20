import Snmalloc.ChunkMap.Region

/-! The registration code `DefaultChunkMap` and `PALCHERIBSD::PalChunkMap` share, parametrised by
the cell `mk base x` each stores for code `x` of a region at `base`. -/

namespace Snmalloc.ChunkMap

open Bits

variable (c : Config) {α : Type} (mk : Nat → Nat → α)

def setSlabWith (t : Nat → α) (kind : SlabKind) (slab : Nat) : Nat → α :=
  Pagemap.set c t slab (mk slab kind.code)

def redirectSlide (p : Nat) (t : Nat → α) (ss i : Nat) : Nat → Nat → α
  | 0 => t
  | n + 1 =>
    let run := 2 ^ i
    redirectSlide p (Pagemap.setRange c t ss (mk p (64 + i + c.superslabBits)) run)
      (ss + superslabSize c * run) (i + 1) n

def setLargeSizeWith (t : Nat → α) (p size : Nat) : Nat → α :=
  let sizeBits := nextPow2Bits size
  redirectSlide c mk p (Pagemap.set c t p (mk p sizeBits)) (p + superslabSize c) 0
    (usub sizeBits c.superslabBits)

def clearLargeSizeWith (classify : α → UInt8) (notOurs : α) (t : Nat → α) (vp size : Nat) :
    Option (Nat → α) :=
  if (classify (Pagemap.get c t vp)).toNat = nextPow2Bits size then
    some (Pagemap.setRange c t vp notOurs (nextPow2 size >>> c.superslabBits))
  else none

variable {c mk}

private lemma log2_eq_of_le_of_lt {k i : Nat} (h₁ : 2 ^ i ≤ k) (h₂ : k < 2 ^ (i + 1)) :
    Nat.log2 k = i := by
  have hk : k ≠ 0 := Nat.pos_iff_ne_zero.1 (lt_of_lt_of_le (Nat.two_pow_pos i) h₁)
  have := (Nat.le_log2 hk).2 h₁
  have := (Nat.log2_lt hk).2 h₂
  omega

lemma redirectSlide_apply (p : Nat) : ∀ n i (t : Nat → α) g,
    redirectSlide c mk p t (p + superslabSize c * 2 ^ i) i n g =
      if p >>> c.superslabBits + 2 ^ i ≤ g ∧ g < p >>> c.superslabBits + 2 ^ (i + n) then
        mk p (64 + Nat.log2 (g - p >>> c.superslabBits) + c.superslabBits)
      else t g := by
  intro n
  induction n with
  | zero =>
    intro i t g
    rw [redirectSlide, Nat.add_zero, if_neg (by omega)]
  | succ n ih =>
    intro i t g
    have h2 : 2 ^ (i + 1) = 2 ^ i + 2 ^ i := by rw [Nat.pow_succ]; omega
    have hle : 2 ^ (i + 1) ≤ 2 ^ (i + 1 + n) := Nat.pow_le_pow_right (by norm_num) (by omega)
    have hpos := Nat.two_pow_pos i
    rw [redirectSlide, show p + superslabSize c * 2 ^ i + superslabSize c * 2 ^ i =
      p + superslabSize c * 2 ^ (i + 1) by rw [h2, Nat.mul_add, Nat.add_assoc], ih,
      show i + (n + 1) = i + 1 + n by omega]
    simp only [Pagemap.setRange, Nat.mul_comm (superslabSize c), Pagemap.shiftRight_add_mul]
    by_cases hhi : p >>> c.superslabBits + 2 ^ (i + 1) ≤ g ∧
        g < p >>> c.superslabBits + 2 ^ (i + 1 + n)
    · rw [if_pos hhi, if_pos (by omega)]
    · rw [if_neg hhi]
      by_cases hlo : p >>> c.superslabBits + 2 ^ i ≤ g ∧ g < p >>> c.superslabBits + 2 ^ i + 2 ^ i
      · rw [if_pos hlo, if_pos (by omega), log2_eq_of_le_of_lt (i := i) (by omega) (by omega)]
      · rw [if_neg hlo, if_neg (by omega)]

lemma setLargeSizeWith_eq (t : Nat → α) (p size : Nat) (h : c.superslabBits ≤ nextPow2Bits size) :
    setLargeSizeWith c mk t p size =
      (Region.large p size).overlay c (fun g => mk p ((Region.large p size).code c g)) t := by
  funext g
  have h64 : nextPow2Bits size < 2 ^ 64 := lt_of_le_of_lt (nextPow2Bits_le size) (by norm_num)
  have hpos : 0 < 2 ^ (nextPow2Bits size - c.superslabBits) := Nat.two_pow_pos _
  rw [setLargeSizeWith, usub_of_le h h64,
    show p + superslabSize c = p + superslabSize c * 2 ^ 0 by simp,
    redirectSlide_apply, Nat.zero_add]
  simp only [Region.overlay, Region.Covers, Region.first, Region.base, Region.count_large h,
    Region.code, Pagemap.set, pow_zero]
  split_ifs <;> first | rfl | omega

lemma set_eq_overlay (t : Nat → α) (kind : SlabKind) (slab : Nat) (x : α) :
    Pagemap.set c t slab x = (Region.slab kind slab).overlay c (fun _ => x) t := by
  funext g
  simp only [Pagemap.set, Region.overlay, Region.Covers, Region.first, Region.base, Region.count]
  split_ifs <;> first | rfl | omega

lemma setSlabWith_eq (t : Nat → α) (kind : SlabKind) (slab : Nat) :
    setSlabWith c mk t kind slab =
      (Region.slab kind slab).overlay c (fun g => mk slab ((Region.slab kind slab).code c g)) t :=
  set_eq_overlay t kind slab _

lemma setRange_eq_overlay (t : Nat → α) (vp size : Nat) (x : α) :
    Pagemap.setRange c t vp x (nextPow2 size >>> c.superslabBits) =
      (Region.large vp size).overlay c (fun _ => x) t := rfl

theorem clearLargeSizeWith_setLargeSizeWith (classify : α → UInt8) (notOurs : α)
    (hmk : (classify (mk p (nextPow2Bits size))).toNat = nextPow2Bits size)
    (t : Nat → α) (h : c.superslabBits ≤ nextPow2Bits size) :
    clearLargeSizeWith c classify notOurs (setLargeSizeWith c mk t p size) p size =
      some ((Region.large p size).overlay c (fun _ => notOurs) t) := by
  rw [clearLargeSizeWith, setLargeSizeWith_eq t p size h, Pagemap.get]
  simp only [Region.overlay, if_pos (Region.covers_head h), Region.code, if_true, hmk,
    setRange_eq_overlay,
    Region.overlay_overlay]

end Snmalloc.ChunkMap
