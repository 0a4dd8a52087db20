import Snmalloc.Pagemap

/-! The aligned entry points of the malloc front end. Each outcome is an `errno` or the one request
made to `malloc`; the size-class table is a parameter. -/

namespace Snmalloc.Malloc

open Bits

inductive Errno
  | EINVAL
  | ENOMEM
  deriving DecidableEq, Repr

inductive ZeroMem
  | NoZero
  | YesZero
  deriving DecidableEq, Repr

inductive Outcome
  | error (errno : Errno)
  | alloc (zero : ZeroMem) (size : Nat)
  deriving DecidableEq, Repr

structure SizeClasses where
  numSizeclasses : Nat
  sizeToSizeclass : Nat → Nat
  sizeclassToSize : Nat → Nat

variable (c : Config) (sc : SizeClasses)

def malloc (size : Nat) : Outcome := .alloc .NoZero size

def alignedAlloc (alignment size : Nat) : Option Outcome :=
  if size % alignment = 0 then some (malloc size) else none

def memalignSearch (alignment i : Nat) : Nat → Option Outcome
  | 0 => some (malloc (superslabSize c))
  | fuel + 1 =>
    let size := sc.sizeclassToSize i
    if alignment ≤ lowestBit size then alignedAlloc alignment size
    else memalignSearch alignment (i + 1) fuel

def memalign (alignment size : Nat) : Option Outcome :=
  if alignment = 0 ∨ alignment = sizeMax ∨ alignment > superslabSize c then some (.error .EINVAL)
  else if uadd size alignment < size then some (.error .ENOMEM)
  else
    let size := max size alignment
    let i := sc.sizeToSizeclass size
    if i ≥ sc.numSizeclasses then some (malloc size)
    else memalignSearch c sc alignment i (sc.numSizeclasses - i)

def valloc (osPageSize size : Nat) : Option Outcome := memalign c sc osPageSize size

def pvalloc (osPageSize size : Nat) : Option Outcome :=
  if size = sizeMax then some (.error .ENOMEM)
  else memalign c sc osPageSize (usub (uadd size osPageSize) 1 &&& unot (osPageSize - 1))

variable {c sc}

lemma dvd_of_le_lowestBit {j x : Nat} (h : 2 ^ j ≤ lowestBit x) : 2 ^ j ∣ x := by
  by_contra hd
  exact absurd h (Nat.not_le.2 (lowestBit_lt_of_not_dvd hd))

section Search

variable
  (hmono : ∀ i j, i ≤ j → j < sc.numSizeclasses → sc.sizeclassToSize i ≤ sc.sizeclassToSize j)
  (hsmall : ∀ i < sc.numSizeclasses, sc.sizeclassToSize i < superslabSize c)
include hmono hsmall

lemma memalignSearch_spec {j i₀ : Nat} (hj : j ≤ c.superslabBits) (h₀ : i₀ < sc.numSizeclasses) :
    ∀ fuel i, i₀ ≤ i → i + fuel = sc.numSizeclasses →
      ∃ n, memalignSearch c sc (2 ^ j) i fuel = some (malloc n) ∧
        sc.sizeclassToSize i₀ ≤ n ∧ 2 ^ j ∣ n
  | 0, i, _, _ =>
    ⟨superslabSize c, rfl, (hsmall i₀ h₀).le, Nat.pow_dvd_pow 2 hj⟩
  | fuel + 1, i, hi, hf => by
    unfold memalignSearch
    dsimp only
    split
    case isTrue h =>
      have hd := dvd_of_le_lowestBit h
      exact ⟨_, by rw [alignedAlloc, if_pos (Nat.mod_eq_zero_of_dvd hd)],
        hmono i₀ i hi (by omega), hd⟩
    case isFalse =>
      exact memalignSearch_spec hj h₀ fuel (i + 1) (by omega) (by omega)

theorem memalign_request
    (hfit : ∀ s, sc.sizeToSizeclass s < sc.numSizeclasses →
      s ≤ sc.sizeclassToSize (sc.sizeToSizeclass s))
    {j s : Nat} (hj : 2 ^ j ≤ superslabSize c) (hs : s + 2 ^ j < 2 ^ 64) :
    ∃ n, memalign c sc (2 ^ j) s = some (malloc n) ∧ max s (2 ^ j) ≤ n ∧
      (sc.numSizeclasses ≤ sc.sizeToSizeclass n ∨ 2 ^ j ∣ n) := by
  have hjB : j ≤ c.superslabBits := (Nat.pow_le_pow_iff_right (by norm_num)).1 hj
  have hj64 : j < 64 := (Nat.pow_lt_pow_iff_right (by norm_num : 1 < 2)).1 (by omega)
  have hj63 : 2 ^ j ≤ 2 ^ 63 := Nat.pow_le_pow_right (by norm_num) (by omega)
  have hpos := Nat.two_pow_pos j
  rw [memalign, if_neg (by unfold sizeMax; omega), uadd_of_lt hs, if_neg (by omega)]
  simp only
  split
  case isTrue h => exact ⟨_, rfl, le_refl _, .inl h⟩
  case isFalse h =>
    obtain ⟨n, hn, hle, hd⟩ := memalignSearch_spec hmono hsmall hjB (Nat.not_le.1 h) _ _
      (le_refl _) (Nat.add_sub_cancel' (Nat.not_le.1 h).le)
    exact ⟨n, hn, (hfit _ (Nat.not_le.1 h)).trans hle, .inr hd⟩

end Search

theorem memalign_request_scenario :
    ((∀ i j, i ≤ j → j < 3 → 16 * 2 ^ i ≤ 16 * 2 ^ j) ∧
      (∀ i < 3, 16 * 2 ^ i < superslabSize ⟨21, by decide⟩) ∧
      (∀ s, (if s ≤ 16 then 0 else if s ≤ 32 then 1 else if s ≤ 64 then 2 else 3) < 3 →
        s ≤ 16 * 2 ^ (if s ≤ 16 then 0 else if s ≤ 32 then 1 else if s ≤ 64 then 2 else 3)) ∧
      2 ^ 5 ≤ superslabSize ⟨21, by decide⟩ ∧ 40 + 2 ^ 5 < 2 ^ 64) ∧
    ∃ n, memalign ⟨21, by decide⟩
        ⟨3, fun s => if s ≤ 16 then 0 else if s ≤ 32 then 1 else if s ≤ 64 then 2 else 3,
          fun i => 16 * 2 ^ i⟩ (2 ^ 5) 40 = some (malloc n) ∧ max 40 (2 ^ 5) ≤ n ∧
      (3 ≤ (if n ≤ 16 then 0 else if n ≤ 32 then 1 else if n ≤ 64 then 2 else 3) ∨ 2 ^ 5 ∣ n) := by
  have hmono : ∀ i j, i ≤ j → j < 3 → 16 * 2 ^ i ≤ 16 * 2 ^ j :=
    fun _ _ hij _ => Nat.mul_le_mul_left 16 (Nat.pow_le_pow_right (by norm_num) hij)
  have hsmall : ∀ i < 3, 16 * 2 ^ i < superslabSize ⟨21, by decide⟩ := by decide
  have hfit : ∀ s, (if s ≤ 16 then 0 else if s ≤ 32 then 1 else if s ≤ 64 then 2 else 3) < 3 →
      s ≤ 16 * 2 ^ (if s ≤ 16 then 0 else if s ≤ 32 then 1 else if s ≤ 64 then 2 else 3) := by
    intro s hs
    split_ifs at hs ⊢ <;> omega
  exact ⟨⟨hmono, hsmall, hfit, by decide, by decide⟩,
    @memalign_request _ ⟨3, _, fun i => 16 * 2 ^ i⟩ hmono hsmall hfit _ _ (by decide) (by decide)⟩

theorem pvalloc_sizeMax_pred :
    pvalloc c sc 0x1000 (sizeMax - 1) = memalign c sc 0x1000 0 ∧
      pvalloc c sc 0x1000 (sizeMax - 1) = pvalloc c sc 0x1000 1 := by
  have hround : usub (uadd (sizeMax - 1) 0x1000) 1 &&& unot (0x1000 - 1) = 0 := by decide
  have hone : usub (uadd 1 0x1000) 1 &&& unot (0x1000 - 1) = 0x1000 := by decide
  refine ⟨by rw [pvalloc, if_neg (by decide), hround], ?_⟩
  rw [pvalloc, pvalloc, if_neg (by decide), if_neg (by decide), hround, hone, memalign, memalign]
  simp [uadd]

end Snmalloc.Malloc
