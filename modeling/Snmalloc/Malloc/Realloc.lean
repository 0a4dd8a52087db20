import Snmalloc.Malloc.Memalign

/-! `realloc` without CHERI bounds, with the allocator's `alloc_size` as a parameter and `0` for
`NULL`, and `reallocarray`, which hands an overflow-checked product to it. -/

namespace Snmalloc.Malloc

open Bits

inductive ReallocOutcome
  | error (errno : Errno)
  | alloc (size : Nat)
  | free
  | keep
  | move (size copied : Nat)
  deriving DecidableEq, Repr

variable (sc : SizeClasses)

def realloc (allocSize : Nat → Nat) (quarantine : Bool) (ptr size : Nat) : ReallocOutcome :=
  if size = sizeMax then .error .ENOMEM
  else if ptr = 0 then .alloc size
  else if size = 0 then .free
  else
    let sz := allocSize ptr
    let holdStill := decide (sz = sc.sizeclassToSize (sc.sizeToSizeclass size)) && !quarantine
    if holdStill then .keep else .move size (min size sz)

def reallocarray (allocSize : Nat → Nat) (quarantine : Bool) (ptr nmemb size : Nat) :
    ReallocOutcome :=
  let (sz, overflow) := umul size nmemb
  if overflow then .error .ENOMEM else realloc sc allocSize quarantine ptr sz

variable {sc}

theorem reallocarray_eq (allocSize : Nat → Nat) (quarantine : Bool) (ptr nmemb size : Nat) :
    reallocarray sc allocSize quarantine ptr nmemb size =
      if sizeMax ≤ size * nmemb then .error .ENOMEM
      else realloc sc allocSize quarantine ptr (size * nmemb) := by
  simp only [reallocarray, umul, decide_eq_true_eq]
  unfold sizeMax
  split_ifs with hover hmax hmax
  · rfl
  · omega
  · rw [Nat.mod_eq_of_lt (by omega), realloc, if_pos (by unfold sizeMax; omega)]
  · rw [Nat.mod_eq_of_lt (by omega)]

end Snmalloc.Malloc
