import Snmalloc.Malloc.Memalign

/-! `calloc` and the bootstrap `__je_bootstrap_calloc`, which moves a zero-byte request into the
first size class with a branch-free adjustment of the product. -/

namespace Snmalloc.Malloc

open Bits

def calloc (nmemb size : Nat) : Outcome :=
  let (sz, overflow) := umul size nmemb
  if overflow then .error .ENOMEM else .alloc .YesZero sz

def jeBootstrapCalloc (nmemb size : Nat) : Outcome :=
  let (sz, overflow) := umul size nmemb
  if overflow then .error .ENOMEM
  else .alloc .YesZero (uadd (usub sz 1 >>> (BITS - 1)) sz)

theorem jeBootstrapCalloc_eq (nmemb size : Nat) :
    jeBootstrapCalloc nmemb size =
      if 2 ^ 64 ≤ size * nmemb then .error .ENOMEM
      else .alloc .YesZero
        (if size * nmemb = 0 then 1
        else if size * nmemb ≤ 2 ^ 63 then size * nmemb
        else (size * nmemb + 1) % 2 ^ 64) := by
  simp only [jeBootstrapCalloc, umul, decide_eq_true_eq]
  split
  case isTrue => rfl
  case isFalse h =>
    congr 1
    have hlt : size * nmemb < 2 ^ 64 := Nat.not_le.1 h
    rw [Nat.mod_eq_of_lt hlt]
    unfold uadd usub BITS
    rw [Nat.shiftRight_eq_div_pow]
    split_ifs <;> omega

theorem jeBootstrapCalloc_sizeMax :
    jeBootstrapCalloc 1 sizeMax = .alloc .YesZero 0 ∧
      calloc 1 sizeMax = .alloc .YesZero sizeMax := by
  constructor <;> decide

end Snmalloc.Malloc
