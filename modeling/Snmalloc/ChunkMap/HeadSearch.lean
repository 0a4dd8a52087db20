import Snmalloc.ChunkMap.Default

/-! The redirect codes `set_large_size` writes into a large allocation, and the backward walk that
reaches its head in `popcount k` steps from granule offset `k`. -/

namespace Snmalloc.DefaultChunkMap

open Bits ChunkMap

variable {c : Config}

/-- Modelled from the spec: a lookup from an interior address of a large allocation
(`external_address`, not under src/) reads the cell of `a` and, while its code `x` is at least
64, moves back `2 ^ (x - 64)` bytes. The list holds the addresses it visits. -/
def headWalk (c : Config) (t : Nat → UInt8) (a : Nat) : Nat → List Nat
  | 0 => [a]
  | fuel + 1 =>
    let x := (get c t a).toNat
    if 64 ≤ x then a :: headWalk c t (a - 2 ^ (x - 64)) fuel else [a]

lemma popcount_sub_top {k : Nat} (hk : k ≠ 0) :
    popcount (k - 2 ^ Nat.log2 k) + 1 = popcount k := by
  have hle := Nat.log2_self_le hk
  have hlt : k < 2 ^ (Nat.log2 k + 1) := Nat.lt_log2_self
  rw [← popcount_two_pow_add (Nat.log2 k) _ (by rw [Nat.pow_succ] at hlt; omega),
    Nat.add_sub_cancel' hle]

lemma headWalk_stop {t : Nat → UInt8} {a : Nat} (h : (get c t a).toNat < 64) :
    ∀ fuel, headWalk c t a fuel = [a]
  | 0 => rfl
  | _ + 1 => if_neg (Nat.not_le.2 h)

lemma sub_top_granule {p k r : Nat} (hk : k ≠ 0) :
    p + k * superslabSize c + r - 2 ^ (Nat.log2 k + c.superslabBits) =
      p + (k - 2 ^ Nat.log2 k) * superslabSize c + r := by
  have := Nat.mul_le_mul_right (superslabSize c) (Nat.log2_self_le hk)
  rw [Nat.pow_add, show 2 ^ c.superslabBits = superslabSize c from rfl, Nat.sub_mul]
  omega

lemma headWalk_redirect {t : Nat → UInt8} {p k r : Nat} (hk : k ≠ 0)
    (hx : (get c t (p + k * superslabSize c + r)).toNat = 64 + Nat.log2 k + c.superslabBits)
    (fuel : Nat) :
    headWalk c t (p + k * superslabSize c + r) (fuel + 1) = (p + k * superslabSize c + r) ::
      headWalk c t (p + (k - 2 ^ Nat.log2 k) * superslabSize c + r) fuel := by
  simp only [headWalk, hx, show 64 ≤ 64 + Nat.log2 k + c.superslabBits by omega, if_true,
    show 64 + Nat.log2 k + c.superslabBits - 64 = Nat.log2 k + c.superslabBits by omega,
    sub_top_granule hk]

def LargeCells (c : Config) (t : Nat → UInt8) (p S m : Nat) : Prop :=
  ∀ k < m, ∀ r < superslabSize c,
    (get c t (p + k * superslabSize c + r)).toNat =
      if k = 0 then nextPow2Bits S else 64 + Nat.log2 k + c.superslabBits

def LargeOrFreeCells (c : Config) (t : Nat → UInt8) (p S m : Nat) : Prop :=
  ∀ k < m, ∀ r < superslabSize c, get c t (p + k * superslabSize c + r) = CMNotOurs.toUInt8 ∨
    (get c t (p + k * superslabSize c + r)).toNat =
      if k = 0 then nextPow2Bits S else 64 + Nat.log2 k + c.superslabBits

lemma get_add_mul_add {p r : Nat} (hp : p % superslabSize c = 0) (hr : r < superslabSize c)
    (t : Nat → UInt8) (k : Nat) :
    get c t (p + k * superslabSize c + r) = t (p >>> c.superslabBits + k) := by
  have hal : (p + k * superslabSize c) % superslabSize c = 0 := by
    rw [Nat.add_mul_mod_self_right, hp]
  rw [get, Pagemap.get, Pagemap.shiftRight_add_of_lt c hal hr, Pagemap.shiftRight_add_mul]

section Slide

variable {p S : Nat} (hB : c.superslabBits ≤ nextPow2Bits S)
include hB

lemma largeCells_setLargeSize (hp : p % superslabSize c = 0) (t : Nat → UInt8) :
    LargeCells c (setLargeSize c t p S) p S (2 ^ (nextPow2Bits S - c.superslabBits)) := by
  intro k hk r hr
  rw [get_add_mul_add hp hr, setLargeSize_eq t p S hB]
  simp only [Region.overlay, Region.Covers, Region.first, Region.base, Region.count_large hB,
    Region.code, Nat.add_sub_cancel_left, Nat.add_right_eq_self, toNat_toUInt8]
  rw [if_pos ⟨Nat.le_add_right _ _, by omega⟩]
  have := nextPow2Bits_le S
  split_ifs with h0
  · exact Nat.mod_eq_of_lt (by omega)
  · have := (Nat.log2_lt h0).2 hk
    exact Nat.mod_eq_of_lt (by omega)

lemma granule_outside (hp : p % superslabSize c = 0) {a : Nat}
    (ha : a < p ∨ p + nextPow2 S ≤ a) :
    a >>> c.superslabBits < p >>> c.superslabBits ∨
      p >>> c.superslabBits + 2 ^ (nextPow2Bits S - c.superslabBits) ≤ a >>> c.superslabBits := by
  rw [Region.nextPow2_eq_mul hB] at ha
  unfold superslabSize at ha hp
  simp only [Nat.shiftRight_eq_div_pow]
  rcases ha with ha | ha
  · exact .inl (Nat.div_lt_div_of_lt_of_dvd (Nat.dvd_of_mod_eq_zero hp) ha)
  · have := Nat.div_le_div_right (c := 2 ^ c.superslabBits) ha
    rw [Nat.add_mul_div_right _ _ (Nat.two_pow_pos _)] at this
    exact .inr this

lemma get_setLargeSize_frame (hp : p % superslabSize c = 0) (t : Nat → UInt8) {a : Nat}
    (ha : a < p ∨ p + nextPow2 S ≤ a) : get c (setLargeSize c t p S) a = get c t a := by
  simp only [get, Pagemap.get, setLargeSize_eq t p S hB, Region.overlay, Region.Covers,
    Region.first, Region.base, Region.count_large hB]
  have := granule_outside hB hp ha
  rw [if_neg (by omega)]

end Slide

section Walk

variable {p S : Nat}

lemma headWalk_of_largeCells {t : Nat → UInt8} {m : Nat} (ht : LargeCells c t p S m) {r : Nat}
    (hr : r < superslabSize c) (h64 : nextPow2Bits S < 64) :
    ∀ fuel k, k < m → popcount k ≤ fuel →
      let w := headWalk c t (p + k * superslabSize c + r) fuel
      w.length = popcount k + 1 ∧ (∀ b ∈ w, p ≤ b) ∧ w.getLast? = some (p + r) := by
  intro fuel
  induction fuel with
  | zero =>
    intro k _ hk
    obtain rfl : k = 0 := by
      by_contra h
      have := popcount_sub_top h
      omega
    simp [headWalk]
  | succ fuel ih =>
    intro k hkn hk
    have hx := ht k hkn r hr
    by_cases h0 : k = 0
    · subst h0
      simp only [if_pos rfl, Nat.zero_mul, Nat.add_zero] at hx
      simp [headWalk_stop (hx ▸ h64 : (get c t (p + r)).toNat < 64)]
    · rw [if_neg h0] at hx
      have hpop := popcount_sub_top h0
      obtain ⟨hlen, hge, hlast⟩ :=
        ih (k - 2 ^ Nat.log2 k) (lt_of_le_of_lt (Nat.sub_le _ _) hkn) (by omega)
      dsimp only
      rw [headWalk_redirect h0 hx]
      refine ⟨by rw [List.length_cons, hlen, hpop], List.forall_mem_cons.2 ⟨by omega, hge⟩, ?_⟩
      rw [List.getLast?_cons, hlast]
      rfl

lemma headWalk_of_largeOrFreeCells {t : Nat → UInt8} {m : Nat} (ht : LargeOrFreeCells c t p S m)
    {r : Nat} (hr : r < superslabSize c) (h64 : nextPow2Bits S < 64) (k : Nat) (hkn : k < m)
    (fuel : Nat) (hk : popcount k ≤ fuel) :
    let w := headWalk c t (p + k * superslabSize c + r) fuel
    w.length ≤ popcount k + 1 ∧ (∀ b ∈ w, p ≤ b ∧ b ≤ p + k * superslabSize c + r) ∧
      ∃ b, w.getLast? = some b ∧
        ((b = p + r ∧ (get c t b).toNat = nextPow2Bits S) ∨ get c t b = CMNotOurs.toUInt8) := by
  induction k using Nat.strong_induction_on generalizing fuel with
  | _ k ih =>
  dsimp only
  rcases ht k hkn r hr with hx | hx
  · -- a free cell stops the walk
    rw [headWalk_stop (by rw [hx]; decide)]
    exact ⟨by simp, List.forall_mem_singleton.2 ⟨by omega, le_rfl⟩, _, rfl, .inr hx⟩
  by_cases h0 : k = 0
  · -- so does the head
    subst h0
    simp only [if_pos rfl, Nat.zero_mul, Nat.add_zero] at hx ⊢
    rw [headWalk_stop (hx ▸ h64)]
    exact ⟨by simp, List.forall_mem_singleton.2 ⟨by omega, le_rfl⟩, _, rfl, .inl ⟨rfl, hx⟩⟩
  -- a redirect code moves it back to granule offset `k - 2 ^ log2 k`
  rw [if_neg h0] at hx
  have hpop := popcount_sub_top h0
  have hback := Nat.mul_le_mul_right (superslabSize c) (Nat.sub_le k (2 ^ Nat.log2 k))
  obtain ⟨fuel, rfl⟩ : ∃ f, fuel = f + 1 := ⟨fuel - 1, by omega⟩
  obtain ⟨hlen, hin, b, hlast, hb⟩ := ih (k - 2 ^ Nat.log2 k)
    (Nat.sub_lt (Nat.pos_of_ne_zero h0) (Nat.two_pow_pos _)) (lt_of_le_of_lt (Nat.sub_le _ _) hkn)
    fuel (by omega)
  rw [headWalk_redirect h0 hx]
  refine ⟨by rw [List.length_cons]; omega, List.forall_mem_cons.2 ⟨by omega, fun b' hb' => ?_⟩,
    b, by rw [List.getLast?_cons, hlast]; rfl, hb⟩
  have := hin b' hb'
  omega

end Walk

theorem setLargeSize_redirect (t : Nat → UInt8) (p S : Nat) (hp : p % superslabSize c = 0)
    (hlo : superslabSize c ≤ nextPow2 S) (hhi : nextPow2 S ≤ 2 ^ 63) :
    let t' := setLargeSize c t p S
    let n := nextPow2Bits S - c.superslabBits
    ((get c t' p).toNat = nextPow2Bits S ∧ c.superslabBits ≤ nextPow2Bits S ∧
      nextPow2Bits S < 64) ∧
    (∀ k, 1 ≤ k → k < 2 ^ n →
      let x := (get c t' (p + k * superslabSize c)).toNat
      64 + c.superslabBits ≤ x ∧ x < 128 ∧ x = 64 + c.superslabBits + Nat.log2 k ∧
        2 ^ (x - 64) ≤ k * superslabSize c ∧ k * superslabSize c < 2 ^ (x - 63)) ∧
    (∀ k < 2 ^ n, CMMediumslab < (get c t' (p + k * superslabSize c)).toNat) ∧
    (∀ a, a < p ∨ p + nextPow2 S ≤ a → get c t' a = get c t a) ∧
    (∀ k < 2 ^ n, ∀ r < superslabSize c, ∀ fuel, popcount k ≤ fuel →
      let w := headWalk c t' (p + k * superslabSize c + r) fuel
      w.length = popcount k + 1 ∧ (∀ b ∈ w, p ≤ b) ∧ w.getLast? = some (p + r)) := by
  obtain ⟨hB, h63⟩ := Region.bits_of_bounds hlo hhi
  have hG := superslabSize_pos c
  have hm := c.medium_lt
  have ht := largeCells_setLargeSize hB hp t
  have hbyte (k : Nat) (hk : k < 2 ^ (nextPow2Bits S - c.superslabBits)) :=
    Nat.add_zero (p + k * superslabSize c) ▸ ht k hk 0 hG
  refine ⟨⟨?_, hB, by omega⟩, fun k hk1 hk => ?_, fun k hk => ?_,
    fun a ha => get_setLargeSize_frame hB hp t ha,
    fun k hk r hr fuel hf => headWalk_of_largeCells ht hr (by omega) fuel k hk hf⟩
  · simpa using hbyte 0 (Nat.two_pow_pos _)
  · simp only [hbyte k hk, if_neg (by omega : k ≠ 0)]
    have hlog := (Nat.log2_lt (by omega)).2 hk
    have hle := Nat.log2_self_le (by omega : k ≠ 0)
    have hlt : k < 2 ^ (Nat.log2 k + 1) := Nat.lt_log2_self
    refine ⟨by omega, by omega, by omega, ?_, ?_⟩
    · rw [show 64 + Nat.log2 k + c.superslabBits - 64 = Nat.log2 k + c.superslabBits by omega,
        Nat.pow_add]
      exact Nat.mul_le_mul_right _ hle
    · rw [show 64 + Nat.log2 k + c.superslabBits - 63 = Nat.log2 k + 1 + c.superslabBits by omega,
        Nat.pow_add]
      exact Nat.mul_lt_mul_of_pos_right hlt hG
  · rw [hbyte k hk]
    split_ifs <;> omega

theorem setLargeSize_redirect_scenario :
    (0x1000000 % superslabSize ⟨21, by decide⟩ = 0 ∧
      superslabSize ⟨21, by decide⟩ ≤ nextPow2 (2 ^ 24) ∧ nextPow2 (2 ^ 24) ≤ 2 ^ 63) ∧
    (get ⟨21, by decide⟩ (setLargeSize ⟨21, by decide⟩ (fun _ => 0) 0x1000000 (2 ^ 24))
      0x1000000).toNat = 24 ∧
    (get ⟨21, by decide⟩ (setLargeSize ⟨21, by decide⟩ (fun _ => 0) 0x1000000 (2 ^ 24))
      (0x1000000 + 1 * superslabSize ⟨21, by decide⟩)).toNat = 85 := by
  have hyp : 0x1000000 % superslabSize ⟨21, by decide⟩ = 0 ∧
      superslabSize ⟨21, by decide⟩ ≤ nextPow2 (2 ^ 24) ∧ nextPow2 (2 ^ 24) ≤ 2 ^ 63 := by decide
  have h := setLargeSize_redirect (fun _ => 0) 0x1000000 (2 ^ 24) hyp.1 hyp.2.1 hyp.2.2
  have hb : nextPow2Bits (2 ^ 24) = 24 := by decide
  refine ⟨hyp, h.1.1.trans hb, ?_⟩
  rw [(h.2.1 1 le_rfl (by rw [hb]; decide)).2.2.1, show (1 : Nat) = 2 ^ 0 from rfl,
    Nat.log2_two_pow]
  rfl

end Snmalloc.DefaultChunkMap
