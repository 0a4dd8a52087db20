import Snmalloc.Pagemap

/-! The regions a chunk map tracks, the table a live set of them encodes (`encodeWith`), and the
calls the allocator makes into a chunk map (`Op`). -/

namespace Snmalloc

open Bits

inductive Region
  | slab (kind : SlabKind) (base : Nat)
  | large (base size : Nat)
  deriving DecidableEq, Repr

inductive Op
  | setSlab (kind : SlabKind) (slab : Nat)
  | clearSlab (kind : SlabKind) (slab : Nat)
  | setLargeSize (p size : Nat)
  | clearLargeSize (p size : Nat)
  deriving DecidableEq, Repr

def Op.region : Op → Region
  | .setSlab kind slab | .clearSlab kind slab => .slab kind slab
  | .setLargeSize p size | .clearLargeSize p size => .large p size

def Op.registers : Op → Bool
  | .setSlab _ _ | .setLargeSize _ _ => true
  | .clearSlab _ _ | .clearLargeSize _ _ => false

namespace Region

variable (c : Config)

def base : Region → Nat
  | slab _ b => b
  | large p _ => p

def first (r : Region) : Nat := r.base >>> c.superslabBits

def count : Region → Nat
  | slab _ _ => 1
  | large _ size => nextPow2 size >>> c.superslabBits

def Covers (r : Region) (g : Nat) : Prop := r.first c ≤ g ∧ g < r.first c + r.count c

instance (r : Region) (g : Nat) : Decidable (r.Covers c g) := inferInstanceAs (Decidable (_ ∧ _))

def code : Region → Nat → Nat
  | slab k _, _ => k.code
  | large p size, g =>
    if g = p >>> c.superslabBits then nextPow2Bits size
    else 64 + Nat.log2 (g - p >>> c.superslabBits) + c.superslabBits

def Valid : Region → Prop
  | slab _ b => b % superslabSize c = 0
  | large p size => p % superslabSize c = 0 ∧ superslabSize c ≤ nextPow2 size ∧
      nextPow2 size ≤ 2 ^ 63 ∧ p + nextPow2 size ≤ 2 ^ 64

instance : (r : Region) → Decidable (r.Valid c)
  | slab _ _ => inferInstanceAs (Decidable (_ = _))
  | large _ _ => inferInstanceAs (Decidable (_ ∧ _))

def Disjoint (r r' : Region) : Prop :=
  r.first c + r.count c ≤ r'.first c ∨ r'.first c + r'.count c ≤ r.first c

instance (r r' : Region) : Decidable (r.Disjoint c r') := inferInstanceAs (Decidable (_ ∨ _))

def overlay {α : Type} (r : Region) (val : Nat → α) (t : Nat → α) : Nat → α :=
  fun g => if r.Covers c g then val g else t g

variable {c}

@[simp] lemma overlay_overlay {α : Type} (r : Region) (v w t : Nat → α) :
    r.overlay c v (r.overlay c w t) = r.overlay c v t := by
  funext g
  simp only [overlay]
  split_ifs <;> rfl

lemma Disjoint.symm {r r' : Region} (h : r.Disjoint c r') : r'.Disjoint c r := Or.symm h

lemma Disjoint.not_covers {r r' : Region} {g : Nat} (h : r.Disjoint c r') (hg : r'.Covers c g) :
    ¬ r.Covers c g := by
  unfold Disjoint at h
  unfold Covers at *
  omega

lemma bits_of_bounds {size : Nat} (hlo : superslabSize c ≤ nextPow2 size)
    (hhi : nextPow2 size ≤ 2 ^ 63) :
    c.superslabBits ≤ nextPow2Bits size ∧ nextPow2Bits size ≤ 63 :=
  ⟨(Nat.pow_le_pow_iff_right (by norm_num)).1 hlo, (Nat.pow_le_pow_iff_right (by norm_num)).1 hhi⟩

lemma valid_large_bits {p size : Nat} (h : (large p size).Valid c) :
    c.superslabBits ≤ nextPow2Bits size ∧ nextPow2Bits size ≤ 63 :=
  bits_of_bounds h.2.1 h.2.2.1

lemma count_large {p size : Nat} (h : c.superslabBits ≤ nextPow2Bits size) :
    (large p size).count c = 2 ^ (nextPow2Bits size - c.superslabBits) := by
  simp only [count, nextPow2, Nat.shiftRight_eq_div_pow, Nat.pow_div h (by norm_num : 0 < 2)]

lemma covers_head {p size : Nat} (hB : c.superslabBits ≤ nextPow2Bits size) :
    (large p size).Covers c (p >>> c.superslabBits) := by
  simp only [Covers, first, base, count_large hB]
  exact ⟨le_refl _, Nat.lt_add_of_pos_right (Nat.two_pow_pos _)⟩

@[simp] lemma covers_slab_iff {k : SlabKind} {b g : Nat} :
    (slab k b).Covers c g ↔ b >>> c.superslabBits = g := by
  simp only [Covers, first, base, count]
  omega

lemma nextPow2_eq_mul {size : Nat} (h : c.superslabBits ≤ nextPow2Bits size) :
    nextPow2 size = 2 ^ (nextPow2Bits size - c.superslabBits) * superslabSize c := by
  rw [nextPow2, superslabSize, ← Nat.pow_add, Nat.sub_add_cancel h]

lemma code_cases {r : Region} {g : Nat} (hv : r.Valid c) (hg : r.Covers c g) :
    (∃ k b, r = slab k b ∧ r.code c g = k.code) ∨
    (∃ p size, r = large p size ∧ p >>> c.superslabBits = g ∧ r.code c g = nextPow2Bits size ∧
      c.superslabBits ≤ r.code c g ∧ r.code c g < 64) ∨
    (∃ p size, r = large p size ∧ p >>> c.superslabBits < g ∧
      64 + c.superslabBits ≤ r.code c g ∧ r.code c g < 128) := by
  cases r with
  | slab k b => exact .inl ⟨k, b, rfl, rfl⟩
  | large p size =>
    obtain ⟨hB, h63⟩ := valid_large_bits hv
    simp only [Covers, first, base, count_large hB] at hg
    by_cases hh : g = p >>> c.superslabBits
    · refine .inr (.inl ⟨p, size, rfl, hh.symm, ?_⟩)
      simp only [code, if_pos hh, true_and]
      omega
    · have := (Nat.log2_lt (by omega)).2
        (show g - p >>> c.superslabBits < 2 ^ (nextPow2Bits size - c.superslabBits) by omega)
      refine .inr (.inr ⟨p, size, rfl, by omega, ?_⟩)
      simp only [code, if_neg hh]
      omega

lemma code_bounds {r : Region} {g : Nat} (hv : r.Valid c) (hg : r.Covers c g) :
    r.code c g < 128 ∧ (∀ p size, r = large p size → CMMediumslab < r.code c g) := by
  have hm := c.medium_lt
  rcases code_cases hv hg with
    ⟨k, b, rfl, h⟩ | ⟨p, size, rfl, -, -, h, h'⟩ | ⟨p, size, rfl, -, h, h'⟩
  · have := k.code_le
    exact ⟨by unfold CMMediumslab at this; omega, by simp⟩
  · exact ⟨by omega, fun _ _ _ => by omega⟩
  · exact ⟨h', fun _ _ _ => by unfold CMMediumslab at hm ⊢; omega⟩

end Region

variable (c : Config) {α : Type}

def encodeWith (mk : Nat → Nat → α) (empty : α) : List Region → Nat → α
  | [] => fun _ => empty
  | r :: L => r.overlay c (fun g => mk r.base (r.code c g)) (encodeWith mk empty L)

variable {c} {mk : Nat → Nat → α} {e : α}

lemma encodeWith_of_covers {r : Region} {g : Nat} (hg : r.Covers c g) :
    ∀ {L : List Region}, L.Pairwise (Region.Disjoint c) → r ∈ L →
      encodeWith c mk e L g = mk r.base (r.code c g)
  | r' :: L, hL, hr => by
    rw [List.pairwise_cons] at hL
    simp only [encodeWith, Region.overlay]
    rcases List.mem_cons.1 hr with rfl | hr
    · rw [if_pos hg]
    · rw [if_neg ((hL.1 r hr).not_covers hg), encodeWith_of_covers hg hL.2 hr]

lemma encodeWith_of_not_covers {g : Nat} :
    ∀ {L : List Region}, (∀ r ∈ L, ¬ r.Covers c g) → encodeWith c mk e L g = e
  | [], _ => rfl
  | r :: L, h => by
    simp only [encodeWith, Region.overlay, if_neg (h r (List.mem_cons_self r L))]
    exact encodeWith_of_not_covers fun r' hr' => h r' (List.mem_cons_of_mem r hr')

lemma encodeWith_cases {L : List Region} (hL : L.Pairwise (Region.Disjoint c)) (g : Nat) :
    (∃ r ∈ L, r.Covers c g ∧
      ∀ {β : Type} (mk : Nat → Nat → β) (e : β), encodeWith c mk e L g = mk r.base (r.code c g)) ∨
    ∀ {β : Type} (mk : Nat → Nat → β) (e : β), encodeWith c mk e L g = e := by
  by_cases h : ∃ r ∈ L, r.Covers c g
  · obtain ⟨r, hr, hg⟩ := h
    exact .inl ⟨r, hr, hg, fun _ _ => encodeWith_of_covers hg hL hr⟩
  · push_neg at h
    exact .inr fun _ _ => encodeWith_of_not_covers h

lemma encodeWith_apply_congr {L L' : List Region} (hL : L.Pairwise (Region.Disjoint c))
    (hL' : L'.Pairwise (Region.Disjoint c)) {g : Nat} (hmem : ∀ r, r.Covers c g → (r ∈ L ↔ r ∈ L')) :
    encodeWith c mk e L g = encodeWith c mk e L' g := by
  by_cases h : ∃ r ∈ L, r.Covers c g
  · obtain ⟨r, hr, hg⟩ := h
    rw [encodeWith_of_covers hg hL hr, encodeWith_of_covers hg hL' ((hmem r hg).1 hr)]
  · push_neg at h
    rw [encodeWith_of_not_covers h,
      encodeWith_of_not_covers fun r hr hg => h r ((hmem r hg).2 hr) hg]

lemma encodeWith_congr {L L' : List Region} (hL : L.Pairwise (Region.Disjoint c))
    (hL' : L'.Pairwise (Region.Disjoint c)) (hmem : ∀ r, r ∈ L ↔ r ∈ L') :
    encodeWith c mk e L = encodeWith c mk e L' :=
  funext fun _ => encodeWith_apply_congr hL hL' fun r _ => hmem r

lemma encodeWith_erase {r : Region} :
    ∀ {L : List Region}, L.Pairwise (Region.Disjoint c) → r ∈ L →
      encodeWith c mk e (L.erase r) = r.overlay c (fun _ => e) (encodeWith c mk e L)
  | r' :: L, hL, hr => by
    rw [List.pairwise_cons] at hL
    funext g
    by_cases hrr : r' = r
    · subst hrr
      simp only [List.erase_cons_head, encodeWith, Region.overlay]
      split
      · exact encodeWith_of_not_covers fun r'' hr'' => (hL.1 r'' hr'').symm.not_covers ‹_›
      · rfl
    · have hr : r ∈ L := (List.mem_cons.1 hr).resolve_left (Ne.symm hrr)
      rw [List.erase_cons_tail (by simpa using hrr), encodeWith, encodeWith_erase hL.2 hr]
      simp only [encodeWith, Region.overlay]
      by_cases hg : r.Covers c g
      · simp [hg, (hL.1 r hr).not_covers hg]
      · simp [hg]

end Snmalloc
