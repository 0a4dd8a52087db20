import Snmalloc.ChunkMap.Refinement

/-! `PALCHERIBSD::PalChunkMap`: each cell holds the region's base capability moved by the region's
code, modelled by its address, and it simulates `DefaultChunkMap`. -/

namespace Snmalloc.PalChunkMap

open Bits ChunkMap

variable (c : Config)

def pagemapPtrAlign : Nat := 0x100

def get (t : Nat → Nat) (p : Nat) : UInt8 := (Pagemap.get c t p).toUInt8

def getp (offset : Bool) (t : Nat → Nat) (p : Nat) : Nat :=
  let pmp := pointerAlignDown pagemapPtrAlign (Pagemap.get c t p)
  if offset then pointerOffset pmp (pointerDiff pmp p) else pmp

def setSlab (t : Nat → Nat) (kind : SlabKind) (slab : Nat) : Option (Nat → Nat) :=
  if pointerAlignDown (superslabSize c) slab = slab then
    some (setSlabWith c pointerOffset t kind slab)
  else none

def clearSlab (t : Nat → Nat) (_kind : SlabKind) (slab : Nat) : Option (Nat → Nat) :=
  if pointerAlignDown (superslabSize c) slab = slab then some (Pagemap.set c t slab 0) else none

def setLargeSize (t : Nat → Nat) (vp size : Nat) : Nat → Nat :=
  setLargeSizeWith c pointerOffset t vp size

def clearLargeSize (t : Nat → Nat) (vp size : Nat) : Option (Nat → Nat) :=
  clearLargeSizeWith c Nat.toUInt8 0 t vp size

def step (t : Nat → Nat) : Op → Option (Nat → Nat)
  | .setSlab kind slab => setSlab c t kind slab
  | .clearSlab kind slab => clearSlab c t kind slab
  | .setLargeSize p size => some (setLargeSize c t p size)
  | .clearLargeSize p size => clearLargeSize c t p size

def run (ops : List Op) : Option (Nat → Nat) := ops.foldlM (step c) fun _ => 0

def Enc (L : List Region) : Nat → Nat := encodeWith c pointerOffset 0 L

def regionBase (L : List Region) (g : Nat) : Nat := encodeWith c (fun base _ => base) 0 L g

variable {c}

lemma valid_base_mod {r : Region} (hv : r.Valid c) : r.base % superslabSize c = 0 := by
  cases r with
  | slab _ _ => exact hv
  | large _ _ => exact hv.1

lemma base_mod_256 {r : Region} (hv : r.Valid c) (h8 : 8 ≤ c.superslabBits) :
    r.base % 256 = 0 :=
  Nat.mod_eq_zero_of_dvd ((Nat.pow_dvd_pow 2 h8).trans (Nat.dvd_of_mod_eq_zero (valid_base_mod hv)))

lemma alignDown_of_valid {r : Region} (hv : r.Valid c) :
    pointerAlignDown (superslabSize c) r.base = r.base := by
  have := valid_base_mod hv
  unfold pointerAlignDown
  rw [Nat.div_mul_cancel (Nat.dvd_of_mod_eq_zero this)]

theorem step_Enc (h8 : 8 ≤ c.superslabBits) {L L' : LiveSet c} {op : Op}
    (h : L.step op = some L') : step c (Enc c L.regions) op = some (Enc c L'.regions) := by
  cases op with
  | setSlab kind slab =>
    obtain ⟨hv, hL'⟩ := LiveSet.register_eq_some h
    have ha : pointerAlignDown (superslabSize c) slab = slab := alignDown_of_valid hv
    rw [hL', step, setSlab, if_pos ha, setSlabWith_eq]
    rfl
  | clearSlab kind slab =>
    obtain ⟨hr, hL'⟩ := LiveSet.release_eq_some h
    have ha : pointerAlignDown (superslabSize c) slab = slab := alignDown_of_valid (L.valid _ hr)
    rw [step, clearSlab, if_pos ha, hL']
    unfold Enc
    rw [encodeWith_erase L.disjoint hr, set_eq_overlay _ kind]
  | setLargeSize p size =>
    obtain ⟨hv, hL'⟩ := LiveSet.register_eq_some h
    rw [hL', step, setLargeSize, setLargeSizeWith_eq _ p size (Region.valid_large_bits hv).1]
    rfl
  | clearLargeSize p size =>
    obtain ⟨hr, hL'⟩ := LiveSet.release_eq_some h
    have hv := L.valid _ hr
    have hB := (Region.valid_large_bits hv).1
    have h256 := base_mod_256 hv h8
    have hcode : ((Enc c L.regions (p >>> c.superslabBits)).toUInt8).toNat = nextPow2Bits size := by
      rw [Enc, encodeWith_of_covers (Region.covers_head hB) L.disjoint hr]
      simp only [Region.code, if_true, pointerOffset, toNat_toUInt8, Region.base] at h256 ⊢
      have := nextPow2Bits_le size
      omega
    rw [step, clearLargeSize, clearLargeSizeWith, Pagemap.get, if_pos hcode, hL']
    unfold Enc
    rw [encodeWith_erase L.disjoint hr, setRange_eq_overlay]

lemma Enc_agrees (h8 : 8 ≤ c.superslabBits) (L : LiveSet c) (a : Nat) :
    Pagemap.get c (Enc c L.regions) a = regionBase c L.regions (a >>> c.superslabBits) +
        (DefaultChunkMap.get c (DefaultChunkMap.Enc c L.regions) a).toNat ∧
      get c (Enc c L.regions) a = DefaultChunkMap.get c (DefaultChunkMap.Enc c L.regions) a ∧
      getp c false (Enc c L.regions) a = regionBase c L.regions (a >>> c.superslabBits) := by
  simp only [get, getp, DefaultChunkMap.get, Pagemap.get, Enc, regionBase, DefaultChunkMap.Enc,
    Bool.false_eq_true, ↓reduceIte, pointerAlignDown, pagemapPtrAlign]
  rcases encodeWith_cases L.disjoint (a >>> c.superslabBits) with ⟨r, hr, hg, hcell⟩ | hcell
  · have h256 := base_mod_256 (L.valid r hr) h8
    have hcode := (Region.code_bounds (L.valid r hr) hg).1
    simp only [hcell, pointerOffset, DefaultChunkMap.cell, toNat_toUInt8]
    refine ⟨by omega, UInt8.ext ?_, by omega⟩
    simp only [toNat_toUInt8]
    omega
  · simp [hcell, CMNotOurs]

lemma run_Enc (h8 : 8 ≤ c.superslabBits) {ops : List Op} {L : LiveSet c}
    (h : LiveSet.run c ops = some L) : run c ops = some (Enc c L.regions) :=
  foldlM_simulation LiveSet.step (step c) (fun L => Enc c L.regions) (fun _ _ _ => step_Enc h8) ops
    LiveSet.empty L h

theorem run_simulates_default (h8 : 8 ≤ c.superslabBits) {ops : List Op}
    (h : (LiveSet.run c ops).isSome) (n : Nat) :
    ∃ L t d, LiveSet.run c (ops.take n) = some L ∧ run c (ops.take n) = some t ∧
      DefaultChunkMap.run c (ops.take n) = some d ∧
      ∀ a, Pagemap.get c t a = regionBase c L.regions (a >>> c.superslabBits) +
          (DefaultChunkMap.get c d a).toNat ∧
        get c t a = DefaultChunkMap.get c d a ∧
        getp c false t a = regionBase c L.regions (a >>> c.superslabBits) := by
  obtain ⟨L, hL⟩ := foldlM_take_isSome LiveSet.step LiveSet.empty h n
  exact ⟨L, _, _, hL, run_Enc h8 hL, DefaultChunkMap.run_Enc hL, Enc_agrees h8 L⟩

theorem run_simulates_default_scenario :
    (8 ≤ 21 ∧ (LiveSet.run ⟨21, by decide⟩ [.setSlab .mediumslab 0x1000000,
      .setLargeSize 0x2000000 (2 ^ 24), .clearLargeSize 0x2000000 (2 ^ 24)]).isSome) ∧
    ∀ n, ∃ (L : LiveSet ⟨21, by decide⟩) (t : Nat → Nat) (d : Nat → UInt8),
      LiveSet.run ⟨21, by decide⟩ ([.setSlab .mediumslab 0x1000000,
        .setLargeSize 0x2000000 (2 ^ 24), .clearLargeSize 0x2000000 (2 ^ 24)].take n) = some L ∧
      run ⟨21, by decide⟩ ([.setSlab .mediumslab 0x1000000, .setLargeSize 0x2000000 (2 ^ 24),
        .clearLargeSize 0x2000000 (2 ^ 24)].take n) = some t ∧
      DefaultChunkMap.run ⟨21, by decide⟩ ([.setSlab .mediumslab 0x1000000,
        .setLargeSize 0x2000000 (2 ^ 24), .clearLargeSize 0x2000000 (2 ^ 24)].take n) = some d ∧
      ∀ a, Pagemap.get ⟨21, by decide⟩ t a =
          regionBase ⟨21, by decide⟩ L.regions (a >>> 21) +
            (DefaultChunkMap.get ⟨21, by decide⟩ d a).toNat ∧
        get ⟨21, by decide⟩ t a = DefaultChunkMap.get ⟨21, by decide⟩ d a ∧
        getp ⟨21, by decide⟩ false t a = regionBase ⟨21, by decide⟩ L.regions (a >>> 21) :=
  have h : (LiveSet.run ⟨21, by decide⟩ [.setSlab .mediumslab 0x1000000,
      .setLargeSize 0x2000000 (2 ^ 24), .clearLargeSize 0x2000000 (2 ^ 24)]).isSome := by decide
  ⟨⟨by decide, h⟩, run_simulates_default (by decide) h⟩

lemma regionBase_le (L : LiveSet c) (a : Nat) :
    regionBase c L.regions (a >>> c.superslabBits) ≤ a := by
  rcases encodeWith_cases L.disjoint (a >>> c.superslabBits) with ⟨r, hr, hg, hcell⟩ | hcell
  · have hv := valid_base_mod (L.valid r hr)
    have hfirst := hg.1
    simp only [Region.first, Nat.shiftRight_eq_div_pow] at hfirst
    unfold superslabSize at hv
    rw [regionBase, hcell]
    calc r.base = r.base / 2 ^ c.superslabBits * 2 ^ c.superslabBits :=
          (Nat.div_mul_cancel (Nat.dvd_of_mod_eq_zero hv)).symm
      _ ≤ a / 2 ^ c.superslabBits * 2 ^ c.superslabBits := Nat.mul_le_mul_right _ hfirst
      _ ≤ a := Nat.div_mul_le_self a _
  · rw [regionBase, hcell]
    exact Nat.zero_le a

theorem run_getp_offset (h8 : 8 ≤ c.superslabBits) {ops : List Op}
    (h : (LiveSet.run c ops).isSome) :
    ∃ t, run c ops = some t ∧ ∀ a < 2 ^ 64, getp c true t a = DefaultChunkMap.getp a := by
  obtain ⟨L, hL⟩ := Option.isSome_iff_exists.1 h
  refine ⟨_, run_Enc h8 hL, fun a ha => ?_⟩
  have hbase := (Enc_agrees h8 L a).2.2
  have hle := regionBase_le L a
  show pointerOffset (getp c false _ a) (pointerDiff (getp c false _ a) a) = a
  rw [hbase, pointerOffset, pointerDiff, usub_of_le hle ha, Nat.add_sub_cancel' hle]

theorem run_getp_offset_scenario :
    (8 ≤ 21 ∧ (LiveSet.run ⟨21, by decide⟩ [.setLargeSize 0x2000000 (2 ^ 24)]).isSome) ∧
    ∃ t, run ⟨21, by decide⟩ [.setLargeSize 0x2000000 (2 ^ 24)] = some t ∧
      ∀ a < 2 ^ 64, getp ⟨21, by decide⟩ true t a = DefaultChunkMap.getp a :=
  have h : (LiveSet.run ⟨21, by decide⟩ [.setLargeSize 0x2000000 (2 ^ 24)]).isSome := by decide
  ⟨⟨by decide, h⟩, run_getp_offset (by decide) h⟩

theorem clearSlab_other_kind (L : LiveSet c) {k k' : SlabKind} {b : Nat}
    (hr : Region.slab k b ∈ L.regions) (hk : k' ≠ k) :
    L.step (.clearSlab k' b) = none ∧
      DefaultChunkMap.step c (DefaultChunkMap.Enc c L.regions) (.clearSlab k' b) = none ∧
      step c (Enc c L.regions) (.clearSlab k' b) = some (Enc c (L.regions.erase (.slab k b))) := by
  have hcov : (Region.slab k b).Covers c (b >>> c.superslabBits) := Region.covers_slab_iff.2 rfl
  have hcode := DefaultChunkMap.Enc_toNat_of_covers hr hcov
  have ha : pointerAlignDown (superslabSize c) b = b := alignDown_of_valid (L.valid _ hr)
  refine ⟨if_neg fun hr' => hk ?_, ?_, ?_⟩
  · have := L.covers_unique hr' hr (Region.covers_slab_iff.2 rfl) hcov
    cases this
    rfl
  · simp only [Region.code] at hcode
    rw [DefaultChunkMap.step, DefaultChunkMap.clearSlab, DefaultChunkMap.get, Pagemap.get, hcode,
      if_neg (fun h => hk (SlabKind.code_inj.1 h).symm)]
  · rw [step, clearSlab, if_pos ha]
    unfold Enc
    rw [encodeWith_erase L.disjoint hr, set_eq_overlay _ k]

theorem clearSlab_other_kind_scenario :
    (Region.slab .superslab 0x1000000 ∈ [Region.slab .superslab 0x1000000] ∧
      SlabKind.mediumslab ≠ .superslab) ∧
    LiveSet.step (⟨[.slab .superslab 0x1000000], by decide, by decide⟩ : LiveSet ⟨21, by decide⟩)
        (.clearSlab .mediumslab 0x1000000) = none ∧
    DefaultChunkMap.step ⟨21, by decide⟩
        (DefaultChunkMap.Enc ⟨21, by decide⟩ [.slab .superslab 0x1000000])
        (.clearSlab .mediumslab 0x1000000) = none ∧
    step ⟨21, by decide⟩ (Enc ⟨21, by decide⟩ [.slab .superslab 0x1000000])
        (.clearSlab .mediumslab 0x1000000) =
      some (Enc ⟨21, by decide⟩
        ([Region.slab .superslab 0x1000000].erase (.slab .superslab 0x1000000))) :=
  ⟨⟨by decide, by decide⟩, clearSlab_other_kind ⟨[.slab .superslab 0x1000000], by decide, by decide⟩
    (by decide) (by decide)⟩

end Snmalloc.PalChunkMap
