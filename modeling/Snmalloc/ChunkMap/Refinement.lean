import Snmalloc.ChunkMap.Default
import Snmalloc.ChunkMap.LiveSet

/-! `DefaultChunkMap` refines the live-set model: along every run its callers may make, no
assertion fails and the table is `Enc` of the live regions. -/

namespace Snmalloc.DefaultChunkMap

open Bits ChunkMap

variable {c : Config}

lemma Enc_toNat_of_covers {L : LiveSet c} {r : Region} {g : Nat} (hr : r ∈ L.regions)
    (hg : r.Covers c g) : (Enc c L.regions g).toNat = r.code c g := by
  rw [Enc, encodeWith_of_covers hg L.disjoint hr, cell, toNat_toUInt8]
  exact Nat.mod_eq_of_lt ((Region.code_bounds (L.valid r hr) hg).1.trans (by norm_num))

theorem step_Enc {L L' : LiveSet c} {op : Op} (h : L.step op = some L') :
    step c (Enc c L.regions) op = some (Enc c L'.regions) := by
  cases op with
  | setSlab kind slab =>
    obtain ⟨-, hL'⟩ := LiveSet.register_eq_some h
    rw [hL', step, setSlab, setSlabWith_eq]
    rfl
  | clearSlab kind slab =>
    obtain ⟨hr, hL'⟩ := LiveSet.release_eq_some h
    have hcode := Enc_toNat_of_covers hr (Region.covers_slab_iff.2 rfl)
    simp only [Region.code] at hcode
    rw [step, clearSlab, get, Pagemap.get, if_pos hcode, hL']
    unfold Enc
    rw [encodeWith_erase L.disjoint hr, set_eq_overlay _ kind]
  | setLargeSize p size =>
    obtain ⟨hv, hL'⟩ := LiveSet.register_eq_some h
    rw [hL', step, setLargeSize_eq _ p size (Region.valid_large_bits hv).1]
    rfl
  | clearLargeSize p size =>
    obtain ⟨hr, hL'⟩ := LiveSet.release_eq_some h
    have hB := (Region.valid_large_bits (L.valid _ hr)).1
    have hcode := Enc_toNat_of_covers hr (Region.covers_head hB)
    simp only [Region.code, if_true] at hcode
    rw [step, clearLargeSize, clearLargeSizeWith, Pagemap.get, id, if_pos hcode, hL']
    unfold Enc
    rw [encodeWith_erase L.disjoint hr, setRange_eq_overlay]

lemma run_Enc {ops : List Op} {L : LiveSet c} (h : LiveSet.run c ops = some L) :
    run c ops = some (Enc c L.regions) :=
  foldlM_simulation LiveSet.step (step c) (fun L => Enc c L.regions) (fun _ _ _ => step_Enc) ops
    LiveSet.empty L h

theorem run_refines_liveSet {ops : List Op} (h : (LiveSet.run c ops).isSome) (n : Nat) :
    ∃ L, LiveSet.run c (ops.take n) = some L ∧ run c (ops.take n) = some (Enc c L.regions) := by
  obtain ⟨L, hL⟩ := foldlM_take_isSome LiveSet.step LiveSet.empty h n
  exact ⟨L, hL, run_Enc hL⟩

theorem run_refines_liveSet_scenario :
    (LiveSet.run ⟨21, by decide⟩ [.setSlab .superslab 0x1000000, .setLargeSize 0x2000000 (2 ^ 24),
      .clearSlab .superslab 0x1000000, .clearLargeSize 0x2000000 (2 ^ 24)]).isSome ∧
    ∀ n, ∃ L : LiveSet ⟨21, by decide⟩,
      LiveSet.run ⟨21, by decide⟩ ([.setSlab .superslab 0x1000000,
        .setLargeSize 0x2000000 (2 ^ 24), .clearSlab .superslab 0x1000000,
        .clearLargeSize 0x2000000 (2 ^ 24)].take n) = some L ∧
      run ⟨21, by decide⟩ ([.setSlab .superslab 0x1000000, .setLargeSize 0x2000000 (2 ^ 24),
        .clearSlab .superslab 0x1000000, .clearLargeSize 0x2000000 (2 ^ 24)].take n) =
        some (Enc ⟨21, by decide⟩ L.regions) :=
  have h : (LiveSet.run ⟨21, by decide⟩ [.setSlab .superslab 0x1000000,
      .setLargeSize 0x2000000 (2 ^ 24), .clearSlab .superslab 0x1000000,
      .clearLargeSize 0x2000000 (2 ^ 24)]).isSome := by decide
  ⟨h, run_refines_liveSet h⟩

theorem run_history_independent {ops ops' : List Op} {L L' : LiveSet c}
    (h : LiveSet.run c ops = some L) (h' : LiveSet.run c ops' = some L')
    (hmem : ∀ r, r ∈ L.regions ↔ r ∈ L'.regions) : run c ops = run c ops' := by
  rw [run_Enc h, run_Enc h', Enc, Enc, encodeWith_congr L.disjoint L'.disjoint hmem]

theorem run_history_independent_scenario :
    ∃ L L' : LiveSet ⟨21, by decide⟩,
      (LiveSet.run ⟨21, by decide⟩ [.setSlab .superslab 0x1000000,
          .setLargeSize 0x2000000 (2 ^ 24)] = some L ∧
        LiveSet.run ⟨21, by decide⟩ [.setLargeSize 0x2000000 (2 ^ 24),
          .setSlab .mediumslab 0x4000000, .setSlab .superslab 0x1000000,
          .clearSlab .mediumslab 0x4000000] = some L' ∧
        ∀ r, r ∈ L.regions ↔ r ∈ L'.regions) ∧
      run ⟨21, by decide⟩ [.setSlab .superslab 0x1000000, .setLargeSize 0x2000000 (2 ^ 24)] =
        run ⟨21, by decide⟩ [.setLargeSize 0x2000000 (2 ^ 24), .setSlab .mediumslab 0x4000000,
          .setSlab .superslab 0x1000000, .clearSlab .mediumslab 0x4000000] := by
  have e₁ : (LiveSet.run ⟨21, by decide⟩ [.setSlab .superslab 0x1000000,
      .setLargeSize 0x2000000 (2 ^ 24)]).map LiveSet.regions =
      some [.large 0x2000000 (2 ^ 24), .slab .superslab 0x1000000] := by decide
  have e₂ : (LiveSet.run ⟨21, by decide⟩ [.setLargeSize 0x2000000 (2 ^ 24),
      .setSlab .mediumslab 0x4000000, .setSlab .superslab 0x1000000,
      .clearSlab .mediumslab 0x4000000]).map LiveSet.regions =
      some [.slab .superslab 0x1000000, .large 0x2000000 (2 ^ 24)] := by decide
  obtain ⟨L, hL, h₁⟩ := Option.map_eq_some'.1 e₁
  obtain ⟨L', hL', h₂⟩ := Option.map_eq_some'.1 e₂
  have hmem (r : Region) : r ∈ L.regions ↔ r ∈ L'.regions := by
    simp [h₁, h₂, or_comm]
  exact ⟨L, L', ⟨hL, hL', hmem⟩, run_history_independent hL hL' hmem⟩

end Snmalloc.DefaultChunkMap
