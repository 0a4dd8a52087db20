import Snmalloc.ChunkMap.Refinement
import Snmalloc.ChunkMap.HeadSearch

/-! What a lookup finds in a reachable `DefaultChunkMap`: the code of the live region covering an
address, and from inside a large allocation a backward walk to its head. -/

namespace Snmalloc.DefaultChunkMap

open Bits ChunkMap

variable {c : Config}

lemma classify_Enc (L : LiveSet c) (a : Nat) :
    let g := a >>> c.superslabBits
    let x := (get c (Enc c L.regions) a).toNat
    (x = CMNotOurs ↔ ¬ ∃ r ∈ L.regions, r.Covers c g) ∧
    (∀ kind, x = kind.code ↔ ∃ b, .slab kind b ∈ L.regions ∧ (Region.slab kind b).Covers c g) ∧
    (c.superslabBits ≤ x ∧ x < 64 ↔ ∃ p S, .large p S ∈ L.regions ∧
      (Region.large p S).Covers c g ∧ p >>> c.superslabBits = g ∧ x = nextPow2Bits S) ∧
    (64 ≤ x ↔ ∃ p S, .large p S ∈ L.regions ∧ (Region.large p S).Covers c g ∧
      p >>> c.superslabBits < g) ∧
    (x ≤ CMMediumslab ∨ c.superslabBits ≤ x ∧ x < 128) := by
  intro g x
  have hm := c.medium_lt
  have hk (kind : SlabKind) : kind.code ≤ 2 := kind.code_le
  unfold CMMediumslab at hm ⊢
  by_cases hcov : ∃ r ∈ L.regions, r.Covers c g
  · obtain ⟨r, hr, hg⟩ := hcov
    have hx : x = r.code c g := Enc_toNat_of_covers hr hg
    have hu (r' : Region) : r' ∈ L.regions ∧ r'.Covers c g ↔ r' = r :=
      ⟨fun h => L.covers_unique h.1 hr h.2 hg, fun h => h ▸ ⟨hr, hg⟩⟩
    have hu' (r' : Region) (P : Prop) : r' ∈ L.regions ∧ r'.Covers c g ∧ P ↔ r' = r ∧ P := by
      rw [← and_assoc, hu]
    have hcases := Region.code_cases (L.valid r hr) hg
    simp only [hu, hu', exists_eq, hx]
    rcases hcases with ⟨k, b, rfl, hc⟩ | ⟨p, S, rfl, hp, hc, hlo, hhi⟩ | ⟨p, S, rfl, hp, hlo, hhi⟩
    · have := k.code_pos
      simp [hc, CMNotOurs, eq_comm]
      have := hk k
      omega
    · simp [hc, CMNotOurs, hp, and_assoc]
      exact ⟨by omega, fun kind => by have := hk kind; omega, by omega⟩
    · simp [CMNotOurs, hp, and_assoc]
      exact ⟨by omega, fun kind => by have := hk kind; omega, by omega⟩
  · have hx : x = 0 := by
      show (get c (Enc c L.regions) a).toNat = 0
      rw [get, Pagemap.get, Enc, encodeWith_of_not_covers fun r hr hg => hcov ⟨r, hr, hg⟩]
      rfl
    have hn (r' : Region) : r' ∈ L.regions ∧ r'.Covers c g ↔ False :=
      ⟨fun h => hcov ⟨r', h⟩, False.elim⟩
    simp [← and_assoc, hn, hx, CMNotOurs, -Region.covers_slab_iff]
    exact ⟨fun kind => kind.code_pos.ne, by omega⟩

theorem run_classify {ops : List Op} (h : (LiveSet.run c ops).isSome) :
    ∃ L t, LiveSet.run c ops = some L ∧ run c ops = some t ∧ ∀ a,
      let g := a >>> c.superslabBits
      let x := (get c t a).toNat
      (x = CMNotOurs ↔ ¬ ∃ r ∈ L.regions, r.Covers c g) ∧
      (∀ kind, x = kind.code ↔
        ∃ b, .slab kind b ∈ L.regions ∧ (Region.slab kind b).Covers c g) ∧
      (c.superslabBits ≤ x ∧ x < 64 ↔ ∃ p S, .large p S ∈ L.regions ∧
        (Region.large p S).Covers c g ∧ p >>> c.superslabBits = g ∧ x = nextPow2Bits S) ∧
      (64 ≤ x ↔ ∃ p S, .large p S ∈ L.regions ∧ (Region.large p S).Covers c g ∧
        p >>> c.superslabBits < g) ∧
      (x ≤ CMMediumslab ∨ c.superslabBits ≤ x ∧ x < 128) := by
  obtain ⟨L, hL⟩ := Option.isSome_iff_exists.1 h
  exact ⟨L, _, hL, run_Enc hL, classify_Enc L⟩

theorem run_classify_scenario :
    (LiveSet.run ⟨21, by decide⟩ [.setSlab .superslab 0x1000000,
      .setLargeSize 0x2000000 (2 ^ 24)]).isSome ∧
    ∃ (L : LiveSet ⟨21, by decide⟩) (t : Nat → UInt8),
      LiveSet.run ⟨21, by decide⟩ [.setSlab .superslab 0x1000000,
        .setLargeSize 0x2000000 (2 ^ 24)] = some L ∧
      run ⟨21, by decide⟩ [.setSlab .superslab 0x1000000, .setLargeSize 0x2000000 (2 ^ 24)] =
        some t ∧ ∀ a,
      ((get ⟨21, by decide⟩ t a).toNat = CMNotOurs ↔
        ¬ ∃ r ∈ L.regions, r.Covers ⟨21, by decide⟩ (a >>> 21)) ∧
      (∀ kind, (get ⟨21, by decide⟩ t a).toNat = kind.code ↔
        ∃ b, .slab kind b ∈ L.regions ∧ (Region.slab kind b).Covers ⟨21, by decide⟩ (a >>> 21)) ∧
      (21 ≤ (get ⟨21, by decide⟩ t a).toNat ∧ (get ⟨21, by decide⟩ t a).toNat < 64 ↔
        ∃ p S, .large p S ∈ L.regions ∧ (Region.large p S).Covers ⟨21, by decide⟩ (a >>> 21) ∧
          p >>> 21 = a >>> 21 ∧ (get ⟨21, by decide⟩ t a).toNat = nextPow2Bits S) ∧
      (64 ≤ (get ⟨21, by decide⟩ t a).toNat ↔ ∃ p S, .large p S ∈ L.regions ∧
        (Region.large p S).Covers ⟨21, by decide⟩ (a >>> 21) ∧ p >>> 21 < a >>> 21) ∧
      ((get ⟨21, by decide⟩ t a).toNat ≤ CMMediumslab ∨
        21 ≤ (get ⟨21, by decide⟩ t a).toNat ∧ (get ⟨21, by decide⟩ t a).toNat < 128) :=
  have h : (LiveSet.run ⟨21, by decide⟩ [.setSlab .superslab 0x1000000,
      .setLargeSize 0x2000000 (2 ^ 24)]).isSome := by decide
  ⟨h, run_classify h⟩

theorem run_clear_asserts {ops : List Op} (h : (LiveSet.run c ops).isSome) :
    ∃ L t, LiveSet.run c ops = some L ∧ run c ops = some t ∧
      (∀ kind b, (clearSlab c t kind b).isSome ↔
        ∃ b', .slab kind b' ∈ L.regions ∧ b' >>> c.superslabBits = b >>> c.superslabBits) ∧
      (∀ p S, superslabSize c ≤ nextPow2 S → nextPow2 S ≤ 2 ^ 63 →
        ((clearLargeSize c t p S).isSome ↔ ∃ p' S', .large p' S' ∈ L.regions ∧
          p' >>> c.superslabBits = p >>> c.superslabBits ∧ nextPow2Bits S' = nextPow2Bits S)) := by
  obtain ⟨L, hL⟩ := Option.isSome_iff_exists.1 h
  refine ⟨L, _, hL, run_Enc hL, fun kind b => ?_, fun p S hlo hhi => ?_⟩
  · have := (classify_Enc L b).2.1 kind
    simp only [Region.covers_slab_iff] at this
    rw [← this, clearSlab]
    split_ifs with hc <;> simp [hc]
  · obtain ⟨hB, h63⟩ := Region.bits_of_bounds hlo hhi
    have hx : (clearLargeSize c (Enc c L.regions) p S).isSome ↔
        (get c (Enc c L.regions) p).toNat = nextPow2Bits S := by
      rw [clearLargeSize, clearLargeSizeWith, id]
      split_ifs with hc <;> simp [hc, get]
    rw [hx]
    constructor
    · intro hx
      obtain ⟨p', S', hr, -, hp', hS'⟩ := (classify_Enc L p).2.2.1.1 ⟨hx ▸ hB, by omega⟩
      exact ⟨p', S', hr, hp', hS'.symm.trans hx⟩
    · rintro ⟨p', S', hr, hp', hS'⟩
      have := Enc_toNat_of_covers hr (Region.covers_head (Region.valid_large_bits (L.valid _ hr)).1)
      simp only [Region.code, if_true] at this
      rw [get, Pagemap.get, ← hp', this, hS']

theorem run_clear_asserts_scenario :
    (LiveSet.run ⟨21, by decide⟩ [.setSlab .superslab 0x1000000]).isSome ∧
    ∃ (L : LiveSet ⟨21, by decide⟩) (t : Nat → UInt8),
      LiveSet.run ⟨21, by decide⟩ [.setSlab .superslab 0x1000000] = some L ∧
      run ⟨21, by decide⟩ [.setSlab .superslab 0x1000000] = some t ∧
      (∀ kind b, (clearSlab ⟨21, by decide⟩ t kind b).isSome ↔
        ∃ b', .slab kind b' ∈ L.regions ∧ b' >>> 21 = b >>> 21) ∧
      (∀ p S, superslabSize ⟨21, by decide⟩ ≤ nextPow2 S → nextPow2 S ≤ 2 ^ 63 →
        ((clearLargeSize ⟨21, by decide⟩ t p S).isSome ↔ ∃ p' S', .large p' S' ∈ L.regions ∧
          p' >>> 21 = p >>> 21 ∧ nextPow2Bits S' = nextPow2Bits S)) :=
  have h : (LiveSet.run ⟨21, by decide⟩ [.setSlab .superslab 0x1000000]).isSome := by decide
  ⟨h, run_clear_asserts h⟩

lemma largeCells_Enc {L : LiveSet c} {p S : Nat} (hr : Region.large p S ∈ L.regions) :
    LargeCells c (Enc c L.regions) p S (2 ^ (nextPow2Bits S - c.superslabBits)) := by
  obtain ⟨hp, -⟩ := L.valid _ hr
  have hB := (Region.valid_large_bits (L.valid _ hr)).1
  intro k hk r hr'
  have hg : (Region.large p S).Covers c (p >>> c.superslabBits + k) := by
    simp only [Region.Covers, Region.first, Region.base, Region.count_large hB]
    omega
  rw [get_add_mul_add hp hr', Enc_toNat_of_covers hr hg]
  simp only [Region.code, Nat.add_sub_cancel_left, Nat.add_right_eq_self]

theorem run_headWalk {ops : List Op} (h : (LiveSet.run c ops).isSome) :
    ∃ L t, LiveSet.run c ops = some L ∧ run c ops = some t ∧
      ∀ p S, .large p S ∈ L.regions → ∀ a, p ≤ a → a < p + nextPow2 S →
        ∀ fuel, popcount ((a - p) >>> c.superslabBits) ≤ fuel →
          let w := headWalk c t a fuel
          w.length = popcount ((a - p) >>> c.superslabBits) + 1 ∧ (∀ b ∈ w, p ≤ b) ∧
            w.getLast? = some (p + (a - p) % superslabSize c) := by
  obtain ⟨L, hL⟩ := Option.isSome_iff_exists.1 h
  refine ⟨L, _, hL, run_Enc hL, fun p S hr a hpa ha fuel hf => ?_⟩
  obtain ⟨hB, h63⟩ := Region.valid_large_bits (L.valid _ hr)
  have hG := superslabSize_pos c
  have hsplit :
      a = p + (a - p) >>> c.superslabBits * superslabSize c + (a - p) % superslabSize c := by
    have := Nat.div_add_mod' (a - p) (superslabSize c)
    rw [Nat.shiftRight_eq_div_pow]
    unfold superslabSize at *
    omega
  have hk : (a - p) >>> c.superslabBits < 2 ^ (nextPow2Bits S - c.superslabBits) := by
    rw [Nat.shiftRight_eq_div_pow, Nat.div_lt_iff_lt_mul (Nat.two_pow_pos _)]
    have := Region.nextPow2_eq_mul (c := c) hB
    unfold superslabSize at this
    omega
  have := headWalk_of_largeCells (largeCells_Enc hr) (Nat.mod_lt (a - p) hG) (by omega)
    fuel _ hk hf
  rwa [← hsplit] at this

theorem run_headWalk_scenario :
    (LiveSet.run ⟨21, by decide⟩ [.setLargeSize 0x2000000 (2 ^ 24)]).isSome ∧
    ∃ (L : LiveSet ⟨21, by decide⟩) (t : Nat → UInt8),
      LiveSet.run ⟨21, by decide⟩ [.setLargeSize 0x2000000 (2 ^ 24)] = some L ∧
      run ⟨21, by decide⟩ [.setLargeSize 0x2000000 (2 ^ 24)] = some t ∧
      ∀ p S, .large p S ∈ L.regions → ∀ a, p ≤ a → a < p + nextPow2 S →
        ∀ fuel, popcount ((a - p) >>> 21) ≤ fuel →
          (headWalk ⟨21, by decide⟩ t a fuel).length = popcount ((a - p) >>> 21) + 1 ∧
          (∀ b ∈ headWalk ⟨21, by decide⟩ t a fuel, p ≤ b) ∧
          (headWalk ⟨21, by decide⟩ t a fuel).getLast? =
            some (p + (a - p) % superslabSize ⟨21, by decide⟩) :=
  have h : (LiveSet.run ⟨21, by decide⟩ [.setLargeSize 0x2000000 (2 ^ 24)]).isSome := by decide
  ⟨h, run_headWalk h⟩

lemma Enc_step_cell {L L' : LiveSet c} {op : Op} (h : L.step op = some L') (g : Nat) :
    (¬ op.region.Covers c g → Enc c L'.regions g = Enc c L.regions g) ∧
    (op.region.Covers c g →
      (op.registers → Enc c L.regions g = CMNotOurs.toUInt8 ∧
        Enc c L'.regions g = (op.region.code c g).toUInt8) ∧
      (op.registers = false → Enc c L.regions g = (op.region.code c g).toUInt8 ∧
        Enc c L'.regions g = CMNotOurs.toUInt8)) := by
  have hs := LiveSet.step_eq_some h
  cases hreg : op.registers
  · rw [hreg, if_neg Bool.false_ne_true] at hs
    obtain ⟨hr, hL'⟩ := hs
    rw [hL', Enc, Enc, encodeWith_erase L.disjoint hr]
    refine ⟨fun hg => if_neg hg, fun hg => ⟨fun h => Bool.noConfusion h,
      fun _ => ⟨encodeWith_of_covers hg L.disjoint hr, if_pos hg⟩⟩⟩
  · rw [hreg, if_pos rfl] at hs
    obtain ⟨hdisj, hL'⟩ := hs
    rw [hL', Enc, Enc, encodeWith]
    refine ⟨fun hg => if_neg hg, fun hg => ⟨fun _ => ⟨?_, if_pos hg⟩,
      fun h => Bool.noConfusion h⟩⟩
    exact encodeWith_of_not_covers fun r hr => (hdisj r hr).symm.not_covers hg

theorem run_cell_lifecycle {ops : List Op} (h : (LiveSet.run c ops).isSome) {n : Nat} {op : Op}
    (hop : ops[n]? = some op) :
    ∃ t t', run c (ops.take n) = some t ∧ run c (ops.take (n + 1)) = some t' ∧ ∀ g,
      (¬ op.region.Covers c g → t' g = t g) ∧
      (op.region.Covers c g →
        (op.registers → t g = CMNotOurs.toUInt8 ∧ t' g = (op.region.code c g).toUInt8) ∧
        (op.registers = false → t g = (op.region.code c g).toUInt8 ∧
          t' g = CMNotOurs.toUInt8)) := by
  obtain ⟨L', hL'⟩ := foldlM_take_isSome LiveSet.step LiveSet.empty h (n + 1)
  have hsplit := hL'
  rw [List.take_succ, hop, Option.toList_some, List.foldlM_append] at hsplit
  obtain ⟨L, hL, hstep⟩ := Option.bind_eq_some.1 hsplit
  simp only [List.foldlM_cons, List.foldlM_nil, bind_pure] at hstep
  exact ⟨_, _, run_Enc hL, run_Enc hL', Enc_step_cell hstep⟩

theorem run_cell_lifecycle_release :
    ((LiveSet.run ⟨21, by decide⟩ [.setLargeSize 0x2000000 (2 ^ 24),
      .clearLargeSize 0x2000000 (2 ^ 24)]).isSome ∧
      [Op.setLargeSize 0x2000000 (2 ^ 24), .clearLargeSize 0x2000000 (2 ^ 24)][1]? =
        some (.clearLargeSize 0x2000000 (2 ^ 24))) ∧
    ∃ t t', run ⟨21, by decide⟩ ([Op.setLargeSize 0x2000000 (2 ^ 24),
        .clearLargeSize 0x2000000 (2 ^ 24)].take 1) = some t ∧
      run ⟨21, by decide⟩ ([Op.setLargeSize 0x2000000 (2 ^ 24),
        .clearLargeSize 0x2000000 (2 ^ 24)].take 2) = some t' ∧ ∀ g,
      (¬ (Op.clearLargeSize 0x2000000 (2 ^ 24)).region.Covers ⟨21, by decide⟩ g → t' g = t g) ∧
      ((Op.clearLargeSize 0x2000000 (2 ^ 24)).region.Covers ⟨21, by decide⟩ g →
        ((Op.clearLargeSize 0x2000000 (2 ^ 24)).registers → t g = CMNotOurs.toUInt8 ∧
          t' g = ((Op.clearLargeSize 0x2000000 (2 ^ 24)).region.code ⟨21, by decide⟩ g).toUInt8) ∧
        ((Op.clearLargeSize 0x2000000 (2 ^ 24)).registers = false →
          t g = ((Op.clearLargeSize 0x2000000 (2 ^ 24)).region.code ⟨21, by decide⟩ g).toUInt8 ∧
          t' g = CMNotOurs.toUInt8)) :=
  have h : (LiveSet.run ⟨21, by decide⟩ [.setLargeSize 0x2000000 (2 ^ 24),
      .clearLargeSize 0x2000000 (2 ^ 24)]).isSome := by decide
  ⟨⟨h, rfl⟩, run_cell_lifecycle h rfl⟩

end Snmalloc.DefaultChunkMap
