import Snmalloc.ChunkMap.HeadSearch

/-! Each chunk-map call as the list of single-cell stores it makes: calls on disjoint regions
interleave without losing a store, and a reader racing `set_large_size` stays in the allocation. -/

namespace Snmalloc.ChunkMap

open Bits

variable {α : Type}

def applyStores (t : Nat → α) : List (Nat × α) → Nat → α
  | [] => t
  | w :: ws => applyStores (Function.update t w.1 w.2) ws

lemma applyStores_append (t : Nat → α) (A B : List (Nat × α)) :
    applyStores t (A ++ B) = applyStores (applyStores t A) B := by
  induction A generalizing t with
  | nil => rfl
  | cons w A ih => exact ih _

lemma applyStores_update {g : Nat} {x : α} :
    ∀ (A : List (Nat × α)) (t : Nat → α), (∀ w ∈ A, w.1 ≠ g) →
      applyStores (Function.update t g x) A = Function.update (applyStores t A) g x
  | [], _, _ => rfl
  | w :: A, t, h => by
    rw [applyStores, Function.update_comm (h w (List.mem_cons_self w A)).symm]
    exact applyStores_update A _ fun w' hw' => h w' (List.mem_cons_of_mem w hw')

lemma applyStores_interleaving :
    ∀ (τ : List ((Nat × α) ⊕ (Nat × α))) (t : Nat → α),
      (∀ a ∈ τ.filterMap Sum.getLeft?, ∀ b ∈ τ.filterMap Sum.getRight?, a.1 ≠ b.1) →
      applyStores t (τ.map (Sum.elim id id)) =
        applyStores (applyStores t (τ.filterMap Sum.getLeft?)) (τ.filterMap Sum.getRight?)
  | [], _, _ => rfl
  | .inl a :: τ, t, h => applyStores_interleaving τ _ fun a' ha' b hb =>
      h a' (List.mem_cons_of_mem a ha') b hb
  | .inr b :: τ, t, h => by
    have hb : ∀ a ∈ τ.filterMap Sum.getLeft?, a.1 ≠ b.1 := fun a ha =>
      h a ha b (List.mem_cons_self b _)
    show applyStores (Function.update t b.1 b.2) _ = applyStores (Function.update _ b.1 b.2) _
    rw [applyStores_interleaving τ _ fun a ha b' hb' => h a ha b' (List.mem_cons_of_mem b hb'),
      applyStores_update _ t hb]
    rfl

lemma applyStores_of_not_mem {g : Nat} : ∀ (ws : List (Nat × α)) (t : Nat → α),
    g ∉ ws.map Prod.fst → applyStores t ws g = t g
  | [], _, _ => rfl
  | w :: ws, t, h => by
    rw [List.map_cons, List.mem_cons, not_or] at h
    rw [applyStores, applyStores_of_not_mem ws _ h.2, Function.update_noteq h.1]

lemma applyStores_of_mem_nodup : ∀ (ws : List (Nat × α)) (t : Nat → α),
    (ws.map Prod.fst).Nodup → ∀ w ∈ ws, applyStores t ws w.1 = w.2
  | [], _, _, _, hw => absurd hw (List.not_mem_nil _)
  | w :: ws, t, hnd, w', hw' => by
    rw [List.map_cons, List.nodup_cons] at hnd
    rcases List.mem_cons.1 hw' with rfl | hw'
    · rw [applyStores, applyStores_of_not_mem ws _ hnd.1, Function.update_same]
    · exact applyStores_of_mem_nodup ws _ hnd.2 w' hw'

lemma applyStores_old_or_new (f : Nat → α) : ∀ (ws : List (Nat × α)) (t : Nat → α),
    (∀ w ∈ ws, f w.1 = w.2) → ∀ g, applyStores t ws g = t g ∨ applyStores t ws g = f g
  | [], _, _, _ => .inl rfl
  | w :: ws, t, h, g => by
    rcases applyStores_old_or_new f ws _ (fun w' hw' => h w' (List.mem_cons_of_mem w hw')) g
      with h' | h'
    · rw [applyStores, h', Function.update_apply]
      split_ifs with hg
      · rw [hg]
        exact .inr (h w (List.mem_cons_self w ws)).symm
      · exact .inl rfl
    · exact .inr h'

variable (c : Config) (mk : Nat → Nat → α)

def rangeStores (g : Nat) (x : α) (length : Nat) : List (Nat × α) :=
  (List.range length).map fun k => (g + k, x)

def slideStores (p ss i : Nat) : Nat → List (Nat × α)
  | 0 => []
  | n + 1 =>
    rangeStores (ss >>> c.superslabBits) (mk p (64 + i + c.superslabBits)) (2 ^ i) ++
      slideStores p (ss + superslabSize c * 2 ^ i) (i + 1) n

def largeStores (p size : Nat) : List (Nat × α) :=
  (p >>> c.superslabBits, mk p (nextPow2Bits size)) ::
    slideStores c mk p (p + superslabSize c) 0 (usub (nextPow2Bits size) c.superslabBits)

def stores (empty : α) : Op → List (Nat × α)
  | .setSlab kind slab => [(slab >>> c.superslabBits, mk slab kind.code)]
  | .clearSlab _ slab => [(slab >>> c.superslabBits, empty)]
  | .setLargeSize p size => largeStores c mk p size
  | .clearLargeSize p size =>
    rangeStores (p >>> c.superslabBits) empty (nextPow2 size >>> c.superslabBits)

variable {c mk}

lemma set_eq_applyStores (t : Nat → α) (p : Nat) (x : α) :
    Pagemap.set c t p x = applyStores t [(p >>> c.superslabBits, x)] := by
  funext i
  simp only [Pagemap.set, applyStores, Function.update_apply]

lemma setRange_eq_applyStores (t : Nat → α) (p : Nat) (x : α) : ∀ length,
    Pagemap.setRange c t p x length =
      applyStores t (rangeStores (p >>> c.superslabBits) x length)
  | 0 => by
    funext i
    simp [Pagemap.setRange, rangeStores, applyStores]
  | n + 1 => by
    rw [rangeStores, List.range_succ, List.map_append, applyStores_append, ← rangeStores,
      ← setRange_eq_applyStores t p x n]
    funext i
    simp only [Pagemap.setRange, List.map_cons, List.map_nil, applyStores, Function.update_apply]
    split_ifs <;> first | rfl | omega

lemma redirectSlide_eq_applyStores (p : Nat) : ∀ n (t : Nat → α) ss i,
    redirectSlide c mk p t ss i n = applyStores t (slideStores c mk p ss i n)
  | 0, _, _, _ => rfl
  | n + 1, t, ss, i => by
    rw [redirectSlide, slideStores, applyStores_append, ← setRange_eq_applyStores,
      redirectSlide_eq_applyStores p n]

lemma setLargeSizeWith_eq_applyStores (t : Nat → α) (p size : Nat) :
    setLargeSizeWith c mk t p size = applyStores t (largeStores c mk p size) := by
  rw [setLargeSizeWith, redirectSlide_eq_applyStores, set_eq_applyStores]
  rfl

lemma rangeStores_granules (g : Nat) (x : α) (n : Nat) :
    (rangeStores g x n).map Prod.fst = List.range' g n := by
  simp [rangeStores, List.range'_eq_map_range, Function.comp_def]

lemma slideStores_granules (p : Nat) : ∀ n i,
    (slideStores c mk p (p + superslabSize c * 2 ^ i) i n).map Prod.fst =
      List.range' (p >>> c.superslabBits + 2 ^ i) (2 ^ (i + n) - 2 ^ i)
  | 0, _ => by simp [slideStores]
  | n + 1, i => by
    have h2 : 2 ^ (i + 1) = 2 ^ i + 2 ^ i := by rw [Nat.pow_succ]; omega
    have hle : 2 ^ (i + 1) ≤ 2 ^ (i + 1 + n) := Nat.pow_le_pow_right (by norm_num) (by omega)
    rw [slideStores, List.map_append, rangeStores_granules, Nat.mul_comm (superslabSize c),
      Pagemap.shiftRight_add_mul, Nat.mul_comm (2 ^ i),
      show p + superslabSize c * 2 ^ i + superslabSize c * 2 ^ i =
        p + superslabSize c * 2 ^ (i + 1) by rw [h2, Nat.mul_add, Nat.add_assoc],
      slideStores_granules p n (i + 1),
      show p >>> c.superslabBits + 2 ^ (i + 1) = p >>> c.superslabBits + 2 ^ i + 2 ^ i by omega,
      List.range'_append_1]
    rw [show i + (n + 1) = i + 1 + n by omega]
    congr 1
    generalize 2 ^ (i + 1 + n) = N at hle ⊢
    omega

lemma largeStores_granules {p size : Nat} (hB : c.superslabBits ≤ nextPow2Bits size) :
    (largeStores c mk p size).map Prod.fst =
      List.range' (p >>> c.superslabBits) (2 ^ (nextPow2Bits size - c.superslabBits)) := by
  have h64 : nextPow2Bits size < 2 ^ 64 := lt_of_le_of_lt (nextPow2Bits_le size) (by norm_num)
  obtain ⟨m, hm⟩ : ∃ m, 2 ^ (nextPow2Bits size - c.superslabBits) = m + 1 :=
    ⟨_, (Nat.succ_pred_eq_of_pos (Nat.two_pow_pos _)).symm⟩
  rw [largeStores, List.map_cons, usub_of_le hB h64,
    show p + superslabSize c = p + superslabSize c * 2 ^ 0 by simp, slideStores_granules,
    Nat.zero_add, hm, List.range'_succ, pow_zero, Nat.add_sub_cancel]

lemma stores_covers (empty : α) {op : Op} (hv : op.region.Valid c) :
    ∀ w ∈ stores c mk empty op, op.region.Covers c w.1 := by
  cases op with
  | setSlab kind slab => simp [stores, Op.region]
  | clearSlab kind slab => simp [stores, Op.region]
  | setLargeSize p size =>
    have hB := (Region.valid_large_bits hv).1
    intro w hw
    have hg : w.1 ∈ (largeStores c mk p size).map Prod.fst := List.mem_map_of_mem _ hw
    rw [largeStores_granules hB, List.mem_range'_1] at hg
    simp only [Op.region, Region.Covers, Region.first, Region.base, Region.count_large hB]
    omega
  | clearLargeSize p size =>
    simp only [stores, rangeStores, List.mem_map, List.mem_range]
    rintro _ ⟨k, hk, rfl⟩
    simp only [Op.region, Region.Covers, Region.first, Region.base, Region.count]
    omega

end Snmalloc.ChunkMap

namespace Snmalloc.DefaultChunkMap

open Bits ChunkMap

variable {c : Config}

lemma step_eq_applyStores {t t' : Nat → UInt8} {op : Op} (h : step c t op = some t') :
    t' = applyStores t (stores c cell CMNotOurs.toUInt8 op) := by
  cases op with
  | setSlab kind slab =>
    cases h
    exact set_eq_applyStores _ _ _
  | clearSlab kind slab =>
    simp only [step, clearSlab] at h
    split at h
    · cases h
      exact set_eq_applyStores _ _ _
    · cases h
  | setLargeSize p size =>
    cases h
    exact setLargeSizeWith_eq_applyStores _ _ _
  | clearLargeSize p size =>
    simp only [step, clearLargeSize, clearLargeSizeWith] at h
    split at h
    · cases h
      exact setRange_eq_applyStores _ _ _ _
    · cases h

theorem step_interleaving {t t₁ t₂ : Nat → UInt8} {op₁ op₂ : Op} (hv₁ : op₁.region.Valid c)
    (hv₂ : op₂.region.Valid c) (hd : op₁.region.Disjoint c op₂.region)
    (h₁ : step c t op₁ = some t₁) (h₂ : step c t₁ op₂ = some t₂)
    (τ : List ((Nat × UInt8) ⊕ (Nat × UInt8)))
    (hτ₁ : τ.filterMap Sum.getLeft? = stores c cell CMNotOurs.toUInt8 op₁)
    (hτ₂ : τ.filterMap Sum.getRight? = stores c cell CMNotOurs.toUInt8 op₂) :
    applyStores t (τ.map (Sum.elim id id)) = t₂ := by
  have hcells : ∀ a ∈ τ.filterMap Sum.getLeft?, ∀ b ∈ τ.filterMap Sum.getRight?, a.1 ≠ b.1 := by
    rw [hτ₁, hτ₂]
    intro a ha b hb hab
    exact hd.not_covers (hab ▸ stores_covers _ hv₂ b hb) (stores_covers _ hv₁ a ha)
  rw [applyStores_interleaving τ t hcells, hτ₁, hτ₂, ← step_eq_applyStores h₁,
    ← step_eq_applyStores h₂]

theorem step_interleaving_scenario :
    let c : Config := ⟨21, by decide⟩
    let op₁ : Op := .setLargeSize 0x2000000 (2 ^ 24)
    let op₂ : Op := .setSlab .superslab 0x1000000
    let τ := ((stores c cell CMNotOurs.toUInt8 op₁).take 1).map Sum.inl ++
      (stores c cell CMNotOurs.toUInt8 op₂).map Sum.inr ++
      ((stores c cell CMNotOurs.toUInt8 op₁).drop 1).map Sum.inl
    (op₁.region.Valid c ∧ op₂.region.Valid c ∧ op₁.region.Disjoint c op₂.region) ∧
    ∃ t₁ t₂, step c (fun _ => CMNotOurs.toUInt8) op₁ = some t₁ ∧ step c t₁ op₂ = some t₂ ∧
      τ.filterMap Sum.getLeft? = stores c cell CMNotOurs.toUInt8 op₁ ∧
      τ.filterMap Sum.getRight? = stores c cell CMNotOurs.toUInt8 op₂ ∧
      applyStores (fun _ => CMNotOurs.toUInt8) (τ.map (Sum.elim id id)) = t₂ := by
  intro c op₁ op₂ τ
  have hv : op₁.region.Valid c ∧ op₂.region.Valid c ∧ op₁.region.Disjoint c op₂.region := by
    decide
  have hτ₁ : τ.filterMap Sum.getLeft? = stores c cell CMNotOurs.toUInt8 op₁ := by decide
  have hτ₂ : τ.filterMap Sum.getRight? = stores c cell CMNotOurs.toUInt8 op₂ := by decide
  exact ⟨hv, _, _, rfl, rfl, hτ₁, hτ₂, step_interleaving hv.1 hv.2.1 hv.2.2 rfl rfl τ hτ₁ hτ₂⟩

lemma largeStores_seen {p S : Nat} (hB : c.superslabBits ≤ nextPow2Bits S) (t : Nat → UInt8)
    {ws : List (Nat × UInt8)} (hws : ws ⊆ largeStores c cell p S) (g : Nat) :
    applyStores t ws g = t g ∨ applyStores t ws g = setLargeSize c t p S g := by
  refine applyStores_old_or_new _ ws t (fun w hw => ?_) g
  rw [setLargeSize, setLargeSizeWith_eq_applyStores]
  exact applyStores_of_mem_nodup _ t (largeStores_granules hB ▸ List.nodup_range' _ _) w (hws hw)

theorem setLargeSize_racing_reader (t t' : Nat → UInt8) (p S : Nat) (hp : p % superslabSize c = 0)
    (hlo : superslabSize c ≤ nextPow2 S) (hhi : nextPow2 S ≤ 2 ^ 63)
    (hfree : ∀ a, p ≤ a → a < p + nextPow2 S → get c t a = CMNotOurs.toUInt8)
    (hseen : ∀ g, t' g = t g ∨ t' g = setLargeSize c t p S g) :
    let n := nextPow2Bits S - c.superslabBits
    (∀ a, a < p ∨ p + nextPow2 S ≤ a → get c t' a = get c t a) ∧
    (∀ k < 2 ^ n, ∀ r < superslabSize c, ∀ fuel, popcount k ≤ fuel →
      let w := headWalk c t' (p + k * superslabSize c + r) fuel
      w.length ≤ popcount k + 1 ∧ (∀ b ∈ w, p ≤ b ∧ b ≤ p + k * superslabSize c + r) ∧
        ∃ b, w.getLast? = some b ∧
          ((b = p + r ∧ (get c t' b).toNat = nextPow2Bits S) ∨ get c t' b = CMNotOurs.toUInt8)) := by
  dsimp only
  obtain ⟨hB, h63⟩ := Region.bits_of_bounds hlo hhi
  have hcell (a : Nat) : get c t' a = get c t a ∨ get c t' a = get c (setLargeSize c t p S) a :=
    hseen _
  have hmixed : LargeOrFreeCells c t' p S (2 ^ (nextPow2Bits S - c.superslabBits)) := by
    intro k hk r hr
    have hin : p + k * superslabSize c + r < p + nextPow2 S := by
      have := Nat.mul_le_mul_right (superslabSize c) (Nat.succ_le_of_lt hk)
      rw [Nat.succ_mul] at this
      rw [Region.nextPow2_eq_mul hB]
      omega
    rcases hcell (p + k * superslabSize c + r) with h | h <;> rw [h]
    · exact .inl (hfree _ (by omega) hin)
    · exact .inr (largeCells_setLargeSize hB hp t k hk r hr)
  exact ⟨fun a ha => (hcell a).elim id fun h => h.trans (get_setLargeSize_frame hB hp t ha),
    fun k hk r hr fuel hf => headWalk_of_largeOrFreeCells hmixed hr (by omega) k hk fuel hf⟩

theorem setLargeSize_racing_reader_headless :
    (0x2000000 % superslabSize ⟨21, by decide⟩ = 0 ∧
      superslabSize ⟨21, by decide⟩ ≤ nextPow2 (2 ^ 24) ∧ nextPow2 (2 ^ 24) ≤ 2 ^ 63) ∧
    let c : Config := ⟨21, by decide⟩
    let t' := applyStores (fun _ => CMNotOurs.toUInt8) ((largeStores c cell 0x2000000 (2 ^ 24)).drop 1)
    let w := headWalk c t' (0x2000000 + 3 * superslabSize c + 0) 2
    w.length ≤ popcount 3 + 1 ∧ (∀ b ∈ w, 0x2000000 ≤ b ∧ b ≤ 0x2000000 + 3 * superslabSize c + 0) ∧
      ∃ b, w.getLast? = some b ∧ ((b = 0x2000000 + 0 ∧ (get c t' b).toNat = nextPow2Bits (2 ^ 24)) ∨
        get c t' b = CMNotOurs.toUInt8) := by
  have hyp : 0x2000000 % superslabSize ⟨21, by decide⟩ = 0 ∧
      superslabSize ⟨21, by decide⟩ ≤ nextPow2 (2 ^ 24) ∧ nextPow2 (2 ^ 24) ≤ 2 ^ 63 := by decide
  have hb : nextPow2Bits (2 ^ 24) - 21 = 3 := by decide
  exact ⟨hyp, (setLargeSize_racing_reader (fun _ => CMNotOurs.toUInt8) _ 0x2000000 (2 ^ 24)
    hyp.1 hyp.2.1 hyp.2.2 (fun _ _ _ => rfl)
    (largeStores_seen (by decide) _ (List.drop_subset 1 _))).2 3 (by rw [hb]; decide) 0
    (by decide) 2 (by rw [popcount_eq, popcount_eq 1]; simp)⟩

end Snmalloc.DefaultChunkMap
