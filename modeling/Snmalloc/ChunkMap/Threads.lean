import Snmalloc.ChunkMap.Interleave
import Snmalloc.ChunkMap.Refinement

/-! Threads whose runs of chunk-map calls touch disjoint regions: in any interleaving of their
stores each cell holds what its owner stored, and no update is lost. -/

namespace Snmalloc.ChunkMap

open Bits

variable {α : Type}

lemma applyStores_apply_congr {g : Nat} : ∀ (ws : List (Nat × α)) {t t' : Nat → α},
    t g = t' g → applyStores t ws g = applyStores t' ws g
  | [], _, _, h => h
  | w :: ws, _, _, h => applyStores_apply_congr ws (by
      rw [Function.update_apply, Function.update_apply, h])

lemma applyStores_comm {B : List (Nat × α)} : ∀ {A : List (Nat × α)},
    (∀ a ∈ A, ∀ b ∈ B, a.1 ≠ b.1) → ∀ t : Nat → α,
      applyStores (applyStores t A) B = applyStores (applyStores t B) A
  | [], _, _ => rfl
  | a :: A, h, t => by
    have ha : ∀ b ∈ B, b.1 ≠ a.1 := fun b hb => (h a (List.mem_cons_self a A) b hb).symm
    show applyStores (applyStores (Function.update t a.1 a.2) A) B =
      applyStores (Function.update (applyStores t B) a.1 a.2) A
    rw [applyStores_comm (fun a' ha' => h a' (List.mem_cons_of_mem a ha')), applyStores_update B t ha]

def threadStores (τ : List (Nat × (Nat × α))) (i : Nat) : List (Nat × α) :=
  τ.filterMap fun e => if e.1 = i then some e.2 else none

@[simp] lemma threadStores_cons (e : Nat × (Nat × α)) (τ : List (Nat × (Nat × α))) (i : Nat) :
    threadStores (e :: τ) i = if e.1 = i then e.2 :: threadStores τ i else threadStores τ i := by
  by_cases h : e.1 = i <;> simp [threadStores, h]

lemma threadStores_take_prefix (τ : List (Nat × (Nat × α))) (i n : Nat) :
    threadStores (τ.take n) i <+: threadStores τ i := by
  conv_rhs => rw [← List.take_append_drop n τ]
  rw [threadStores, threadStores, List.filterMap_append]
  exact List.prefix_append _ _

lemma applyStores_owned (t : Nat → α) {τ : List (Nat × (Nat × α))} {i g : Nat}
    (hown : ∀ e ∈ τ, e.2.1 = g → e.1 = i) :
    applyStores t (τ.map Prod.snd) g = applyStores t (threadStores τ i) g := by
  induction τ generalizing t with
  | nil => rfl
  | cons e τ ih =>
    have ih' := ih (Function.update t e.2.1 e.2.2) fun e' he' =>
      hown e' (List.mem_cons_of_mem e he')
    by_cases hi : e.1 = i
    · rwa [List.map_cons, threadStores_cons, if_pos hi]
    · have hg : g ≠ e.2.1 := fun h => hi (hown e (List.mem_cons_self e τ) h.symm)
      rw [List.map_cons, threadStores_cons, if_neg hi]
      exact ih'.trans (applyStores_apply_congr _ (Function.update_noteq hg _ _))

variable (c : Config) (mk : Nat → Nat → α)

def runStores (empty : α) (ops : List Op) : List (Nat × α) := ops.flatMap (stores c mk empty)

variable {c mk}

lemma runStores_covers (empty : α) {ops : List Op} (hv : ∀ op ∈ ops, op.region.Valid c) :
    ∀ w ∈ runStores c mk empty ops, ∃ op ∈ ops, op.region.Covers c w.1 := by
  intro w hw
  obtain ⟨op, hop, hw⟩ := List.mem_flatMap.1 hw
  exact ⟨op, hop, stores_covers empty (hv op hop) w hw⟩

section Threads

variable {empty : α} {N : Nat} {ops : Nat → List Op} {τ : List (Nat × (Nat × α))}
  (hv : ∀ i < N, ∀ op ∈ ops i, op.region.Valid c)
  (htag : ∀ e ∈ τ, e.1 < N) (hτ : ∀ i < N, threadStores τ i = runStores c mk empty (ops i))
include hv htag hτ

lemma covers_of_mem_trace {e : Nat × (Nat × α)} (he : e ∈ τ) :
    ∃ op ∈ ops e.1, op.region.Covers c e.2.1 := by
  have hmem : e.2 ∈ threadStores τ e.1 := List.mem_filterMap.2 ⟨e, he, if_pos rfl⟩
  rw [hτ _ (htag e he)] at hmem
  exact runStores_covers empty (hv _ (htag e he)) e.2 hmem

lemma applyStores_take_unowned (t : Nat → α) (n : Nat) {g : Nat}
    (hg : ∀ i < N, ∀ op ∈ ops i, ¬ op.region.Covers c g) :
    applyStores t ((τ.take n).map Prod.snd) g = t g := by
  refine applyStores_of_not_mem _ t fun hm => ?_
  simp only [List.map_map, List.mem_map, Function.comp_apply] at hm
  obtain ⟨e, he, rfl⟩ := hm
  obtain ⟨op, hop, hc⟩ := covers_of_mem_trace hv htag hτ (List.mem_of_mem_take he)
  exact hg _ (htag e (List.mem_of_mem_take he)) op hop hc

variable (hd : ∀ i < N, ∀ j < N, i ≠ j → ∀ op ∈ ops i, ∀ op' ∈ ops j,
  op.region.Disjoint c op'.region)
include hd

lemma applyStores_take_owned (t : Nat → α) (n : Nat) {i : Nat} (hi : i < N) {op : Op}
    (hop : op ∈ ops i) {g : Nat} (hg : op.region.Covers c g) :
    applyStores t ((τ.take n).map Prod.snd) g = applyStores t (threadStores (τ.take n) i) g := by
  refine applyStores_owned t fun e he hge => ?_
  obtain ⟨op', hop', hg'⟩ := covers_of_mem_trace hv htag hτ (List.mem_of_mem_take he)
  by_contra hne
  exact (hd _ (htag e (List.mem_of_mem_take he)) i hi hne op' hop' op hop).not_covers hg
    (hge ▸ hg')

end Threads

end Snmalloc.ChunkMap

namespace Snmalloc.DefaultChunkMap

open Bits ChunkMap

variable {c : Config}

lemma foldlM_eq_applyStores : ∀ (ops : List Op) (t t' : Nat → UInt8),
    ops.foldlM (step c) t = some t' → t' = applyStores t (runStores c cell CMNotOurs.toUInt8 ops)
  | [], t, t', h => by
    cases h
    rfl
  | op :: ops, t, t', h => by
    simp only [List.foldlM_cons] at h
    obtain ⟨t₁, h₁, h₂⟩ := Option.bind_eq_some.1 h
    rw [foldlM_eq_applyStores ops t₁ t' h₂, step_eq_applyStores h₁, ← applyStores_append]
    rfl

lemma step_isSome_congr {op : Op} (hv : op.region.Valid c) {t t' : Nat → UInt8}
    (ht : ∀ g, op.region.Covers c g → t g = t' g) : (step c t op).isSome = (step c t' op).isSome := by
  cases op with
  | setSlab kind slab => rfl
  | setLargeSize p size => rfl
  | clearSlab kind slab =>
    simp only [step, clearSlab, get, Pagemap.get, ht _ (Region.covers_slab_iff.2 rfl)]
    split <;> rfl
  | clearLargeSize p size =>
    simp only [step, clearLargeSize, clearLargeSizeWith, Pagemap.get,
      ht _ (Region.covers_head (Region.valid_large_bits hv).1)]
    split <;> rfl

lemma step_applyStores_comm {op : Op} (hv : op.region.Valid c) {A : List (Nat × UInt8)}
    (hA : ∀ w ∈ A, ¬ op.region.Covers c w.1) (t : Nat → UInt8) :
    step c (applyStores t A) op = (step c t op).map fun t' => applyStores t' A := by
  have hframe : ∀ g, op.region.Covers c g → applyStores t A g = t g := fun g hg =>
    applyStores_of_not_mem _ t fun hm => by
      obtain ⟨w, hw, rfl⟩ := List.mem_map.1 hm
      exact hA w hw hg
  have hsome := step_isSome_congr hv hframe
  cases h : step c t op with
  | none =>
    rw [h] at hsome
    exact Option.not_isSome_iff_eq_none.1 (by simpa using hsome)
  | some t' =>
    obtain ⟨t'', h''⟩ := Option.isSome_iff_exists.1 (hsome.trans (by rw [h]; rfl))
    rw [h'', step_eq_applyStores h'', step_eq_applyStores h, Option.map_some',
      applyStores_comm (fun a ha w hw he => hA w hw (he ▸ stores_covers _ hv a ha))]

lemma step_step_of_disjoint {op₁ op₂ : Op} (hv₁ : op₁.region.Valid c) (hv₂ : op₂.region.Valid c)
    (hd : op₁.region.Disjoint c op₂.region) {t t₁ : Nat → UInt8} (h₁ : step c t op₁ = some t₁) :
    step c t₁ op₂ =
      (step c t op₂).map fun t₂ => applyStores t₂ (stores c cell CMNotOurs.toUInt8 op₁) := by
  rw [step_eq_applyStores h₁]
  exact step_applyStores_comm hv₂ (fun w hw => hd.symm.not_covers (stores_covers _ hv₁ w hw)) t

theorem step_comm {op₁ op₂ : Op} (hv₁ : op₁.region.Valid c) (hv₂ : op₂.region.Valid c)
    (hd : op₁.region.Disjoint c op₂.region) (t : Nat → UInt8) :
    (step c t op₁).bind (fun t₁ => step c t₁ op₂) =
      (step c t op₂).bind (fun t₂ => step c t₂ op₁) := by
  cases h₁ : step c t op₁ with
  | none =>
    cases h₂ : step c t op₂ with
    | none => rfl
    | some t₂ => rw [Option.some_bind, step_step_of_disjoint hv₂ hv₁ hd.symm h₂, h₁]; rfl
  | some t₁ =>
    cases h₂ : step c t op₂ with
    | none => rw [Option.some_bind, step_step_of_disjoint hv₁ hv₂ hd h₁, h₂]; rfl
    | some t₂ =>
      rw [Option.some_bind, Option.some_bind, step_step_of_disjoint hv₁ hv₂ hd h₁,
        step_step_of_disjoint hv₂ hv₁ hd.symm h₂, h₁, h₂, Option.map_some', Option.map_some',
        step_eq_applyStores h₁, step_eq_applyStores h₂,
        applyStores_comm (fun a ha b hb he =>
          hd.not_covers (he ▸ stores_covers _ hv₂ b hb) (stores_covers _ hv₁ a ha))]

theorem step_comm_large_medium :
    let c : Config := ⟨21, by decide⟩
    let op₁ : Op := .clearLargeSize 0x2000000 (2 ^ 24)
    let op₂ : Op := .setSlab .mediumslab 0x1000000
    let t := setLargeSize c (fun _ => CMNotOurs.toUInt8) 0x2000000 (2 ^ 24)
    (op₁.region.Valid c ∧ op₂.region.Valid c ∧ op₁.region.Disjoint c op₂.region) ∧
      (step c t op₁).bind (fun t₁ => step c t₁ op₂) =
        (step c t op₂).bind (fun t₂ => step c t₂ op₁) := by
  intro c op₁ op₂ t
  have h : op₁.region.Valid c ∧ op₂.region.Valid c ∧ op₁.region.Disjoint c op₂.region := by
    decide
  exact ⟨h, step_comm h.1 h.2.1 h.2.2 t⟩

theorem threads_interleaving {N : Nat} {ops : Nat → List Op} {L : Nat → LiveSet c}
    (hL : ∀ i < N, LiveSet.run c (ops i) = some (L i))
    (hd : ∀ i < N, ∀ j < N, i ≠ j → ∀ op ∈ ops i, ∀ op' ∈ ops j,
      op.region.Disjoint c op'.region)
    (τ : List (Nat × (Nat × UInt8))) (htag : ∀ e ∈ τ, e.1 < N)
    (hτ : ∀ i < N, threadStores τ i = runStores c cell CMNotOurs.toUInt8 (ops i)) :
    (∀ n, ∀ i < N, ∀ op ∈ ops i, ∀ g, op.region.Covers c g →
      applyStores (fun _ => CMNotOurs.toUInt8) ((τ.take n).map Prod.snd) g =
        applyStores (fun _ => CMNotOurs.toUInt8) (threadStores (τ.take n) i) g ∧
      threadStores (τ.take n) i <+: runStores c cell CMNotOurs.toUInt8 (ops i)) ∧
    (∀ n g, (∀ i < N, ∀ op ∈ ops i, ¬ op.region.Covers c g) →
      applyStores (fun _ => CMNotOurs.toUInt8) ((τ.take n).map Prod.snd) g = CMNotOurs.toUInt8) ∧
    ∃ Lall : LiveSet c, (∀ r, r ∈ Lall.regions ↔ ∃ i < N, r ∈ (L i).regions) ∧
      applyStores (fun _ => CMNotOurs.toUInt8) (τ.map Prod.snd) = Enc c Lall.regions := by
  have hv (i : Nat) (hi : i < N) := (LiveSet.run_regions (hL i hi)).1
  have hfrom (i : Nat) (hi : i < N) := (LiveSet.run_regions (hL i hi)).2
  refine ⟨fun n i hi op hop g hg => ⟨applyStores_take_owned hv htag hτ hd _ n hi hop hg,
      hτ i hi ▸ threadStores_take_prefix τ i n⟩,
    fun n g hg => applyStores_take_unowned hv htag hτ _ n hg, ?_⟩
  obtain ⟨Lall, hmem⟩ := LiveSet.exists_union (L := L) fun i hi j hj hij r hr r' hr' => by
    obtain ⟨op, hop, rfl⟩ := hfrom i hi r hr
    obtain ⟨op', hop', rfl⟩ := hfrom j hj r' hr'
    exact hd i hi j hj hij op hop op' hop'
  refine ⟨Lall, hmem, funext fun g => ?_⟩
  by_cases hown : ∃ i < N, ∃ op ∈ ops i, op.region.Covers c g
  · obtain ⟨i, hi, op, hop, hg⟩ := hown
    have hrun := foldlM_eq_applyStores (ops i) _ _ (run_Enc (hL i hi))
    rw [← List.take_length τ, applyStores_take_owned hv htag hτ hd _ _ hi hop hg,
      List.take_length, hτ i hi, ← hrun, Enc, Enc]
    refine encodeWith_apply_congr (L i).disjoint Lall.disjoint fun r hr => ?_
    refine ⟨fun h => (hmem r).2 ⟨i, hi, h⟩, fun h => ?_⟩
    obtain ⟨j, hj, hrj⟩ := (hmem r).1 h
    by_cases hij : j = i
    · exact hij ▸ hrj
    · obtain ⟨op', hop', rfl⟩ := hfrom j hj r hrj
      exact absurd hr ((hd j hj i hi hij op' hop' op hop).not_covers hg)
  · push_neg at hown
    rw [← List.take_length τ, applyStores_take_unowned hv htag hτ _ _ hown, Enc,
      encodeWith_of_not_covers]
    intro r hr
    obtain ⟨i, hi, hri⟩ := (hmem r).1 hr
    obtain ⟨op, hop, rfl⟩ := hfrom i hi r hri
    exact hown i hi op hop

theorem threads_interleaving_two_threads :
    let c : Config := ⟨21, by decide⟩
    let ops : Nat → List Op := fun i => if i = 0
      then [.setSlab .superslab 0x1000000, .clearSlab .superslab 0x1000000,
        .setSlab .mediumslab 0x1000000]
      else [.setLargeSize 0x2000000 (2 ^ 24)]
    let L : Nat → LiveSet c := fun i => (LiveSet.run c (ops i)).getD LiveSet.empty
    let τ : List (Nat × (Nat × UInt8)) :=
      ((runStores c cell CMNotOurs.toUInt8 (ops 1)).take 2).map (1, ·) ++
        (runStores c cell CMNotOurs.toUInt8 (ops 0)).map (0, ·) ++
        ((runStores c cell CMNotOurs.toUInt8 (ops 1)).drop 2).map (1, ·)
    ((∀ i < 2, LiveSet.run c (ops i) = some (L i)) ∧
      (∀ i < 2, ∀ j < 2, i ≠ j → ∀ op ∈ ops i, ∀ op' ∈ ops j, op.region.Disjoint c op'.region) ∧
      (∀ e ∈ τ, e.1 < 2) ∧ ∀ i < 2, threadStores τ i = runStores c cell CMNotOurs.toUInt8 (ops i)) ∧
    ∃ Lall : LiveSet c, (∀ r, r ∈ Lall.regions ↔ ∃ i < 2, r ∈ (L i).regions) ∧
      applyStores (fun _ => CMNotOurs.toUInt8) (τ.map Prod.snd) = Enc c Lall.regions := by
  intro c ops L τ
  have hsome : ∀ i < 2, (LiveSet.run c (ops i)).isSome := by decide
  have hL : ∀ i < 2, LiveSet.run c (ops i) = some (L i) := fun i hi =>
    (Option.getD_of_ne_none (Option.ne_none_iff_isSome.2 (hsome i hi)) _).symm
  have hd : ∀ i < 2, ∀ j < 2, i ≠ j → ∀ op ∈ ops i, ∀ op' ∈ ops j,
      op.region.Disjoint c op'.region := by decide
  have htag : ∀ e ∈ τ, e.1 < 2 := by decide
  have hτ : ∀ i < 2, threadStores τ i = runStores c cell CMNotOurs.toUInt8 (ops i) := by decide
  exact ⟨⟨hL, hd, htag, hτ⟩, (threads_interleaving hL hd τ htag hτ).2.2⟩

end Snmalloc.DefaultChunkMap
