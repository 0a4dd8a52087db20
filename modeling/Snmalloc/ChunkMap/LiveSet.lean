import Snmalloc.ChunkMap.Region

/-! The abstract chunk map: the set of live regions, which a correct chunk map encodes along
every run of valid calls. -/

namespace Snmalloc

structure LiveSet (c : Config) where
  regions : List Region
  valid : ∀ r ∈ regions, r.Valid c
  disjoint : regions.Pairwise (Region.Disjoint c)

namespace LiveSet

variable {c : Config}

def empty : LiveSet c := ⟨[], fun _ h => absurd h (List.not_mem_nil _), List.Pairwise.nil⟩

def register (L : LiveSet c) (r : Region) : Option (LiveSet c) :=
  if h : r.Valid c ∧ ∀ r' ∈ L.regions, r.Disjoint c r' then
    some ⟨r :: L.regions,
      fun r' hr' => (List.mem_cons.1 hr').elim (fun e => e ▸ h.1) (L.valid r'),
      List.pairwise_cons.2 ⟨h.2, L.disjoint⟩⟩
  else none

def release (L : LiveSet c) (r : Region) : Option (LiveSet c) :=
  if r ∈ L.regions then
    some ⟨L.regions.erase r, fun r' h => L.valid r' (List.mem_of_mem_erase h), L.disjoint.erase r⟩
  else none

def step (L : LiveSet c) : Op → Option (LiveSet c)
  | .setSlab kind slab => L.register (.slab kind slab)
  | .clearSlab kind slab => L.release (.slab kind slab)
  | .setLargeSize p size => L.register (.large p size)
  | .clearLargeSize p size => L.release (.large p size)

def run (c : Config) (ops : List Op) : Option (LiveSet c) := ops.foldlM step empty

lemma register_eq_some {L L' : LiveSet c} {r : Region} (h : L.register r = some L') :
    r.Valid c ∧ L'.regions = r :: L.regions := by
  unfold register at h
  split at h
  case isTrue hv => cases h; exact ⟨hv.1, rfl⟩
  case isFalse => cases h

lemma release_eq_some {L L' : LiveSet c} {r : Region} (h : L.release r = some L') :
    r ∈ L.regions ∧ L'.regions = L.regions.erase r := by
  unfold release at h
  split at h
  case isTrue hr => cases h; exact ⟨hr, rfl⟩
  case isFalse => cases h

lemma covers_unique (L : LiveSet c) {r r' : Region} {g : Nat} (hr : r ∈ L.regions)
    (hr' : r' ∈ L.regions) (hg : r.Covers c g) (hg' : r'.Covers c g) : r = r' := by
  by_contra hne
  exact (L.disjoint.forall (fun _ _ h => h.symm) hr hr' hne).not_covers hg' hg

lemma step_eq_some {L L' : LiveSet c} {op : Op} (h : L.step op = some L') :
    if op.registers then
      (∀ r ∈ L.regions, op.region.Disjoint c r) ∧ L'.regions = op.region :: L.regions
    else op.region ∈ L.regions ∧ L'.regions = L.regions.erase op.region := by
  cases op with
  | setSlab a b | setLargeSize a b =>
    obtain ⟨-, hL'⟩ := register_eq_some h
    exact ⟨(List.pairwise_cons.1 (hL' ▸ L'.disjoint)).1, hL'⟩
  | clearSlab a b | clearLargeSize a b => exact release_eq_some h

lemma step_regions {L L' : LiveSet c} {op : Op} (h : L.step op = some L') :
    op.region.Valid c ∧ ∀ r ∈ L'.regions, r ∈ L.regions ∨ r = op.region := by
  cases op with
  | setSlab a b | setLargeSize a b =>
    obtain ⟨hv, hL'⟩ := register_eq_some h
    exact ⟨hv, fun r hr => (List.mem_cons.1 (hL' ▸ hr)).symm⟩
  | clearSlab a b | clearLargeSize a b =>
    obtain ⟨hr, hL'⟩ := release_eq_some h
    exact ⟨L.valid _ hr, fun r hr' => .inl (List.mem_of_mem_erase (hL' ▸ hr'))⟩

lemma foldlM_regions : ∀ (ops : List Op) (L L' : LiveSet c), ops.foldlM step L = some L' →
    (∀ op ∈ ops, op.region.Valid c) ∧ ∀ r ∈ L'.regions, r ∈ L.regions ∨ ∃ op ∈ ops, op.region = r
  | [], L, L', h => by
    cases h
    exact ⟨fun _ h => absurd h (List.not_mem_nil _), fun _ hr => .inl hr⟩
  | op :: ops, L, L', h => by
    simp only [List.foldlM_cons] at h
    obtain ⟨L₁, h₁, h₂⟩ := Option.bind_eq_some.1 h
    obtain ⟨hv, hreg⟩ := step_regions h₁
    obtain ⟨hvs, hregs⟩ := foldlM_regions ops L₁ L' h₂
    refine ⟨List.forall_mem_cons.2 ⟨hv, hvs⟩, fun r hr => ?_⟩
    rcases hregs r hr with hr₁ | ⟨op', hop', rfl⟩
    · exact (hreg r hr₁).imp_right fun e => ⟨op, List.mem_cons_self op ops, e.symm⟩
    · exact .inr ⟨op', List.mem_cons_of_mem op hop', rfl⟩

lemma run_regions {ops : List Op} {L : LiveSet c} (h : run c ops = some L) :
    (∀ op ∈ ops, op.region.Valid c) ∧ ∀ r ∈ L.regions, ∃ op ∈ ops, op.region = r := by
  obtain ⟨hv, hr⟩ := foldlM_regions ops empty L h
  exact ⟨hv, fun r h' => (hr r h').resolve_left (List.not_mem_nil r)⟩

lemma exists_union {N : Nat} {L : Nat → LiveSet c}
    (hdisj : ∀ i < N, ∀ j < N, i ≠ j → ∀ r ∈ (L i).regions, ∀ r' ∈ (L j).regions,
      r.Disjoint c r') :
    ∃ U : LiveSet c, ∀ r, r ∈ U.regions ↔ ∃ i < N, r ∈ (L i).regions := by
  refine ⟨⟨(List.range N).flatMap fun i => (L i).regions, fun r hr => ?_, ?_⟩, fun r => ?_⟩
  · obtain ⟨i, -, hr⟩ := List.mem_flatMap.1 hr
    exact (L i).valid r hr
  · exact List.pairwise_flatMap.2 ⟨fun i _ => (L i).disjoint,
      (List.nodup_range N).imp_of_mem fun hi hj hij =>
        hdisj _ (List.mem_range.1 hi) _ (List.mem_range.1 hj) hij⟩
  · simp only [List.mem_flatMap, List.mem_range]

end LiveSet

section Runs

variable {σ τ : Type}

theorem foldlM_simulation (absStep : σ → Op → Option σ) (conc : τ → Op → Option τ) (R : σ → τ)
    (hstep : ∀ s op s', absStep s op = some s' → conc (R s) op = some (R s')) :
    ∀ (ops : List Op) (s s' : σ), ops.foldlM absStep s = some s' →
      ops.foldlM conc (R s) = some (R s')
  | [], s, s', h => by
    cases h
    rfl
  | op :: ops, s, s', h => by
    simp only [List.foldlM_cons] at h ⊢
    obtain ⟨s₁, h₁, h₂⟩ := Option.bind_eq_some.1 h
    rw [hstep s op s₁ h₁]
    exact foldlM_simulation absStep conc R hstep ops s₁ s' h₂

lemma foldlM_take_isSome (f : σ → Op → Option σ) (s : σ) {ops : List Op}
    (h : (ops.foldlM f s).isSome) (n : Nat) : ∃ s', (ops.take n).foldlM f s = some s' := by
  rw [← List.take_append_drop n ops, List.foldlM_append] at h
  cases hp : (ops.take n).foldlM f s with
  | none => rw [hp] at h; cases h
  | some s' => exact ⟨s', rfl⟩

end Runs

end Snmalloc
