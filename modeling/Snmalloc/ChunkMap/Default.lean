import Snmalloc.ChunkMap.Registration

/-! `DefaultChunkMap`: one byte per superslab granule, and `Enc L`, the table it should hold while
the regions `L` are live. -/

namespace Snmalloc.DefaultChunkMap

open Bits ChunkMap

variable (c : Config)

def cell (_base x : Nat) : UInt8 := x.toUInt8

def get (t : Nat → UInt8) (p : Nat) : UInt8 := Pagemap.get c t p

def getp (p : Nat) : Nat := p

def setSlab (t : Nat → UInt8) (kind : SlabKind) (slab : Nat) : Nat → UInt8 :=
  setSlabWith c cell t kind slab

def clearSlab (t : Nat → UInt8) (kind : SlabKind) (slab : Nat) : Option (Nat → UInt8) :=
  if (get c t slab).toNat = kind.code then some (Pagemap.set c t slab CMNotOurs.toUInt8)
  else none

def setLargeSize (t : Nat → UInt8) (p size : Nat) : Nat → UInt8 :=
  setLargeSizeWith c cell t p size

def clearLargeSize (t : Nat → UInt8) (vp size : Nat) : Option (Nat → UInt8) :=
  clearLargeSizeWith c id CMNotOurs.toUInt8 t vp size

def step (t : Nat → UInt8) : Op → Option (Nat → UInt8)
  | .setSlab kind slab => some (setSlab c t kind slab)
  | .clearSlab kind slab => clearSlab c t kind slab
  | .setLargeSize p size => some (setLargeSize c t p size)
  | .clearLargeSize p size => clearLargeSize c t p size

def run (ops : List Op) : Option (Nat → UInt8) := ops.foldlM (step c) fun _ => CMNotOurs.toUInt8

def Enc (L : List Region) : Nat → UInt8 := encodeWith c cell CMNotOurs.toUInt8 L

variable {c}

lemma setLargeSize_eq (t : Nat → UInt8) (p size : Nat) (h : c.superslabBits ≤ nextPow2Bits size) :
    setLargeSize c t p size = (Region.large p size).overlay c
      (fun g => ((Region.large p size).code c g).toUInt8) t :=
  setLargeSizeWith_eq t p size h

theorem clearLargeSize_setLargeSize (t : Nat → UInt8) (p size : Nat)
    (h : c.superslabBits ≤ nextPow2Bits size) :
    clearLargeSize c (setLargeSize c t p size) p size =
      some ((Region.large p size).overlay c (fun _ => CMNotOurs.toUInt8) t) :=
  clearLargeSizeWith_setLargeSizeWith id _ (by
    simp only [id, cell, toNat_toUInt8]
    exact Nat.mod_eq_of_lt (lt_of_le_of_lt (nextPow2Bits_le size) (by norm_num))) t h

theorem clearLargeSize_setLargeSize_scenario :
    21 ≤ nextPow2Bits (2 ^ 24) ∧
      clearLargeSize ⟨21, by decide⟩ (setLargeSize ⟨21, by decide⟩ (fun _ => 0) 0x2000000 (2 ^ 24))
        0x2000000 (2 ^ 24) =
        some ((Region.large 0x2000000 (2 ^ 24)).overlay ⟨21, by decide⟩
          (fun _ => CMNotOurs.toUInt8) fun _ => 0) :=
  have h : 21 ≤ nextPow2Bits (2 ^ 24) := by decide
  ⟨h, clearLargeSize_setLargeSize (c := ⟨21, by decide⟩) _ _ _ h⟩

end Snmalloc.DefaultChunkMap
