import ASFireWire.Runs
import Mathlib.Data.BitVec

/-! The DMA slab (`Shared/Memory/DMAMemoryManager.cpp`): regions are cut off one after the other, and
a region lies as far into the slab for the device as for the processor. -/
namespace ASFireWire.Shared

/-- `(value + (alignment - 1)) & ~(alignment - 1)`. -/
def alignUp (value alignment : BitVec 64) : BitVec 64 :=
  (value + (alignment - 1)) &&& ~~~(alignment - 1)

structure DMARegion where
  virtualBase : BitVec 64
  deviceBase : BitVec 64
  size : BitVec 64
  deriving DecidableEq, Repr

/-- A null pointer is 0. -/
structure DMAMemoryManager where
  slabVirt : BitVec 64
  slabIOVA : BitVec 64
  slabSize : BitVec 64
  cursor : BitVec 64 := 0
  deriving DecidableEq, Repr

/-- One region ends before another begins, on both sides. -/
def DMARegion.Below (r r' : DMARegion) : Prop :=
  r.virtualBase.toNat + r.size.toNat ≤ r'.virtualBase.toNat ∧
    r.deviceBase.toNat + r.size.toNat ≤ r'.deviceBase.toNat

namespace DMAMemoryManager

def alignSize (size : BitVec 64) : BitVec 64 := alignUp size 16

/-- What is no power of two counts for 16. -/
def effectiveAlignment (alignment : BitVec 64) : BitVec 64 :=
  let alignment := if alignment < 16 then 16 else alignment
  if alignment &&& (alignment - 1) ≠ 0 then 16 else alignment

def allocateRegion (m : DMAMemoryManager) (size alignment : BitVec 64) :
    DMAMemoryManager × Option DMARegion :=
  let alignedCursor := alignUp m.cursor (effectiveAlignment alignment)
  let alignedSize := alignSize size
  if m.slabVirt = 0 ∨ size = 0 ∨ m.slabSize < alignedCursor + alignedSize then (m, none)
  else
    ({ m with cursor := alignedCursor + alignedSize },
      some ⟨m.slabVirt + alignedCursor, m.slabIOVA + alignedCursor, alignedSize⟩)

structure Request where
  size : BitVec 64
  alignment : BitVec 64
  deriving DecidableEq, Repr

structure Grant extends Request where
  region : DMARegion
  deriving DecidableEq, Repr

/-- Newest grant first. -/
def step (s : DMAMemoryManager × List Grant) (request : Request) : DMAMemoryManager × List Grant :=
  let (m, region) := s.1.allocateRegion request.size request.alignment
  (m, (region.map (Grant.mk request)).toList ++ s.2)

/-! ### Alignment -/

lemma and_not_eq_sub {w : ℕ} (y m : BitVec w) : y &&& ~~~m = y - (y &&& m) := by
  have hapart : (y &&& ~~~m) &&& (y &&& m) = 0 := by
    ext i
    grind
  have hwhole : (y &&& ~~~m) ||| (y &&& m) = y := by
    ext i
    grind
  rw [eq_sub_iff_add_eq, BitVec.add_eq_or_of_and_eq_zero _ _ hapart, hwhole]

lemma toNat_alignUp {x a : BitVec 64} (ha : a.toNat.isPowerOfTwo) (h : x.toNat + a.toNat ≤ 2 ^ 64) :
    (alignUp x a).toNat = (x.toNat + (a.toNat - 1)) / a.toNat * a.toNat := by
  obtain ⟨k, hk⟩ := ha
  have hpos : (1 : BitVec 64).toNat ≤ a.toNat := by
    rw [hk]
    exact Nat.one_le_two_pow
  have hmask : (a - 1).toNat = a.toNat - 1 := BitVec.toNat_sub_of_le hpos
  have hsum : (x + (a - 1)).toNat = x.toNat + (a.toNat - 1) := by
    rw [BitVec.toNat_add, hmask, Nat.mod_eq_of_lt]
    change 1 ≤ a.toNat at hpos
    omega
  have hlow : (x + (a - 1) &&& (a - 1)).toNat = (x.toNat + (a.toNat - 1)) % a.toNat := by
    rw [BitVec.toNat_and, hsum, hmask, hk, Nat.and_two_pow_sub_one_eq_mod]
  have hle : (x + (a - 1) &&& (a - 1)) ≤ x + (a - 1) := by
    rw [BitVec.le_def, hlow, hsum]
    exact Nat.mod_le _ _
  rw [alignUp, and_not_eq_sub, BitVec.toNat_sub_of_le hle, hlow, hsum]
  have hdiv := Nat.div_add_mod' (x.toNat + (a.toNat - 1)) a.toNat
  omega

/-- The next multiple of the alignment. -/
lemma alignUp_spec {x a : BitVec 64} (ha : a.toNat.isPowerOfTwo) (h : x.toNat + a.toNat ≤ 2 ^ 64) :
    x.toNat ≤ (alignUp x a).toNat ∧ (alignUp x a).toNat < x.toNat + a.toNat ∧
      a.toNat ∣ (alignUp x a).toNat := by
  have hpos : 0 < a.toNat := Nat.pos_of_isPowerOfTwo ha
  have hdiv := Nat.div_add_mod' (x.toNat + (a.toNat - 1)) a.toNat
  have hmod := Nat.mod_lt (x.toNat + (a.toNat - 1)) hpos
  rw [toNat_alignUp ha h]
  exact ⟨by omega, by omega, Dvd.intro_left _ rfl⟩

lemma effectiveAlignment_spec (a : BitVec 64) : (effectiveAlignment a).toNat.isPowerOfTwo ∧
    (effectiveAlignment a).toNat ≤ a.toNat + 16 := by
  have hsixteen : (16 : BitVec 64).toNat = 16 := rfl
  unfold effectiveAlignment
  dsimp only
  generalize hraised : (if a < 16 then (16 : BitVec 64) else a) = b
  have hb : 16 ≤ b.toNat ∧ b.toNat ≤ a.toNat + 16 := by
    rw [← hraised]
    split_ifs with hlt
    · omega
    · rw [BitVec.lt_def, hsixteen] at hlt
      omega
  split_ifs with hpower
  · exact ⟨⟨4, rfl⟩, Nat.le_add_left _ _⟩
  · have hone : (b - 1).toNat = b.toNat - 1 :=
      BitVec.toNat_sub_of_le (show 1 ≤ b.toNat by omega)
    refine ⟨(Nat.and_sub_one_eq_zero_iff_isPowerOfTwo (by omega)).mp ?_, hb.2⟩
    rw [← hone, ← BitVec.toNat_and, not_not.mp hpower]
    rfl

lemma alignSize_spec {size : BitVec 64} (h : size.toNat + 16 ≤ 2 ^ 64) :
    size.toNat ≤ (alignSize size).toNat ∧ (alignSize size).toNat < size.toNat + 16 ∧
      16 ∣ (alignSize size).toNat :=
  alignUp_spec ⟨4, rfl⟩ h

/-! ### The regions of a run -/

variable {m : DMAMemoryManager}

/-- The slab ends before the address space does, on both sides. -/
structure Mapped (m : DMAMemoryManager) : Prop where
  virt : m.slabVirt.toNat + m.slabSize.toNat < 2 ^ 64
  iova : m.slabIOVA.toNat + m.slabSize.toNat < 2 ^ 64

/-- No sum that a request makes wraps. -/
def Fits (m : DMAMemoryManager) (request : Request) : Prop :=
  m.slabSize.toNat + request.alignment.toNat + request.size.toNat + 32 ≤ 2 ^ 64

/-- A grant is a part of the slab, as long as was asked for, at the same offset on both sides. -/
structure Placed (m : DMAMemoryManager) (g : Grant) (offset : BitVec 64) : Prop where
  virtualBase : g.region.virtualBase = m.slabVirt + offset
  deviceBase : g.region.deviceBase = m.slabIOVA + offset
  inside : offset.toNat + g.region.size.toNat ≤ m.slabSize.toNat
  covers : g.size.toNat ≤ g.region.size.toNat
  aligned : (effectiveAlignment g.alignment).toNat ∣ offset.toNat

/-- What a run keeps: regions end where the cursor is at the latest, older ones below newer ones. -/
structure Packed (m : DMAMemoryManager) (s : DMAMemoryManager × List Grant) : Prop where
  same : ∃ cursor, s.1 = { m with cursor }
  cursor : s.1.cursor.toNat ≤ m.slabSize.toNat
  placed : ∀ g ∈ s.2, ∃ offset, m.Placed g offset ∧
    offset.toNat + g.region.size.toNat ≤ s.1.cursor.toNat
  apart : s.2.Pairwise fun newer older => older.region.Below newer.region

lemma Placed.toNat {g : Grant} {offset : BitVec 64} (h : m.Placed g offset) (hmapped : m.Mapped) :
    g.region.virtualBase.toNat = m.slabVirt.toNat + offset.toNat ∧
      g.region.deviceBase.toNat = m.slabIOVA.toNat + offset.toNat := by
  have hinside := h.inside
  have hvirt := hmapped.virt
  have hiova := hmapped.iova
  rw [h.virtualBase, h.deviceBase, BitVec.toNat_add, BitVec.toNat_add]
  exact ⟨Nat.mod_eq_of_lt (by omega), Nat.mod_eq_of_lt (by omega)⟩

lemma allocateRegion_cases (hcursor : m.cursor.toNat ≤ m.slabSize.toNat) {request : Request}
    (hfits : m.Fits request) :
    m.allocateRegion request.size request.alignment = (m, none) ∨
      ∃ region offset, m.Placed ⟨request, region⟩ offset ∧ m.cursor.toNat ≤ offset.toNat ∧
        m.allocateRegion request.size request.alignment =
          ({ m with cursor := offset + region.size }, some region) ∧
        (offset + region.size).toNat = offset.toNat + region.size.toNat := by
  obtain ⟨size, alignment⟩ := request
  have hfits : m.slabSize.toNat + alignment.toNat + size.toNat + 32 ≤ 2 ^ 64 := hfits
  obtain ⟨hpower, hle⟩ := effectiveAlignment_spec alignment
  obtain ⟨hcover, hlt, -⟩ := alignSize_spec (show size.toNat + 16 ≤ 2 ^ 64 by omega)
  obtain ⟨hfrom, hbefore, hdvd⟩ := alignUp_spec (x := m.cursor) hpower (by omega)
  unfold allocateRegion
  dsimp only
  split_ifs with hrefused
  · exact Or.inl rfl
  · rw [not_or, not_or, BitVec.not_lt] at hrefused
    have hsum : (alignUp m.cursor (effectiveAlignment alignment) + alignSize size).toNat =
        (alignUp m.cursor (effectiveAlignment alignment)).toNat + (alignSize size).toNat := by
      rw [BitVec.toNat_add, Nat.mod_eq_of_lt (by omega)]
    have hinside := BitVec.le_def.mp hrefused.2.2
    rw [hsum] at hinside
    exact Or.inr ⟨⟨_, _, alignSize size⟩, _, ⟨rfl, rfl, hinside, hcover, hdvd⟩, hfrom, rfl, hsum⟩

lemma Packed.step (hmapped : m.Mapped) {s : DMAMemoryManager × List Grant} (h : m.Packed s)
    (request : Request) (hfits : m.Fits request) : m.Packed (step s request) := by
  obtain ⟨_, granted⟩ := s
  obtain ⟨⟨cursor, rfl⟩, hcursor, hplaced, hapart⟩ := h
  rcases allocateRegion_cases (m := { m with cursor }) hcursor hfits with
    heq | ⟨region, offset, hnew, hfrom, heq, hend⟩
  · simp only [DMAMemoryManager.step, heq]
    exact ⟨⟨cursor, rfl⟩, hcursor, hplaced, hapart⟩
  · have hnew : m.Placed ⟨request, region⟩ offset :=
      ⟨hnew.virtualBase, hnew.deviceBase, hnew.inside, hnew.covers, hnew.aligned⟩
    simp only [DMAMemoryManager.step, heq]
    refine ⟨⟨_, rfl⟩, hend.trans_le hnew.inside, ?_, List.pairwise_cons.mpr ⟨?_, hapart⟩⟩
    · intro g hg
      rcases List.mem_cons.mp hg with rfl | hold
      · exact ⟨offset, hnew, hend.ge⟩
      · obtain ⟨offset', hg', hle⟩ := hplaced g hold
        exact ⟨offset', hg', by dsimp only at *; omega⟩
    · intro g hold
      obtain ⟨offset', hg', hle⟩ := hplaced g hold
      have hbase := hnew.toNat hmapped
      have hbase' := hg'.toNat hmapped
      dsimp only at hbase hle hfrom
      exact ⟨by dsimp only; omega, by dsimp only; omega⟩

end DMAMemoryManager

end ASFireWire.Shared
