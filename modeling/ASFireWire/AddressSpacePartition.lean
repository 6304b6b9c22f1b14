import ASFireWire.AddressSpaceManager
import ASFireWire.GapSearch
import ASFireWire.ObservedRuns

/-! The calls of the SBP-2 address space with what they return
(`Protocols/SBP2/AddressSpaceManager.hpp`), and the address space as a partition. -/
namespace ASFireWire.SBP2

open Async Runs ObservedRuns GapSearch

inductive KernReturn
  | success | badArgument | noSpace | notFound | notPermitted | noMemory | error
  deriving DecidableEq, Repr

/-- Bytes of a caller, whose length is a 32-bit word. -/
structure Span where
  bytes : List UInt8
  bound : bytes.length < 2 ^ 32 := by decide
  deriving DecidableEq, Repr

namespace AddressRange

/-- The high word given at allocation; the low word has 32 bits. -/
def addressHi (range : AddressRange) : ℕ := range.address / 2 ^ 32

def stop (range : AddressRange) : ℕ := range.address + range.length

end AddressRange

namespace AddressSpaceManager

def composeAddress (hi lo : ℕ) : ℕ := hi * 2 ^ 32 + lo

def kAutoAddressHi : ℕ := 0xFFFF

def kAutoAddressWindowStartLo : ℕ := 0x00100000

def kAutoAddressWindowEndLo : ℕ := 0x0FFFFFFF

def kAutoAddressAlignment : ℕ := 8

def windowStart : ℕ := composeAddress kAutoAddressHi kAutoAddressWindowStartLo

def windowEndExclusive : ℕ := composeAddress kAutoAddressHi kAutoAddressWindowEndLo + 1

def canFitRange (start length limitExclusive : ℕ) : Bool := start + length ≤ limitExclusive

/-- What a call returns: the code, and the handle and address of a new range. -/
structure Reply where
  code : KernReturn
  range : Option (ℕ × ℕ) := none
  deriving DecidableEq, Repr

/-- A failed mapping that comes without a code gets one. -/
def backingCode (kr : KernReturn) : KernReturn := if kr = .success then .error else kr

/-- `backing` is the device address of the new DMA memory, or the code it failed with. -/
def allocateAddressRangeLocked (mgr : AddressSpaceManager) (owner addressHi addressLo length : ℕ)
    (backing : Except KernReturn ℕ) : AddressSpaceManager × Reply :=
  let start := composeAddress addressHi addressLo
  if 2 ^ 64 ≤ start + length then (mgr, { code := .badArgument })
  else if mgr.ranges.any fun range => rangesOverlap start length range.address range.length then
    (mgr, { code := .noSpace })
  else
    match backing with
    | .error kr => ({ mgr with nextHandle := mgr.nextHandle + 1 }, { code := backingCode kr })
    | .ok deviceAddress =>
      (mgr.allocateAddressRange owner addressHi addressLo length (some deviceAddress),
        { code := .success, range := some (mgr.nextHandle, start) })

/-- The intervals of the ranges under the automatic high word that reach into the window, in the
order of pairs. -/
def occupied (mgr : AddressSpaceManager) : List (ℕ × ℕ) :=
  ((mgr.ranges.filter fun range => range.addressHi = kAutoAddressHi ∧
      ¬ (range.stop ≤ windowStart ∨ windowEndExclusive ≤ range.address)).map
    fun range => (range.address, range.stop)).insertionSort
      fun i j => i.1 < j.1 ∨ i.1 = j.1 ∧ i.2 ≤ j.2

def autoCandidate (mgr : AddressSpaceManager) (length : ℕ) : ℕ :=
  firstFit kAutoAddressAlignment length (alignUp windowStart kAutoAddressAlignment) mgr.occupied

inductive Call
  | allocateAddressRange (owner : ℕ) (addressHi : UInt16) (addressLo length : UInt32)
      (backing : Except KernReturn ℕ)
  | allocateAddressRangeAuto (owner : ℕ) (addressHi : UInt16) (length : UInt32)
      (backing : Except KernReturn ℕ)
  | deallocateAddressRange (owner handle : ℕ)
  | releaseOwner (owner : ℕ)
  | clearAll
  | writeLocalData (owner handle offset : ℕ) (data : Span)
  | applyRemoteWrite (address : ℕ) (payload : Span)

def allocateAuto (mgr : AddressSpaceManager) (owner addressHi length : ℕ)
    (backing : Except KernReturn ℕ) : AddressSpaceManager × Reply :=
  if length = 0 then (mgr, { code := .badArgument })
  else if addressHi ≠ kAutoAddressHi then (mgr, { code := .badArgument })
  else if windowEndExclusive - windowStart < length then (mgr, { code := .noSpace })
  else if canFitRange (mgr.autoCandidate length) length windowEndExclusive = false then
    (mgr, { code := .noSpace })
  else
    mgr.allocateAddressRangeLocked owner addressHi (mgr.autoCandidate length % 2 ^ 32) length
      backing

def deallocateCode (mgr : AddressSpaceManager) (owner handle : ℕ) : KernReturn :=
  if handle = 0 then .badArgument
  else
    match mgr.ranges.find? (·.handle = handle) with
    | none => .notFound
    | some range => if range.owner ≠ owner then .notPermitted else .success

def writeCode (mgr : AddressSpaceManager) (owner handle offset length : ℕ) : KernReturn :=
  match mgr.ranges.find? (·.handle = handle) with
  | none => .notFound
  | some range =>
    if range.owner ≠ owner then .notPermitted
    else if range.length < offset + length then .noSpace
    else .success

def remoteCode : ResponseCode → KernReturn
  | .complete => .success
  | _ => .error

/-- A call on a manager that has its lock. -/
def call (mgr : AddressSpaceManager) : Call → AddressSpaceManager × Reply
  | .allocateAddressRange owner addressHi addressLo length backing =>
    if length.toNat = 0 then (mgr, { code := .badArgument })
    else
      mgr.allocateAddressRangeLocked owner addressHi.toNat addressLo.toNat length.toNat backing
  | .allocateAddressRangeAuto owner addressHi length backing =>
    mgr.allocateAuto owner addressHi.toNat length.toNat backing
  | .deallocateAddressRange owner handle =>
    (if mgr.deallocateCode owner handle = .success then mgr.deallocateAddressRange owner handle
      else mgr, { code := mgr.deallocateCode owner handle })
  | .releaseOwner owner => (mgr.releaseOwner owner, { code := .success })
  | .clearAll => (mgr.clearAll, { code := .success })
  | .writeLocalData owner handle offset data =>
    (if mgr.writeCode owner handle offset data.bytes.length = .success then
        mgr.writeLocalData owner handle offset data.bytes
      else mgr, { code := mgr.writeCode owner handle offset data.bytes.length })
  | .applyRemoteWrite address payload =>
    ((mgr.applyRemoteWrite address payload.bytes).2,
      { code := remoteCode (mgr.applyRemoteWrite address payload.bytes).1 })

/-! ### The partition -/

structure Partition (mgr : AddressSpaceManager) : Prop where
  disjoint : mgr.ranges.Pairwise fun left right =>
    left.stop ≤ right.address ∨ right.stop ≤ left.address
  inside : ∀ range ∈ mgr.ranges, range.stop ≤ 2 ^ 48
  mirrored : ∀ range ∈ mgr.ranges, range.Mirrored
  nonempty : ∀ range ∈ mgr.ranges, 0 < range.length
  handles : ∀ range ∈ mgr.ranges, range.handle < mgr.nextHandle
  distinct : mgr.ranges.Pairwise fun left right => left.handle ≠ right.handle

/-- An explicit range ends within the node's address space, and an automatic one is asked for while
no range below the window reaches into it. -/
def Allowed (mgr : AddressSpaceManager) : Call → Prop
  | .allocateAddressRange _ addressHi addressLo length (.ok _) =>
    (∀ range ∈ mgr.ranges, rangesOverlap (composeAddress addressHi.toNat addressLo.toNat)
        length.toNat range.address range.length = false) →
      composeAddress addressHi.toNat addressLo.toNat + length.toNat ≤ 2 ^ 48
  | .allocateAddressRangeAuto _ _ _ _ =>
    ∀ range ∈ mgr.ranges, range.addressHi ≠ kAutoAddressHi → range.stop ≤ windowStart
  | _ => True

variable {mgr : AddressSpaceManager}

lemma Partition.sublist (h : mgr.Partition) {mgr' : AddressSpaceManager}
    (hsub : mgr'.ranges.Sublist mgr.ranges) (hnext : mgr'.nextHandle = mgr.nextHandle) :
    mgr'.Partition where
  disjoint := h.disjoint.sublist hsub
  inside := fun range hr => h.inside range (hsub.subset hr)
  mirrored := fun range hr => h.mirrored range (hsub.subset hr)
  nonempty := fun range hr => h.nonempty range (hsub.subset hr)
  handles := fun range hr => hnext ▸ h.handles range (hsub.subset hr)
  distinct := h.distinct.sublist hsub

lemma Partition.eq_of_handle (h : mgr.Partition) {left right : AddressRange}
    (hl : left ∈ mgr.ranges) (hr : right ∈ mgr.ranges) (heq : left.handle = right.handle) :
    left = right := by
  by_contra hne
  have : Std.Symm fun left right : AddressRange => left.handle ≠ right.handle :=
    ⟨fun _ _ hab => hab.symm⟩
  exact h.distinct.forall hl hr hne heq

/-- Where a range is, and what it is called. -/
structure SameRange (range range' : AddressRange) : Prop where
  address : range'.address = range.address
  length : range'.length = range.length
  handle : range'.handle = range.handle

/-- Changing the bytes of a range. -/
lemma Partition.modify (h : mgr.Partition) {handle : ℕ} {f : AddressRange → AddressRange}
    (hsame : ∀ range : AddressRange, SameRange range (f range))
    (hf : ∀ range ∈ mgr.ranges, range.handle = handle → range.Mirrored → (f range).Mirrored) :
    (mgr.modify handle f).Partition := by
  have hkept : ∀ range : AddressRange,
      SameRange range (if range.handle = handle then f range else range) := by
    intro range
    split
    · exact hsame range
    · exact ⟨rfl, rfl, rfl⟩
  refine ⟨?_, ?_, ?_, ?_, ?_, ?_⟩
  · apply List.Pairwise.map _ _ h.disjoint
    intro left right hapart
    unfold AddressRange.stop at hapart ⊢
    rw [(hkept left).address, (hkept left).length, (hkept right).address, (hkept right).length]
    exact hapart
  · intro range' hr
    obtain ⟨range, hrange, rfl⟩ := List.mem_map.mp hr
    unfold AddressRange.stop
    rw [(hkept range).address, (hkept range).length]
    exact h.inside range hrange
  · intro range' hr
    obtain ⟨range, hrange, rfl⟩ := List.mem_map.mp hr
    split
    · rename_i heq
      exact hf range hrange heq (h.mirrored range hrange)
    · exact h.mirrored range hrange
  · intro range' hr
    obtain ⟨range, hrange, rfl⟩ := List.mem_map.mp hr
    rw [(hkept range).length]
    exact h.nonempty range hrange
  · intro range' hr
    obtain ⟨range, hrange, rfl⟩ := List.mem_map.mp hr
    rw [(hkept range).handle]
    exact h.handles range hrange
  · apply List.Pairwise.map _ _ h.distinct
    intro left right hne
    rw [(hkept left).handle, (hkept right).handle]
    exact hne

/-! ### Allocation -/

/-- The range that an allocation adds. -/
def newRange (mgr : AddressSpaceManager) (owner start length deviceAddress : ℕ) : AddressRange where
  handle := mgr.nextHandle
  address := start
  length := length
  owner := owner
  buffer := List.replicate length 0
  mappedBytes := List.replicate length 0
  deviceAddress := deviceAddress
  hasBacking := true

def append (mgr : AddressSpaceManager) (range : AddressRange) : AddressSpaceManager :=
  { mgr with nextHandle := mgr.nextHandle + 1, ranges := mgr.ranges ++ [range] }

lemma overlap_false_iff {start length : ℕ} {range : AddressRange} :
    rangesOverlap start length range.address range.length = false ↔
      start + length ≤ range.address ∨ range.stop ≤ start := by
  unfold rangesOverlap AddressRange.stop
  rw [Bool.and_eq_false_iff, decide_eq_false_iff_not, decide_eq_false_iff_not, not_lt, not_lt]
  exact or_comm

lemma any_overlap_false_iff {start length : ℕ} :
    (mgr.ranges.any fun range => rangesOverlap start length range.address range.length) = false ↔
      ∀ range ∈ mgr.ranges, start + length ≤ range.address ∨ range.stop ≤ start := by
  rw [List.any_eq_false]
  refine forall₂_congr fun range _ => ?_
  rw [Bool.not_eq_true]
  exact overlap_false_iff

lemma Partition.append (h : mgr.Partition) {owner start length deviceAddress : ℕ}
    (hpos : 0 < length) (hinside : start + length ≤ 2 ^ 48)
    (hfree : ∀ range ∈ mgr.ranges, start + length ≤ range.address ∨ range.stop ≤ start) :
    (mgr.append (mgr.newRange owner start length deviceAddress)).Partition := by
  refine ⟨?_, ?_, ?_, ?_, ?_, ?_⟩
  · show (mgr.ranges ++ [_]).Pairwise _
    rw [List.pairwise_append]
    refine ⟨h.disjoint, List.pairwise_singleton _ _, fun left hl right hr => ?_⟩
    rw [List.mem_singleton.mp hr]
    exact (hfree left hl).symm
  · intro range hr
    rcases List.mem_append.mp hr with hr | hr
    · exact h.inside range hr
    · rw [List.mem_singleton.mp hr]
      exact hinside
  · intro range hr
    rcases List.mem_append.mp hr with hr | hr
    · exact h.mirrored range hr
    · rw [List.mem_singleton.mp hr]
      exact ⟨rfl, List.length_replicate, rfl⟩
  · intro range hr
    rcases List.mem_append.mp hr with hr | hr
    · exact h.nonempty range hr
    · rw [List.mem_singleton.mp hr]
      exact hpos
  · intro range hr
    rcases List.mem_append.mp hr with hr | hr
    · exact Nat.lt_succ_of_lt (h.handles range hr)
    · rw [List.mem_singleton.mp hr]
      exact Nat.lt_succ_self _
  · show (mgr.ranges ++ [_]).Pairwise _
    rw [List.pairwise_append]
    refine ⟨h.distinct, List.pairwise_singleton _ _, fun left hl right hr => ?_⟩
    rw [List.mem_singleton.mp hr]
    exact (h.handles left hl).ne

/-- What an allocation comes to. -/
lemma allocateLocked_cases (hlock : mgr.lock = true) (owner addressHi addressLo length : ℕ)
    (hpos : 0 < length) (backing : Except KernReturn ℕ) :
    (∃ deviceAddress, backing = .ok deviceAddress ∧
        (∀ range ∈ mgr.ranges, composeAddress addressHi addressLo + length ≤ range.address ∨
          range.stop ≤ composeAddress addressHi addressLo) ∧
        mgr.allocateAddressRangeLocked owner addressHi addressLo length backing =
          (mgr.append (mgr.newRange owner (composeAddress addressHi addressLo) length deviceAddress),
            { code := .success
              range := some (mgr.nextHandle, composeAddress addressHi addressLo) })) ∨
      (∃ nextHandle code, mgr.nextHandle ≤ nextHandle ∧ code ≠ .success ∧
        mgr.allocateAddressRangeLocked owner addressHi addressLo length backing =
          ({ mgr with nextHandle := nextHandle }, { code := code })) := by
  unfold allocateAddressRangeLocked
  dsimp only
  by_cases hword : 2 ^ 64 ≤ composeAddress addressHi addressLo + length
  · rw [if_pos hword]
    exact Or.inr ⟨mgr.nextHandle, .badArgument, le_rfl, by decide, rfl⟩
  · rw [if_neg hword]
    cases hoverlap : mgr.ranges.any fun range =>
        rangesOverlap (composeAddress addressHi addressLo) length range.address range.length with
    | true => exact Or.inr ⟨mgr.nextHandle, .noSpace, le_rfl, by decide, rfl⟩
    | false =>
      rw [if_neg Bool.false_ne_true]
      cases backing with
      | error kr =>
        refine Or.inr ⟨mgr.nextHandle + 1, backingCode kr, Nat.le_succ _, ?_, rfl⟩
        unfold backingCode
        split_ifs with hsuccess
        · decide
        · exact hsuccess
      | ok deviceAddress =>
        refine Or.inl ⟨deviceAddress, rfl, any_overlap_false_iff.mp hoverlap, ?_⟩
        have hadded : mgr.allocateAddressRange owner addressHi addressLo length
            (some deviceAddress) =
            mgr.append
              (mgr.newRange owner (composeAddress addressHi addressLo) length deviceAddress) := by
          unfold allocateAddressRange
          rw [if_neg (by simp [hlock, hpos.ne'])]
          exact if_neg (by rw [← composeAddress, hoverlap]; exact Bool.false_ne_true)
        dsimp only
        rw [hadded]

/-! ### The automatic search -/

/-- `length` bytes of the automatic window from `start` on are free. -/
structure FreeAt (mgr : AddressSpaceManager) (length start : ℕ) : Prop where
  aligned : kAutoAddressAlignment ∣ start
  low : windowStart ≤ start
  high : start + length ≤ windowEndExclusive
  free : ∀ range ∈ mgr.ranges, start + length ≤ range.address ∨ range.stop ≤ start

lemma occupied_sorted (mgr : AddressSpaceManager) :
    mgr.occupied.Pairwise fun i j => i.1 ≤ j.1 := by
  have : Std.Total (α := ℕ × ℕ) fun i j => i.1 < j.1 ∨ i.1 = j.1 ∧ i.2 ≤ j.2 :=
    ⟨fun i j => by omega⟩
  have : IsTrans (ℕ × ℕ) fun i j => i.1 < j.1 ∨ i.1 = j.1 ∧ i.2 ≤ j.2 :=
    ⟨fun i j k hij hjk => by omega⟩
  apply (List.pairwise_insertionSort _ _).imp
  intro i j h
  omega

lemma windowStart_eq : windowStart = 281470682791936 := by decide +kernel

lemma windowEndExclusive_eq : windowEndExclusive = 281470950178816 := by decide +kernel

lemma windowStart_aligned : alignUp windowStart kAutoAddressAlignment = windowStart := by
  decide +kernel

lemma autoCandidate_isLeast (mgr : AddressSpaceManager) (length : ℕ) :
    IsLeast (gaps kAutoAddressAlignment length windowStart mgr.occupied)
      (mgr.autoCandidate length) := by
  unfold autoCandidate
  rw [windowStart_aligned]
  exact firstFit_isLeast (by decide) (occupied_sorted mgr)
    (windowStart_aligned ▸ dvd_alignUp windowStart kAutoAddressAlignment)

lemma compose_candidate {start : ℕ} (hlow : windowStart ≤ start) (hhigh : start < windowEndExclusive) :
    composeAddress kAutoAddressHi (start % 2 ^ 32) = start := by
  have hauto : kAutoAddressHi = 65535 := rfl
  rw [windowStart_eq] at hlow
  rw [windowEndExclusive_eq] at hhigh
  unfold composeAddress
  omega

/-- What the automatic allocation promises: the lowest free place, or none. -/
def AllocatesLowest (mgr : AddressSpaceManager) (owner length deviceAddress : ℕ)
    (outcome : AddressSpaceManager × Reply) : Prop :=
  (∃ start, IsLeast {x | mgr.FreeAt length x} start ∧
      outcome = (mgr.append (mgr.newRange owner start length deviceAddress),
        { code := .success, range := some (mgr.nextHandle, start) })) ∨
    (∀ x, ¬ mgr.FreeAt length x) ∧ outcome = (mgr, { code := .noSpace })

lemma Partition.raise (h : mgr.Partition) {nextHandle : ℕ} (hle : mgr.nextHandle ≤ nextHandle) :
    ({ mgr with nextHandle := nextHandle } : AddressSpaceManager).Partition :=
  ⟨h.disjoint, h.inside, h.mirrored, h.nonempty,
    fun range hr => (h.handles range hr).trans_le hle, h.distinct⟩

lemma Partition.allocateLocked (h : mgr.Partition) (hlock : mgr.lock = true)
    {owner addressHi addressLo length : ℕ} (hpos : 0 < length) {backing : Except KernReturn ℕ}
    (hinside : ∀ deviceAddress, backing = .ok deviceAddress →
      (∀ range ∈ mgr.ranges, composeAddress addressHi addressLo + length ≤ range.address ∨
        range.stop ≤ composeAddress addressHi addressLo) →
      composeAddress addressHi addressLo + length ≤ 2 ^ 48) :
    (mgr.allocateAddressRangeLocked owner addressHi addressLo length backing).1.Partition := by
  rcases allocateLocked_cases hlock owner addressHi addressLo length hpos backing with
    ⟨deviceAddress, hbacking, hfree, heq⟩ | ⟨nextHandle, code, hle, _, heq⟩
  · rw [heq]
    exact h.append hpos (hinside deviceAddress hbacking hfree) hfree
  · rw [heq]
    exact h.raise hle

lemma Partition.allocateAuto (h : mgr.Partition) (hlock : mgr.lock = true)
    (owner addressHi length : ℕ) (backing : Except KernReturn ℕ) :
    (mgr.allocateAuto owner addressHi length backing).1.Partition := by
  unfold AddressSpaceManager.allocateAuto
  split_ifs with hzero hhi hlong hfit
  · exact h
  · exact h
  · exact h
  · exact h
  · have hhigh : mgr.autoCandidate length + length ≤ windowEndExclusive := by
      rw [Bool.not_eq_false] at hfit
      exact of_decide_eq_true hfit
    have hlow : windowStart ≤ mgr.autoCandidate length := (autoCandidate_isLeast mgr length).1.1
    apply h.allocateLocked hlock (Nat.pos_of_ne_zero hzero)
    intro _ _ _
    rw [not_not.mp hhi, compose_candidate hlow (by omega)]
    rw [windowEndExclusive_eq] at hhigh
    omega

lemma Partition.writeLocalData (h : mgr.Partition) (owner handle offset : ℕ)
    (data : List UInt8) : (mgr.writeLocalData owner handle offset data).Partition := by
  apply h.modify
  · intro range
    split <;> exact ⟨rfl, rfl, rfl⟩
  · intro range _ _ hmirrored
    split
    · rename_i hok
      exact hmirrored.writeBytesLocked hok.2
    · exact hmirrored

lemma contains_of_find {address length : ℕ} {range : AddressRange}
    (hfind : mgr.findRangeByAddressLocked address length = some range) :
    range.contains address length = true := by
  have hcontains := List.find?_some hfind
  exact hcontains

/-- A place belongs to at most one range. -/
lemma Partition.find_iff (h : mgr.Partition) {address length : ℕ} (hpos : 0 < length)
    {range : AddressRange} :
    mgr.findRangeByAddressLocked address length = some range ↔
      range ∈ mgr.ranges ∧ range.contains address length = true := by
  constructor
  · intro hfind
    exact ⟨List.mem_of_find?_eq_some hfind, contains_of_find hfind⟩
  · rintro ⟨hmem, hcontains⟩
    cases hfind : mgr.findRangeByAddressLocked address length with
    | none => exact absurd hcontains (List.find?_eq_none.mp hfind range hmem)
    | some other =>
      have hmem' : other ∈ mgr.ranges := List.mem_of_find?_eq_some hfind
      have hcontains' := List.find?_some hfind
      congr 1
      by_contra hne
      have : Std.Symm fun left right : AddressRange =>
          left.stop ≤ right.address ∨ right.stop ≤ left.address := ⟨fun _ _ hab => Or.symm hab⟩
      have hapart := h.disjoint.forall hmem' hmem hne
      simp only [AddressRange.contains, Bool.and_eq_true, decide_eq_true_eq] at hcontains hcontains'
      unfold AddressRange.stop at hapart
      omega

lemma contains_fits {range : AddressRange} {address length : ℕ}
    (h : range.contains address length = true) : address - range.address + length ≤ range.length := by
  simp only [AddressRange.contains, Bool.and_eq_true, decide_eq_true_eq] at h
  omega

lemma Partition.applyRemoteWrite (h : mgr.Partition) (address : ℕ) (payload : List UInt8) :
    (mgr.applyRemoteWrite address payload).2.Partition := by
  unfold AddressSpaceManager.applyRemoteWrite
  split
  · exact h
  cases hfind : mgr.findRangeByAddressLocked address payload.length with
  | none => exact h
  | some range =>
    have hmem : range ∈ mgr.ranges := List.mem_of_find?_eq_some hfind
    have hfits := contains_fits (contains_of_find hfind)
    have hwritten : (mgr.modify range.handle
        (·.writeBytesLocked (address - range.address) payload)).Partition := by
      apply h.modify
      · exact fun _ => ⟨rfl, rfl, rfl⟩
      · intro other hother hhandle hmirrored
        rw [h.eq_of_handle hother hmem hhandle] at hmirrored ⊢
        exact hmirrored.writeBytesLocked hfits
    dsimp only
    split
    · exact hwritten.sublist (List.Sublist.refl _) rfl
    · exact hwritten

lemma Partition.call (h : mgr.Partition) (hlock : mgr.lock = true) {c : Call}
    (hallowed : mgr.Allowed c) : (mgr.call c).1.Partition := by
  cases c with
  | allocateAddressRange owner addressHi addressLo length backing =>
    unfold AddressSpaceManager.call
    dsimp only
    split_ifs with hzero
    · exact h
    · apply h.allocateLocked hlock (Nat.pos_of_ne_zero hzero)
      intro deviceAddress hbacking hfree
      subst hbacking
      exact hallowed fun range hr => overlap_false_iff.mpr (hfree range hr)
  | allocateAddressRangeAuto owner addressHi length backing =>
    exact h.allocateAuto hlock owner addressHi.toNat length.toNat backing
  | deallocateAddressRange owner handle =>
    unfold AddressSpaceManager.call
    dsimp only
    split_ifs
    · exact h.sublist List.filter_sublist rfl
    · exact h
  | releaseOwner owner => exact h.sublist List.filter_sublist rfl
  | clearAll => exact h.sublist (List.nil_sublist _) rfl
  | writeLocalData owner handle offset data =>
    unfold AddressSpaceManager.call
    dsimp only
    split_ifs
    · exact h.writeLocalData owner handle offset data.bytes
    · exact h
  | applyRemoteWrite address payload => exact h.applyRemoteWrite address payload.bytes

/-- The handles of the ranges that were allocated. -/
def handles (replies : List Reply) : List ℕ := replies.filterMap fun reply => reply.range.map Prod.fst

/-- A remote write goes to the one range that holds all its bytes, or has no effect. -/
def WritesOneRange (mgr : AddressSpaceManager) (address : ℕ) (payload : List UInt8)
    (outcome : AddressSpaceManager × Reply) : Prop :=
  (∃ range ∈ mgr.ranges, range.contains address payload.length = true ∧
      (∀ other ∈ mgr.ranges, other.contains address payload.length = true → other = range) ∧
      outcome.2.code = .success ∧
      outcome.1.ranges = mgr.ranges.map fun other =>
        if other.handle = range.handle then
          other.writeBytesLocked (address - range.address) payload
        else other) ∨
    (∀ range ∈ mgr.ranges, range.contains address payload.length = false) ∧
      outcome.2.code ≠ .success ∧ outcome.1.ranges = mgr.ranges

/-- The promises in one state. -/
structure Exact (mgr : AddressSpaceManager) : Prop where
  partition : mgr.Partition
  lowest : ∀ (owner : ℕ) (addressHi : UInt16) (length : UInt32) (deviceAddress : ℕ),
    addressHi.toNat = kAutoAddressHi → 0 < length.toNat →
      mgr.Allowed (.allocateAddressRangeAuto owner addressHi length (.ok deviceAddress)) →
      mgr.AllocatesLowest owner length.toNat deviceAddress
        (mgr.call (.allocateAddressRangeAuto owner addressHi length (.ok deviceAddress)))
  writes : ∀ (address : ℕ) (payload : Span), payload.bytes ≠ [] →
    mgr.WritesOneRange address payload.bytes (mgr.call (.applyRemoteWrite address payload))
  reads : ∀ address length, 0 < length →
    ((mgr.resolveReadSlice address length).1 ≠ .addressError ↔
      ∃ range ∈ mgr.ranges, range.contains address length = true)
  quadlets : ∀ address value,
    mgr.readQuadlet address = (.complete, value) ↔
      ∃ range ∈ mgr.ranges, range.contains address 4 = true ∧
        value = Quadlets.le32At range.buffer (address - range.address)
  failed : ∀ c, (mgr.call c).2.code ≠ .success → (mgr.call c).1.ranges = mgr.ranges

lemma Partition.reads (h : mgr.Partition) (hlock : mgr.lock = true) (address : ℕ) {length : ℕ}
    (hpos : 0 < length) :
    (mgr.resolveReadSlice address length).1 ≠ .addressError ↔
      ∃ range ∈ mgr.ranges, range.contains address length = true := by
  unfold resolveReadSlice
  rw [if_neg (by simp [hlock, hpos.ne'])]
  cases hfind : mgr.findRangeByAddressLocked address length with
  | none =>
    refine iff_of_false (fun hne => hne rfl) ?_
    rintro ⟨range, hmem, hcontains⟩
    exact List.find?_eq_none.mp hfind range hmem hcontains
  | some range =>
    refine iff_of_true ?_ ⟨range, (h.find_iff hpos).mp hfind⟩
    dsimp only
    split_ifs <;> exact nofun

lemma Partition.quadlets (h : mgr.Partition) (hlock : mgr.lock = true) (address value : ℕ) :
    mgr.readQuadlet address = (.complete, value) ↔
      ∃ range ∈ mgr.ranges, range.contains address 4 = true ∧
        value = Quadlets.le32At range.buffer (address - range.address) := by
  unfold readQuadlet
  rw [if_neg (by simp [hlock])]
  constructor
  · intro hread
    cases hfind : mgr.findRangeByAddressLocked address 4 with
    | none =>
      rw [hfind] at hread
      exact absurd (congrArg Prod.fst hread) nofun
    | some range =>
      rw [hfind] at hread
      obtain ⟨hmem, hcontains⟩ := (h.find_iff (by decide)).mp hfind
      exact ⟨range, hmem, hcontains, (congrArg Prod.snd hread).symm⟩
  · rintro ⟨range, hmem, hcontains, rfl⟩
    rw [(h.find_iff (by decide)).mpr ⟨hmem, hcontains⟩]

instance (mgr : AddressSpaceManager) : (c : Call) → Decidable (mgr.Allowed c)
  | .allocateAddressRange _ addressHi addressLo length (.ok _) =>
    inferInstanceAs (Decidable ((∀ range ∈ mgr.ranges,
        rangesOverlap (composeAddress addressHi.toNat addressLo.toNat) length.toNat range.address
          range.length = false) →
      composeAddress addressHi.toNat addressLo.toNat + length.toNat ≤ 2 ^ 48))
  | .allocateAddressRange _ _ _ _ (.error _) => isTrue trivial
  | .allocateAddressRangeAuto _ _ _ _ => inferInstanceAs (Decidable
      (∀ range ∈ mgr.ranges, range.addressHi ≠ kAutoAddressHi → range.stop ≤ windowStart))
  | .deallocateAddressRange _ _ => isTrue trivial
  | .releaseOwner _ => isTrue trivial
  | .clearAll => isTrue trivial
  | .writeLocalData _ _ _ _ => isTrue trivial
  | .applyRemoteWrite _ _ => isTrue trivial

end AddressSpaceManager

end ASFireWire.SBP2
