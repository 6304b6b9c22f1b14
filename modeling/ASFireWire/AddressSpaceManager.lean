import ASFireWire.ResponseSender

/-! Dynamically allocated local address ranges (`Protocols/SBP2/AddressSpaceManager.hpp`). A range
has a host buffer, which quadlet reads see, and a DMA buffer, which block reads see; every write
goes to both. -/
namespace ASFireWire.SBP2

open Async Quadlets

/-- Store `data` over `bytes` from `offset` on. -/
def overwrite (bytes : List UInt8) (offset : ℕ) (data : List UInt8) : List UInt8 :=
  bytes.take offset ++ data ++ bytes.drop (offset + data.length)

lemma length_overwrite {bytes data : List UInt8} {offset : ℕ}
    (h : offset + data.length ≤ bytes.length) :
    (overwrite bytes offset data).length = bytes.length := by
  simp only [overwrite, List.length_append, List.length_take, List.length_drop]
  omega

structure AddressRange where
  handle : ℕ
  address : ℕ
  length : ℕ
  owner : ℕ
  buffer : List UInt8
  onRemoteWrite : Bool := false
  mappedBytes : List UInt8
  deviceAddress : ℕ
  hasBacking : Bool
  deriving DecidableEq, Repr

/-- `notified` lists the calls of remote-write callbacks: handle, offset and payload. -/
structure AddressSpaceManager where
  lock : Bool := true
  nextHandle : ℕ := 1
  ranges : List AddressRange := []
  notified : List (ℕ × ℕ × List UInt8) := []
  deriving DecidableEq, Repr

namespace AddressRange

def writeBytesLocked (range : AddressRange) (offset : ℕ) (data : List UInt8) : AddressRange :=
  { range with
    buffer := overwrite range.buffer offset data
    mappedBytes := if range.hasBacking then overwrite range.mappedBytes offset data
      else range.mappedBytes }

def contains (range : AddressRange) (address length : ℕ) : Bool :=
  range.address ≤ address && address + length ≤ range.address + range.length

/-- The DMA buffer covers these device addresses. -/
def backs (range : AddressRange) (device length : ℕ) : Bool :=
  range.hasBacking && range.deviceAddress ≤ device &&
    device + length ≤ range.deviceAddress + range.length

end AddressRange

namespace AddressSpaceManager

def findRangeByAddressLocked (mgr : AddressSpaceManager) (address length : ℕ) :
    Option AddressRange :=
  mgr.ranges.find? (·.contains address length)

def rangesOverlap (leftStart leftLength rightStart rightLength : ℕ) : Bool :=
  leftStart < rightStart + rightLength && rightStart < leftStart + leftLength

/-- Change the range with this handle. -/
def modify (mgr : AddressSpaceManager) (handle : ℕ) (f : AddressRange → AddressRange) :
    AddressSpaceManager :=
  { mgr with ranges := mgr.ranges.map fun range => if range.handle = handle then f range else range }

/-- `AllocateAddressRangeLocked` behind the argument checks of its callers; `dma` is the device
address of the zeroed DMA buffer. -/
def allocateAddressRange (mgr : AddressSpaceManager) (owner addressHi addressLo length : ℕ)
    (dma : Option ℕ) : AddressSpaceManager :=
  let start := addressHi * 2 ^ 32 + addressLo
  if !mgr.lock || length = 0 then mgr
  else if mgr.ranges.any fun range => rangesOverlap start length range.address range.length then mgr
  else
    match dma with
    | none => { mgr with nextHandle := mgr.nextHandle + 1 }
    | some deviceAddress =>
      { mgr with
        nextHandle := mgr.nextHandle + 1
        ranges := mgr.ranges ++ [{
          handle := mgr.nextHandle, address := start, length := length, owner := owner
          buffer := List.replicate length 0, mappedBytes := List.replicate length 0
          deviceAddress := deviceAddress, hasBacking := true }] }

def deallocateAddressRange (mgr : AddressSpaceManager) (owner handle : ℕ) : AddressSpaceManager :=
  { mgr with ranges := mgr.ranges.filter fun range => range.handle ≠ handle || range.owner ≠ owner }

def releaseOwner (mgr : AddressSpaceManager) (owner : ℕ) : AddressSpaceManager :=
  { mgr with ranges := mgr.ranges.filter fun range => range.owner ≠ owner }

def clearAll (mgr : AddressSpaceManager) : AddressSpaceManager := { mgr with ranges := [] }

def setRemoteWriteCallback (mgr : AddressSpaceManager) (handle : ℕ) (installed : Bool) :
    AddressSpaceManager :=
  mgr.modify handle fun range => { range with onRemoteWrite := installed }

def writeLocalData (mgr : AddressSpaceManager) (owner handle offset : ℕ) (data : List UInt8) :
    AddressSpaceManager :=
  mgr.modify handle fun range =>
    if range.owner = owner ∧ offset + data.length ≤ range.length then
      range.writeBytesLocked offset data
    else range

/-- `ApplyRemoteWrite`. -/
def applyRemoteWrite (mgr : AddressSpaceManager) (address : ℕ) (payload : List UInt8) :
    ResponseCode × AddressSpaceManager :=
  if !mgr.lock || payload = [] then (.addressError, mgr)
  else
    match mgr.findRangeByAddressLocked address payload.length with
    | none => (.addressError, mgr)
    | some range =>
      let offset := address - range.address
      let written := mgr.modify range.handle (·.writeBytesLocked offset payload)
      (.complete, if range.onRemoteWrite then
        { written with notified := written.notified ++ [(range.handle, offset, payload)] }
        else written)

/-- Code, device address and length of a block read. -/
def resolveReadSlice (mgr : AddressSpaceManager) (address length : ℕ) : ResponseCode × ℕ × ℕ :=
  if !mgr.lock || length = 0 then (.addressError, 0, 0)
  else
    match mgr.findRangeByAddressLocked address length with
    | none => (.addressError, 0, 0)
    | some range =>
      if !range.hasBacking || range.deviceAddress = 0 then (.dataError, 0, 0)
      else
        let payloadAddress := range.deviceAddress + (address - range.address)
        if 0xFFFFFFFF < payloadAddress then (.dataError, 0, 0)
        else (.complete, payloadAddress, length)

/-- `ReadQuadlet`: a native load from the host buffer. -/
def readQuadlet (mgr : AddressSpaceManager) (address : ℕ) : ResponseCode × ℕ :=
  if !mgr.lock then (.addressError, 0)
  else
    match mgr.findRangeByAddressLocked address 4 with
    | none => (.addressError, 0)
    | some range => (.complete, le32At range.buffer (address - range.address))

/-- What the controller fetches from DMA memory. -/
def fetch (mgr : AddressSpaceManager) (device length : ℕ) : List UInt8 :=
  match mgr.ranges.find? (·.backs device length) with
  | none => []
  | some range => (range.mappedBytes.drop (device - range.deviceAddress)).take length

inductive Event
  | allocateAddressRange (owner addressHi addressLo length : ℕ) (dma : Option ℕ)
  | deallocateAddressRange (owner handle : ℕ)
  | releaseOwner (owner : ℕ)
  | clearAll
  | setRemoteWriteCallback (handle : ℕ) (installed : Bool)
  | writeLocalData (owner handle offset : ℕ) (data : List UInt8)
  | applyRemoteWrite (address : ℕ) (payload : List UInt8)
  deriving DecidableEq, Repr

def step (mgr : AddressSpaceManager) : Event → AddressSpaceManager
  | .allocateAddressRange owner addressHi addressLo length dma =>
    mgr.allocateAddressRange owner addressHi addressLo length dma
  | .deallocateAddressRange owner handle => mgr.deallocateAddressRange owner handle
  | .releaseOwner owner => mgr.releaseOwner owner
  | .clearAll => mgr.clearAll
  | .setRemoteWriteCallback handle installed => mgr.setRemoteWriteCallback handle installed
  | .writeLocalData owner handle offset data => mgr.writeLocalData owner handle offset data
  | .applyRemoteWrite address payload => (mgr.applyRemoteWrite address payload).2

/-- `AllocateDMA` hands out memory no live range uses. -/
def FreshDMA (mgr : AddressSpaceManager) : Event → Prop
  | .allocateAddressRange _ _ _ length (some deviceAddress) => ∀ range ∈ mgr.ranges,
      range.deviceAddress + range.length ≤ deviceAddress ∨
        deviceAddress + length ≤ range.deviceAddress
  | _ => True

end AddressSpaceManager

/-! ### Both buffers of a range hold the same bytes -/

namespace AddressRange

/-- A range whose DMA buffer repeats its host buffer. -/
structure Mirrored (range : AddressRange) : Prop where
  backed : range.hasBacking = true
  length : range.buffer.length = range.length
  mapped : range.mappedBytes = range.buffer

/-- The same place in local and DMA address space. -/
structure SamePlace (range range' : AddressRange) : Prop where
  length : range'.length = range.length
  deviceAddress : range'.deviceAddress = range.deviceAddress

def Apart (left right : AddressRange) : Prop :=
  left.deviceAddress + left.length ≤ right.deviceAddress ∨
    right.deviceAddress + right.length ≤ left.deviceAddress

variable {range : AddressRange}

lemma Mirrored.writeBytesLocked (h : range.Mirrored) {offset : ℕ} {data : List UInt8}
    (hfit : offset + data.length ≤ range.length) :
    (range.writeBytesLocked offset data).Mirrored := by
  refine ⟨h.backed, ?_, ?_⟩
  · exact (length_overwrite (by rw [h.length]; exact hfit)).trans h.length
  · simp only [AddressRange.writeBytesLocked, h.backed, if_true, h.mapped]

end AddressRange

namespace AddressSpaceManager

structure Inv (mgr : AddressSpaceManager) : Prop where
  mirrored : ∀ range ∈ mgr.ranges, range.Mirrored
  apart : mgr.ranges.Pairwise AddressRange.Apart
  handles : ∀ range ∈ mgr.ranges, range.handle < mgr.nextHandle
  distinct : mgr.ranges.Pairwise fun left right => left.handle ≠ right.handle

variable {mgr : AddressSpaceManager}

lemma Inv.sublist (h : mgr.Inv) {mgr' : AddressSpaceManager}
    (hsub : mgr'.ranges.Sublist mgr.ranges) (hnext : mgr'.nextHandle = mgr.nextHandle) :
    mgr'.Inv := by
  refine ⟨fun range hr => h.mirrored range (hsub.subset hr), h.apart.sublist hsub, ?_,
    h.distinct.sublist hsub⟩
  intro range hr
  rw [hnext]
  exact h.handles range (hsub.subset hr)

/-- Changing the bytes of one range in both buffers. -/
lemma Inv.modify (h : mgr.Inv) {handle : ℕ} {f : AddressRange → AddressRange}
    (hplace : ∀ range : AddressRange, range.SamePlace (f range))
    (hhandle : ∀ range, (f range).handle = range.handle)
    (hf : ∀ range ∈ mgr.ranges, range.handle = handle → range.Mirrored → (f range).Mirrored) :
    (mgr.modify handle f).Inv := by
  have hsame : ∀ range : AddressRange,
      (if range.handle = handle then f range else range).handle = range.handle := by
    intro range
    split
    · exact hhandle range
    · rfl
  have hplaced : ∀ range : AddressRange,
      range.SamePlace (if range.handle = handle then f range else range) := by
    intro range
    split
    · exact hplace range
    · exact ⟨rfl, rfl⟩
  refine ⟨?_, ?_, ?_, ?_⟩
  · intro range' hr
    obtain ⟨range, hrange, rfl⟩ := List.mem_map.mp hr
    split
    · rename_i heq
      exact hf range hrange heq (h.mirrored range hrange)
    · exact h.mirrored range hrange
  · apply List.Pairwise.map _ _ h.apart
    intro left right hapart
    unfold AddressRange.Apart at hapart ⊢
    rw [(hplaced left).length, (hplaced left).deviceAddress, (hplaced right).length,
      (hplaced right).deviceAddress]
    exact hapart
  · intro range' hr
    obtain ⟨range, hrange, rfl⟩ := List.mem_map.mp hr
    rw [hsame]
    exact h.handles range hrange
  · apply List.Pairwise.map _ _ h.distinct
    intro left right hne
    rw [hsame, hsame]
    exact hne

lemma Inv.allocate (h : mgr.Inv) {owner addressHi addressLo length : ℕ} {dma : Option ℕ}
    (hfresh : mgr.FreshDMA (.allocateAddressRange owner addressHi addressLo length dma)) :
    (mgr.allocateAddressRange owner addressHi addressLo length dma).Inv := by
  unfold allocateAddressRange
  dsimp only
  split
  · exact h
  split
  · exact h
  cases dma with
  | none =>
    refine ⟨h.mirrored, h.apart, fun range hr => ?_, h.distinct⟩
    exact Nat.lt_succ_of_lt (h.handles range hr)
  | some deviceAddress =>
    refine ⟨?_, ?_, ?_, ?_⟩
    · intro range hr
      rcases List.mem_append.mp hr with hr | hr
      · exact h.mirrored range hr
      · rw [List.mem_singleton.mp hr]
        exact ⟨rfl, by simp, rfl⟩
    · rw [List.pairwise_append]
      refine ⟨h.apart, List.pairwise_singleton _ _, fun left hl right hr => ?_⟩
      rw [List.mem_singleton.mp hr]
      exact hfresh left hl
    · intro range hr
      rcases List.mem_append.mp hr with hr | hr
      · exact Nat.lt_succ_of_lt (h.handles range hr)
      · rw [List.mem_singleton.mp hr]
        exact Nat.lt_succ_self _
    · rw [List.pairwise_append]
      refine ⟨h.distinct, List.pairwise_singleton _ _, fun left hl right hr => ?_⟩
      rw [List.mem_singleton.mp hr]
      exact (h.handles left hl).ne

/-- Ranges are told apart by their handles. -/
lemma Inv.eq_of_handle (h : mgr.Inv) {left right : AddressRange} (hl : left ∈ mgr.ranges)
    (hr : right ∈ mgr.ranges) (heq : left.handle = right.handle) : left = right := by
  by_contra hne
  have : Std.Symm fun left right : AddressRange => left.handle ≠ right.handle :=
    ⟨fun _ _ hab => hab.symm⟩
  exact h.distinct.forall hl hr hne heq

lemma Inv.applyRemoteWrite (h : mgr.Inv) (address : ℕ) (payload : List UInt8) :
    (mgr.applyRemoteWrite address payload).2.Inv := by
  unfold AddressSpaceManager.applyRemoteWrite
  split
  · exact h
  cases hfind : mgr.findRangeByAddressLocked address payload.length with
  | none => exact h
  | some range =>
    have hmem : range ∈ mgr.ranges := List.mem_of_find?_eq_some hfind
    have hcontains := List.find?_some hfind
    simp only [AddressRange.contains, Bool.and_eq_true, decide_eq_true_eq] at hcontains
    have hwritten : (mgr.modify range.handle
        (·.writeBytesLocked (address - range.address) payload)).Inv := by
      apply h.modify
      · exact fun _ => ⟨rfl, rfl⟩
      · exact fun _ => rfl
      · intro other hother hhandle hmirrored
        rw [h.eq_of_handle hother hmem hhandle] at hmirrored ⊢
        exact hmirrored.writeBytesLocked (by omega)
    dsimp only
    split
    · exact hwritten.sublist (List.Sublist.refl _) rfl
    · exact hwritten

lemma Inv.writeLocalData (h : mgr.Inv) (owner handle offset : ℕ) (data : List UInt8) :
    (mgr.writeLocalData owner handle offset data).Inv := by
  apply h.modify
  · intro range
    split <;> exact ⟨rfl, rfl⟩
  · intro range
    split <;> rfl
  · intro range _ _ hmirrored
    split
    · rename_i hok
      exact hmirrored.writeBytesLocked hok.2
    · exact hmirrored

lemma Inv.step (h : mgr.Inv) {e : Event} (hfresh : mgr.FreshDMA e) : (mgr.step e).Inv := by
  cases e with
  | allocateAddressRange owner addressHi addressLo length dma => exact h.allocate hfresh
  | deallocateAddressRange owner handle => exact h.sublist List.filter_sublist rfl
  | releaseOwner owner => exact h.sublist List.filter_sublist rfl
  | clearAll => exact h.sublist (List.nil_sublist _) rfl
  | setRemoteWriteCallback handle installed =>
    exact h.modify (fun _ => ⟨rfl, rfl⟩) (fun _ => rfl) fun _ _ _ hm => ⟨hm.backed, hm.length, hm.mapped⟩
  | writeLocalData owner handle offset data => exact h.writeLocalData owner handle offset data
  | applyRemoteWrite address payload => exact h.applyRemoteWrite address payload

/-- A manager from its construction on, with a DMA allocator that does not hand out memory
twice. -/
def Reachable (mgr : AddressSpaceManager) : Prop :=
  ∃ lock events, Runs.Meets step FreshDMA { lock := lock } events ∧
    mgr = Runs.run step { lock := lock } events

lemma Reachable.inv (h : mgr.Reachable) : mgr.Inv := by
  obtain ⟨lock, events, hmeets, rfl⟩ := h
  apply Runs.invariant_run_of_meets (I := Inv) (fun _ _ h hok => h.step hok) _ hmeets
  exact ⟨by simp, List.Pairwise.nil, by simp, List.Pairwise.nil⟩

/-- A served block read fetches the host buffer's bytes. -/
lemma Inv.fetch_resolved (h : mgr.Inv) {address length device len : ℕ}
    (hread : mgr.resolveReadSlice address length = (.complete, device, len)) :
    ∃ range, mgr.findRangeByAddressLocked address length = some range ∧
      mgr.fetch device len = (range.buffer.drop (address - range.address)).take length := by
  unfold resolveReadSlice at hread
  split at hread
  · simp at hread
  rename_i hpos
  cases hfind : mgr.findRangeByAddressLocked address length with
  | none => simp [hfind] at hread
  | some range =>
    refine ⟨range, rfl, ?_⟩
    have hmem : range ∈ mgr.ranges := List.mem_of_find?_eq_some hfind
    have hcontains := List.find?_some hfind
    simp only [AddressRange.contains, Bool.and_eq_true, decide_eq_true_eq] at hcontains
    rw [hfind] at hread
    dsimp only at hread
    split at hread
    · simp at hread
    split at hread
    · simp at hread
    obtain ⟨rfl, rfl⟩ : device = range.deviceAddress + (address - range.address) ∧ len = length := by
      simpa [eq_comm] using hread
    have hlen : 0 < len := by
      rcases Nat.eq_zero_or_pos len with hz | hp
      · simp [hz] at hpos
      · exact hp
    have hm := h.mirrored range hmem
    have hbacks : range.backs (range.deviceAddress + (address - range.address)) len = true := by
      simp only [AddressRange.backs, hm.backed, Bool.true_and, Bool.and_eq_true, decide_eq_true_eq]
      omega
    have hfetch : mgr.ranges.find? (·.backs (range.deviceAddress + (address - range.address)) len) =
        some range := by
      cases hother : mgr.ranges.find?
          (·.backs (range.deviceAddress + (address - range.address)) len) with
      | none =>
        have := List.find?_eq_none.mp hother range hmem
        exact absurd hbacks this
      | some other =>
        have hmem' : other ∈ mgr.ranges := List.mem_of_find?_eq_some hother
        have hbacks' := List.find?_some hother
        congr 1
        by_contra hne
        have : Std.Symm AddressRange.Apart := ⟨fun _ _ hab => Or.symm hab⟩
        have hapart := h.apart.forall hmem' hmem hne
        simp only [AddressRange.backs, Bool.and_eq_true, decide_eq_true_eq] at hbacks hbacks'
        unfold AddressRange.Apart at hapart
        omega
    unfold fetch
    rw [hfetch]
    dsimp only
    rw [hm.mapped, Nat.add_sub_cancel_left]

end AddressSpaceManager

end ASFireWire.SBP2
