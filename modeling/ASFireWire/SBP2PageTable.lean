import ASFireWire.AddressSpacePartition

/-! The data descriptor of an SBP-2 command (`Protocols/SBP2/SBP2PageTable.hpp`,
`SBP2CommandORB.cpp`): a buffer in segments becomes a direct address or a page table, and is read
back as a target reads it. Fields of wire structures are host words, kept with their bytes swapped,
whose memory is little-endian. -/
namespace ASFireWire.SBP2

open Quadlets

def swap16 (v : ℕ) : ℕ := v % 2 ^ 8 * 2 ^ 8 + v / 2 ^ 8 % 2 ^ 8

def le16Bytes (v : ℕ) : List UInt8 := [UInt8.ofNat v, UInt8.ofNat (v / 2 ^ 8)]

/-- Big-endian half quadlet at byte `i`. -/
def be16At (bytes : List UInt8) (i : ℕ) : ℕ := byteAt bytes i * 2 ^ 8 + byteAt bytes (i + 1)

structure PageTableEntry where
  segmentLength : ℕ := 0
  segmentBaseAddressHi : ℕ := 0
  segmentBaseAddressLo : ℕ := 0
  deriving DecidableEq, Repr

def PageTableEntry.bytes (pte : PageTableEntry) : List UInt8 :=
  le16Bytes pte.segmentLength ++ le16Bytes pte.segmentBaseAddressHi ++
    leBytes pte.segmentBaseAddressLo

/-- The header of a normal command ORB. -/
structure NormalORB where
  nextORBAddressHi : ℕ := 0
  nextORBAddressLo : ℕ := 0
  dataDescriptorHi : ℕ := 0
  dataDescriptorLo : ℕ := 0
  options : ℕ := 0
  dataSize : ℕ := 0
  deriving DecidableEq, Repr

def NormalORB.bytes (orb : NormalORB) : List UInt8 :=
  leBytes orb.nextORBAddressHi ++ leBytes orb.nextORBAddressLo ++
    (leBytes orb.dataDescriptorHi ++ leBytes orb.dataDescriptorLo ++
      (le16Bytes orb.options ++ le16Bytes orb.dataSize))

def normalizeBusNodeID (nodeID : ℕ) : ℕ :=
  if nodeID &&& 0xFFC0 = 0xFFC0 then nodeID else 0xFFC0 + nodeID % 2 ^ 6

def composeBusAddressHi (nodeID addressHi : ℕ) : ℕ := normalizeBusNodeID nodeID * 2 ^ 16 + addressHi

namespace Options

def kNotify : ℕ := swap16 0x8000

def kDirectionRead : ℕ := swap16 0x0800

def kSpeed200 : ℕ := swap16 0x0100

def kSpeed400 : ℕ := swap16 0x0200

def kSpeed800 : ℕ := swap16 0x0300

def kMaxPayloadShift : ℕ := 4

def kPageTableUnrestricted : ℕ := swap16 0x0008

end Options

/-! ### The page table -/

structure Segment where
  address : ℕ
  length : ℕ
  deriving DecidableEq, Repr

structure DataDescriptor where
  dataDescriptorHi : ℕ := 0
  dataDescriptorLo : ℕ := 0
  options : ℕ := 0
  dataSize : ℕ := 0
  isDirect : Bool := false
  deriving DecidableEq, Repr

/-- A handle of zero is no page table. -/
structure SBP2PageTable where
  owner : ℕ
  pageTableHandle : ℕ := 0
  addressHi : ℕ := 0
  addressLo : ℕ := 0
  result : DataDescriptor := {}
  pteCount : ℕ := 0
  deriving DecidableEq, Repr

namespace SBP2PageTable

def kMaxPageClipSize : ℕ := 0xF000

def clampPageClipSize (maxPageClipSize : ℕ) : ℕ :=
  if maxPageClipSize = 0 ∨ kMaxPageClipSize < maxPageClipSize then kMaxPageClipSize
  else maxPageClipSize

def pageTableEntry (phys chunk : ℕ) : PageTableEntry where
  segmentLength := swap16 (chunk % 2 ^ 16)
  segmentBaseAddressHi := swap16 (phys / 2 ^ 32 % 2 ^ 16)
  segmentBaseAddressLo := swap32 (phys % 2 ^ 32)

/-- The loop over a segment; as many turns as it has bytes are enough. -/
def segmentEntries (maxPageClipSize : ℕ) : ℕ → ℕ → ℕ → List PageTableEntry
  | 0, _, _ => []
  | turns + 1, phys, remaining =>
    if remaining = 0 then []
    else
      let chunk := if maxPageClipSize < remaining then maxPageClipSize else remaining
      pageTableEntry phys chunk ::
        segmentEntries maxPageClipSize turns (phys + chunk) (remaining - chunk)

def entries (segments : List Segment) (maxPageClipSize : ℕ) : List PageTableEntry :=
  segments.flatMap fun seg =>
    if seg.length = 0 then []
    else segmentEntries (clampPageClipSize maxPageClipSize) seg.length seg.address seg.length

/-- The low address word of the entry, masked with a swapped 3. -/
def quadletAligned (pte : PageTableEntry) : Bool := pte.segmentBaseAddressLo / 2 ^ 24 % 4 = 0

def clear (table : SBP2PageTable) (mgr : AddressSpaceManager) :
    SBP2PageTable × AddressSpaceManager :=
  ({ owner := table.owner },
    if table.pageTableHandle ≠ 0 then
      (mgr.call (.deallocateAddressRange table.owner table.pageTableHandle)).1
    else mgr)

/-- A page table in its own address range; the entries are counted in 32 bits, and as many bytes are
written as the range has. -/
def buildTable (table : SBP2PageTable) (mgr : AddressSpaceManager) (busNodeID : ℕ)
    (ptes : List PageTableEntry) (backing : Except KernReturn ℕ) :
    SBP2PageTable × AddressSpaceManager × Bool :=
  let pteCount := ptes.length % 2 ^ 32
  let ptSize := pteCount * 8 % 2 ^ 32
  let allocated := mgr.allocateAuto table.owner 0xFFFF ptSize backing
  match allocated.2.range with
  | none => ({ table with pteCount := pteCount }, allocated.1, false)
  | some (handle, address) =>
    let table := { table with
      pageTableHandle := handle
      addressHi := address / 2 ^ 32
      addressLo := address % 2 ^ 32
      pteCount := pteCount }
    let pteSpan := (ptes.flatMap PageTableEntry.bytes).take ptSize
    if allocated.1.writeCode table.owner handle 0 pteSpan.length ≠ .success then
      ((table.clear allocated.1).1, (table.clear allocated.1).2, false)
    else
      ({ table with
          result := {
            dataDescriptorHi := swap32 (composeBusAddressHi busNodeID table.addressHi)
            dataDescriptorLo := swap32 table.addressLo
            dataSize := swap16 (pteCount % 2 ^ 16)
            options := Options.kPageTableUnrestricted } },
        allocated.1.writeLocalData table.owner handle 0 pteSpan, true)

def build (table : SBP2PageTable) (mgr : AddressSpaceManager) (segments : List Segment)
    (localNodeID maxPageClipSize : ℕ) (backing : Except KernReturn ℕ) :
    SBP2PageTable × AddressSpaceManager × Bool :=
  let cleared := table.clear mgr
  let busNodeID := normalizeBusNodeID localNodeID
  match segments, entries segments maxPageClipSize with
  | [], _ => (cleared.1, cleared.2, true)
  | _, [] => (cleared.1, cleared.2, true)
  | front :: _, first :: ptes =>
    let pteCount := (first :: ptes).length % 2 ^ 32
    if pteCount = 1 ∧ quadletAligned first then
      ({ cleared.1 with
          pteCount := pteCount
          result := {
            dataDescriptorHi := swap32 (front.address / 2 ^ 32 % 2 ^ 32 % 2 ^ 16)
            dataDescriptorLo := first.segmentBaseAddressLo
            dataSize := first.segmentLength
            isDirect := true } }, cleared.2, true)
    else cleared.1.buildTable cleared.2 busNodeID (first :: ptes) backing

end SBP2PageTable

/-! ### The ORB -/

inductive FwSpeed | s100 | s200 | s400 | s800
  deriving DecidableEq, Repr

structure ORBFlags where
  notify : Bool := false
  dataFromTarget : Bool := false
  reservedORB : Bool := false
  vendorORB : Bool := false
  dummyORB : Bool := false
  deriving DecidableEq, Repr

/-- A handle of zero is an ORB without memory. -/
structure SBP2CommandORB where
  owner : ℕ
  orbHandle : ℕ
  orb : NormalORB := {}
  commandBlock : List UInt8 := []
  flags : ORBFlags := {}
  dataDescriptor : DataDescriptor := {}
  deriving DecidableEq, Repr

namespace SBP2CommandORB

def setDataDescriptor (c : SBP2CommandORB) (ptResult : DataDescriptor) : SBP2CommandORB :=
  { c with dataDescriptor := ptResult }

def orbStorage (c : SBP2CommandORB) : List UInt8 := c.orb.bytes ++ c.commandBlock

def formatBits (flags : ORBFlags) : ℕ :=
  if flags.dummyORB then swap16 0x6000
  else if flags.vendorORB then swap16 0x4000
  else if flags.reservedORB then swap16 0x2000
  else 0

def speedBits : FwSpeed → ℕ
  | .s200 => Options.kSpeed200
  | .s400 => Options.kSpeed400
  | .s800 => Options.kSpeed800
  | .s100 => 0

def optionBits (c : SBP2CommandORB) (speed : FwSpeed) (maxPayloadLog : ℕ) : ℕ :=
  formatBits c.flags ||| (if c.flags.notify then Options.kNotify else 0) |||
    (if c.flags.dataFromTarget then Options.kDirectionRead else 0) ||| speedBits speed |||
    swap16 (maxPayloadLog * 2 ^ Options.kMaxPayloadShift % 2 ^ 16) ||| c.dataDescriptor.options

/-- `WriteORBToAddressSpace`. -/
def writeORB (c : SBP2CommandORB) (mgr : AddressSpaceManager) : AddressSpaceManager × KernReturn :=
  let code := mgr.writeCode c.owner c.orbHandle 0 c.orbStorage.length
  (if code = .success then mgr.writeLocalData c.owner c.orbHandle 0 c.orbStorage else mgr, code)

/-- `PrepareForExecution`; an ORB without memory is not ready. -/
def prepareForExecution (c : SBP2CommandORB) (mgr : AddressSpaceManager) (localNodeID : ℕ)
    (speed : FwSpeed) (maxPayloadLog : ℕ) :
    Option (SBP2CommandORB × AddressSpaceManager × KernReturn) :=
  if c.orbHandle = 0 then none
  else
    let busNodeID := normalizeBusNodeID localNodeID
    let d := c.dataDescriptor
    let prepared := { c with
      orb := {
        nextORBAddressHi := swap32 0x80000000
        nextORBAddressLo := 0
        dataDescriptorHi :=
          if d.isDirect then
            swap32 (composeBusAddressHi busNodeID (swap32 d.dataDescriptorHi % 2 ^ 16))
          else d.dataDescriptorHi
        dataDescriptorLo := d.dataDescriptorLo
        options := c.optionBits speed maxPayloadLog
        dataSize := d.dataSize } }
    some (prepared, (prepared.writeORB mgr).1, (prepared.writeORB mgr).2)

end SBP2CommandORB

/-! ### What a target reads -/

/-- A block read of DMA memory. -/
def AddressSpaceManager.blockRead (mgr : AddressSpaceManager) (address length : ℕ) : List UInt8 :=
  match mgr.findRangeByAddressLocked address length with
  | none => []
  | some range => (range.mappedBytes.drop (address - range.address)).take length

/-- The node is in the upper half of the high word. -/
def busAddress (hi lo : ℕ) : ℕ := hi % 2 ^ 16 * 2 ^ 32 + lo

/-- The lengths and addresses of the first entries of a page table. -/
def tableRuns (bytes : List UInt8) (count : ℕ) : List (ℕ × ℕ) :=
  (List.range count).map fun k =>
    (be16At bytes (8 * k), busAddress (be16At bytes (8 * k + 2)) (be32At bytes (8 * k + 4)))

/-- The runs of bytes an ORB denotes: the data size counts entries if the options have a page table,
and bytes otherwise. -/
def targetRuns (mgr : AddressSpaceManager) (orb : List UInt8) : List (ℕ × ℕ) :=
  let address := busAddress (be32At orb 8) (be32At orb 12)
  let dataSize := be16At orb 18
  if be16At orb 16 / 2 ^ 3 % 2 = 1 then tableRuns (mgr.blockRead address (dataSize * 8)) dataSize
  else if dataSize = 0 then []
  else [(dataSize, address)]

/-- The bytes of a run, by their 48-bit addresses. -/
def runBytes (run : ℕ × ℕ) : List ℕ := (List.range run.1).map fun i => (run.2 + i) % 2 ^ 48

def bufferBytes (segments : List Segment) : List ℕ :=
  segments.flatMap fun seg => runBytes (seg.length, seg.address)

/-! ### Words -/

lemma swap16_ofBytes {a b : ℕ} (ha : a < 2 ^ 8) (hb : b < 2 ^ 8) :
    swap16 (a * 2 ^ 8 + b) = b * 2 ^ 8 + a := by
  unfold swap16
  omega

lemma swap16_swap16 {v : ℕ} (h : v < 2 ^ 16) : swap16 (swap16 v) = v := by
  have hlow : v % 2 ^ 8 < 2 ^ 8 := Nat.mod_lt _ (by decide)
  have hhigh : v / 2 ^ 8 % 2 ^ 8 < 2 ^ 8 := Nat.mod_lt _ (by decide)
  have hinner : swap16 v = v % 2 ^ 8 * 2 ^ 8 + v / 2 ^ 8 % 2 ^ 8 := rfl
  rw [hinner, swap16_ofBytes hlow hhigh]
  omega

lemma swap16_lt (v : ℕ) : swap16 v < 2 ^ 16 := by
  unfold swap16
  omega

/-- The last byte comes first. -/
lemma swap32_div (v : ℕ) : swap32 v / 2 ^ 24 = v % 2 ^ 8 := by
  have hlt : ∀ n, n % 2 ^ 8 < 2 ^ 8 := fun n => Nat.mod_lt n (by norm_num)
  have h1 := hlt (v / 2 ^ 24)
  have h2 := hlt (v / 2 ^ 16)
  have h3 := hlt (v / 2 ^ 8)
  rw [swap32_eq]
  omega

lemma be16At_le16Bytes (v : ℕ) (rest : List UInt8) : be16At (le16Bytes v ++ rest) 0 = swap16 v := by
  simp [be16At, byteAt, le16Bytes, swap16]

lemma be32At_leBytes (v : ℕ) (rest : List UInt8) : be32At (leBytes v ++ rest) 0 = swap32 v := by
  simp only [swap32, be32At, Nat.zero_add, byteAt_stored v rest (by omega : 0 < 4),
    byteAt_stored v rest (by omega : 1 < 4), byteAt_stored v rest (by omega : 2 < 4),
    byteAt_stored v rest (by omega : 3 < 4)]

lemma byteAt_append_add (front rest : List UInt8) (i : ℕ) :
    byteAt (front ++ rest) (front.length + i) = byteAt rest i := by
  rw [byteAt_append_right (by omega), Nat.add_sub_cancel_left]

lemma be16At_append_right (front rest : List UInt8) (i : ℕ) :
    be16At (front ++ rest) (front.length + i) = be16At rest i := by
  simp only [be16At, Nat.add_assoc, byteAt_append_add]

lemma be32At_append_right (front rest : List UInt8) (i : ℕ) :
    be32At (front ++ rest) (front.length + i) = be32At rest i := by
  simp only [be32At, Nat.add_assoc, byteAt_append_add]

/-! ### Entries -/

namespace PageTableEntry

/-- The run an entry denotes. -/
def run (pte : PageTableEntry) : ℕ × ℕ :=
  (swap16 pte.segmentLength,
    busAddress (swap16 pte.segmentBaseAddressHi) (swap32 pte.segmentBaseAddressLo))

lemma length_bytes (pte : PageTableEntry) : pte.bytes.length = 8 := rfl

lemma length_flatMap_bytes (ptes : List PageTableEntry) :
    (ptes.flatMap PageTableEntry.bytes).length = ptes.length * 8 := by
  induction ptes with
  | nil => rfl
  | cons pte ptes ih =>
    rw [List.flatMap_cons, List.length_append, ih, length_bytes, List.length_cons]
    omega

lemma tableRuns_cons (pte : PageTableEntry) (rest : List UInt8) (count : ℕ) :
    tableRuns (pte.bytes ++ rest) (count + 1) = pte.run :: tableRuns rest count := by
  have hlength : be16At (pte.bytes ++ rest) 0 = swap16 pte.segmentLength := by
    rw [bytes, List.append_assoc, List.append_assoc]
    exact be16At_le16Bytes _ _
  have hhi : be16At (pte.bytes ++ rest) 2 = swap16 pte.segmentBaseAddressHi := by
    rw [bytes, List.append_assoc, List.append_assoc]
    exact (be16At_append_right (le16Bytes pte.segmentLength) _ 0).trans (be16At_le16Bytes _ _)
  have hlo : be32At (pte.bytes ++ rest) 4 = swap32 pte.segmentBaseAddressLo := by
    rw [bytes, List.append_assoc]
    exact (be32At_append_right (le16Bytes pte.segmentLength ++
      le16Bytes pte.segmentBaseAddressHi) _ 0).trans (be32At_leBytes _ _)
  rw [tableRuns, List.range_succ_eq_map, List.map_cons, List.map_map]
  rw [Nat.mul_zero, hlength, hhi, hlo]
  apply congrArg (List.cons pte.run)
  · apply List.map_congr_left
    intro k _
    have hshift (i : ℕ) : 8 * (k + 1) + i = pte.bytes.length + (8 * k + i) := by
      rw [length_bytes]
      omega
    simp only [Function.comp_apply, Nat.succ_eq_add_one]
    rw [hshift 2, hshift 4, show 8 * (k + 1) = pte.bytes.length + 8 * k by rw [length_bytes]; omega,
      be16At_append_right, be16At_append_right, be32At_append_right]

lemma tableRuns_flatMap (ptes : List PageTableEntry) :
    tableRuns (ptes.flatMap PageTableEntry.bytes) ptes.length = ptes.map PageTableEntry.run := by
  induction ptes with
  | nil => rfl
  | cons pte ptes ih => rw [List.flatMap_cons, List.length_cons, tableRuns_cons, ih, List.map_cons]

end PageTableEntry

namespace SBP2PageTable

lemma clampPageClipSize_pos (maxPageClipSize : ℕ) : 0 < clampPageClipSize maxPageClipSize := by
  unfold clampPageClipSize kMaxPageClipSize
  split_ifs <;> omega

lemma clampPageClipSize_le (maxPageClipSize : ℕ) :
    clampPageClipSize maxPageClipSize ≤ kMaxPageClipSize := by
  unfold clampPageClipSize
  split_ifs <;> omega

lemma run_pageTableEntry (phys : ℕ) {chunk : ℕ} (hchunk : chunk < 2 ^ 16) :
    (pageTableEntry phys chunk).run = (chunk, phys % 2 ^ 48) := by
  have hlo : swap32 (swap32 (phys % 2 ^ 32)) = phys % 2 ^ 32 := by
    rw [swap32_swap32, Nat.mod_mod]
  rw [PageTableEntry.run, pageTableEntry, Nat.mod_eq_of_lt hchunk, swap16_swap16 hchunk,
    swap16_swap16 (Nat.mod_lt _ (by decide)), hlo, busAddress]
  congr 1
  omega

lemma runBytes_append (phys m n : ℕ) :
    runBytes (m + n, phys) = runBytes (m, phys) ++ runBytes (n, phys + m) := by
  simp only [runBytes, List.range_add, List.map_append, List.map_map, Function.comp_def,
    Nat.add_assoc]

lemma runBytes_mod (length phys : ℕ) : runBytes (length, phys % 2 ^ 48) = runBytes (length, phys) := by
  simp only [runBytes, Nat.mod_add_mod]

/-- The entries of a segment are its bytes, cut into runs of at most the clip size. -/
lemma segmentEntries_spec {clip : ℕ} (hpos : 0 < clip) (hle : clip ≤ kMaxPageClipSize)
    (phys : ℕ) {turns remaining : ℕ} (hturns : remaining ≤ turns) :
    (segmentEntries clip turns phys remaining).flatMap (fun pte => runBytes pte.run) =
        runBytes (remaining, phys) ∧
      ∀ pte ∈ segmentEntries clip turns phys remaining, 0 < pte.run.1 ∧ pte.run.1 ≤ clip := by
  have hmax : kMaxPageClipSize = 61440 := rfl
  induction turns generalizing phys remaining with
  | zero =>
    obtain rfl := Nat.le_zero.mp hturns
    exact ⟨rfl, by simp [segmentEntries]⟩
  | succ turns ih =>
    rw [segmentEntries]
    by_cases hdone : remaining = 0
    · subst hdone
      exact ⟨rfl, by simp⟩
    · rw [if_neg hdone]
      set chunk := if clip < remaining then clip else remaining with hchunk
      have hbounds : 0 < chunk ∧ chunk ≤ clip ∧ chunk ≤ remaining := by
        rw [hchunk]
        split_ifs <;> omega
      have hrun := run_pageTableEntry phys (by omega : chunk < 2 ^ 16)
      obtain ⟨hbytes, hentries⟩ := ih (phys + chunk) (by omega : remaining - chunk ≤ turns)
      constructor
      · dsimp only
        rw [List.flatMap_cons, hbytes, hrun, runBytes_mod, ← runBytes_append]
        congr 2
        omega
      · intro pte hpte
        rcases List.mem_cons.mp hpte with rfl | hrest
        · rw [hrun]
          exact ⟨hbounds.1, hbounds.2.1⟩
        · exact hentries pte hrest

/-- The entries denote the bytes of the buffer. -/
lemma entries_spec (segments : List Segment) (maxPageClipSize : ℕ) :
    (entries segments maxPageClipSize).flatMap (fun pte => runBytes pte.run) =
        bufferBytes segments ∧
      ∀ pte ∈ entries segments maxPageClipSize,
        0 < pte.run.1 ∧ pte.run.1 ≤ clampPageClipSize maxPageClipSize := by
  have hpos := clampPageClipSize_pos maxPageClipSize
  have hle := clampPageClipSize_le maxPageClipSize
  induction segments with
  | nil => exact ⟨rfl, by simp [entries]⟩
  | cons seg segments ih =>
    obtain ⟨hbytes, hentries⟩ := ih
    unfold entries bufferBytes at hbytes ⊢
    unfold entries at hentries
    rw [List.flatMap_cons, List.flatMap_cons, List.flatMap_append, hbytes]
    by_cases hempty : seg.length = 0
    · rw [if_pos hempty, hempty]
      exact ⟨rfl, hentries⟩
    · obtain ⟨hseg, hall⟩ := segmentEntries_spec hpos hle seg.address
        (le_refl seg.length)
      rw [if_neg hempty, hseg]
      refine ⟨rfl, fun pte hpte => ?_⟩
      rcases List.mem_append.mp hpte with hhere | hrest
      · exact hall pte hhere
      · exact hentries pte hrest

/-- Where the first entry comes from, and how many there are. -/
def entryCount (segments : List Segment) (maxPageClipSize : ℕ) : ℕ :=
  let clip := clampPageClipSize maxPageClipSize
  (segments.map fun seg => (seg.length + (clip - 1)) / clip).sum

def firstSegment (segments : List Segment) : Option Segment := segments.find? (·.length ≠ 0)

lemma length_segmentEntries {clip : ℕ} (hpos : 0 < clip) {turns phys remaining : ℕ}
    (hturns : remaining ≤ turns) :
    (segmentEntries clip turns phys remaining).length = (remaining + (clip - 1)) / clip := by
  induction turns generalizing phys remaining with
  | zero =>
    obtain rfl := Nat.le_zero.mp hturns
    rw [Nat.zero_add, Nat.div_eq_of_lt (by omega)]
    rfl
  | succ turns ih =>
    rw [segmentEntries]
    by_cases hdone : remaining = 0
    · subst hdone
      rw [if_pos rfl, Nat.zero_add, Nat.div_eq_of_lt (by omega)]
      rfl
    · rw [if_neg hdone]
      by_cases hlong : clip < remaining
      · simp only [if_pos hlong, List.length_cons]
        rw [ih (by omega), ← Nat.add_div_right _ hpos]
        congr 1
        omega
      · have hone : (remaining + (clip - 1)) / clip = 1 :=
          Nat.div_eq_of_lt_le (by omega) (by omega)
        simp only [if_neg hlong, List.length_cons]
        rw [ih (by omega), Nat.sub_self, Nat.zero_add, Nat.div_eq_of_lt (by omega : clip - 1 < clip),
          hone]

lemma length_entries (segments : List Segment) (maxPageClipSize : ℕ) :
    (entries segments maxPageClipSize).length = entryCount segments maxPageClipSize := by
  have hpos := clampPageClipSize_pos maxPageClipSize
  induction segments with
  | nil => rfl
  | cons seg segments ih =>
    unfold entries entryCount at ih ⊢
    dsimp only at ih ⊢
    rw [List.flatMap_cons, List.length_append, ih, List.map_cons, List.sum_cons]
    by_cases hempty : seg.length = 0
    · rw [if_pos hempty, hempty, Nat.zero_add, Nat.div_eq_of_lt (by omega)]
      rfl
    · rw [if_neg hempty, length_segmentEntries hpos le_rfl]

/-- The first entry starts at the first segment with bytes. -/
lemma entries_cons {segments : List Segment} {maxPageClipSize : ℕ} {first : PageTableEntry}
    {ptes : List PageTableEntry} (h : entries segments maxPageClipSize = first :: ptes) :
    ∃ seg chunk, firstSegment segments = some seg ∧ first = pageTableEntry seg.address chunk := by
  induction segments with
  | nil => exact absurd h (by simp [entries])
  | cons seg segments ih =>
    unfold entries at h ih
    rw [List.flatMap_cons] at h
    by_cases hempty : seg.length = 0
    · rw [if_pos hempty, List.nil_append] at h
      obtain ⟨seg', chunk, hfirst, heq⟩ := ih h
      refine ⟨seg', chunk, ?_, heq⟩
      rw [firstSegment, List.find?_cons_of_neg (by simpa using hempty)]
      exact hfirst
    · obtain ⟨turns, hturns⟩ := Nat.exists_eq_succ_of_ne_zero hempty
      rw [if_neg hempty, hturns, segmentEntries, if_neg (Nat.succ_ne_zero turns),
        List.cons_append] at h
      refine ⟨seg, _, List.find?_cons_of_pos (by simpa using hempty), (List.cons.inj h).1.symm⟩

lemma quadletAligned_pageTableEntry (phys chunk : ℕ) :
    quadletAligned (pageTableEntry phys chunk) = decide (phys % 4 = 0) := by
  unfold quadletAligned pageTableEntry
  dsimp only
  rw [swap32_div]
  apply decide_eq_decide.mpr
  omega

end SBP2PageTable

/-! ### The ORB as a target reads it -/

namespace NormalORB

variable (orb : NormalORB) (rest : List UInt8)

lemma be32At_dataDescriptorHi :
    be32At (orb.bytes ++ rest) 8 = swap32 orb.dataDescriptorHi := by
  rw [bytes, List.append_assoc, List.append_assoc, List.append_assoc]
  exact (be32At_append_right (leBytes orb.nextORBAddressHi ++ leBytes orb.nextORBAddressLo)
    _ 0).trans (be32At_leBytes _ _)

lemma be32At_dataDescriptorLo :
    be32At (orb.bytes ++ rest) 12 = swap32 orb.dataDescriptorLo := by
  rw [bytes, ← List.append_assoc, ← List.append_assoc, List.append_assoc, List.append_assoc]
  exact (be32At_append_right (leBytes orb.nextORBAddressHi ++ leBytes orb.nextORBAddressLo ++
    leBytes orb.dataDescriptorHi) _ 0).trans (be32At_leBytes _ _)

lemma be16At_options : be16At (orb.bytes ++ rest) 16 = swap16 orb.options := by
  rw [bytes, ← List.append_assoc, List.append_assoc, List.append_assoc]
  exact (be16At_append_right (leBytes orb.nextORBAddressHi ++ leBytes orb.nextORBAddressLo ++
    (leBytes orb.dataDescriptorHi ++ leBytes orb.dataDescriptorLo)) _ 0).trans
      (be16At_le16Bytes _ _)

lemma be16At_dataSize : be16At (orb.bytes ++ rest) 18 = swap16 orb.dataSize := by
  rw [bytes, ← List.append_assoc, ← List.append_assoc, List.append_assoc]
  exact (be16At_append_right (leBytes orb.nextORBAddressHi ++ leBytes orb.nextORBAddressLo ++
    (leBytes orb.dataDescriptorHi ++ leBytes orb.dataDescriptorLo) ++ le16Bytes orb.options)
      _ 0).trans (be16At_le16Bytes _ _)

end NormalORB

lemma swap16_bit (v : ℕ) : swap16 v / 2 ^ 3 % 2 = v / 2 ^ 11 % 2 := by
  have hhigh : v / 2 ^ 11 = v / 2 ^ 8 / 2 ^ 3 := by rw [Nat.div_div_eq_div_mul]; rfl
  rw [swap16, hhigh]
  generalize v / 2 ^ 8 = w
  have hsplit : (v % 2 ^ 8 * 2 ^ 8 + w % 2 ^ 8) / 2 ^ 3 = v % 2 ^ 8 * 2 ^ 5 + w % 2 ^ 8 / 2 ^ 3 := by
    omega
  omega

namespace SBP2CommandORB

/-- The page-table bit of the options is that of the data descriptor. -/
lemma optionBits_pageTable (c : SBP2CommandORB) (speed : FwSpeed) (maxPayloadLog : ℕ) :
    c.optionBits speed maxPayloadLog / 2 ^ 11 % 2 = c.dataDescriptor.options / 2 ^ 11 % 2 := by
  have hbit (v : ℕ) : (v / 2 ^ 11 % 2 = 1) ↔ v.testBit 11 = true := by
    rw [Nat.testBit_eq_decide_div_mod_eq, decide_eq_true_iff]
  have hformat : (formatBits c.flags).testBit 11 = false := by
    unfold formatBits
    split_ifs <;> decide
  have hspeed : (speedBits speed).testBit 11 = false := by cases speed <;> decide
  have hnotify : (if c.flags.notify then Options.kNotify else 0).testBit 11 = false := by
    split_ifs <;> decide
  have hread : (if c.flags.dataFromTarget then Options.kDirectionRead else 0).testBit 11 =
      false := by
    split_ifs <;> decide
  have hpayload : (swap16 (maxPayloadLog * 2 ^ Options.kMaxPayloadShift % 2 ^ 16)).testBit 11 =
      false := by
    rw [Nat.testBit_eq_decide_div_mod_eq, decide_eq_false_iff_not, ← swap16_bit,
      swap16_swap16 (Nat.mod_lt _ (by decide)), Options.kMaxPayloadShift]
    omega
  have hsame := hbit (c.optionBits speed maxPayloadLog)
  rw [optionBits, Nat.testBit_or, Nat.testBit_or, Nat.testBit_or, Nat.testBit_or, Nat.testBit_or,
    hformat, hnotify, hread, hspeed, hpayload] at hsame
  simp only [Bool.false_or, ← hbit] at hsame
  rw [optionBits]
  omega

variable {c : SBP2CommandORB} {mgr : AddressSpaceManager} {localNodeID maxPayloadLog : ℕ}
  {speed : FwSpeed}

/-- What a target finds in the ORB, by its data descriptor. -/
lemma targetRuns_prepared {mgr' : AddressSpaceManager} {code : KernReturn}
    {prepared : SBP2CommandORB}
    (hprepare : c.prepareForExecution mgr localNodeID speed maxPayloadLog =
      some (prepared, mgr', code)) :
    prepared.orbHandle = c.orbHandle ∧ mgr' = (prepared.writeORB mgr).1 ∧
      targetRuns mgr' prepared.orbStorage =
        let d := c.dataDescriptor
        let address := busAddress (swap32 d.dataDescriptorHi) (swap32 d.dataDescriptorLo)
        if d.options / 2 ^ 11 % 2 = 1 then
          tableRuns (mgr'.blockRead address (swap16 d.dataSize * 8)) (swap16 d.dataSize)
        else if swap16 d.dataSize = 0 then []
        else [(swap16 d.dataSize, address)] := by
  unfold prepareForExecution at hprepare
  split_ifs at hprepare
  obtain ⟨rfl, hrest⟩ := Prod.mk.inj (Option.some.inj hprepare)
  obtain ⟨rfl, -⟩ := Prod.mk.inj hrest
  have hhi : busAddress (swap32
      (if c.dataDescriptor.isDirect then swap32 (composeBusAddressHi (normalizeBusNodeID localNodeID)
          (swap32 c.dataDescriptor.dataDescriptorHi % 2 ^ 16))
        else c.dataDescriptor.dataDescriptorHi)) (swap32 c.dataDescriptor.dataDescriptorLo) =
      busAddress (swap32 c.dataDescriptor.dataDescriptorHi)
        (swap32 c.dataDescriptor.dataDescriptorLo) := by
    split_ifs
    · rw [swap32_swap32, composeBusAddressHi, busAddress, busAddress]
      omega
    · rfl
  refine ⟨rfl, rfl, ?_⟩
  simp only [targetRuns, orbStorage, NormalORB.be32At_dataDescriptorHi,
    NormalORB.be32At_dataDescriptorLo, NormalORB.be16At_options, NormalORB.be16At_dataSize,
    swap16_bit, optionBits_pageTable, hhi]

end SBP2CommandORB

/-! ### The memory of the page table -/

namespace AddressSpaceManager

/-- Handles are given out once. -/
structure Numbered (mgr : AddressSpaceManager) : Prop where
  lock : mgr.lock = true
  handles : ∀ range ∈ mgr.ranges, range.handle < mgr.nextHandle

/-- DMA memory at `address`, in the range with this handle. -/
def Stores (mgr : AddressSpaceManager) (handle address : ℕ) (bytes : List UInt8) : Prop :=
  ∃ range, mgr.findRangeByAddressLocked address bytes.length = some range ∧
    range.handle = handle ∧ range.address = address ∧ range.mappedBytes = bytes

variable {mgr : AddressSpaceManager}

lemma Stores.blockRead {handle address : ℕ} {bytes : List UInt8}
    (h : mgr.Stores handle address bytes) : mgr.blockRead address bytes.length = bytes := by
  obtain ⟨range, hfind, _, rfl, rfl⟩ := h
  simp [AddressSpaceManager.blockRead, hfind]

/-- Bytes written under another handle leave it alone. -/
lemma Stores.modify {handle address other : ℕ} {bytes : List UInt8}
    (h : mgr.Stores handle address bytes) (hne : handle ≠ other) {f : AddressRange → AddressRange}
    (hsame : ∀ range : AddressRange, SameRange range (f range)) :
    (mgr.modify other f).Stores handle address bytes := by
  obtain ⟨range, hfind, hhandle, haddress, hbytes⟩ := h
  refine ⟨range, ?_, hhandle, haddress, hbytes⟩
  have hcontains : ∀ range : AddressRange,
      (if range.handle = other then f range else range).contains address bytes.length =
        range.contains address bytes.length := by
    intro range
    split
    · unfold AddressRange.contains
      rw [(hsame range).address, (hsame range).length]
    · rfl
  unfold findRangeByAddressLocked AddressSpaceManager.modify at *
  dsimp only
  rw [List.find?_map, Function.comp_def]
  simp only [hcontains]
  rw [hfind, Option.map_some, if_neg (by rw [hhandle]; exact hne)]

lemma sameRange_write (range : AddressRange) (owner offset : ℕ) (data : List UInt8) :
    SameRange range (if range.owner = owner ∧ offset + data.length ≤ range.length then
      range.writeBytesLocked offset data else range) := by
  split <;> exact ⟨rfl, rfl, rfl⟩

lemma Numbered.append (h : mgr.Numbered) {range : AddressRange} (hr : range.handle = mgr.nextHandle) :
    (mgr.append range).Numbered := by
  refine ⟨h.lock, fun other hmem => ?_⟩
  rcases List.mem_append.mp hmem with hold | hnew
  · exact Nat.lt_succ_of_lt (h.handles other hold)
  · rw [List.mem_singleton.mp hnew, hr]
    exact Nat.lt_succ_self _

lemma Numbered.modify (h : mgr.Numbered) (handle : ℕ) {f : AddressRange → AddressRange}
    (hf : ∀ range : AddressRange, (f range).handle = range.handle) :
    (mgr.modify handle f).Numbered := by
  refine ⟨h.lock, fun range hmem => ?_⟩
  obtain ⟨old, hold, rfl⟩ := List.mem_map.mp hmem
  split
  · rw [hf]
    exact h.handles old hold
  · exact h.handles old hold

lemma Numbered.sublist (h : mgr.Numbered) {ranges : List AddressRange}
    (hsub : ranges.Sublist mgr.ranges) : ({ mgr with ranges := ranges } : AddressSpaceManager).Numbered :=
  ⟨h.lock, fun range hmem => h.handles range (hsub.subset hmem)⟩

lemma Numbered.allocateLocked (h : mgr.Numbered) (owner addressHi addressLo : ℕ) {length : ℕ}
    (hpos : 0 < length) (backing : Except KernReturn ℕ) :
    (mgr.allocateAddressRangeLocked owner addressHi addressLo length backing).1.Numbered := by
  rcases allocateLocked_cases h.lock owner addressHi addressLo length hpos backing with
    ⟨deviceAddress, _, _, heq⟩ | ⟨nextHandle, code, hle, _, heq⟩
  · rw [heq]
    exact h.append rfl
  · rw [heq]
    exact ⟨h.lock, fun range hmem => (h.handles range hmem).trans_le hle⟩

lemma Numbered.call (h : mgr.Numbered) (c : Call) : (mgr.call c).1.Numbered := by
  cases c with
  | allocateAddressRange owner addressHi addressLo length backing =>
    simp only [AddressSpaceManager.call]
    split_ifs with hzero
    · exact h
    · exact h.allocateLocked _ _ _ (Nat.pos_of_ne_zero hzero) _
  | allocateAddressRangeAuto owner addressHi length backing =>
    simp only [AddressSpaceManager.call, allocateAuto]
    split_ifs with hzero
    · exact h
    · exact h
    · exact h
    · exact h
    · exact h.allocateLocked _ _ _ (Nat.pos_of_ne_zero hzero) _
  | deallocateAddressRange owner handle =>
    simp only [AddressSpaceManager.call]
    split_ifs
    · exact h.sublist List.filter_sublist
    · exact h
  | releaseOwner owner => exact h.sublist List.filter_sublist
  | clearAll => exact h.sublist (List.nil_sublist _)
  | writeLocalData owner handle offset data =>
    simp only [AddressSpaceManager.call]
    split_ifs
    · exact h.modify _ fun range => (sameRange_write range owner offset data.bytes).handle
    · exact h
  | applyRemoteWrite address payload =>
    simp only [AddressSpaceManager.call, applyRemoteWrite]
    split
    · exact h
    · split
      · exact h
      · rename_i range _
        have hwritten := h.modify range.handle
          (f := (·.writeBytesLocked (address - range.address) payload.bytes)) fun _ => rfl
        dsimp only
        split
        · exact ⟨hwritten.lock, hwritten.handles⟩
        · exact hwritten

open Runs ObservedRuns in
lemma numbered_run (calls : List Call) : (run (next call) {} calls).Numbered :=
  invariant_run (I := Numbered) (fun _ c h => h.call c) ⟨rfl, by simp⟩ calls

/-- The automatic allocation adds a range in the address space of the node, or none. -/
lemma allocateAuto_cases (h : mgr.Numbered) (owner length : ℕ) (backing : Except KernReturn ℕ) :
    (∃ start deviceAddress, 0 < length ∧ start < 2 ^ 48 ∧
        (∀ range ∈ mgr.ranges, start + length ≤ range.address ∨ range.stop ≤ start) ∧
        mgr.allocateAuto owner 0xFFFF length backing =
          (mgr.append (mgr.newRange owner start length deviceAddress),
            { code := .success, range := some (mgr.nextHandle, start) })) ∨
      (mgr.allocateAuto owner 0xFFFF length backing).2.range = none ∧
        (mgr.allocateAuto owner 0xFFFF length backing).1.ranges = mgr.ranges := by
  unfold allocateAuto
  split_ifs with hzero
  · exact Or.inr ⟨rfl, rfl⟩
  · exact Or.inr ⟨rfl, rfl⟩
  · exact Or.inr ⟨rfl, rfl⟩
  · exact Or.inr ⟨rfl, rfl⟩
  · have hpos := Nat.pos_of_ne_zero hzero
    rcases allocateLocked_cases h.lock owner 0xFFFF (mgr.autoCandidate length % 2 ^ 32) length hpos
        backing with ⟨deviceAddress, _, hfree, heq⟩ | ⟨nextHandle, code, _, _, heq⟩
    · refine Or.inl ⟨_, deviceAddress, hpos, ?_, hfree, heq⟩
      unfold composeAddress
      omega
    · rw [heq]
      exact Or.inr ⟨rfl, rfl⟩

variable {owner start length deviceAddress : ℕ}

lemma find_newRange (h : mgr.Numbered) :
    (mgr.append (mgr.newRange owner start length deviceAddress)).ranges.find?
      (·.handle = mgr.nextHandle) = some (mgr.newRange owner start length deviceAddress) := by
  have hold : mgr.ranges.find? (fun range => range.handle = mgr.nextHandle) = none := by
    rw [List.find?_eq_none]
    intro range hmem
    have := h.handles range hmem
    simp only [decide_eq_true_eq]
    omega
  rw [append, List.find?_append, hold]
  simp [newRange]

/-- All bytes of a new range can be written. -/
lemma writeCode_newRange (h : mgr.Numbered) {count : ℕ} (hfit : count ≤ length) :
    (mgr.append (mgr.newRange owner start length deviceAddress)).writeCode owner mgr.nextHandle 0
      count = .success := by
  unfold writeCode
  rw [find_newRange h]
  simp [newRange, Nat.not_lt.mpr hfit]

lemma stores_newRange (h : mgr.Numbered)
    (hfree : ∀ range ∈ mgr.ranges, start + length ≤ range.address ∨ range.stop ≤ start)
    (hpos : 0 < length) {bytes : List UInt8} (hlength : bytes.length = length) :
    ((mgr.append (mgr.newRange owner start length deviceAddress)).writeLocalData owner
      mgr.nextHandle 0 bytes).Stores mgr.nextHandle start bytes := by
  have hold : mgr.ranges.map (fun range => if range.handle = mgr.nextHandle then
        (if range.owner = owner ∧ 0 + bytes.length ≤ range.length then
          range.writeBytesLocked 0 bytes else range) else range) = mgr.ranges := by
    conv_rhs => rw [← List.map_id mgr.ranges]
    apply List.map_congr_left
    intro range hmem
    exact if_neg (h.handles range hmem).ne
  have hranges : ((mgr.append (mgr.newRange owner start length deviceAddress)).writeLocalData owner
      mgr.nextHandle 0 bytes).ranges =
      mgr.ranges ++ [(mgr.newRange owner start length deviceAddress).writeBytesLocked 0 bytes] := by
    have hnew : (mgr.newRange owner start length deviceAddress).owner = owner ∧
        0 + bytes.length ≤ (mgr.newRange owner start length deviceAddress).length :=
      ⟨rfl, by rw [Nat.zero_add, hlength]; exact le_rfl⟩
    have hhandle : (mgr.newRange owner start length deviceAddress).handle = mgr.nextHandle := rfl
    unfold writeLocalData AddressSpaceManager.modify append
    dsimp only
    rw [List.map_append, hold, List.map_singleton, if_pos hhandle, if_pos hnew]
  have hnone : mgr.ranges.find? (fun range => range.contains start bytes.length) = none := by
    rw [List.find?_eq_none]
    intro range hmem hcontains
    have hapart := hfree range hmem
    simp only [AddressRange.contains, Bool.and_eq_true, decide_eq_true_eq] at hcontains
    unfold AddressRange.stop at hapart
    omega
  refine ⟨(mgr.newRange owner start length deviceAddress).writeBytesLocked 0 bytes, ?_, rfl, rfl, ?_⟩
  · unfold findRangeByAddressLocked
    rw [hranges, List.find?_append, hnone]
    simp [AddressRange.contains, AddressRange.writeBytesLocked, newRange, hlength]
  · simp [AddressRange.writeBytesLocked, newRange, overwrite, hlength]

end AddressSpaceManager

/-! ### What a build comes to -/

namespace SBP2PageTable

/-- A page table of these entries gets no address range. -/
def Refused (table : SBP2PageTable) (mgr : AddressSpaceManager) (count : ℕ)
    (backing : Except KernReturn ℕ) : Prop :=
  ((table.clear mgr).2.allocateAuto table.owner 0xFFFF (count % 2 ^ 32 * 8 % 2 ^ 32)
    backing).2.range = none

variable {table : SBP2PageTable} {mgr : AddressSpaceManager}

lemma numbered_clear (h : mgr.Numbered) (table : SBP2PageTable) : (table.clear mgr).2.Numbered := by
  unfold clear
  dsimp only
  split_ifs
  · exact h.call _
  · exact h

lemma nextHandle_clear (table : SBP2PageTable) (mgr : AddressSpaceManager) :
    (table.clear mgr).2.nextHandle = mgr.nextHandle := by
  unfold clear AddressSpaceManager.call AddressSpaceManager.deallocateAddressRange
  dsimp only
  split_ifs <;> rfl

/-- A page table is refused, or its descriptor has its address and number of entries, and the memory
there holds them. -/
lemma buildTable_spec (h : mgr.Numbered) (table : SBP2PageTable) (busNodeID : ℕ)
    (ptes : List PageTableEntry) (backing : Except KernReturn ℕ) :
    let allocated := mgr.allocateAuto table.owner 0xFFFF (ptes.length % 2 ^ 32 * 8 % 2 ^ 32) backing
    let built := table.buildTable mgr busNodeID ptes backing
    allocated.2.range = none ∧ built.2.2 = false ∧ built.2.1.ranges = mgr.ranges ∨
      allocated.2.range ≠ none ∧ built.2.2 = true ∧ ∃ start < 2 ^ 48,
        built.1.result = {
          dataDescriptorHi := swap32 (composeBusAddressHi busNodeID (start / 2 ^ 32))
          dataDescriptorLo := swap32 (start % 2 ^ 32)
          dataSize := swap16 (ptes.length % 2 ^ 32 % 2 ^ 16)
          options := Options.kPageTableUnrestricted } ∧
        (ptes.length < 2 ^ 16 →
          built.2.1.Stores mgr.nextHandle start (ptes.flatMap PageTableEntry.bytes)) := by
  dsimp only
  have hbytes := PageTableEntry.length_flatMap_bytes ptes
  have hspan : ((ptes.flatMap PageTableEntry.bytes).take
      (ptes.length % 2 ^ 32 * 8 % 2 ^ 32)).length ≤ ptes.length % 2 ^ 32 * 8 % 2 ^ 32 :=
    List.length_take_le _ _
  unfold buildTable
  dsimp only
  rcases AddressSpaceManager.allocateAuto_cases h table.owner
      (ptes.length % 2 ^ 32 * 8 % 2 ^ 32) backing with
    ⟨start, deviceAddress, hpos, hplace, hfree, heq⟩ | ⟨hnone, hranges⟩
  · right
    rw [heq]
    dsimp only
    rw [AddressSpaceManager.writeCode_newRange h hspan, if_neg (fun hne => hne rfl)]
    refine ⟨nofun, rfl, start, hplace, rfl, fun hcount => ?_⟩
    have hsize : ptes.length % 2 ^ 32 * 8 % 2 ^ 32 = ptes.length * 8 := by omega
    rw [hsize] at hfree hpos ⊢
    rw [List.take_of_length_le hbytes.le]
    exact AddressSpaceManager.stores_newRange h hfree hpos hbytes
  · left
    cases hrange : (mgr.allocateAuto table.owner 0xFFFF (ptes.length % 2 ^ 32 * 8 % 2 ^ 32)
        backing).2.range with
    | none => exact ⟨rfl, rfl, hranges⟩
    | some range => exact absurd (hrange.symm.trans hnone) nofun

/-- The single entry that needs no page table. -/
def Direct (segments : List Segment) (maxPageClipSize : ℕ) : Prop :=
  entryCount segments maxPageClipSize % 2 ^ 32 = 1 ∧
    ∀ seg ∈ firstSegment segments, seg.address % 4 = 0

/-- The high half of the first segment's address is that of the first segment with bytes. -/
def FrontPlaced (segments : List Segment) : Prop :=
  ∀ front ∈ segments.head?, ∀ seg ∈ firstSegment segments,
    front.address / 2 ^ 32 % 2 ^ 16 = seg.address / 2 ^ 32 % 2 ^ 16

/-- The descriptor of a build denotes the buffer, and a list with too many entries is refused without
effect. -/
def Denotes (table : SBP2PageTable) (mgr : AddressSpaceManager) (segments : List Segment)
    (localNodeID maxPageClipSize : ℕ) (backing : Except KernReturn ℕ) (orb : SBP2CommandORB)
    (nodeID : ℕ) (speed : FwSpeed) (maxPayloadLog : ℕ) : Prop :=
  let built := table.build mgr segments localNodeID maxPageClipSize backing
  (built.2.2 = true → ∀ prepared mgr' code,
      (orb.setDataDescriptor built.1.result).prepareForExecution built.2.1 nodeID speed
        maxPayloadLog = some (prepared, mgr', code) →
      (targetRuns mgr' prepared.orbStorage).flatMap runBytes = bufferBytes segments ∧
        ∀ run ∈ targetRuns mgr' prepared.orbStorage,
          0 < run.1 ∧ run.1 ≤ min maxPageClipSize kMaxPageClipSize) ∧
    (2 ^ 16 ≤ (entries segments maxPageClipSize).length →
      built.2.2 = false ∧ built.2.1.ranges = (table.clear mgr).2.ranges)

lemma le_min_iff {length maxPageClipSize : ℕ} (hpos : 0 < length)
    (hle : length ≤ clampPageClipSize maxPageClipSize) :
    length ≤ min maxPageClipSize kMaxPageClipSize ↔ maxPageClipSize ≠ 0 := by
  unfold clampPageClipSize at hle
  split_ifs at hle <;> omega

/-- Runs of one length are the same bytes only at one address. -/
lemma runBytes_inj {length address address' : ℕ} (hpos : 0 < length) (h : address < 2 ^ 48)
    (h' : address' < 2 ^ 48) : runBytes (length, address) = runBytes (length, address') ↔
      address = address' := by
  constructor
  · intro heq
    obtain ⟨turns, rfl⟩ := Nat.exists_eq_succ_of_ne_zero hpos.ne'
    simp only [runBytes, List.range_succ_eq_map, List.map_cons, List.cons.injEq] at heq
    omega
  · rintro rfl
    rfl

variable {segments : List Segment} {front : Segment} {first : PageTableEntry}
  {ptes : List PageTableEntry} {localNodeID maxPageClipSize nodeID maxPayloadLog : ℕ}
  {backing : Except KernReturn ℕ} {orb : SBP2CommandORB} {speed : FwSpeed}

lemma direct_iff (hentries : entries segments maxPageClipSize = first :: ptes) :
    Direct segments maxPageClipSize ↔
      (first :: ptes).length % 2 ^ 32 = 1 ∧ quadletAligned first = true := by
  obtain ⟨seg, chunk, hfirst, rfl⟩ := entries_cons hentries
  rw [Direct, ← length_entries, hentries, hfirst, quadletAligned_pageTableEntry, decide_eq_true_iff]
  simp

lemma build_nil (hentries : entries segments maxPageClipSize = []) :
    table.build mgr segments localNodeID maxPageClipSize backing =
      ((table.clear mgr).1, (table.clear mgr).2, true) := by
  cases segments with
  | nil => rfl
  | cons front rest => simp only [build, hentries]

lemma build_direct (table : SBP2PageTable) (mgr : AddressSpaceManager) (localNodeID : ℕ)
    (backing : Except KernReturn ℕ)
    (hentries : entries (front :: segments) maxPageClipSize = first :: ptes)
    (hdirect : Direct (front :: segments) maxPageClipSize) :
    (table.build mgr (front :: segments) localNodeID maxPageClipSize backing).1.result = {
        dataDescriptorHi := swap32 (front.address / 2 ^ 32 % 2 ^ 32 % 2 ^ 16)
        dataDescriptorLo := first.segmentBaseAddressLo
        dataSize := first.segmentLength
        isDirect := true } ∧
      (table.build mgr (front :: segments) localNodeID maxPageClipSize backing).2.2 = true := by
  have hcode := (direct_iff hentries).mp hdirect
  simp only [build, hentries]
  rw [if_pos hcode]
  exact ⟨rfl, rfl⟩

lemma build_table (table : SBP2PageTable) (mgr : AddressSpaceManager) (localNodeID : ℕ)
    (backing : Except KernReturn ℕ) (hentries : entries segments maxPageClipSize = first :: ptes)
    (hdirect : ¬ Direct segments maxPageClipSize) :
    table.build mgr segments localNodeID maxPageClipSize backing =
      (table.clear mgr).1.buildTable (table.clear mgr).2 (normalizeBusNodeID localNodeID)
        (first :: ptes) backing := by
  cases segments with
  | nil => exact absurd hentries nofun
  | cons front rest =>
    have hcode := mt (direct_iff hentries).mpr hdirect
    simp only [build, hentries]
    rw [if_neg hcode]

/-- A buffer without bytes. -/
lemma denotes_nil (hentries : entries segments maxPageClipSize = []) :
    table.Denotes mgr segments localNodeID maxPageClipSize backing orb nodeID speed
      maxPayloadLog := by
  have hbuffer := (entries_spec segments maxPageClipSize).1
  rw [hentries] at hbuffer
  rw [Denotes, build_nil hentries, hentries]
  refine ⟨fun _ prepared mgr' code hprepare => ?_, fun hmany => absurd hmany (by simp)⟩
  obtain ⟨_, _, hruns⟩ := SBP2CommandORB.targetRuns_prepared hprepare
  have hempty : targetRuns mgr' prepared.orbStorage = [] := by
    rw [hruns]
    simp [SBP2CommandORB.setDataDescriptor, clear, swap16]
  rw [hempty, ← hbuffer]
  exact ⟨rfl, by simp⟩

/-- A direct descriptor has its high half from the first segment, its low half from the first
segment with bytes. -/
lemma denotes_direct_iff (hready : 0 < orb.orbHandle)
    (hentries : entries segments maxPageClipSize = first :: ptes)
    (hdirect : Direct segments maxPageClipSize) :
    table.Denotes mgr segments localNodeID maxPageClipSize backing orb nodeID speed
        maxPayloadLog ↔
      entryCount segments maxPageClipSize = 1 ∧ FrontPlaced segments ∧ maxPageClipSize ≠ 0 := by
  obtain ⟨hbuffer, hbounds⟩ := entries_spec segments maxPageClipSize
  obtain ⟨seg, chunk, hfirst, heq⟩ := entries_cons hentries
  cases segments with
  | nil => exact absurd hentries nofun
  | cons front rest =>
  obtain ⟨hresult, hbuilt⟩ := build_direct table mgr localNodeID backing hentries hdirect
  have hplaced : FrontPlaced (front :: rest) ↔
      front.address / 2 ^ 32 % 2 ^ 16 = seg.address / 2 ^ 32 % 2 ^ 16 := by
    rw [FrontPlaced, hfirst]
    simp
  have hrun : first.run.2 = seg.address / 2 ^ 32 % 2 ^ 16 * 2 ^ 32 + seg.address % 2 ^ 32 := by
    have hhi : swap16 (swap16 (seg.address / 2 ^ 32 % 2 ^ 16)) = seg.address / 2 ^ 32 % 2 ^ 16 :=
      swap16_swap16 (Nat.mod_lt _ (by decide))
    rw [heq]
    simp only [PageTableEntry.run, pageTableEntry, swap32_swap32, Nat.mod_mod, busAddress, hhi]
  have hlo : swap32 first.segmentBaseAddressLo = seg.address % 2 ^ 32 := by
    rw [heq, pageTableEntry, swap32_swap32, Nat.mod_mod]
  obtain ⟨hpos, hle⟩ := hbounds first (by rw [hentries]; exact List.mem_cons_self)
  -- more entries than 16 bits count are not refused either
  by_cases hone : entryCount (front :: rest) maxPageClipSize = 1
  · have hlength : (entries (front :: rest) maxPageClipSize).length = 1 := by
      rw [length_entries, hone]
    rw [hentries] at hbuffer hlength
    obtain rfl := List.length_eq_zero_iff.mp (Nat.succ.inj hlength)
    have hbytes : runBytes (first.run.1, first.run.2) = bufferBytes (front :: rest) := by
      rw [← hbuffer, List.flatMap_singleton]
    have hruns : ∀ prepared mgr' code,
        (orb.setDataDescriptor (table.build mgr (front :: rest) localNodeID maxPageClipSize
          backing).1.result).prepareForExecution (table.build mgr (front :: rest) localNodeID
            maxPageClipSize backing).2.1 nodeID speed maxPayloadLog = some (prepared, mgr', code) →
        targetRuns mgr' prepared.orbStorage =
          [(first.run.1, front.address / 2 ^ 32 % 2 ^ 16 * 2 ^ 32 + seg.address % 2 ^ 32)] := by
      intro prepared mgr' code hprepare
      obtain ⟨_, _, hruns⟩ := SBP2CommandORB.targetRuns_prepared hprepare
      have haddress : busAddress (swap32 (swap32 (front.address / 2 ^ 32 % 2 ^ 32 % 2 ^ 16)))
          (seg.address % 2 ^ 32) =
          front.address / 2 ^ 32 % 2 ^ 16 * 2 ^ 32 + seg.address % 2 ^ 32 := by
        rw [swap32_swap32, busAddress]
        omega
      rw [hruns, SBP2CommandORB.setDataDescriptor, hresult]
      have hsize : swap16 first.segmentLength ≠ 0 := hpos.ne'
      dsimp only
      rw [if_neg (by decide), if_neg hsize, hlo, haddress]
      rfl
    obtain ⟨prepared, hprepare⟩ : ∃ prepared,
        (orb.setDataDescriptor (table.build mgr (front :: rest) localNodeID maxPageClipSize
          backing).1.result).prepareForExecution (table.build mgr (front :: rest) localNodeID
            maxPageClipSize backing).2.1 nodeID speed maxPayloadLog = some prepared :=
      ⟨_, if_neg hready.ne'⟩
    have hinj := runBytes_inj hpos
      (by omega : front.address / 2 ^ 32 % 2 ^ 16 * 2 ^ 32 + seg.address % 2 ^ 32 < 2 ^ 48)
      (by rw [hrun]; omega : first.run.2 < 2 ^ 48)
    rw [hbytes] at hinj
    rw [hplaced]
    constructor
    · intro hdenotes
      obtain ⟨hflat, hsizes⟩ := hdenotes.1 hbuilt _ _ _ hprepare
      rw [hruns _ _ _ hprepare] at hflat hsizes
      rw [List.flatMap_singleton, hinj, hrun] at hflat
      refine ⟨hone, by omega, (le_min_iff hpos hle).mp (hsizes _ List.mem_cons_self).2⟩
    · rintro ⟨-, hfront, hclip⟩
      refine ⟨fun _ prepared mgr' code hprepare => ?_, fun hmany => ?_⟩
      · rw [hruns _ _ _ hprepare, List.flatMap_singleton, hinj, hrun, hfront]
        refine ⟨rfl, fun run hmem => ?_⟩
        rw [List.mem_singleton.mp hmem]
        exact ⟨hpos, (le_min_iff hpos hle).mpr hclip⟩
      · rw [length_entries, hone] at hmany
        exact absurd hmany (by decide)
  · refine iff_of_false (fun hdenotes => ?_) fun hcond => hone hcond.1
    have hmany : 2 ^ 16 ≤ (entries (front :: rest) maxPageClipSize).length := by
      have := hdirect.1
      rw [length_entries]
      omega
    exact absurd ((hdenotes.2 hmany).1.symm.trans hbuilt) nofun

/-- A page table holds the entries, as far as 16 bits count them. -/
lemma denotes_table_iff (hmgr : mgr.Numbered) (hready : 0 < orb.orbHandle)
    (hbefore : orb.orbHandle < mgr.nextHandle)
    (hentries : entries segments maxPageClipSize = first :: ptes)
    (hdirect : ¬ Direct segments maxPageClipSize) :
    table.Denotes mgr segments localNodeID maxPageClipSize backing orb nodeID speed
        maxPayloadLog ↔
      table.Refused mgr (entryCount segments maxPageClipSize) backing ∨
        entryCount segments maxPageClipSize < 2 ^ 16 ∧ maxPageClipSize ≠ 0 := by
  obtain ⟨hbuffer, hbounds⟩ := entries_spec segments maxPageClipSize
  have hspec := buildTable_spec (numbered_clear hmgr table) (table.clear mgr).1
    (normalizeBusNodeID localNodeID) (entries segments maxPageClipSize) backing
  have hbuild := build_table table mgr localNodeID backing hentries hdirect
  rw [← hentries] at hbuild
  dsimp only at hspec
  rw [nextHandle_clear, ← hbuild] at hspec
  rw [← length_entries]
  rcases hspec with ⟨hrefused, hbuilt, hranges⟩ | ⟨hgiven, hbuilt, start, hstart, hresult, hstores⟩
  · refine iff_of_true ⟨fun htrue => absurd (hbuilt.symm.trans htrue) nofun, fun _ => ?_⟩
      (Or.inl hrefused)
    exact ⟨hbuilt, hranges⟩
  · have hnot : ¬ table.Refused mgr (entries segments maxPageClipSize).length backing := hgiven
    by_cases hmany : 2 ^ 16 ≤ (entries segments maxPageClipSize).length
    · refine iff_of_false (fun hdenotes => ?_) ?_
      · exact absurd ((hdenotes.2 hmany).1.symm.trans hbuilt) nofun
      · rintro (hrefused | ⟨hfew, -⟩)
        · exact hnot hrefused
        · exact absurd hfew (Nat.not_lt.mpr hmany)
    · have hcount : (entries segments maxPageClipSize).length < 2 ^ 16 := by omega
      have hruns : ∀ prepared mgr' code,
          (orb.setDataDescriptor (table.build mgr segments localNodeID maxPageClipSize
            backing).1.result).prepareForExecution (table.build mgr segments localNodeID
              maxPageClipSize backing).2.1 nodeID speed maxPayloadLog =
                some (prepared, mgr', code) →
          targetRuns mgr' prepared.orbStorage =
            (entries segments maxPageClipSize).map PageTableEntry.run := by
        intro prepared mgr' code hprepare
        obtain ⟨hhandle, rfl, hruns⟩ := SBP2CommandORB.targetRuns_prepared hprepare
        have haddress : busAddress (swap32 (swap32 (composeBusAddressHi
            (normalizeBusNodeID localNodeID) (start / 2 ^ 32)))) (swap32 (swap32 (start % 2 ^ 32))) =
            start := by
          rw [swap32_swap32, swap32_swap32, composeBusAddressHi, busAddress]
          omega
        have hsize : swap16 (swap16 ((entries segments maxPageClipSize).length % 2 ^ 32 % 2 ^ 16)) =
            (entries segments maxPageClipSize).length := by
          rw [swap16_swap16 (Nat.mod_lt _ (by decide))]
          omega
        have hstored : (prepared.writeORB (table.build mgr segments localNodeID maxPageClipSize
            backing).2.1).1.Stores mgr.nextHandle start
              ((entries segments maxPageClipSize).flatMap PageTableEntry.bytes) := by
          unfold SBP2CommandORB.writeORB
          dsimp only
          split_ifs
          · apply (hstores hcount).modify
            · rw [hhandle]
              exact hbefore.ne'
            · exact fun range => AddressSpaceManager.sameRange_write range _ _ _
          · exact hstores hcount
        have hread := hstored.blockRead
        rw [PageTableEntry.length_flatMap_bytes] at hread
        rw [hruns, SBP2CommandORB.setDataDescriptor, hresult]
        dsimp only
        rw [if_pos (by decide), hsize, haddress, hread, PageTableEntry.tableRuns_flatMap]
      obtain ⟨prepared, hprepare⟩ : ∃ prepared,
          (orb.setDataDescriptor (table.build mgr segments localNodeID maxPageClipSize
            backing).1.result).prepareForExecution (table.build mgr segments localNodeID
              maxPageClipSize backing).2.1 nodeID speed maxPayloadLog = some prepared :=
        ⟨_, if_neg hready.ne'⟩
      constructor
      · intro hdenotes
        obtain ⟨-, hsizes⟩ := hdenotes.1 hbuilt _ _ _ hprepare
        have hfirst : first ∈ entries segments maxPageClipSize := by simp [hentries]
        obtain ⟨hpos, hle⟩ := hbounds first hfirst
        rw [hruns _ _ _ hprepare] at hsizes
        exact Or.inr ⟨hcount, (le_min_iff hpos hle).mp
          (hsizes _ (List.mem_map_of_mem hfirst)).2⟩
      · rintro (hrefused | ⟨-, hclip⟩)
        · exact absurd hrefused hnot
        · refine ⟨fun _ prepared mgr' code hprepare => ?_, fun hlong => absurd hlong hmany⟩
          rw [hruns _ _ _ hprepare, List.flatMap_map]
          refine ⟨hbuffer, fun run hmem => ?_⟩
          obtain ⟨pte, hpte, rfl⟩ := List.mem_map.mp hmem
          obtain ⟨hpos, hle⟩ := hbounds pte hpte
          exact ⟨hpos, (le_min_iff hpos hle).mpr hclip⟩

open Runs ObservedRuns AddressSpaceManager

/-- After any calls of the address space, the descriptor denotes the buffer exactly if there are no
bytes, or a direct descriptor has the right high half, or the page table is refused or short; a clip
size of zero stands for the largest one. -/
theorem denotes_iff (calls : List Call) (table : SBP2PageTable) (segments : List Segment)
    (localNodeID maxPageClipSize : ℕ) (backing : Except KernReturn ℕ) (orb : SBP2CommandORB)
    (nodeID : ℕ) (speed : FwSpeed) (maxPayloadLog : ℕ) (hready : 0 < orb.orbHandle)
    (hbefore : orb.orbHandle < (run (next call) {} calls).nextHandle) :
    table.Denotes (run (next call) {} calls) segments localNodeID maxPageClipSize backing orb nodeID
        speed maxPayloadLog ↔
      entryCount segments maxPageClipSize = 0 ∨
      Direct segments maxPageClipSize ∧ entryCount segments maxPageClipSize = 1 ∧
        FrontPlaced segments ∧ maxPageClipSize ≠ 0 ∨
      ¬ Direct segments maxPageClipSize ∧
        (table.Refused (run (next call) {} calls) (entryCount segments maxPageClipSize) backing ∨
          entryCount segments maxPageClipSize < 2 ^ 16 ∧ maxPageClipSize ≠ 0) := by
  cases hentries : entries segments maxPageClipSize with
  | nil =>
    have hnone : entryCount segments maxPageClipSize = 0 := by rw [← length_entries, hentries]; rfl
    exact iff_of_true (denotes_nil hentries) (Or.inl hnone)
  | cons first ptes =>
    have hsome : entryCount segments maxPageClipSize ≠ 0 := by
      rw [← length_entries, hentries]
      exact Nat.succ_ne_zero _
    by_cases hdirect : Direct segments maxPageClipSize
    · rw [denotes_direct_iff hready hentries hdirect]
      simp [hsome, hdirect]
    · rw [denotes_table_iff (numbered_run calls) hready hbefore hentries hdirect]
      simp [hsome, hdirect]

/-- An ORB of 32 bytes, and a buffer of two segments behind an empty one. -/
def orbMemory : List Call := [.allocateAddressRangeAuto 7 0xFFFF 32 (.ok 0x1000)]

def scattered : List Segment := [⟨0x5000, 0⟩, ⟨0x123456789, 0xF001⟩, ⟨0x2000, 16⟩]

theorem scattered_denoted :
    Denotes { owner := 7 } (run (next call) {} orbMemory) scattered 0xFFC0 0xF000 (.ok 0x2000)
      { owner := 7, orbHandle := 1 } 0xFFC0 .s400 8 := by
  apply (denotes_iff orbMemory _ _ _ _ _ _ _ _ _ (by decide) (by decide +kernel)).mpr
  exact Or.inr (Or.inr ⟨fun hdirect => absurd hdirect.1 (by decide +kernel),
    Or.inr (by decide +kernel)⟩)

/-- An empty segment above the first 4 GiB in front of 16 bytes. -/
def emptyFront : List Segment := [⟨0x100000000, 0⟩, ⟨0x1000, 16⟩]

/-- The descriptor has the high half of the empty segment. -/
theorem not_emptyFront_denoted :
    ¬ Denotes { owner := 7 } (run (next call) {} orbMemory) emptyFront 0xFFC0 0xF000 (.ok 0x2000)
      { owner := 7, orbHandle := 1 } 0xFFC0 .s400 8 := by
  intro hdenotes
  have hflat := (hdenotes.1 (by decide +kernel) _ _ _ rfl).1
  exact absurd hflat (by decide +kernel)

end SBP2PageTable

end ASFireWire.SBP2
