import ASFireWire.CapabilityReader

/-! What a device is reported to offer against what its memory holds: the chunks in which a section
arrives, the places they come from, and the one report at the end. -/
namespace ASFireWire.DICE.DICETransaction

open Quadlets

/-! ### Memory -/

section Memory

variable {memory : BitVec 48 → UInt8} {address : BitVec 48} {length n i k : ℕ}

/-- The big-endian quadlet at an address. -/
def quadletAt (memory : BitVec 48 → UInt8) (address : BitVec 48) : ℕ :=
  be32At (bytesAt memory address 4) 0

@[simp] lemma length_bytesAt : (bytesAt memory address length).length = length := by
  simp [bytesAt]

@[simp] lemma bytesAt_zero : bytesAt memory address 0 = [] := rfl

lemma bytesAt_eq_nil : bytesAt memory address length = [] ↔ length = 0 := by
  rw [← List.length_eq_zero_iff, length_bytesAt]

lemma bytesAt_append : bytesAt memory address (n + k) =
    bytesAt memory address n ++ bytesAt memory (address + BitVec.ofNat 48 n) k := by
  simp [bytesAt, List.range_add, BitVec.ofNat_add, BitVec.add_assoc]

lemma bytesAt_drop : (bytesAt memory address (n + k)).drop n =
    bytesAt memory (address + BitVec.ofNat 48 n) k := by
  rw [bytesAt_append, List.drop_left' length_bytesAt]

lemma byteAt_bytesAt (h : k < length) :
    byteAt (bytesAt memory address length) k = (memory (address + BitVec.ofNat 48 k)).toNat := by
  simp [byteAt, bytesAt, List.getD_eq_getElem?_getD, h]

/-- A quadlet of the payload is a quadlet of memory. -/
lemma be32At_bytesAt (h : i + 4 ≤ length) :
    be32At (bytesAt memory address length) i = quadletAt memory (address + BitVec.ofNat 48 i) := by
  have hbyte : ∀ k < 4, byteAt (bytesAt memory address length) (i + k) =
      byteAt (bytesAt memory (address + BitVec.ofNat 48 i) 4) k := by
    intro k hk
    rw [byteAt_bytesAt (by omega), byteAt_bytesAt hk, BitVec.ofNat_add, BitVec.add_assoc]
  have hfirst := hbyte 0 (by decide)
  rw [Nat.add_zero] at hfirst
  simp only [quadletAt, be32At, Nat.zero_add, hfirst, hbyte 1 (by decide), hbyte 2 (by decide),
    hbyte 3 (by decide)]

lemma quadletAt_lt (memory : BitVec 48 → UInt8) (address : BitVec 48) :
    quadletAt memory address < 2 ^ 32 := be32At_lt _ _

end Memory

/-! ### The device's side -/

namespace BlockDevice

/-- The offset word of a section, in quadlets. -/
def offsetWord (device : BlockDevice) (kind : SectionKind) : ℕ :=
  quadletAt device.memory (kDICEBaseAddress + BitVec.ofNat 48 (8 * kind.row))

/-- The size word of a section, in quadlets. -/
def sizeWord (device : BlockDevice) (kind : SectionKind) : ℕ :=
  quadletAt device.memory (kDICEBaseAddress + BitVec.ofNat 48 (8 * kind.row + 4))

/-- Where byte `i` of a section is. -/
def sectionAddress (device : BlockDevice) (kind : SectionKind) (i : ℕ) : BitVec 48 :=
  kDICEBaseAddress + BitVec.ofNat 48 (4 * device.offsetWord kind + i)

/-- The quadlet at byte `i` of a section. -/
def quadlet (device : BlockDevice) (kind : SectionKind) (i : ℕ) : ℕ :=
  quadletAt device.memory (device.sectionAddress kind i)

end BlockDevice

/-! ### Chunks -/

/-- A stretch of a section that was asked for, and how much of it came. -/
structure Chunk where
  start : ℕ
  length : ℕ
  delivered : ℕ
  deriving DecidableEq, Repr

/-- The chunks of a section when its next read is the `n`-th: each one starts behind what has
come, and one that brings nothing is the last. -/
def chunks (device : BlockDevice) (total : ℕ) : ℕ → ℕ → ℕ → List Chunk
  | 0, _, _ => []
  | turns + 1, n, start =>
    if start ≥ total then []
    else
      let length := min kSectionReadChunkBytes (total - start)
      let count := device.delivered n length
      ⟨start, length, count⟩ :: if count = 0 then [] else chunks device total turns (n + 1) (start + count)

/-- A section fails only with its first read. -/
def chunkStatus (device : BlockDevice) (total n start : ℕ) : IOReturn :=
  if start = 0 ∧ 0 < total then
    mapTransportStatus (device.answer n (min kSectionReadChunkBytes total)).1
  else .success

def received (cs : List Chunk) : ℕ := (cs.map Chunk.delivered).sum

def Chunk.address (offset : Quadlet) (c : Chunk) : BitVec 48 :=
  makeDICEAddress (offset + BitVec.ofNat 32 c.start)

def Chunk.read (kind : SectionKind) (offset : Quadlet) (c : Chunk) : BlockRead :=
  ⟨some kind, c.address offset, c.length, c.delivered⟩

def Chunk.bytes (memory : BitVec 48 → UInt8) (offset : Quadlet) (c : Chunk) : List UInt8 :=
  bytesAt memory (c.address offset) c.delivered

/-- Each chunk starts where the ones before it ended. -/
def Consecutive (total : ℕ) : ℕ → List Chunk → Prop
  | _, [] => True
  | start, c :: cs =>
    c.start = start ∧ start + c.length ≤ total ∧ c.delivered ≤ c.length ∧
      Consecutive total (start + c.delivered) cs

def Session.issue (session : Session) (reads : List BlockRead) : Session :=
  { session with reads := session.reads ++ reads }

section Chunks

variable {device : BlockDevice} {kind : SectionKind} {offset : Quadlet} {total turns n start : ℕ}
  {cs : List Chunk} {session : Session} {accumulated : List UInt8}

@[simp] lemma Session.issue_nil (session : Session) : session.issue [] = session := by
  simp [Session.issue]

@[simp] lemma Session.issue_issue (session : Session) (reads more : List BlockRead) :
    (session.issue reads).issue more = session.issue (reads ++ more) := by
  simp [Session.issue]

@[simp] lemma Session.reads_issue (session : Session) (reads : List BlockRead) :
    (session.issue reads).reads = session.reads ++ reads := rfl

lemma delivered_le (device : BlockDevice) (n length : ℕ) : device.delivered n length ≤ length := by
  unfold BlockDevice.delivered
  split
  · exact Nat.min_le_right _ _
  · exact Nat.zero_le _

lemma delivered_eq_zero {length : ℕ} (h : (device.answer n length).1 ≠ .success) :
    device.delivered n length = 0 := if_neg h

lemma readBlock_eq (device : BlockDevice) (kind : Option SectionKind) (address : BitVec 48)
    (length : ℕ) (callback : Async.AsyncStatus → List UInt8 → Session → Session)
    (session : Session) :
    readBlock device kind address length callback session =
      callback (device.answer session.reads.length length).1
        (bytesAt device.memory address (device.delivered session.reads.length length))
        (session.issue [⟨kind, address, length, device.delivered session.reads.length length⟩]) :=
  rfl

/-- The chunked read hands over what its chunks brought. -/
theorem readSectionChunked_eq (done : Callback (List UInt8)) (h : total - accumulated.length < turns) :
    readSectionChunked device kind offset total done turns accumulated session =
      done (chunkStatus device total session.reads.length accumulated.length)
        (accumulated ++ (chunks device total turns session.reads.length accumulated.length).flatMap
          (Chunk.bytes device.memory offset))
        (session.issue ((chunks device total turns session.reads.length accumulated.length).map
          (Chunk.read kind offset))) := by
  induction turns generalizing accumulated session with
  | zero => omega
  | succ turns ih =>
    simp only [readSectionChunked, chunks]
    split
    · have hstatus : chunkStatus device total session.reads.length accumulated.length = .success := by
        rw [chunkStatus, if_neg (by omega)]
      simp [hstatus]
    · rw [readBlock_eq]
      set n := session.reads.length with hn
      set length := min kSectionReadChunkBytes (total - accumulated.length) with hlength
      by_cases hcount : device.delivered n length = 0
      · rw [if_pos (Or.inr (bytesAt_eq_nil.mpr hcount)), if_pos hcount]
        by_cases hnil : accumulated = []
        · have hstatus : chunkStatus device total n accumulated.length =
              mapTransportStatus (device.answer n length).1 := by
            rw [chunkStatus, if_pos ⟨by simp [hnil], by omega⟩, hlength, hnil]
            rfl
          rw [if_pos hnil, hstatus]
          simp [Chunk.bytes, Chunk.read, Chunk.address, hcount]
        · have hstatus : chunkStatus device total n accumulated.length = .success := by
            rw [chunkStatus, if_neg fun hstart => hnil (List.length_eq_zero_iff.mp hstart.1)]
          rw [if_neg hnil, hstatus]
          simp [Chunk.bytes, Chunk.read, Chunk.address, hcount]
      · have hsuccess : (device.answer n length).1 = .success := by
          by_contra hfailed
          exact hcount (delivered_eq_zero hfailed)
        have hstatus : chunkStatus device total n accumulated.length = .success := by
          rw [chunkStatus]
          split
          · rename_i hstart
            rw [show min kSectionReadChunkBytes total = length by rw [hlength, hstart.1]; rfl,
              hsuccess]
            rfl
          · rfl
        have hnext : chunkStatus device total (n + 1)
            (accumulated.length + device.delivered n length) = .success := by
          rw [chunkStatus, if_neg (by omega)]
        rw [if_neg (by simp [hsuccess, bytesAt_eq_nil, hcount]), if_neg hcount,
          ih (by rw [List.length_append, length_bytesAt]; omega), Session.reads_issue,
          List.length_append, List.length_append, length_bytesAt, List.length_singleton, ← hn, hnext,
          hstatus]
        simp [Chunk.bytes, Chunk.read, Chunk.address]

lemma consecutive_chunks (device : BlockDevice) (total turns n start : ℕ) :
    Consecutive total start (chunks device total turns n start) := by
  induction turns generalizing n start with
  | zero => trivial
  | succ turns ih =>
    simp only [chunks]
    split
    · trivial
    · have hlength := delivered_le device n (min kSectionReadChunkBytes (total - start))
      have hend : start + min kSectionReadChunkBytes (total - start) ≤ total := by omega
      refine ⟨rfl, hend, hlength, ?_⟩
      split
      · trivial
      · exact ih _ _

lemma Consecutive.end_le {c : Chunk} (h : Consecutive total start cs) (hc : c ∈ cs) :
    c.start + c.length ≤ total := by
  induction cs generalizing start with
  | nil => simp at hc
  | cons d cs ih =>
    obtain ⟨rfl, hlength, -, htail⟩ := h
    rcases List.mem_cons.mp hc with rfl | hmem
    · exact hlength
    · exact ih htail hmem

lemma length_chunks_le (device : BlockDevice) (total turns n start : ℕ) :
    (chunks device total turns n start).length ≤ total - start := by
  induction turns generalizing n start with
  | zero => simp [chunks]
  | succ turns ih =>
    simp only [chunks]
    split
    · simp
    · rw [List.length_cons]
      split
      · rw [List.length_nil]
        omega
      · have hrest := ih (n + 1)
          (start + device.delivered n (min kSectionReadChunkBytes (total - start)))
        omega

lemma received_le (h : Consecutive total start cs) (hstart : start ≤ total) :
    start + received cs ≤ total := by
  induction cs generalizing start with
  | nil => simpa [received] using hstart
  | cons c cs ih =>
    obtain ⟨-, hlength, hdelivered, htail⟩ := h
    have := ih htail (by omega)
    simp only [received, List.map_cons, List.sum_cons] at this ⊢
    omega

lemma BlockDevice.sectionAddress_add (device : BlockDevice) (kind : SectionKind) (i k : ℕ) :
    device.sectionAddress kind (i + k) = device.sectionAddress kind i + BitVec.ofNat 48 k := by
  simp [BlockDevice.sectionAddress, BitVec.ofNat_add, BitVec.add_assoc]

/-- The host's 32-bit offset is the right one as long as it has not wrapped. -/
lemma address_eq_iff {c : Chunk} (hoffset : offset = BitVec.ofNat 32 (device.offsetWord kind * 4))
    (hstart : c.start ≤ kMaxSectionReadBytes) :
    c.address offset = device.sectionAddress kind c.start ↔
      4 * device.offsetWord kind + c.start < 2 ^ 32 := by
  have hword : device.offsetWord kind < 2 ^ 32 := quadletAt_lt _ _
  rw [kMaxSectionReadBytes] at hstart
  rw [Chunk.address, hoffset, ← BitVec.ofNat_add, makeDICEAddress, BlockDevice.sectionAddress,
    BitVec.add_right_inj, ← BitVec.toNat_inj, BitVec.toNat_setWidth, BitVec.toNat_ofNat,
    BitVec.toNat_ofNat]
  omega

/-- Consecutive chunks from the right places bring one stretch of the section. -/
lemma flatMap_bytes (h : Consecutive total start cs)
    (haddress : ∀ c ∈ cs, 0 < c.length → c.address offset = device.sectionAddress kind c.start) :
    cs.flatMap (Chunk.bytes device.memory offset) =
      bytesAt device.memory (device.sectionAddress kind start) (received cs) := by
  induction cs generalizing start with
  | nil => rfl
  | cons c cs ih =>
    obtain ⟨rfl, -, hdelivered, htail⟩ := h
    have hhead : c.bytes device.memory offset =
        bytesAt device.memory (device.sectionAddress kind c.start) c.delivered := by
      rw [Chunk.bytes]
      rcases Nat.eq_zero_or_pos c.delivered with hnone | hsome
      · rw [hnone, bytesAt_zero, bytesAt_zero]
      · rw [haddress c (by simp) (by omega)]
    rw [List.flatMap_cons, hhead, ih htail fun d hd => haddress d (List.mem_cons_of_mem _ hd),
      BlockDevice.sectionAddress_add, ← bytesAt_append]
    simp [received]

/-- The reads continue one another from a place in the section: byte for byte at the section's
addresses, inside the section, each from where the bytes before it ended. -/
def Tiles (device : BlockDevice) (kind : SectionKind) : ℕ → List BlockRead → Prop
  | _, [] => True
  | start, read :: reads =>
    (∀ k < read.length, read.address + BitVec.ofNat 48 k = device.sectionAddress kind (start + k)) ∧
      start + read.length ≤ 4 * device.sizeWord kind ∧ read.delivered ≤ read.length ∧
      Tiles device kind (start + read.delivered) reads

/-- What makes consecutive chunks tile: no chunk starts at an offset that has wrapped. -/
lemma tiles_iff (h : Consecutive total start cs)
    (hoffset : 0 < total → offset = BitVec.ofNat 32 (device.offsetWord kind * 4))
    (hsize : total ≤ 4 * device.sizeWord kind) (hmax : total ≤ kMaxSectionReadBytes) :
    Tiles device kind start (cs.map (Chunk.read kind offset)) ↔
      ∀ c ∈ cs, 0 < c.length → 4 * device.offsetWord kind + c.start < 2 ^ 32 := by
  induction cs generalizing start with
  | nil => simp [Tiles]
  | cons c cs ih =>
    obtain ⟨rfl, hlength, hdelivered, htail⟩ := h
    have hplace : (∀ k < c.length, c.address offset + BitVec.ofNat 48 k =
          device.sectionAddress kind (c.start + k)) ↔
        (0 < c.length → 4 * device.offsetWord kind + c.start < 2 ^ 32) := by
      constructor
      · intro hbytes hpos
        refine (address_eq_iff (hoffset (by omega)) (by omega)).mp ?_
        simpa using hbytes 0 hpos
      · intro hstart k hk
        rw [BlockDevice.sectionAddress_add,
          (address_eq_iff (hoffset (by omega)) (by omega)).mpr (hstart (by omega))]
    simp only [List.map_cons, Tiles, Chunk.read, List.forall_mem_cons, hplace, ih htail]
    constructor
    · rintro ⟨hhead, -, -, hrest⟩
      exact ⟨hhead, hrest⟩
    · rintro ⟨hhead, hrest⟩
      exact ⟨hhead, by omega, hdelivered, hrest⟩

end Chunks

/-! ### A whole request -/

def sectionOf (sections : GeneralSections) : SectionKind → Section
  | .global => sections.global
  | .txStreamFormat => sections.txStreamFormat
  | .rxStreamFormat => sections.rxStreamFormat

namespace BlockDevice

variable (device : BlockDevice)

/-- The section table as the host has it: a successful answer that is too short counts as a table
of zeros. -/
def sections : GeneralSections :=
  if device.delivered 0 GeneralSections.kWireSize < GeneralSections.kWireSize then {}
  else GeneralSections.deserialize
    (bytesAt device.memory kDICEBaseAddress GeneralSections.kWireSize)

/-- How many bytes of a section the host asks for. -/
def readSize : SectionKind → ℕ
  | .global => globalReadSize device.sections
  | kind => sectionReadSize (sectionOf device.sections kind)

def TableAnswered : Prop := (device.answer 0 GeneralSections.kWireSize).1 = .success

def GlobalAnswered : Prop :=
  device.TableAnswered ∧ (device.answer 1 (device.readSize .global)).1 = .success

def txChunks : List Chunk :=
  chunks device (device.readSize .txStreamFormat) (device.readSize .txStreamFormat + 1) 2 0

def txStatus : IOReturn := chunkStatus device (device.readSize .txStreamFormat) 2 0

def TxAnswered : Prop := device.GlobalAnswered ∧ device.txStatus = .success

def rxChunks : List Chunk :=
  chunks device (device.readSize .rxStreamFormat) (device.readSize .rxStreamFormat + 1)
    (2 + device.txChunks.length) 0

def rxStatus : IOReturn :=
  chunkStatus device (device.readSize .rxStreamFormat) (2 + device.txChunks.length) 0

/-- No read fails that the report depends on. -/
def Answered : Prop := device.TxAnswered ∧ device.rxStatus = .success

instance : Decidable device.TableAnswered := inferInstanceAs (Decidable (_ = _))
instance : Decidable device.GlobalAnswered := inferInstanceAs (Decidable (_ ∧ _))
instance : Decidable device.TxAnswered := inferInstanceAs (Decidable (_ ∧ _))
instance : Decidable device.Answered := inferInstanceAs (Decidable (_ ∧ _))

/-- The chunks of each section that are asked for at all. -/
def sectionChunks : SectionKind → List Chunk
  | .global => if device.TableAnswered then
      [⟨0, device.readSize .global, device.delivered 1 (device.readSize .global)⟩] else []
  | .txStreamFormat => if device.GlobalAnswered then device.txChunks else []
  | .rxStreamFormat => if device.TxAnswered then device.rxChunks else []

def sectionReads (kind : SectionKind) : List BlockRead :=
  (device.sectionChunks kind).map (Chunk.read kind (sectionOf device.sections kind).offset)

def sectionBytes (kind : SectionKind) : List UInt8 :=
  (device.sectionChunks kind).flatMap
    (Chunk.bytes device.memory (sectionOf device.sections kind).offset)

def tableRead : BlockRead :=
  ⟨none, kDICEBaseAddress, GeneralSections.kWireSize,
    device.delivered 0 GeneralSections.kWireSize⟩

/-- Every read of the request, in order. -/
def allReads : List BlockRead :=
  device.tableRead :: (device.sectionReads .global ++
    (device.sectionReads .txStreamFormat ++ device.sectionReads .rxStreamFormat))

/-- The report of a request whose reads were answered. -/
def capabilities : DICECapabilities :=
  { global := parseGlobalState (device.sectionBytes .global)
    txStreams := parseStreamConfig (device.sectionBytes .txStreamFormat) false
    rxStreams := parseStreamConfig (device.sectionBytes .rxStreamFormat) true
    valid := true }

/-- The request is over: its reads in order and one report, a success exactly when every read it
depends on was answered. -/
def Ends (session : Session) : Prop :=
  ∃ status caps, session = ⟨device.allReads, [(status, caps)]⟩ ∧
    (status = .success ↔ device.Answered) ∧ (caps.valid = true ↔ device.Answered) ∧
    (device.Answered → caps = device.capabilities)

end BlockDevice

section Run

variable {device : BlockDevice} {kind : SectionKind} {session : Session}

lemma readGeneralSections_eq (device : BlockDevice) (callback : Callback GeneralSections) :
    readGeneralSections device callback {} =
      if device.TableAnswered then
        callback .success device.sections (Session.issue {} [device.tableRead])
      else callback (mapTransportStatus (device.answer 0 GeneralSections.kWireSize).1) {}
        (Session.issue {} [device.tableRead]) := by
  have hbase : makeDICEAddress 0 = kDICEBaseAddress := by decide
  rw [readGeneralSections, readBlock_eq, hbase, length_bytesAt, List.length_nil, ite_apply]
  by_cases htable : device.TableAnswered
  · rw [if_pos htable, BlockDevice.sections]
    rw [BlockDevice.TableAnswered] at htable
    by_cases hshort : device.delivered 0 GeneralSections.kWireSize < GeneralSections.kWireSize
    · rw [if_pos (Or.inr hshort), if_pos hshort, htable]
      rfl
    · have hall : device.delivered 0 GeneralSections.kWireSize = GeneralSections.kWireSize :=
        Nat.le_antisymm (delivered_le _ _ _) (Nat.le_of_not_lt hshort)
      rw [if_neg (by simp [htable, hshort]), if_neg hshort, hall, BlockDevice.tableRead, hall]
  · rw [if_neg htable]
    rw [BlockDevice.TableAnswered] at htable
    rw [if_pos (Or.inl htable)]
    rfl

lemma readGlobalState_eq (callback : Callback GlobalState) (h : session.reads.length = 1) :
    readGlobalState device device.sections callback session =
      if (device.answer 1 (device.readSize .global)).1 = .success then
        callback .success (parseGlobalState (bytesAt device.memory
          (makeDICEAddress device.sections.global.offset)
          (device.delivered 1 (device.readSize .global))))
          (session.issue [⟨some .global, makeDICEAddress device.sections.global.offset,
            device.readSize .global, device.delivered 1 (device.readSize .global)⟩])
      else callback (mapTransportStatus (device.answer 1 (device.readSize .global)).1) {}
        (session.issue [⟨some .global, makeDICEAddress device.sections.global.offset,
          device.readSize .global, device.delivered 1 (device.readSize .global)⟩]) := by
  rw [readGlobalState, readBlock_eq, h, ite_not, ite_apply]
  rfl

lemma readStreamConfig_eq {sec : Section} {isRxLayout : Bool} (callback : Callback StreamConfig) :
    readStreamConfig device kind sec isRxLayout callback session =
      if chunkStatus device (sectionReadSize sec) session.reads.length 0 = .success then
        callback .success (parseStreamConfig ((chunks device (sectionReadSize sec)
          (sectionReadSize sec + 1) session.reads.length 0).flatMap
            (Chunk.bytes device.memory sec.offset)) isRxLayout)
          (session.issue ((chunks device (sectionReadSize sec) (sectionReadSize sec + 1)
            session.reads.length 0).map (Chunk.read kind sec.offset)))
      else callback (chunkStatus device (sectionReadSize sec) session.reads.length 0) {}
        (session.issue ((chunks device (sectionReadSize sec) (sectionReadSize sec + 1)
          session.reads.length 0).map (Chunk.read kind sec.offset))) := by
  rw [readStreamConfig, readSectionChunked_eq _ (by simp), ite_not, ite_apply, List.length_nil,
    List.nil_append]

lemma readTxStreamConfig_eq (callback : Callback StreamConfig) (h : session.reads.length = 2) :
    readTxStreamConfig device device.sections callback session =
      if device.txStatus = .success then
        callback .success (parseStreamConfig (device.txChunks.flatMap
          (Chunk.bytes device.memory device.sections.txStreamFormat.offset)) false)
          (session.issue (device.txChunks.map
            (Chunk.read .txStreamFormat device.sections.txStreamFormat.offset)))
      else callback device.txStatus {} (session.issue (device.txChunks.map
        (Chunk.read .txStreamFormat device.sections.txStreamFormat.offset))) := by
  rw [readTxStreamConfig, readStreamConfig_eq, h]
  rfl

lemma readRxStreamConfig_eq (callback : Callback StreamConfig)
    (h : session.reads.length = 2 + device.txChunks.length) :
    readRxStreamConfig device device.sections callback session =
      if device.rxStatus = .success then
        callback .success (parseStreamConfig (device.rxChunks.flatMap
          (Chunk.bytes device.memory device.sections.rxStreamFormat.offset)) true)
          (session.issue (device.rxChunks.map
            (Chunk.read .rxStreamFormat device.sections.rxStreamFormat.offset)))
      else callback device.rxStatus {} (session.issue (device.rxChunks.map
        (Chunk.read .rxStreamFormat device.sections.rxStreamFormat.offset))) := by
  rw [readRxStreamConfig, readStreamConfig_eq, h]
  rfl

lemma ends_failed {status : IOReturn} {reads : List BlockRead} (hstatus : status ≠ .success)
    (h : ¬ device.Answered) (hreads : reads = device.allReads) :
    device.Ends (note status {} (Session.issue {} reads)) := by
  rw [hreads]
  exact ⟨status, {}, rfl, iff_of_false hstatus h, iff_of_false (by simp) h, fun hall => absurd hall h⟩

lemma ends_answered {reads : List BlockRead} (h : device.Answered)
    (hreads : reads = device.allReads) :
    device.Ends (note .success device.capabilities (Session.issue {} reads)) := by
  rw [hreads]
  exact ⟨.success, device.capabilities, rfl, iff_of_true rfl h, iff_of_true rfl h, fun _ => rfl⟩

lemma sectionReads_global (h : device.TableAnswered) : device.sectionReads .global =
    [⟨some .global, makeDICEAddress device.sections.global.offset, device.readSize .global,
      device.delivered 1 (device.readSize .global)⟩] := by
  simp [BlockDevice.sectionReads, BlockDevice.sectionChunks, h, Chunk.read, Chunk.address, sectionOf]

theorem session_ends (device : BlockDevice) : device.Ends device.session := by
  rw [BlockDevice.session, readCapabilities, readGeneralSections_eq]
  by_cases htable : device.TableAnswered
  · rw [if_pos htable, if_neg (by simp), readGlobalState_eq _ rfl, ← sectionReads_global htable,
      Session.issue_issue]
    by_cases hglobal : (device.answer 1 (device.readSize .global)).1 = .success
    · have hboth : device.GlobalAnswered := ⟨htable, hglobal⟩
      rw [if_pos hglobal, if_neg (by simp), readTxStreamConfig_eq _
        (by simp [sectionReads_global htable]), Session.issue_issue]
      by_cases htx : device.txStatus = .success
      · have hthree : device.TxAnswered := ⟨hboth, htx⟩
        rw [if_pos htx, if_neg (by simp), readRxStreamConfig_eq _
          (by simp [sectionReads_global htable]; omega), Session.issue_issue]
        by_cases hrx : device.rxStatus = .success
        · rw [if_pos hrx, if_neg (by simp)]
          have hcaps : device.Ends _ := ends_answered ⟨hthree, hrx⟩ rfl
          simpa [BlockDevice.capabilities, BlockDevice.allReads, BlockDevice.sectionBytes,
            BlockDevice.sectionReads, BlockDevice.sectionChunks, htable, hboth, hthree, Chunk.bytes,
            Chunk.address, sectionOf] using hcaps
        · rw [if_neg hrx, if_pos hrx]
          apply ends_failed hrx (fun h => hrx h.2)
          simp [BlockDevice.allReads, BlockDevice.sectionReads, BlockDevice.sectionChunks, hthree,
            hboth, htable, sectionOf]
      · have hmissed : ¬ device.TxAnswered := fun h => htx h.2
        rw [if_neg htx, if_pos htx]
        apply ends_failed htx (fun h => hmissed h.1)
        simp [BlockDevice.allReads, BlockDevice.sectionReads, BlockDevice.sectionChunks, hmissed,
          hboth, htable, sectionOf]
    · have hstatus : mapTransportStatus (device.answer 1 (device.readSize .global)).1 ≠ .success := by
        simpa using hglobal
      have hmissed : ¬ device.GlobalAnswered := fun h => hglobal h.2
      rw [if_neg hglobal, if_pos hstatus]
      apply ends_failed hstatus (fun h => hmissed h.1.1)
      simp [BlockDevice.allReads, BlockDevice.sectionReads, BlockDevice.sectionChunks, hmissed,
        BlockDevice.TxAnswered]
  · have hstatus : mapTransportStatus (device.answer 0 GeneralSections.kWireSize).1 ≠ .success := by
      simpa [BlockDevice.TableAnswered] using htable
    rw [if_neg htable, if_pos hstatus]
    apply ends_failed hstatus (fun h => htable h.1.1.1)
    simp [BlockDevice.allReads, BlockDevice.sectionReads, BlockDevice.sectionChunks, htable,
      BlockDevice.GlobalAnswered, BlockDevice.TxAnswered]

end Run

/-! ### Sections as they are read -/

section Sections

variable {device : BlockDevice} {kind : SectionKind}

lemma sections_short (h : device.delivered 0 GeneralSections.kWireSize < GeneralSections.kWireSize) :
    sectionOf device.sections kind = {} := by
  rw [BlockDevice.sections, if_pos h]
  cases kind <;> rfl

lemma sections_full (h : ¬ device.delivered 0 GeneralSections.kWireSize < GeneralSections.kWireSize) :
    sectionOf device.sections kind =
      { offset := BitVec.ofNat 32 (device.offsetWord kind * 4)
        size := BitVec.ofNat 32 (device.sizeWord kind * 4) } := by
  have hrow : sectionOf device.sections kind = Section.deserialize
      ((bytesAt device.memory kDICEBaseAddress (8 * kind.row + (40 - 8 * kind.row))).drop
        (8 * kind.row)) := by
    rw [BlockDevice.sections, if_neg h]
    cases kind <;> rfl
  rw [hrow, bytesAt_drop, Section.deserialize, BlockDevice.offsetWord, BlockDevice.sizeWord,
    be32At_bytesAt (by cases kind <;> decide), be32At_bytesAt (by cases kind <;> decide)]
  simp [BitVec.ofNat_add, BitVec.add_assoc]

lemma readSize_le (device : BlockDevice) (kind : SectionKind) :
    device.readSize kind ≤ (sectionOf device.sections kind).size.toNat := by
  cases kind with
  | global =>
    simp only [BlockDevice.readSize, globalReadSize, sectionOf]
    split <;> omega
  | txStreamFormat => exact Nat.min_le_left _ _
  | rxStreamFormat => exact Nat.min_le_left _ _

lemma readSize_le_max (device : BlockDevice) (kind : SectionKind) :
    device.readSize kind ≤ kMaxSectionReadBytes := by
  cases kind with
  | global =>
    simp only [BlockDevice.readSize, globalReadSize, kMaxSectionReadBytes]
    split <;> omega
  | txStreamFormat => exact Nat.min_le_right _ _
  | rxStreamFormat => exact Nat.min_le_right _ _

/-- No more of a section is asked for than it has. -/
lemma readSize_le_section (device : BlockDevice) (kind : SectionKind) :
    device.readSize kind ≤ 4 * device.sizeWord kind := by
  apply (readSize_le device kind).trans
  by_cases hshort : device.delivered 0 GeneralSections.kWireSize < GeneralSections.kWireSize
  · simp [sections_short hshort]
  · rw [sections_full hshort, BitVec.toNat_ofNat]
    omega

lemma sectionOffset_eq (h : 0 < device.readSize kind) :
    (sectionOf device.sections kind).offset = BitVec.ofNat 32 (device.offsetWord kind * 4) := by
  by_cases hshort : device.delivered 0 GeneralSections.kWireSize < GeneralSections.kWireSize
  · have hsize := readSize_le device kind
    rw [sections_short hshort] at hsize
    exact absurd hsize (Nat.not_le_of_lt h)
  · rw [sections_full hshort]

lemma consecutive_sectionChunks (device : BlockDevice) (kind : SectionKind) :
    Consecutive (device.readSize kind) 0 (device.sectionChunks kind) := by
  cases kind with
  | global =>
    simp only [BlockDevice.sectionChunks]
    split
    · exact ⟨rfl, (Nat.zero_add _).le, delivered_le _ _ _, trivial⟩
    · trivial
  | txStreamFormat =>
    simp only [BlockDevice.sectionChunks]
    split
    · exact consecutive_chunks _ _ _ _ _
    · trivial
  | rxStreamFormat =>
    simp only [BlockDevice.sectionChunks]
    split
    · exact consecutive_chunks _ _ _ _ _
    · trivial

lemma tiles_sectionReads_iff : Tiles device kind 0 (device.sectionReads kind) ↔
    ∀ c ∈ device.sectionChunks kind, 0 < c.length →
      4 * device.offsetWord kind + c.start < 2 ^ 32 :=
  tiles_iff (consecutive_sectionChunks device kind) sectionOffset_eq
    (readSize_le_section device kind) (readSize_le_max device kind)

/-- The bytes of a section come from its start in memory. -/
lemma sectionBytes_eq (h : ∀ c ∈ device.sectionChunks kind, 0 < c.length →
    4 * device.offsetWord kind + c.start < 2 ^ 32) :
    device.sectionBytes kind = bytesAt device.memory (device.sectionAddress kind 0)
      (received (device.sectionChunks kind)) := by
  apply flatMap_bytes (consecutive_sectionChunks device kind)
  intro c hc hlength
  have hend := (consecutive_sectionChunks device kind).end_le hc
  have hmax := readSize_le_max device kind
  exact (address_eq_iff (sectionOffset_eq (by omega)) (by omega)).mpr (h c hc hlength)

end Sections

/-! ### The report -/

/-- The channel and the three numbers of an entry, in the order of its layout. -/
def StreamFormatEntry.core (entry : StreamFormatEntry) (isRxLayout : Bool) : ℤ × ℕ × ℕ × ℕ :=
  if isRxLayout then (entry.isoChannel, entry.seqStart, entry.pcmChannels, entry.midiPorts)
  else (entry.isoChannel, entry.pcmChannels, entry.midiPorts, entry.speed)

/-- At most four streams, each with the quadlets of its entry in the section, an entry that the
section has and that was delivered. -/
structure StreamsRead (device : BlockDevice) (kind : SectionKind) (isRxLayout : Bool)
    (delivered : ℕ) (config : StreamConfig) : Prop where
  count : config.numStreams ≤ 4
  entries : ∀ i < config.numStreams,
    let place := 8 + i * (4 * device.quadlet kind 4)
    (config.stream i).core isRxLayout =
        (toSigned (device.quadlet kind place), device.quadlet kind (place + 4),
          device.quadlet kind (place + 8), device.quadlet kind (place + 12)) ∧
      place + 16 ≤ delivered ∧ place + 16 ≤ 4 * device.sizeWord kind

/-- The size of an entry wraps in 32 bits to one that fits a second entry into what arrived. -/
def StrideWraps (device : BlockDevice) (kind : SectionKind) : Prop :=
  let size := device.quadlet kind 4 * 4 % 2 ^ 32
  2 ^ 30 ≤ device.quadlet kind 4 ∧ 2 ≤ device.quadlet kind 0 ∧ 16 ≤ size ∧
    8 + size + 16 ≤ received (device.sectionChunks kind)

section Streams

variable {device : BlockDevice} {kind : SectionKind} {isRxLayout : Bool} {length i : ℕ}

lemma be32At_section (h : i + 4 ≤ length) :
    be32At (bytesAt device.memory (device.sectionAddress kind 0) length) i =
      device.quadlet kind i := by
  rw [be32At_bytesAt h, ← BlockDevice.sectionAddress_add, Nat.zero_add, BlockDevice.quadlet]

lemma core_parseEntry {data : List UInt8}
    (hdata : data = bytesAt device.memory (device.sectionAddress kind 0) length)
    (h : entryBase data i + 16 ≤ length) :
    (parseEntry data isRxLayout i).core isRxLayout =
      (toSigned (device.quadlet kind (entryBase data i)),
        device.quadlet kind (entryBase data i + 4), device.quadlet kind (entryBase data i + 8),
        device.quadlet kind (entryBase data i + 12)) := by
  have hquadlet : ∀ k, k + 4 ≤ length → be32At data k = device.quadlet kind k := by
    intro k hk
    rw [hdata, be32At_section hk]
  rw [← hquadlet _ (by omega), ← hquadlet _ (by omega), ← hquadlet _ (by omega),
    ← hquadlet _ (by omega)]
  cases isRxLayout <;> rfl

lemma received_sectionChunks_le (device : BlockDevice) (kind : SectionKind) :
    received (device.sectionChunks kind) ≤ device.readSize kind := by
  simpa using received_le (consecutive_sectionChunks device kind) (Nat.zero_le _)

/-- The streams are right exactly when no stride has wrapped under them. -/
theorem streamsRead_iff (h : ∀ c ∈ device.sectionChunks kind, 0 < c.length →
    4 * device.offsetWord kind + c.start < 2 ^ 32) :
    StreamsRead device kind isRxLayout (received (device.sectionChunks kind))
        (parseStreamConfig (device.sectionBytes kind) isRxLayout) ↔
      ¬ StrideWraps device kind := by
  have hreceived := received_sectionChunks_le device kind
  have hsection := readSize_le_section device kind
  have hmax := readSize_le_max device kind
  set data := device.sectionBytes kind with hset
  have hdata := hset.trans (sectionBytes_eq h)
  set length := received (device.sectionChunks kind)
  have hlength : data.length = length := by rw [hdata, length_bytesAt]
  have hstreams : ∀ i, i < (parseStreamConfig data isRxLayout).numStreams ↔
      8 ≤ length ∧ 16 ≤ entrySizeBytes data ∧ i < min (be32At data 0) 4 ∧
        entryBase data i + 16 ≤ length := by
    intro i
    rw [lt_numStreams_parseStreamConfig, hlength]
    rfl
  have hheader : 8 ≤ length → be32At data 0 = device.quadlet kind 0 ∧
      entrySizeBytes data = device.quadlet kind 4 * 4 % 2 ^ 32 := by
    intro hlong
    rw [entrySizeBytes, hdata, be32At_section (by omega), be32At_section (by omega)]
    exact ⟨rfl, rfl⟩
  constructor
  · rintro hread ⟨hquadlets, hcounted, hsize, hfits⟩
    obtain ⟨hcount, hstride⟩ := hheader (by omega)
    have hsecond : 1 < (parseStreamConfig data isRxLayout).numStreams := by
      rw [hstreams, entryBase, kStreamSectionHeaderBytes, hcount, hstride]
      omega
    have hplace := (hread.entries 1 hsecond).2.1
    rw [kMaxSectionReadBytes] at hmax
    omega
  · intro hwraps
    refine ⟨numStreams_parseStreamConfig_le _ _, ?_⟩
    intro i hi
    obtain ⟨hlong, hcore, hlt, hfits⟩ := (hstreams i).mp hi
    obtain ⟨hcount, hstride⟩ := hheader hlong
    have hplace : entryBase data i = 8 + i * (4 * device.quadlet kind 4) := by
      rcases Nat.eq_zero_or_pos i with rfl | hpos
      · simp [entryBase, kStreamSectionHeaderBytes]
      · have hfirst := entryBase_mono data hpos
        rw [entryBase, kStreamSectionHeaderBytes] at hfirst
        have hsmall : device.quadlet kind 4 < 2 ^ 30 := by
          by_contra hlarge
          exact hwraps ⟨by omega, by omega, by omega, by omega⟩
        rw [entryBase, kStreamSectionHeaderBytes, hstride, Nat.mod_eq_of_lt (by omega),
          Nat.mul_comm 4]
    intro place
    rw [stream_parseStreamConfig hi, core_parseEntry hdata hfits, hplace]
    rw [hplace] at hfits
    exact ⟨rfl, hfits, by omega⟩

end Streams

/-- The reads issued for a section, in order. -/
def Session.readsOf (session : Session) (kind : SectionKind) : List BlockRead :=
  session.reads.filter fun read => read.kind = some kind

/-- The bytes that came for a section. -/
def Session.receivedOf (session : Session) (kind : SectionKind) : ℕ :=
  ((session.readsOf kind).map BlockRead.delivered).sum

/-- One report after finitely many reads; a success with the whole section table behind it and
streams as the sections have them; reads that tile each section from its start. -/
structure ReportsWhatWasRead (device : BlockDevice) : Prop where
  few : device.session.reads.length ≤ 2 + 2 * kMaxSectionReadBytes
  once : device.session.callbacks.length = 1
  valid : ∀ report ∈ device.session.callbacks, report.2.valid = true ↔ report.1 = .success
  table : ∀ report ∈ device.session.callbacks, report.1 = .success →
    device.session.reads.head? =
      some ⟨none, kDICEBaseAddress, GeneralSections.kWireSize, GeneralSections.kWireSize⟩
  streams : ∀ report ∈ device.session.callbacks, report.1 = .success →
    StreamsRead device .txStreamFormat false (device.session.receivedOf .txStreamFormat)
        report.2.txStreams ∧
      StreamsRead device .rxStreamFormat true (device.session.receivedOf .rxStreamFormat)
        report.2.rxStreams
  tiles : ∀ kind, Tiles device kind 0 (device.session.readsOf kind)

/-- What the reads rely on: a successful answer for the section table brings all of it (or the read
that follows a short one fails), no chunk starts at an offset beyond 32 bits, and where every read
is answered no entry size wraps. -/
structure Regular (device : BlockDevice) : Prop where
  table : device.TableAnswered →
    device.delivered 0 GeneralSections.kWireSize < GeneralSections.kWireSize →
      (device.answer 1 0).1 ≠ .success
  offsets : ∀ kind, ∀ c ∈ device.sectionChunks kind, 0 < c.length →
    4 * device.offsetWord kind + c.start < 2 ^ 32
  strides : device.Answered →
    ¬ StrideWraps device .txStreamFormat ∧ ¬ StrideWraps device .rxStreamFormat

section Report

variable {device : BlockDevice} {kind : SectionKind} {report : IOReturn × DICECapabilities}

lemma filter_sectionReads (device : BlockDevice) (kind other : SectionKind) :
    (device.sectionReads other).filter (fun read => read.kind = some kind) =
      if other = kind then device.sectionReads other else [] := by
  have hkind : ∀ read ∈ device.sectionReads other, read.kind = some other := by
    intro read hread
    obtain ⟨c, -, rfl⟩ := List.mem_map.mp hread
    rfl
  by_cases hother : other = kind
  · rw [if_pos hother]
    apply List.filter_eq_self.mpr
    intro read hread
    simp [hkind read hread, hother]
  · rw [if_neg hother]
    apply List.filter_eq_nil_iff.mpr
    intro read hread
    simp [hkind read hread, hother]

lemma readsOf_session (device : BlockDevice) (kind : SectionKind) :
    device.session.readsOf kind = device.sectionReads kind := by
  obtain ⟨status, caps, hsession, -⟩ := session_ends device
  rw [Session.readsOf, hsession, BlockDevice.allReads, List.filter_cons_of_neg (by
    simp [BlockDevice.tableRead]), List.filter_append, List.filter_append]
  simp only [filter_sectionReads]
  cases kind <;> simp

lemma receivedOf_session (device : BlockDevice) (kind : SectionKind) :
    device.session.receivedOf kind = received (device.sectionChunks kind) := by
  rw [Session.receivedOf, readsOf_session, BlockDevice.sectionReads, List.map_map]
  rfl

lemma length_sectionReads_le (device : BlockDevice) (kind : SectionKind) :
    (device.sectionReads kind).length ≤ if kind = .global then 1 else kMaxSectionReadBytes := by
  have hmax := readSize_le_max device kind
  rw [BlockDevice.sectionReads, List.length_map]
  cases kind with
  | global =>
    simp only [BlockDevice.sectionChunks]
    split <;> simp
  | txStreamFormat =>
    simp only [BlockDevice.sectionChunks]
    split
    · exact (length_chunks_le _ _ _ _ _).trans hmax
    · simp
  | rxStreamFormat =>
    simp only [BlockDevice.sectionChunks]
    split
    · exact (length_chunks_le _ _ _ _ _).trans hmax
    · simp

/-- The single report. -/
lemma mem_callbacks (h : report ∈ device.session.callbacks) :
    (report.1 = .success ↔ device.Answered) ∧ (report.2.valid = true ↔ device.Answered) ∧
      (device.Answered → report.2 = device.capabilities) := by
  obtain ⟨status, caps, hsession, hreport⟩ := session_ends device
  rw [hsession, List.mem_singleton] at h
  rw [h]
  exact hreport

/-- A short table is a table without sections. -/
lemma readSize_short
    (h : device.delivered 0 GeneralSections.kWireSize < GeneralSections.kWireSize)
    (kind : SectionKind) : device.readSize kind = 0 := by
  have hsize := readSize_le device kind
  rw [sections_short h] at hsize
  exact Nat.le_zero.mp hsize

lemma answered_of_short (htable : device.TableAnswered)
    (h : device.delivered 0 GeneralSections.kWireSize < GeneralSections.kWireSize)
    (hglobal : (device.answer 1 0).1 = .success) : device.Answered := by
  have hstatus : ∀ n kind, chunkStatus device (device.readSize kind) n 0 = .success := by
    intro n kind
    rw [chunkStatus, readSize_short h, if_neg (by simp)]
  refine ⟨⟨⟨htable, ?_⟩, hstatus _ _⟩, hstatus _ _⟩
  rw [readSize_short h]
  exact hglobal

lemma tiles_session_iff : Tiles device kind 0 (device.session.readsOf kind) ↔
    ∀ c ∈ device.sectionChunks kind, 0 < c.length →
      4 * device.offsetWord kind + c.start < 2 ^ 32 := by
  rw [readsOf_session, tiles_sectionReads_iff]

lemma tableRead_of_reports (h : ReportsWhatWasRead device) (hanswered : device.Answered) :
    device.delivered 0 GeneralSections.kWireSize = GeneralSections.kWireSize := by
  obtain ⟨status, caps, hsession, hsuccess, -⟩ := session_ends device
  have hfirst := h.table (status, caps) (by simp [hsession]) (hsuccess.mpr hanswered)
  rw [hsession] at hfirst
  have hcount := congrArg (Option.map BlockRead.delivered) hfirst
  simpa [BlockDevice.allReads, BlockDevice.tableRead] using hcount

lemma not_strideWraps_of_reports (h : ReportsWhatWasRead device) (hanswered : device.Answered) :
    ¬ StrideWraps device .txStreamFormat ∧ ¬ StrideWraps device .rxStreamFormat := by
  obtain ⟨status, caps, hsession, hsuccess, -, hcaps⟩ := session_ends device
  obtain ⟨htx, hrx⟩ := h.streams (status, caps) (by simp [hsession]) (hsuccess.mpr hanswered)
  rw [hcaps hanswered, receivedOf_session] at htx hrx
  exact ⟨(streamsRead_iff (tiles_session_iff.mp (h.tiles _))).mp htx,
    (streamsRead_iff (tiles_session_iff.mp (h.tiles _))).mp hrx⟩

lemma Regular.tableRead (h : Regular device) (hanswered : device.Answered) :
    device.delivered 0 GeneralSections.kWireSize = GeneralSections.kWireSize := by
  by_contra hne
  have hshort := Nat.lt_of_le_of_ne (delivered_le device 0 _) hne
  have hglobal := hanswered.1.1.2
  rw [readSize_short hshort] at hglobal
  exact h.table hanswered.1.1.1 hshort hglobal

lemma length_reads_le (device : BlockDevice) :
    device.session.reads.length ≤ 2 + 2 * kMaxSectionReadBytes := by
  obtain ⟨status, caps, hsession, -⟩ := session_ends device
  have hglobal := length_sectionReads_le device .global
  have htx := length_sectionReads_le device .txStreamFormat
  have hrx := length_sectionReads_le device .rxStreamFormat
  simp only [if_true, reduceCtorEq, if_false] at hglobal htx hrx
  rw [hsession]
  simp only [BlockDevice.allReads, List.length_cons, List.length_append]
  omega

end Report

/-- Capabilities are reported only when they were really read, exactly for regular devices. -/
theorem reportsWhatWasRead_iff (device : BlockDevice) :
    ReportsWhatWasRead device ↔ Regular device := by
  obtain ⟨status, caps, hsession, -⟩ := session_ends device
  constructor
  · intro h
    refine ⟨?_, fun kind => tiles_session_iff.mp (h.tiles kind), not_strideWraps_of_reports h⟩
    intro htable hshort hglobal
    exact hshort.ne (tableRead_of_reports h (answered_of_short htable hshort hglobal))
  · intro h
    constructor
    · exact length_reads_le device
    · simp [hsession]
    · intro report hreport
      obtain ⟨hdone, hvalid, -⟩ := mem_callbacks hreport
      exact hvalid.trans hdone.symm
    · intro report hreport hreported
      have hanswered := (mem_callbacks hreport).1.mp hreported
      simp [hsession, BlockDevice.allReads, BlockDevice.tableRead, h.tableRead hanswered]
    · intro report hreport hreported
      obtain ⟨hdone, -, hcaps⟩ := mem_callbacks hreport
      have hanswered := hdone.mp hreported
      obtain ⟨htx, hrx⟩ := h.strides hanswered
      rw [hcaps hanswered, receivedOf_session, receivedOf_session]
      exact ⟨(streamsRead_iff (h.offsets _)).mpr htx, (streamsRead_iff (h.offsets _)).mpr hrx⟩
    · exact fun kind => tiles_session_iff.mpr (h.offsets kind)

/-- Two streams whose entries are said to be `0x40000004` quadlets long, which wraps to sixteen
bytes; every read is answered in full. -/
def wrappedStride : BlockDevice :=
  let memory := [0, 0, 10, 10, 10, 0, 0, 0, 0, 0, 2, 0x40000004, 1, 8, 0, 0, 2, 8, 0, 0].flatMap beBytes
  behindRegisterReads (fun address => memory.getD (address - kDICEBaseAddress).toNat 0)
    fun _ => { count := kMaxSectionReadBytes }

theorem not_reportsWhatWasRead : ¬ ∀ device : BlockDevice, ReportsWhatWasRead device := by
  intro h
  refine (not_strideWraps_of_reports (h wrappedStride) (by decide)).1 ?_
  exact ⟨by decide, by decide, by decide, by decide⟩

/-! ### Behind the driver's register reads -/

end ASFireWire.DICE.DICETransaction
