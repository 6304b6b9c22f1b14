import ASFireWire.DescriptorAccessor

/-! Chunked reading of a descriptor (`Protocols/AVC/Descriptors/DescriptorAccessor.cpp`) from devices
that answer with parts of it. -/
namespace ASFireWire.AVC

open AVCInfoBlock InfoTree Quadlets
open AVCReadDescriptorCommand (ReadResult buildCdb readResult)

structure Answer where
  ctype : UInt8 := 0x09
  status : UInt8 := ReadResultStatus.kComplete
  data : List UInt8 := []
  deriving DecidableEq, Repr

def Answer.rejects (a : Answer) : Bool := !isSuccess (cTypeToResult a.ctype)

/-- The data field of the response. -/
def Answer.bytes (a : Answer) : List UInt8 := if a.rejects then [] else a.data

/-- The answers to READ DESCRIPTOR, by attempt, offset and length. -/
abbrev Device := ℕ → ℕ → ℕ → Answer

namespace Device

/-- The answer as a response frame. -/
def respond (d : Device) (specifier : DescriptorSpecifier) : Transport := fun attempt frame =>
  let length := readBE16 frame (3 + specifier.size + 2)
  let offset := readBE16 frame (3 + specifier.size + 4)
  let a := d attempt offset length
  (.ok, AVCCdb.encode {
    ctype := a.ctype
    subunit := frame.getD 1 0
    opcode := frame.getD 2 0
    operands := specifier.buildSpecifier ++
      ([a.status, 0x00] ++ be16Bytes a.bytes.length ++ be16Bytes offset ++ a.bytes) })

/-- A request inside of the descriptor is answered with some of its bytes, every other one with no
data or with a rejection; no bytes are inside of a request of length zero. -/
structure Conforms (d : Device) (descriptor : List UInt8) : Prop where
  accepts : ∀ attempt offset length, offset < descriptor.length → 0 < length →
    (d attempt offset length).rejects = false
  nonempty : ∀ attempt offset length, offset < descriptor.length → 0 < length →
    (d attempt offset length).data ≠ []
  inside : ∀ attempt offset length, (d attempt offset length).rejects = false →
    (d attempt offset length).data <+: (descriptor.drop offset).take length

/-- Every chunk is as long as the request and the descriptor allow. -/
def Full (d : Device) (descriptor : List UInt8) : Prop :=
  ∀ attempt offset length, offset < descriptor.length → 0 < length →
    (d attempt offset length).data = (descriptor.drop offset).take length

end Device

/-! ### Frames -/

lemma length_padding_le (n : ℕ) : (n + (padding n).length) % 4 = 0 ∧ (padding n).length < 4 := by
  rw [padding, List.length_replicate]
  omega

lemma AVCCdb.decode_encode {cdb : AVCCdb} (h : cdb.operands.length ≤ kAVCOperandMaxLength) :
    AVCCdb.decode cdb.encode =
      some { cdb with operands := cdb.operands ++ padding (3 + cdb.operands.length) } := by
  have hmax : kAVCOperandMaxLength = 509 := rfl
  obtain ⟨hwhole, hshort⟩ := length_padding_le (3 + cdb.operands.length)
  have hlength : cdb.encode.length =
      3 + cdb.operands.length + (padding (3 + cdb.operands.length)).length := by
    rw [encode, List.length_append, List.length_append]
    rfl
  have hframe : ¬ (cdb.encode.length < kAVCFrameMinSize ∨ kAVCFrameMaxSize < cdb.encode.length) := by
    have hmin : kAVCFrameMinSize = 3 := rfl
    have hframeMax : kAVCFrameMaxSize = 512 := rfl
    omega
  have hoperands : (cdb.encode.drop 3).take kAVCOperandMaxLength =
      cdb.operands ++ padding (3 + cdb.operands.length) := by
    have hdrop : cdb.encode.drop 3 = cdb.operands ++ padding (3 + cdb.operands.length) := by
      simp [encode]
    rw [hdrop]
    apply List.take_of_length_le
    rw [List.length_append]
    omega
  rw [decode, if_neg hframe, hoperands]
  simp [encode]

variable {d : Device} {specifier : DescriptorSpecifier} {subunitAddr : UInt8}
  {attempt offset length : ℕ}

lemma length_buildSpecifier (specifier : DescriptorSpecifier) :
    specifier.buildSpecifier.length = specifier.size := by
  rw [DescriptorSpecifier.buildSpecifier, DescriptorSpecifier.size, List.length_cons, Nat.add_comm]

/-- A read result is taken apart from the bytes behind the specifier. -/
lemma readResult_eq {result : AVCResult} (hresult : isSuccess result = true) {ctype subunit opcode : UInt8}
    (status : UInt8) {data : List UInt8} (hdata : data.length < 2 ^ 16) (rest : List UInt8) :
    readResult specifier.size result {
        ctype := ctype, subunit := subunit, opcode := opcode
        operands := specifier.buildSpecifier ++
          ([status, 0x00] ++ be16Bytes data.length ++ be16Bytes offset ++ data) ++ rest } =
      { data := data, status := status, dataLength := data.length
        offset := readBE16 (be16Bytes offset) 0 } := by
  have hspec := length_buildSpecifier specifier
  have hheader : (specifier.buildSpecifier ++
      ([status, 0x00] ++ be16Bytes data.length ++ be16Bytes offset ++ data) ++ rest).length =
      specifier.size + 6 + (data.length + rest.length) := by
    simp only [List.length_append, hspec, be16Bytes, List.length_cons, List.length_nil]
    omega
  have hstatus : (specifier.buildSpecifier ++
      ([status, 0x00] ++ be16Bytes data.length ++ be16Bytes offset ++ data) ++ rest).getD
        specifier.size 0 = status := by
    rw [← hspec, List.append_assoc]
    simp
  have hlengthField : readBE16 (specifier.buildSpecifier ++
      ([status, 0x00] ++ be16Bytes data.length ++ be16Bytes offset ++ data) ++ rest)
        (specifier.size + 2) = data.length := by
    rw [show specifier.buildSpecifier ++ ([status, 0x00] ++ be16Bytes data.length ++
        be16Bytes offset ++ data) ++ rest = (specifier.buildSpecifier ++ [status, 0x00]) ++
          (be16Bytes data.length ++ (be16Bytes offset ++ data ++ rest)) by simp,
      show specifier.size + 2 = (specifier.buildSpecifier ++ [status, 0x00]).length + 0 by simp [hspec],
      readBE16_append_right, readBE16_be16Bytes _ _ hdata]
  have hoffsetField : readBE16 (specifier.buildSpecifier ++
      ([status, 0x00] ++ be16Bytes data.length ++ be16Bytes offset ++ data) ++ rest)
        (specifier.size + 4) = readBE16 (be16Bytes offset) 0 := by
    rw [show specifier.buildSpecifier ++ ([status, 0x00] ++ be16Bytes data.length ++
        be16Bytes offset ++ data) ++ rest = (specifier.buildSpecifier ++ [status, 0x00] ++
          be16Bytes data.length) ++ (be16Bytes offset ++ (data ++ rest)) by simp,
      show specifier.size + 4 = (specifier.buildSpecifier ++ [status, 0x00] ++
        be16Bytes data.length).length + 0 by simp [hspec, be16Bytes],
      readBE16_append_right]
    rfl
  have hdataField : ((specifier.buildSpecifier ++
      ([status, 0x00] ++ be16Bytes data.length ++ be16Bytes offset ++ data) ++ rest).drop
        (specifier.size + 6)) = data ++ rest := by
    rw [show specifier.buildSpecifier ++ ([status, 0x00] ++ be16Bytes data.length ++
        be16Bytes offset ++ data) ++ rest = (specifier.buildSpecifier ++ [status, 0x00] ++
          be16Bytes data.length ++ be16Bytes offset) ++ (data ++ rest) by simp]
    exact List.drop_left' (by simp [hspec, be16Bytes])
  simp only [readResult, hresult, hheader, hstatus, hlengthField, hoffsetField, hdataField]
  rw [if_pos (by simp)]
  congr 1
  have hmin : min data.length (specifier.size + 6 + (data.length + rest.length) -
      (specifier.size + 6)) = data.length := by omega
  rw [hmin, List.take_left]

/-- What comes back for a command. -/
lemma submit_respond (hoffset : offset < 2 ^ 16) (hlength : length < 2 ^ 16)
    (hdata : (d attempt offset length).bytes.length ≤ MAX_DESCRIPTOR_CHUNK_SIZE) :
    let a := d attempt offset length
    let response := (buildCdb subunitAddr specifier offset length).submit (d.respond specifier) attempt
    response.1 = cTypeToResult a.ctype ∧
      (readResult specifier.size response.1 response.2).data = a.bytes ∧
      (a.rejects = false →
        (readResult specifier.size response.1 response.2).status = a.status) := by
  have hspec := length_buildSpecifier specifier
  have hmax : MAX_DESCRIPTOR_CHUNK_SIZE = 128 := rfl
  have hfits := specifier.fits
  have hsize : specifier.size = 1 + specifier.typeSpecificFields.length := rfl
  have hcommand : ¬ kAVCOperandMaxLength <
      (buildCdb subunitAddr specifier offset length).operands.length := by
    simp only [buildCdb, List.length_append, hspec, be16Bytes, List.length_cons, List.length_nil]
    omega
  have hlengthField : readBE16 (buildCdb subunitAddr specifier offset length).encode
      (3 + specifier.size + 2) = length := by
    rw [show (buildCdb subunitAddr specifier offset length).encode =
        ([0x00, subunitAddr, 0x09] ++ specifier.buildSpecifier ++ [0xFF, 0x00]) ++
          (be16Bytes length ++ (be16Bytes offset ++ padding (3 +
            (buildCdb subunitAddr specifier offset length).operands.length))) by
        simp [AVCCdb.encode, buildCdb],
      show 3 + specifier.size + 2 = ([0x00, subunitAddr, 0x09] ++ specifier.buildSpecifier ++
        [0xFF, 0x00]).length + 0 by simp [hspec]; omega,
      readBE16_append_right, readBE16_be16Bytes _ _ hlength]
  have hoffsetField : readBE16 (buildCdb subunitAddr specifier offset length).encode
      (3 + specifier.size + 4) = offset := by
    rw [show (buildCdb subunitAddr specifier offset length).encode =
        ([0x00, subunitAddr, 0x09] ++ specifier.buildSpecifier ++ [0xFF, 0x00] ++ be16Bytes length) ++
          (be16Bytes offset ++ padding (3 +
            (buildCdb subunitAddr specifier offset length).operands.length)) by
        simp [AVCCdb.encode, buildCdb],
      show 3 + specifier.size + 4 = ([0x00, subunitAddr, 0x09] ++ specifier.buildSpecifier ++
        [0xFF, 0x00] ++ be16Bytes length).length + 0 by simp [hspec, be16Bytes]; omega,
      readBE16_append_right, readBE16_be16Bytes _ _ hoffset]
  dsimp only
  unfold AVCCdb.submit Device.respond
  rw [if_neg hcommand]
  dsimp only
  rw [hlengthField, hoffsetField]
  generalize d attempt offset length = a at hdata ⊢
  rw [AVCCdb.decode_encode (by
    simp only [List.length_append, hspec, be16Bytes, List.length_cons, List.length_nil]
    omega)]
  refine ⟨rfl, ?_⟩
  dsimp only
  cases hresult : isSuccess (cTypeToResult a.ctype) with
  | false =>
    have hrejects : a.rejects = true := by rw [Answer.rejects, hresult]; rfl
    refine ⟨?_, fun haccepts => by simp [hrejects] at haccepts⟩
    rw [Answer.bytes, if_pos hrejects]
    simp [readResult, hresult]
  | true =>
    rw [readResult_eq hresult a.status (by omega)]
    exact ⟨rfl, fun _ => rfl⟩

/-! ### Every read -/

namespace DescriptorAccessor

/-- Chunks one behind the other from an offset on. -/
def Contiguous : ℕ → List ChunkRead → Prop
  | _, [] => True
  | offset, read :: reads => read.offset = offset ∧ Contiguous (offset + read.data.length) reads

/-- Neither the remaining length nor the bytes read so far wrap. -/
def Unwrapped (read : ChunkRead) : Prop :=
  (0 < read.totalDescriptorLength → read.offset ≤ read.totalDescriptorLength) ∧
    read.offset + read.data.length < 2 ^ 16

/-- What is promised of the reading of a descriptor. -/
structure ReadsWhole (d : Device) (descriptor : List UInt8) (trace : ReadTrace) : Prop where
  contiguous : Contiguous 0 trace.reads
  once : trace.completions.length = 1
  few : trace.reads.length ≤ kMaxAttempts
  unwrapped : ∀ read ∈ trace.reads, Unwrapped read
  complete : d.Full descriptor → ∃ result ∈ trace.completions, result.success = true ∧
    result.data.take descriptor.length = descriptor

variable {descriptor : List UInt8} {state : ReadChunkState} {turns : ℕ}

variable (specifier subunitAddr turns) in
/-- Whatever the device does, the read ends with one completion. -/
lemma readNextChunk_once (transport : Transport) (hturns : kMaxAttempts < state.attemptCount + turns)
    (hattempts : state.attemptCount ≤ kMaxAttempts) :
    (readNextChunk transport subunitAddr specifier turns state).completions.length = 1 ∧
      state.attemptCount +
        (readNextChunk transport subunitAddr specifier turns state).reads.length ≤ kMaxAttempts := by
  induction turns generalizing state with
  | zero => omega
  | succ turns ih =>
    rw [readNextChunk]
    dsimp only
    by_cases hlast : kMaxAttempts < state.attemptCount + 1
    · rw [if_pos hlast]
      exact ⟨rfl, hattempts⟩
    · rw [if_neg hlast]
      cases hhandle : handleReadChunk { state with attemptCount := state.attemptCount + 1 }
        ((buildCdb subunitAddr specifier state.bytesReadSoFar (chunkSize state)).submit transport
          (state.attemptCount + 1)).1
        (readResult specifier.size
          ((buildCdb subunitAddr specifier state.bytesReadSoFar (chunkSize state)).submit transport
            (state.attemptCount + 1)).1
          ((buildCdb subunitAddr specifier state.bytesReadSoFar (chunkSize state)).submit transport
            (state.attemptCount + 1)).2) with
      | error result =>
        have hsame : chunkSize { state with attemptCount := state.attemptCount + 1 } =
            chunkSize state := rfl
        rw [hsame, hhandle]
        refine ⟨rfl, ?_⟩
        rw [List.length_singleton]
        omega
      | ok next =>
        have hsame : chunkSize { state with attemptCount := state.attemptCount + 1 } =
            chunkSize state := rfl
        have hcount : next.attemptCount = state.attemptCount + 1 := by
          unfold handleReadChunk at hhandle
          dsimp only at hhandle
          split_ifs at hhandle
          all_goals
            obtain rfl := Except.ok.inj hhandle
            rfl
        have hturns' : kMaxAttempts < next.attemptCount + turns := by omega
        obtain ⟨honce, hfew⟩ := ih hturns' (by omega)
        rw [hsame, hhandle]
        refine ⟨honce, ?_⟩
        rw [List.length_cons]
        omega

/-- The state of a read behind the bytes it has. -/
structure Inside (descriptor : List UInt8) (state : ReadChunkState) : Prop where
  bytes : state.bytesReadSoFar ≤ descriptor.length
  data : state.accumulatedData.length = state.bytesReadSoFar

/-- The state behind a chunk. -/
def after (state : ReadChunkState) (data : List UInt8) : ReadChunkState where
  attemptCount := state.attemptCount + 1
  totalDescriptorLength := if state.bytesReadSoFar = 0 ∧ 2 ≤ data.length then readBE16 data 0
    else state.totalDescriptorLength
  accumulatedData := state.accumulatedData ++ data
  bytesReadSoFar := state.bytesReadSoFar + data.length

/-- A descriptor whose first two bytes hold the length of the rest. -/
structure Declares (descriptor : List UInt8) : Prop where
  header : 2 ≤ descriptor.length
  short : descriptor.length ≤ kMaxDescriptorLength + 2
  length : readBE16 descriptor 0 = descriptor.length - 2

lemma chunkSize_le (state : ReadChunkState) : chunkSize state ≤ MAX_DESCRIPTOR_CHUNK_SIZE := by
  unfold chunkSize
  split_ifs <;> omega

/-- The answer to the next command of a read. -/
def nextAnswer (d : Device) (state : ReadChunkState) : Answer :=
  d (state.attemptCount + 1) state.bytesReadSoFar (chunkSize state)

lemma chunk_bounds (hd : d.Conforms descriptor) (hs : Inside descriptor state)
    (haccepts : (nextAnswer d state).rejects = false) :
    (nextAnswer d state).data.length ≤ chunkSize state ∧
      state.bytesReadSoFar + (nextAnswer d state).data.length ≤ descriptor.length := by
  have hprefix := (hd.inside _ _ _ haccepts).length_le
  rw [List.length_take, List.length_drop] at hprefix
  have hbytes := hs.bytes
  unfold nextAnswer
  omega

lemma readBE16_isPrefix {data bytes : List UInt8} (h : data <+: bytes) (hlength : 2 ≤ data.length) :
    readBE16 data 0 = readBE16 bytes 0 := by
  obtain ⟨rest, rfl⟩ := h
  rw [readBE16, readBE16, byteAt_append_left (by omega), byteAt_append_left (by omega)]

lemma declared_length (hD : Declares descriptor) (hd : d.Conforms descriptor)
    (haccepts : (nextAnswer d state).rejects = false)
    (hfirst : state.bytesReadSoFar = 0 ∧ 2 ≤ (nextAnswer d state).data.length) :
    readBE16 (nextAnswer d state).data 0 = descriptor.length - 2 := by
  have hprefix : (nextAnswer d state).data <+: descriptor.drop state.bytesReadSoFar :=
    (hd.inside _ _ _ haccepts).trans (List.take_prefix _ _)
  have hdrop : descriptor.drop state.bytesReadSoFar = descriptor := by
    rw [hfirst.1, List.drop_zero]
  rw [hdrop] at hprefix
  rw [← hD.length]
  exact readBE16_isPrefix hprefix hfirst.2

/-- A chunk that is not refused. -/
lemma handleReadChunk_accepted {result : AVCResult} (hresult : isSuccess result = true)
    {r : ReadResult} (hbytes : state.bytesReadSoFar + r.data.length < 2 ^ 16)
    (hshort : state.bytesReadSoFar = 0 ∧ 2 ≤ r.data.length →
      readBE16 r.data 0 ≤ kMaxDescriptorLength) :
    handleReadChunk { state with attemptCount := state.attemptCount + 1 } result r =
      if shouldContinue (after state r.data) { data := r.data, status := r.status } then
        .ok (after state r.data)
      else .error { success := true, data := state.accumulatedData ++ r.data, avcResult := result } := by
  have hlong : ¬ (state.bytesReadSoFar = 0 ∧ 2 ≤ r.data.length ∧ kMaxDescriptorLength <
      if state.bytesReadSoFar = 0 ∧ 2 ≤ r.data.length then readBE16 r.data 0
        else state.totalDescriptorLength) := by
    rintro ⟨hzero, htwo, hlong⟩
    rw [if_pos ⟨hzero, htwo⟩] at hlong
    exact absurd (hshort ⟨hzero, htwo⟩) (Nat.not_le.mpr hlong)
  unfold handleReadChunk
  dsimp only
  rw [if_neg (by simp [hresult]), if_neg hlong, Nat.mod_eq_of_lt hbytes]
  rfl

/-- One turn of the loop with a device that answers with parts of the descriptor. -/
lemma readNextChunk_step (hD : Declares descriptor) (hd : d.Conforms descriptor)
    (hs : Inside descriptor state) (hattempts : state.attemptCount < kMaxAttempts) :
    readNextChunk (d.respond specifier) subunitAddr specifier (turns + 1) state =
      let a := nextAnswer d state
      let read : ChunkRead := {
        attempt := state.attemptCount + 1, offset := state.bytesReadSoFar, length := chunkSize state
        totalDescriptorLength := state.totalDescriptorLength
        data := a.bytes }
      if a.rejects then
        { reads := [read], completions := [{ success := false, avcResult := cTypeToResult a.ctype }] }
      else if shouldContinue (after state a.data) { data := a.data, status := a.status } then
        let rest := readNextChunk (d.respond specifier) subunitAddr specifier turns (after state a.data)
        { rest with reads := read :: rest.reads }
      else
        { reads := [read]
          completions := [{ success := true, data := state.accumulatedData ++ a.data
                            avcResult := cTypeToResult a.ctype }] } := by
  have hshort := hD.short
  have hmax : kMaxDescriptorLength = 4096 := rfl
  have hchunk : MAX_DESCRIPTOR_CHUNK_SIZE = 128 := rfl
  have hsize := chunkSize_le state
  have hinside := hs.bytes
  have hbytes : (nextAnswer d state).bytes.length ≤ MAX_DESCRIPTOR_CHUNK_SIZE := by
    rw [Answer.bytes]
    split_ifs with hrejects
    · exact Nat.zero_le _
    · exact (chunk_bounds hd hs (Bool.eq_false_of_not_eq_true hrejects)).1.trans hsize
  obtain ⟨hresult, hdata, hstatus⟩ := submit_respond (d := d)
    (by omega : state.bytesReadSoFar < 2 ^ 16) (by omega : chunkSize state < 2 ^ 16) hbytes
  have hsame : chunkSize { state with attemptCount := state.attemptCount + 1 } = chunkSize state := rfl
  rw [readNextChunk]
  dsimp only
  rw [if_neg (by omega), hsame]
  generalize (buildCdb subunitAddr specifier state.bytesReadSoFar (chunkSize state)).submit
    (d.respond specifier) (state.attemptCount + 1) = response at hresult hdata hstatus ⊢
  rw [hdata]
  cases hrejects : (nextAnswer d state).rejects with
  | true =>
    have hfails : isSuccess response.1 = false := by
      rw [hresult]
      rw [Answer.rejects, Bool.not_eq_true'] at hrejects
      exact hrejects
    have herror : handleReadChunk { state with attemptCount := state.attemptCount + 1 } response.1
        (readResult specifier.size response.1 response.2) =
        .error { success := false, avcResult := response.1 } := by
      unfold handleReadChunk
      rw [if_pos hfails]
    rw [herror, if_pos rfl, hresult]
    rfl
  | false =>
    have hsucceeds : isSuccess response.1 = true := by
      rw [hresult]
      rw [Answer.rejects, Bool.not_eq_false'] at hrejects
      exact hrejects
    have hsameBytes : (nextAnswer d state).bytes = (nextAnswer d state).data := by
      rw [Answer.bytes, hrejects]
      rfl
    obtain ⟨_, hend⟩ := chunk_bounds hd hs hrejects
    have hfield : (readResult specifier.size response.1 response.2).data =
        (nextAnswer d state).data := hdata.trans hsameBytes
    rw [handleReadChunk_accepted hsucceeds (by rw [hfield]; omega)
      (fun hfirst => by
        rw [hfield] at hfirst ⊢
        rw [declared_length hD hd hrejects hfirst]
        omega), hfield, hstatus hrejects, if_neg Bool.false_ne_true, hresult]
    have hread : nextAnswer d state =
        d (state.attemptCount + 1) state.bytesReadSoFar (chunkSize state) := rfl
    rw [hread]
    by_cases hcontinue : shouldContinue (after state
        (d (state.attemptCount + 1) state.bytesReadSoFar (chunkSize state)).data)
        { data := (d (state.attemptCount + 1) state.bytesReadSoFar (chunkSize state)).data
          status := (d (state.attemptCount + 1) state.bytesReadSoFar (chunkSize state)).status } =
        true
    · rw [if_pos hcontinue, if_pos hcontinue]
    · rw [if_neg hcontinue, if_neg hcontinue]

variable (specifier subunitAddr turns) in
lemma readNextChunk_exhausted (transport : Transport) (h : kMaxAttempts ≤ state.attemptCount) :
    (readNextChunk transport subunitAddr specifier turns state).reads = [] ∧
      ∀ result ∈ (readNextChunk transport subunitAddr specifier turns state).completions,
        result.success = false := by
  cases turns with
  | zero => exact ⟨rfl, by simp [readNextChunk]⟩
  | succ turns =>
    rw [readNextChunk]
    dsimp only
    rw [if_pos (by omega)]
    exact ⟨rfl, by simp⟩

lemma Answer.bytes_of_accepted {a : Answer} (h : a.rejects = false) : a.bytes = a.data := by
  rw [Answer.bytes, h]
  rfl

lemma Inside.after (hd : d.Conforms descriptor) (hs : Inside descriptor state)
    (haccepts : (nextAnswer d state).rejects = false) :
    Inside descriptor (after state (nextAnswer d state).data) := by
  refine ⟨(chunk_bounds hd hs haccepts).2, ?_⟩
  simp only [DescriptorAccessor.after, List.length_append, hs.data]

variable (specifier subunitAddr turns) in
/-- The chunks follow one another, and their bytes are counted exactly. -/
lemma reads_contiguous (hD : Declares descriptor) (hd : d.Conforms descriptor)
    (hs : Inside descriptor state) :
    let trace := readNextChunk (d.respond specifier) subunitAddr specifier turns state
    Contiguous state.bytesReadSoFar trace.reads ∧
      ∀ read ∈ trace.reads, read.offset + read.data.length < 2 ^ 16 := by
  dsimp only
  have hshort := hD.short
  have hmax : kMaxDescriptorLength = 4096 := rfl
  induction turns generalizing state with
  | zero => exact ⟨trivial, by simp [readNextChunk]⟩
  | succ turns ih =>
    by_cases hattempts : state.attemptCount < kMaxAttempts
    · rw [readNextChunk_step hD hd hs hattempts]
      dsimp only
      cases hrejects : (nextAnswer d state).rejects with
      | true =>
        have hbytes := hs.bytes
        rw [if_pos rfl, Answer.bytes, if_pos hrejects]
        refine ⟨⟨rfl, trivial⟩, fun read hread => ?_⟩
        obtain rfl := List.mem_singleton.mp hread
        dsimp only
        rw [List.length_nil]
        omega
      | false =>
        obtain ⟨_, hend⟩ := chunk_bounds hd hs hrejects
        rw [if_neg Bool.false_ne_true, Answer.bytes_of_accepted hrejects]
        split_ifs
        · obtain ⟨hrest, hcounted⟩ := ih (hs.after hd hrejects)
          refine ⟨⟨rfl, hrest⟩, fun read hread => ?_⟩
          rcases List.mem_cons.mp hread with rfl | hread
          · dsimp only
            omega
          · exact hcounted read hread
        · refine ⟨⟨rfl, trivial⟩, fun read hread => ?_⟩
          obtain rfl := List.mem_singleton.mp hread
          dsimp only
          omega
    · obtain ⟨hnone, _⟩ := readNextChunk_exhausted specifier subunitAddr (turns + 1) (d.respond specifier)
        (Nat.not_lt.mp hattempts)
      rw [hnone]
      exact ⟨trivial, by simp⟩

/-- A read past its first chunk that has no more than the declared length. -/
structure Settled (state : ReadChunkState) : Prop where
  started : 0 < state.bytesReadSoFar
  short : state.totalDescriptorLength ≤ kMaxDescriptorLength
  declared : 0 < state.totalDescriptorLength → state.bytesReadSoFar ≤ state.totalDescriptorLength

lemma after_total (hstarted : 0 < state.bytesReadSoFar) (data : List UInt8) :
    (after state data).totalDescriptorLength = state.totalDescriptorLength :=
  if_neg fun hfirst => hstarted.ne' hfirst.1

lemma Settled.after (h : Settled state) (hd : d.Conforms descriptor) (hs : Inside descriptor state)
    (haccepts : (nextAnswer d state).rejects = false) :
    Settled (after state (nextAnswer d state).data) := by
  have htotal := after_total h.started (nextAnswer d state).data
  have hmax : kMaxDescriptorLength = 4096 := rfl
  have hshort := h.short
  refine ⟨Nat.lt_of_lt_of_le h.started (Nat.le_add_right _ _), by rw [htotal]; exact h.short,
    fun hpos => ?_⟩
  rw [htotal] at hpos ⊢
  obtain ⟨hchunk, _⟩ := chunk_bounds hd hs haccepts
  have hdeclared := h.declared hpos
  rw [chunkSize, if_pos hpos] at hchunk
  change state.bytesReadSoFar + _ ≤ _
  omega

variable (specifier subunitAddr turns) in
/-- Such a read asks for no more than the declared length, and has no more in the end. -/
lemma Settled.reads (h : Settled state) (hD : Declares descriptor) (hd : d.Conforms descriptor)
    (hs : Inside descriptor state) :
    let trace := readNextChunk (d.respond specifier) subunitAddr specifier turns state
    (∀ read ∈ trace.reads, 0 < read.totalDescriptorLength →
        read.offset ≤ read.totalDescriptorLength) ∧
      ∀ result ∈ trace.completions, result.success = true → 0 < state.totalDescriptorLength →
        result.data.length ≤ state.totalDescriptorLength := by
  dsimp only
  induction turns generalizing state with
  | zero => exact ⟨by simp [readNextChunk], by simp [readNextChunk]⟩
  | succ turns ih =>
    by_cases hattempts : state.attemptCount < kMaxAttempts
    · rw [readNextChunk_step hD hd hs hattempts]
      dsimp only
      cases hrejects : (nextAnswer d state).rejects with
      | true =>
        rw [if_pos rfl]
        refine ⟨fun read hread => ?_, fun result hresult hsuccess => ?_⟩
        · obtain rfl := List.mem_singleton.mp hread
          exact h.declared
        · obtain rfl := List.mem_singleton.mp hresult
          exact absurd hsuccess nofun
      | false =>
        have hnext := h.after hd hs hrejects
        have htotal := after_total h.started (nextAnswer d state).data
        rw [if_neg Bool.false_ne_true]
        split_ifs
        · obtain ⟨hreads, hresults⟩ := ih hnext (hs.after hd hrejects)
          rw [htotal] at hresults
          refine ⟨fun read hread => ?_, hresults⟩
          rcases List.mem_cons.mp hread with rfl | hread
          · exact h.declared
          · exact hreads read hread
        · refine ⟨fun read hread => ?_, fun result hresult _ hpos => ?_⟩
          · obtain rfl := List.mem_singleton.mp hread
            exact h.declared
          · obtain rfl := List.mem_singleton.mp hresult
            have hdeclared := hnext.declared (by rw [htotal]; exact hpos)
            rw [htotal, ← (hs.after hd hrejects).data] at hdeclared
            exact hdeclared
    · obtain ⟨hnone, hfailed⟩ := readNextChunk_exhausted specifier subunitAddr (turns + 1) (d.respond specifier)
        (Nat.not_lt.mp hattempts)
      rw [hnone]
      exact ⟨by simp, fun result hresult hsuccess => by simp [hfailed result hresult] at hsuccess⟩

/-! ### The first chunk -/

lemma inside_initial (descriptor : List UInt8) : Inside descriptor {} := ⟨Nat.zero_le _, rfl⟩

/-- The answer to the first command. -/
lemma first_accepted (hD : Declares descriptor) (hd : d.Conforms descriptor) :
    (nextAnswer d {}).rejects = false ∧ 0 < (nextAnswer d {}).data.length :=
  ⟨hd.accepts _ _ _ (Nat.lt_of_lt_of_le (by decide) hD.header) (by decide),
    List.length_pos_iff.mpr
      (hd.nonempty _ _ _ (Nat.lt_of_lt_of_le (by decide) hD.header) (by decide))⟩

lemma first_total (hD : Declares descriptor) (hd : d.Conforms descriptor) :
    (after {} (nextAnswer d {}).data).totalDescriptorLength =
      if 2 ≤ (nextAnswer d {}).data.length then descriptor.length - 2 else 0 := by
  have haccepts := (first_accepted hD hd).1
  rw [after]
  by_cases htwo : 2 ≤ (nextAnswer d {}).data.length
  · rw [if_pos htwo, ← declared_length hD hd haccepts ⟨rfl, htwo⟩]
    exact if_pos ⟨rfl, htwo⟩
  · rw [if_neg htwo]
    exact if_neg fun hfirst => htwo hfirst.2

/-- A first chunk that has no more than the declared length. -/
lemma settled_first (hD : Declares descriptor) (hd : d.Conforms descriptor)
    (hfirst : descriptor.length = 2 ∨ (nextAnswer d {}).data.length ≤ descriptor.length - 2) :
    Settled (after {} (nextAnswer d {}).data) := by
  have hpos := (first_accepted hD hd).2
  have htotal := first_total hD hd
  have hshort := hD.short
  have hbytes : (after {} (nextAnswer d {}).data).bytesReadSoFar = (nextAnswer d {}).data.length :=
    Nat.zero_add _
  refine ⟨by rw [hbytes]; exact hpos, ?_, fun hdeclared => ?_⟩
  · rw [htotal]
    split_ifs
    · omega
    · exact Nat.zero_le _
  · rw [htotal] at hdeclared ⊢
    split_ifs at hdeclared ⊢
    · omega
    · omega

variable (specifier subunitAddr turns) in
lemma readNextChunk_head (hD : Declares descriptor) (hd : d.Conforms descriptor)
    (hs : Inside descriptor state) (hattempts : state.attemptCount < kMaxAttempts) :
    ∃ read rest, (readNextChunk (d.respond specifier) subunitAddr specifier (turns + 1) state).reads =
        read :: rest ∧
      read.offset = state.bytesReadSoFar ∧
      read.totalDescriptorLength = state.totalDescriptorLength := by
  rw [readNextChunk_step hD hd hs hattempts]
  dsimp only
  split_ifs <;> exact ⟨_, _, rfl, rfl, rfl⟩

/-- A read with data goes on below the margin behind the declared length. -/
lemma shouldContinue_below {r : ReadResult} (hdata : r.data ≠ [])
    (htotal : 0 < state.totalDescriptorLength)
    (hshort : state.totalDescriptorLength ≤ kMaxDescriptorLength)
    (hbelow : state.bytesReadSoFar < state.totalDescriptorLength + kApogeeExtraBytes) :
    shouldContinue state r = true := by
  have hmax : kMaxDescriptorLength = 4096 := rfl
  have hmargin : kApogeeExtraBytes = 64 := rfl
  have hmodulus : state.bytesReadSoFar <
      (state.totalDescriptorLength + kApogeeExtraBytes) % 2 ^ 16 := by
    rw [Nat.mod_eq_of_lt (by omega)]
    exact hbelow
  simpa [shouldContinue, hdata, htotal] using hmodulus

/-- Without a declared length the status decides, unless there is no data. -/
lemma shouldContinue_undeclared {r : ReadResult} (htotal : state.totalDescriptorLength = 0) :
    shouldContinue state r = decide (r.data ≠ [] ∧ r.status = ReadResultStatus.kMoreToRead) := by
  by_cases hdata : r.data = []
  · by_cases hstatus : r.status = ReadResultStatus.kMoreToRead <;>
      simp [shouldContinue, htotal, hdata, hstatus]
  · simp [shouldContinue, htotal, hdata]

variable (specifier subunitAddr) in
/-- The remaining length wraps exactly if the first chunk has more than the declared length. -/
lemma unwrapped_iff (hD : Declares descriptor) (hd : d.Conforms descriptor) :
    (∀ read ∈ (readComplete (d.respond specifier) subunitAddr specifier).reads,
        0 < read.totalDescriptorLength → read.offset ≤ read.totalDescriptorLength) ↔
      descriptor.length = 2 ∨ (nextAnswer d {}).data.length ≤ descriptor.length - 2 := by
  obtain ⟨haccepts, hpos⟩ := first_accepted hD hd
  obtain ⟨_, hend⟩ := chunk_bounds hd (inside_initial descriptor) haccepts
  have hnext := (inside_initial descriptor).after hd haccepts
  have hheader := hD.header
  have hshort := hD.short
  have hmax : kMaxDescriptorLength = 4096 := rfl
  have hmargin : kApogeeExtraBytes = 64 := rfl
  have hbytes : (after {} (nextAnswer d {}).data).bytesReadSoFar = (nextAnswer d {}).data.length :=
    Nat.zero_add _
  change (0 : ℕ) + _ ≤ _ at hend
  rw [readComplete, readNextChunk_step hD hd (inside_initial descriptor) (by decide)]
  dsimp only
  rw [haccepts, if_neg Bool.false_ne_true]
  constructor
  · intro hreads
    by_contra hlong
    have htotal := first_total hD hd
    rw [if_pos (by omega)] at htotal
    have hcontinue : shouldContinue (after {} (nextAnswer d {}).data)
        { data := (nextAnswer d {}).data, status := (nextAnswer d {}).status } = true := by
      apply shouldContinue_below (List.length_pos_iff.mp hpos)
      · rw [htotal]
        omega
      · rw [htotal]
        omega
      · rw [htotal, hbytes]
        omega
    rw [if_pos hcontinue] at hreads
    obtain ⟨read, rest, heq, hoffset, hdeclared⟩ := readNextChunk_head specifier subunitAddr 49
      hD hd hnext (show 0 + 1 < 50 by decide)
    have hread := hreads read (List.mem_cons_of_mem _ (by
      change read ∈ (readNextChunk _ _ _ 50 _).reads
      rw [heq]
      exact List.mem_cons_self))
    rw [hoffset, hdeclared, htotal, hbytes] at hread
    omega
  · intro hfirst
    have hsettled := settled_first hD hd hfirst
    have hrest := (hsettled.reads specifier subunitAddr kMaxAttempts hD hd hnext).1
    split_ifs
    · intro read hread
      rcases List.mem_cons.mp hread with rfl | hread
      · exact fun hfalse => absurd hfalse (Nat.lt_irrefl 0)
      · exact hrest read hread
    · intro read hread
      obtain rfl := List.mem_singleton.mp hread
      exact fun hfalse => absurd hfalse (Nat.lt_irrefl 0)

/-- A descriptor of two bytes, read at once. -/
lemma complete_empty_iff (hD : Declares descriptor) (hd : d.Conforms descriptor)
    (hlength : descriptor.length = 2) (hfull : d.Full descriptor) :
    (∃ result ∈ (readComplete (d.respond specifier) subunitAddr specifier).completions,
        result.success = true ∧ result.data.take descriptor.length = descriptor) ↔
      ¬ ((d 1 0 MAX_DESCRIPTOR_CHUNK_SIZE).status = ReadResultStatus.kMoreToRead ∧
        (d 2 2 MAX_DESCRIPTOR_CHUNK_SIZE).rejects = true) := by
  obtain ⟨haccepts, hpos⟩ := first_accepted hD hd
  have hnext := (inside_initial descriptor).after hd haccepts
  have hdata : (nextAnswer d {}).data = descriptor := by
    have hfirst := hfull 1 0 MAX_DESCRIPTOR_CHUNK_SIZE (by omega) (by decide)
    rw [List.drop_zero, List.take_of_length_le (by rw [hlength]; decide)] at hfirst
    exact hfirst
  have htotal : (after {} descriptor).totalDescriptorLength = 0 := by
    have hsum := first_total hD hd
    rw [hdata, hlength, if_pos le_rfl] at hsum
    exact hsum
  have hne : descriptor ≠ [] := List.length_pos_iff.mp (by omega)
  rw [readComplete, readNextChunk_step hD hd (inside_initial descriptor) (by decide)]
  dsimp only
  rw [haccepts, if_neg Bool.false_ne_true, hdata, shouldContinue_undeclared htotal]
  rw [hdata] at hnext
  by_cases hmore : (nextAnswer d {}).status = ReadResultStatus.kMoreToRead
  · have hstatus : (d 1 0 MAX_DESCRIPTOR_CHUNK_SIZE).status = ReadResultStatus.kMoreToRead := hmore
    have hsecond : nextAnswer d (after {} descriptor) = d 2 2 MAX_DESCRIPTOR_CHUNK_SIZE := by
      have hchunk : chunkSize (after {} descriptor) = MAX_DESCRIPTOR_CHUNK_SIZE := by
        rw [chunkSize, htotal]
        rfl
      have hoffset : (after {} descriptor).bytesReadSoFar = 2 := by
        rw [← hlength]
        exact Nat.zero_add _
      rw [nextAnswer, hchunk, hoffset]
      rfl
    have hturns : kMaxAttempts = 49 + 1 := rfl
    rw [if_pos (by simp [hne, hmore]), hturns,
      readNextChunk_step hD hd hnext (show 0 + 1 < 50 by decide), hsecond]
    dsimp only
    cases hrejects : (d 2 2 MAX_DESCRIPTOR_CHUNK_SIZE).rejects with
    | true =>
      rw [if_pos rfl]
      refine iff_of_false ?_ (fun hnot => hnot ⟨hstatus, rfl⟩)
      rintro ⟨result, hresult, hsuccess, _⟩
      obtain rfl := List.mem_singleton.mp hresult
      exact absurd hsuccess nofun
    | false =>
      have hempty : (d 2 2 MAX_DESCRIPTOR_CHUNK_SIZE).data = [] := by
        have hinside := hd.inside 2 2 MAX_DESCRIPTOR_CHUNK_SIZE hrejects
        rw [List.drop_eq_nil_of_le hlength.le, List.take_nil] at hinside
        exact List.prefix_nil.mp hinside
      have htotal' : (after (after {} descriptor) []).totalDescriptorLength = 0 := by
        rw [after_total (by change 0 < 0 + descriptor.length; omega), htotal]
      rw [if_neg Bool.false_ne_true, hempty, shouldContinue_undeclared htotal', if_neg (by simp)]
      refine iff_of_true ⟨_, List.mem_singleton_self _, rfl, ?_⟩ (fun hnot => absurd hnot.2 nofun)
      simp [after]
  · rw [if_neg (by simp [hmore])]
    refine iff_of_true ⟨_, List.mem_singleton_self _, rfl, ?_⟩ (fun hnot => hmore hnot.1)
    simp

/-- A declared length is read without its own two bytes. -/
lemma not_complete (hD : Declares descriptor) (hd : d.Conforms descriptor)
    (hlength : 2 < descriptor.length) (hfull : d.Full descriptor)
    (hfirst : (nextAnswer d {}).data.length ≤ descriptor.length - 2) :
    ¬ ∃ result ∈ (readComplete (d.respond specifier) subunitAddr specifier).completions,
      result.success = true ∧ result.data.take descriptor.length = descriptor := by
  obtain ⟨haccepts, _⟩ := first_accepted hD hd
  have hnext := (inside_initial descriptor).after hd haccepts
  have hsettled := settled_first hD hd (Or.inr hfirst)
  have htwo : 2 ≤ (nextAnswer d {}).data.length := by
    have hdata := hfull 1 0 MAX_DESCRIPTOR_CHUNK_SIZE (by omega) (by decide)
    have hmax : MAX_DESCRIPTOR_CHUNK_SIZE = 128 := rfl
    change 2 ≤ (d 1 0 MAX_DESCRIPTOR_CHUNK_SIZE).data.length
    rw [hdata, List.length_take, List.length_drop]
    omega
  have htotal := first_total hD hd
  rw [if_pos htwo] at htotal
  rintro ⟨result, hresult, hsuccess, htake⟩
  have hwhole : descriptor.length ≤ result.data.length := by
    rw [← htake, List.length_take]
    omega
  rw [readComplete, readNextChunk_step hD hd (inside_initial descriptor) (by decide)] at hresult
  dsimp only at hresult
  rw [haccepts, if_neg Bool.false_ne_true] at hresult
  split_ifs at hresult
  · have hshort := (hsettled.reads specifier subunitAddr kMaxAttempts hD hd hnext).2 result hresult
      hsuccess (by rw [htotal]; omega)
    rw [htotal] at hshort
    omega
  · obtain rfl := List.mem_singleton.mp hresult
    simp only [List.nil_append] at hwhole
    omega

/-- A descriptor is read as promised exactly if it has nothing behind its length field, and a device
with full chunks does not answer "more to read" and then reject; or if the device gives chunks that
are not full, the first of them no longer than the declared length. -/
theorem readComplete_iff (hD : Declares descriptor) (hd : d.Conforms descriptor)
    (subunitAddr : UInt8) (specifier : DescriptorSpecifier) :
    ReadsWhole d descriptor (readComplete (d.respond specifier) subunitAddr specifier) ↔
      descriptor.length = 2 ∧ (d.Full descriptor →
        ¬ ((d 1 0 MAX_DESCRIPTOR_CHUNK_SIZE).status = ReadResultStatus.kMoreToRead ∧
          (d 2 2 MAX_DESCRIPTOR_CHUNK_SIZE).rejects = true)) ∨
      2 < descriptor.length ∧
        (d 1 0 MAX_DESCRIPTOR_CHUNK_SIZE).data.length ≤ descriptor.length - 2 ∧
          ¬ d.Full descriptor := by
  obtain ⟨hcontiguous, hcounted⟩ := reads_contiguous specifier subunitAddr (kMaxAttempts + 1) hD hd
    (inside_initial descriptor)
  have hattempts : kMaxAttempts < ({} : ReadChunkState).attemptCount + (kMaxAttempts + 1) := by decide
  obtain ⟨honce, hfew⟩ := readNextChunk_once specifier subunitAddr _ (d.respond specifier) hattempts
    (by decide)
  have hunwrapped := unwrapped_iff specifier subunitAddr hD hd
  have hheader := hD.header
  constructor
  · intro hwhole
    have hfirst := hunwrapped.mp fun read hread => (hwhole.unwrapped read hread).1
    by_cases hlength : descriptor.length = 2
    · exact Or.inl ⟨hlength, fun hfull => (complete_empty_iff hD hd hlength hfull).mp
        (hwhole.complete hfull)⟩
    · have hle := hfirst.resolve_left hlength
      exact Or.inr ⟨by omega, hle, fun hfull =>
        not_complete hD hd (by omega) hfull hle (hwhole.complete hfull)⟩
  · intro hcondition
    refine ⟨hcontiguous, honce, by rw [readComplete]; simpa using hfew, fun read hread => ⟨?_, hcounted read hread⟩, ?_⟩
    · apply hunwrapped.mpr _ read hread
      rcases hcondition with ⟨hlength, _⟩ | ⟨_, hle, _⟩
      · exact Or.inl hlength
      · exact Or.inr hle
    · intro hfull
      rcases hcondition with ⟨hlength, hstatus⟩ | ⟨_, _, hpartial⟩
      · exact (complete_empty_iff hD hd hlength hfull).mpr (hstatus hfull)
      · exact absurd hfull hpartial

/-- A device that gives as many bytes as it is asked for. -/
def wholeChunks (descriptor : List UInt8) : Device := fun _ offset length =>
  { status := if offset + length < descriptor.length then ReadResultStatus.kMoreToRead
      else ReadResultStatus.kComplete
    data := (descriptor.drop offset).take length }

lemma wholeChunks_conforms (descriptor : List UInt8) :
    (wholeChunks descriptor).Conforms descriptor := by
  refine ⟨fun _ _ _ _ _ => by rfl, fun _ offset length hoffset hlength => ?_, fun _ _ _ _ => ?_⟩
  · apply List.length_pos_iff.mp
    rw [wholeChunks, List.length_take, List.length_drop]
    omega
  · exact List.prefix_refl _

theorem empty_read : ReadsWhole (wholeChunks [0, 0]) [0, 0]
    (readComplete ((wholeChunks [0, 0]).respond { type := 0x00 }) 0xFF { type := 0x00 }) :=
  (readComplete_iff ⟨by decide, by decide, by decide⟩ (wholeChunks_conforms [0, 0]) 0xFF
    { type := 0x00 }).mpr (Or.inl ⟨rfl, fun _ => by decide⟩)

/-- A descriptor of three bytes behind its length field: the remaining length wraps, and reading goes
on behind the descriptor until the attempts run out. -/
theorem not_short_read :
    ¬ ReadsWhole (wholeChunks [0, 3, 1, 2, 3]) [0, 3, 1, 2, 3]
      (readComplete ((wholeChunks [0, 3, 1, 2, 3]).respond { type := 0x00 }) 0xFF { type := 0x00 }) ∧
    (readComplete ((wholeChunks [0, 3, 1, 2, 3]).respond { type := 0x00 }) 0xFF
      { type := 0x00 }).completions = [{ success := false, avcResult := .timeout }] := by
  have htimeout : (readComplete ((wholeChunks [0, 3, 1, 2, 3]).respond { type := 0x00 }) 0xFF
      { type := 0x00 }).completions = [{ success := false, avcResult := .timeout }] := by
    decide +kernel
  refine ⟨fun hwhole => ?_, htimeout⟩
  obtain ⟨result, hresult, hsuccess, _⟩ := hwhole.complete fun _ _ _ _ _ => rfl
  rw [htimeout] at hresult
  obtain rfl := List.mem_singleton.mp hresult
  exact absurd hsuccess nofun

end DescriptorAccessor

end ASFireWire.AVC
