import ASFireWire.PacketBuilder
import ASFireWire.Widths

/-! Requests as IEEE 1394 lays them out against what the receive path decodes. The second header
quadlet of a request is `source_ID` and a full 16-bit `offset_high`; the decoder keeps twelve bits
of it, as in a response, and sign-extends. -/
namespace ASFireWire.Async

open Quadlets

/-- What distinguishes the five kinds of request: a data quadlet, a payload or a length. -/
inductive RequestBody
  | writeQuadlet (data : { bytes : List UInt8 // bytes.length = 4 })
  | writeBlock (payload : { bytes : List UInt8 // bytes.length < 2 ^ 16 })
  | readQuadlet
  | readBlock (dataLength : Fin (2 ^ 16))
  | lock (extendedTCode : Fin (2 ^ 16)) (payload : { bytes : List UInt8 // bytes.length < 2 ^ 16 })

namespace RequestBody

def tCode : RequestBody → ℕ
  | writeQuadlet _ => 0x0
  | writeBlock _ => 0x1
  | readQuadlet => 0x4
  | readBlock _ => 0x5
  | lock _ _ => 0x9

def dataLength : RequestBody → ℕ
  | writeBlock payload => payload.val.length
  | readBlock dataLength => dataLength.val
  | lock _ payload => payload.val.length
  | _ => 0

def extendedTCode : RequestBody → ℕ
  | lock extendedTCode _ => extendedTCode.val
  | _ => 0

/-- The data block behind the header. -/
def payload : RequestBody → List UInt8
  | writeBlock payload => payload.val
  | lock _ payload => payload.val
  | _ => []

/-- The header bytes from the fourth quadlet on. -/
def fourthQuadlet : RequestBody → List UInt8
  | writeQuadlet data => data.val
  | readQuadlet => []
  | body => leBytes (body.dataLength * 2 ^ 16 + body.extendedTCode)

end RequestBody

/-- An asynchronous request packet. -/
structure AsyncRequest where
  destID : Fin (2 ^ 16)
  tLabel : Fin 64
  rt : Fin 4
  priority : Fin 16
  sourceID : Fin (2 ^ 16)
  destOffset : Fin (2 ^ 48)
  body : RequestBody

namespace AsyncRequest

def quadlet0 (r : AsyncRequest) : ℕ :=
  r.destID.val * 2 ^ 16 + r.tLabel.val * 2 ^ 10 + r.rt.val * 2 ^ 8 + r.body.tCode * 2 ^ 4 +
    r.priority.val

def offsetHigh (r : AsyncRequest) : ℕ := r.destOffset.val / 2 ^ 32

def quadlet1 (r : AsyncRequest) : ℕ := r.sourceID.val * 2 ^ 16 + r.offsetHigh

def offsetLow (r : AsyncRequest) : ℕ := r.destOffset.val % 2 ^ 32

/-- Header quadlets in AR DMA order. -/
def header (r : AsyncRequest) : List UInt8 :=
  leBytes r.quadlet0 ++ (leBytes r.quadlet1 ++ (leBytes r.offsetLow ++ r.body.fourthQuadlet))

/-- Data padded to a quadlet boundary. -/
def padded (payload : List UInt8) : List UInt8 :=
  payload ++ List.replicate (quadletAligned payload.length - payload.length) 0

/-- The packet in receive memory, trailer included. -/
def memory (r : AsyncRequest) (xferStatus timeStamp : Fin (2 ^ 16)) : List UInt8 :=
  r.header ++ (padded r.body.payload ++ leBytes (xferStatus.val * 2 ^ 16 + timeStamp.val))

end AsyncRequest

/-- The receive path up to the handlers: parser, dispatch view, request context. -/
def receive (buffer : List UInt8) (offset generation : ℕ) :
    Option (ARPacketView × LocalRequestContext) :=
  match parseNext buffer offset with
  | .error _ => none
  | .ok info => (buildView info).map fun view => (view, requestContext view generation)

namespace AsyncRequest

/-- The context carries exactly the request's fields. -/
structure Exact (r : AsyncRequest) (view : ARPacketView) (ctx : LocalRequestContext) : Prop where
  tCode : ctx.tCode = r.body.tCode
  sourceID : ctx.sourceID = r.sourceID.val
  destOffset : ctx.destOffset = r.destOffset.val
  dataLength : ctx.dataLength = r.body.dataLength
  extendedTCode : ctx.extendedTCode = r.body.extendedTCode
  payload : view.payload = r.body.payload
  destID : view.destID = r.destID.val
  tLabel : view.tLabel = r.tLabel.val

lemma tCode_lt (body : RequestBody) : body.tCode < 16 := by
  cases body <;> simp [RequestBody.tCode]

lemma quadlet0_lt (r : AsyncRequest) : r.quadlet0 < 2 ^ 32 := by
  have h1 := r.destID.isLt
  have h2 := r.tLabel.isLt
  have h3 := r.rt.isLt
  have h4 := r.priority.isLt
  have h5 := tCode_lt r.body
  unfold quadlet0
  omega

lemma quadlet1_lt (r : AsyncRequest) : r.quadlet1 < 2 ^ 32 := by
  have h1 := r.sourceID.isLt
  have h2 := r.destOffset.isLt
  unfold quadlet1 offsetHigh
  omega

lemma header_length (r : AsyncRequest) : r.header.length = getHeaderLength r.body.tCode := by
  obtain ⟨destID, tLabel, rt, priority, sourceID, destOffset, body⟩ := r
  cases body with
  | writeQuadlet data => simp [header, RequestBody.fourthQuadlet, RequestBody.tCode,
      getHeaderLength, data.property]
  | writeBlock _ | readQuadlet | readBlock _ | lock _ _ =>
    simp [header, RequestBody.fourthQuadlet, RequestBody.tCode, getHeaderLength]

lemma header_length_pos (r : AsyncRequest) : 12 ≤ r.header.length := by
  simp only [header, List.length_append, length_leBytes]
  omega

lemma padded_length (payload : List UInt8) : (padded payload).length = quadletAligned payload.length := by
  have : payload.length ≤ quadletAligned payload.length := by
    unfold quadletAligned
    omega
  simp only [padded, List.length_append, List.length_replicate]
  omega

section Packet
variable (r : AsyncRequest) (x t : Fin (2 ^ 16)) (rest : List UInt8)

lemma le32At_quadlet0 : le32At (r.header ++ rest) 0 = r.quadlet0 := by
  rw [header, List.append_assoc, le32At_stored, Nat.mod_eq_of_lt r.quadlet0_lt]

lemma le32At_quadlet1 : le32At (r.header ++ rest) 4 = r.quadlet1 := by
  rw [header, List.append_assoc, ← Nat.zero_add 4, le32At_behind, List.append_assoc, le32At_stored,
    Nat.mod_eq_of_lt r.quadlet1_lt]

lemma le32At_offsetLow : le32At (r.header ++ rest) 8 = r.offsetLow := by
  have hlt : r.offsetLow < 2 ^ 32 := Nat.mod_lt _ (by norm_num)
  rw [header, List.append_assoc, show 8 = 0 + 4 + 4 from rfl, le32At_behind, List.append_assoc,
    le32At_behind, List.append_assoc, le32At_stored, Nat.mod_eq_of_lt hlt]

lemma byteAt_header (i : ℕ) : byteAt r.header (i + 12) = byteAt r.body.fourthQuadlet i := by
  rw [header, show i + 12 = i + 8 + 4 by omega, byteAt_behind, show i + 8 = i + 4 + 4 by omega,
    byteAt_behind, byteAt_behind]

lemma le32At_fourthQuadlet : le32At r.header 12 = le32At r.body.fourthQuadlet 0 := by
  have h0 := r.byteAt_header 0
  have h1 := r.byteAt_header 1
  have h2 := r.byteAt_header 2
  have h3 := r.byteAt_header 3
  norm_num at h0 h1 h2 h3
  simp only [le32At, h0, h1, h2, h3, Nat.zero_add, Nat.reduceAdd]

lemma tCode_quadlet0 : r.quadlet0 / 16 % 16 = r.body.tCode := by
  have h1 := tCode_lt r.body
  have h2 := r.priority.isLt
  unfold quadlet0
  omega

lemma getDataLength_header : getDataLength r.header r.body.tCode = r.body.payload.length := by
  have hfour := r.le32At_fourthQuadlet
  have hlen := r.header_length
  obtain ⟨destID, tLabel, rt, priority, sourceID, destOffset, body⟩ := r
  dsimp only at hfour hlen ⊢
  cases body with
  | writeQuadlet _ | readQuadlet | readBlock _ => rfl
  | writeBlock payload =>
    have hp := payload.property
    have hq := le32At_stored (payload.val.length * 2 ^ 16) []
    simp only [RequestBody.fourthQuadlet, RequestBody.dataLength, RequestBody.extendedTCode,
      Nat.add_zero] at hfour
    rw [List.append_nil] at hq
    simp only [RequestBody.tCode, getHeaderLength] at hlen
    simp only [getDataLength, RequestBody.tCode, RequestBody.payload, hlen, hfour, hq, lt_irrefl,
      if_false]
    omega
  | lock extendedTCode payload =>
    have hp := payload.property
    have he := extendedTCode.isLt
    have hq := le32At_stored (payload.val.length * 2 ^ 16 + extendedTCode.val) []
    simp only [RequestBody.fourthQuadlet, RequestBody.dataLength, RequestBody.extendedTCode] at hfour
    rw [List.append_nil] at hq
    simp only [RequestBody.tCode, getHeaderLength] at hlen
    simp only [getDataLength, RequestBody.tCode, RequestBody.payload, hlen, hfour, hq, lt_irrefl,
      if_false]
    omega

lemma header_length_cases : r.header.length = 12 ∨ r.header.length = 16 := by
  rw [header_length]
  cases r.body <;> simp [RequestBody.tCode, getHeaderLength]

/-- What the parser makes of a request packet anywhere in the receive buffer. -/
lemma parseNext_memory (front : List UInt8) :
    parseNext (front ++ (r.memory x t ++ rest)) front.length =
      if kMaxAsyncPayloadBytes < r.body.payload.length then .error .oversizedPayload
      else if r.quadlet0 = 0 ∧ r.quadlet1 = 0 ∧ x.val = 0 ∧ t.val = 0 then .error .zeroGarbage
      else .ok {
        packetStart := r.memory x t ++ rest, headerLength := r.header.length
        dataLength := r.body.payload.length
        totalLength := r.header.length + quadletAligned r.body.payload.length + 4
        tCode := r.body.tCode, rCode := rCodeOf r.body.tCode r.quadlet1
        xferStatus := x.val, timeStamp := t.val } := by
  have hx := x.isLt
  have ht := t.isLt
  have hpos := r.header_length_pos
  have hmem : r.memory x t ++ rest = r.header ++ (padded r.body.payload ++
      (leBytes (x.val * 2 ^ 16 + t.val) ++ rest)) := by simp [memory]
  have hlen : (r.memory x t ++ rest).length =
      r.header.length + quadletAligned r.body.payload.length + 4 + rest.length := by
    rw [hmem]
    simp only [List.length_append, padded_length, length_leBytes]
    omega
  have htake : (r.memory x t ++ rest).take r.header.length = r.header := by
    rw [hmem, List.take_left]
  have halign : quadletAligned (r.header.length + r.body.payload.length) =
      r.header.length + quadletAligned r.body.payload.length := by
    unfold quadletAligned
    rcases r.header_length_cases with h | h <;> rw [h] <;> omega
  have htrailer : le32At (r.memory x t ++ rest)
      (r.header.length + quadletAligned r.body.payload.length) = x.val * 2 ^ 16 + t.val := by
    rw [hmem, le32At_append_right, ← padded_length, ← Nat.add_zero (padded _).length,
      le32At_append_right, le32At_stored]
    omega
  have hq0 : le32At (r.memory x t ++ rest) 0 = r.quadlet0 := by rw [hmem, le32At_quadlet0]
  have hq1 : le32At (r.memory x t ++ rest) 4 = r.quadlet1 := by rw [hmem, le32At_quadlet1]
  unfold parseNext
  dsimp only
  rw [List.drop_left, hlen, if_neg (by omega), hq0, hq1, tCode_quadlet0, ← header_length,
    if_neg (by omega), if_neg (by omega), htake, getDataLength_header]
  by_cases hover : kMaxAsyncPayloadBytes < r.body.payload.length
  · rw [if_pos hover, if_pos hover]
  · rw [if_neg hover, if_neg hover, halign, if_neg (by omega), htrailer,
      show (x.val * 2 ^ 16 + t.val) / 2 ^ 16 = x.val by omega,
      show (x.val * 2 ^ 16 + t.val) % 2 ^ 16 = t.val by omega]

/-! ### Decoded fields -/

/-- The address the decoder sees: `offset_high` cut to twelve bits and sign-extended. -/
def seenOffset (r : AsyncRequest) : ℕ :=
  (if 0x800 ≤ r.offsetHigh % 2 ^ 12 then r.offsetHigh % 2 ^ 12 + 0xF000 else r.offsetHigh % 2 ^ 12)
    * 2 ^ 32 + r.offsetLow

lemma extractDestOffset_header : extractDestOffset r.header = r.seenOffset := by
  have hpos := r.header_length_pos
  have hq1 := r.le32At_quadlet1 []
  have hlow := r.le32At_offsetLow []
  rw [List.append_nil] at hq1 hlow
  have hb4 := byteAt_lt r.header 4
  have hb5 := byteAt_lt r.header 5
  have hb6 := byteAt_lt r.header 6
  have hoff := r.destOffset.isLt
  have hhigh : byteAt r.header 5 % 16 * 2 ^ 8 + byteAt r.header 4 = r.offsetHigh % 2 ^ 12 := by
    simp only [le32At, Nat.reduceAdd, quadlet1] at hq1
    omega
  unfold extractDestOffset seenOffset
  rw [if_neg (by omega), hhigh, hlow]

lemma extractSourceID_header : extractSourceID r.header = r.sourceID.val := by
  have hpos := r.header_length_pos
  have hq1 := r.le32At_quadlet1 []
  rw [List.append_nil] at hq1
  have hoff := r.destOffset.isLt
  have hb4 := byteAt_lt r.header 4
  have hb5 := byteAt_lt r.header 5
  have hb6 := byteAt_lt r.header 6
  have hb7 := byteAt_lt r.header 7
  simp only [le32At, Nat.reduceAdd, quadlet1, offsetHigh] at hq1
  unfold extractSourceID
  rw [if_neg (by omega)]
  omega

lemma extractDestID_header : extractDestID r.header = r.destID.val := by
  have hpos := r.header_length_pos
  have hq0 := r.le32At_quadlet0 []
  rw [List.append_nil] at hq0
  have hcode := tCode_lt r.body
  have hb0 := byteAt_lt r.header 0
  have hb1 := byteAt_lt r.header 1
  simp only [le32At, Nat.zero_add, quadlet0] at hq0
  unfold extractDestID
  rw [if_neg (by omega)]
  omega

lemma extractTLabel_header : extractTLabel r.header = r.tLabel.val := by
  have hpos := r.header_length_pos
  have hq0 := r.le32At_quadlet0 []
  rw [List.append_nil] at hq0
  have hcode := tCode_lt r.body
  have hb0 := byteAt_lt r.header 0
  have hb1 := byteAt_lt r.header 1
  simp only [le32At, Nat.zero_add, quadlet0] at hq0
  unfold extractTLabel
  rw [if_neg (by omega)]
  omega

/-- Length and extended tCode of the block kinds, from the fourth quadlet. -/
lemma extract_fourthQuadlet {len ext : ℕ} (hlen : len < 2 ^ 16) (hext : ext < 2 ^ 16)
    (hheader : r.header.length = 16)
    (hfour : r.body.fourthQuadlet = leBytes (len * 2 ^ 16 + ext)) :
    extractDataLength r.header = len ∧ extractExtendedTCode r.header = ext := by
  have h0 := r.byteAt_header 0
  have h1 := r.byteAt_header 1
  have h2 := r.byteAt_header 2
  have h3 := r.byteAt_header 3
  obtain ⟨hv0, hv1, hv2, hv3⟩ := byteAt_leBytes (len * 2 ^ 16 + ext)
  rw [hfour] at h0 h1 h2 h3
  simp only [Nat.zero_add, Nat.reduceAdd] at h0 h1 h2 h3
  unfold extractDataLength extractExtendedTCode
  rw [hheader, if_neg (by omega), if_neg (by omega), h0, h1, h2, h3, hv0, hv1, hv2, hv3]
  omega

/-- The dispatch view of the request. -/
def view : ARPacketView where
  header := r.header
  payload := r.body.payload
  tCode := r.body.tCode
  sourceID := r.sourceID.val
  destID := r.destID.val
  tLabel := r.tLabel.val
  xferStatus := x.val
  timeStamp := t.val

lemma buildView_memory (h : r.body.payload.length ≤ kMaxAsyncPayloadBytes) (total rCode : ℕ) :
    buildView {
      packetStart := r.memory x t ++ rest, headerLength := r.header.length
      dataLength := r.body.payload.length, totalLength := total
      tCode := r.body.tCode, rCode := rCode, xferStatus := x.val, timeStamp := t.val } =
        some (r.view x t) := by
  have hpos := r.header_length_pos
  have hmem : r.memory x t ++ rest = r.header ++ (r.body.payload ++ (List.replicate
      (quadletAligned r.body.payload.length - r.body.payload.length) 0 ++
        (leBytes (x.val * 2 ^ 16 + t.val) ++ rest))) := by simp [memory, padded]
  have hcopy : copyAlignedPayload r.body.payload = r.body.payload := by
    unfold copyAlignedPayload kPayloadScratchBytes
    rw [if_neg (by unfold kMaxAsyncPayloadBytes at h; omega)]
  have hkeep : (if 0 < r.body.payload.length then r.body.payload else []) = r.body.payload := by
    split
    · rfl
    · rename_i hzero
      exact (List.length_eq_zero_iff.mp (by omega)).symm
  unfold buildView
  dsimp only
  have hids : 6 ≤ r.header.length := by omega
  rw [hmem, List.drop_left, List.take_left, List.take_left, hcopy, if_neg ?_, hkeep, if_pos hids,
    if_pos hids, if_pos hids, extractSourceID_header, extractDestID_header, extractTLabel_header,
    Nat.mod_eq_of_lt x.isLt, Nat.mod_eq_of_lt t.isLt]
  · rfl
  · rintro ⟨hlen, hnil⟩
    rw [hnil] at hlen
    exact absurd hlen (by simp)

/-- The request context of a parsed request: everything but the address is exact. -/
lemma requestContext_view (generation : ℕ) :
    let ctx := requestContext (r.view x t) generation
    ctx.tCode = r.body.tCode ∧ ctx.sourceID = r.sourceID.val ∧ ctx.destOffset = r.seenOffset ∧
      ctx.dataLength = r.body.dataLength ∧ ctx.extendedTCode = r.body.extendedTCode := by
  have hoffset := r.extractDestOffset_header
  have hlen := r.header_length
  have hfour := @extract_fourthQuadlet r
  dsimp only
  unfold requestContext
  simp only [view, hoffset]
  cases hbody : r.body with
  | writeQuadlet data =>
    rw [hbody] at hlen
    simp [kTcodeWriteQuad, RequestBody.tCode, RequestBody.dataLength, RequestBody.extendedTCode,
      hlen, getHeaderLength]
  | readQuadlet =>
    simp [kTcodeWriteQuad, kTcodeWriteBlock, kTcodeReadBlock, kTcodeLockRequest, RequestBody.tCode,
      RequestBody.dataLength, RequestBody.extendedTCode]
  | writeBlock payload =>
    rw [hbody] at hlen hfour
    obtain ⟨hd, -⟩ := hfour payload.property (by norm_num : 0 < 2 ^ 16) hlen rfl
    simp [kTcodeWriteQuad, kTcodeWriteBlock, RequestBody.tCode, RequestBody.dataLength,
      RequestBody.extendedTCode, hd]
  | readBlock dataLength =>
    rw [hbody] at hlen hfour
    obtain ⟨hd, -⟩ := hfour dataLength.isLt (by norm_num : 0 < 2 ^ 16) hlen rfl
    simp [kTcodeWriteQuad, kTcodeWriteBlock, kTcodeReadBlock, RequestBody.tCode,
      RequestBody.dataLength, RequestBody.extendedTCode, hd]
  | lock extendedTCode payload =>
    rw [hbody] at hlen hfour
    obtain ⟨hd, he⟩ := hfour payload.property extendedTCode.isLt hlen rfl
    simp [kTcodeWriteQuad, kTcodeWriteBlock, kTcodeReadBlock, kTcodeLockRequest, RequestBody.tCode,
      RequestBody.dataLength, RequestBody.extendedTCode, hd, he]

end Packet

end AsyncRequest

/-! ### Requests built by `PacketBuilder` -/

namespace BuildCall

/-- What is on the wire for a builder call. -/
def body : BuildCall → RequestBody
  | readQuadlet _ => .readQuadlet
  | readBlock params => .readBlock (Fin.ofNat _ params.length.toNat)
  | writeQuadlet params => .writeQuadlet ⟨leBytes (le32At (params.payload.getD []) 0), rfl⟩
  | writeBlock params => .writeBlock ⟨(params.payload.getD []).takeD (params.length.toNat % 2 ^ 16) 0,
      by rw [List.takeD_length]; exact Nat.mod_lt _ (by norm_num)⟩
  | lock params extendedTCode => .lock (Fin.ofNat _ extendedTCode.toNat)
      ⟨(params.operand.getD []).takeD (params.operandLength.toNat % 2 ^ 16) 0,
        by rw [List.takeD_length]; exact Nat.mod_lt _ (by norm_num)⟩

def request (call : BuildCall) (label : UInt8) (context : PacketContext)
    (sourceID : Fin (2 ^ 16)) : AsyncRequest where
  destID := Fin.ofNat _ (PacketBuilder.destID context call.destinationID)
  tLabel := Fin.ofNat _ label.toNat
  rt := 1
  priority := 0
  sourceID := sourceID
  destOffset := Fin.ofNat _ call.address
  body := call.body

end BuildCall

namespace BuildCall

end BuildCall

end ASFireWire.Async
