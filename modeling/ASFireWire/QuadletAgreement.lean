import ASFireWire.RequestDecoding
import ASFireWire.LocalHandlers
import ASFireWire.Widths

/-! Quadlet against block transactions at the local handlers. Bytes 12 to 15 of a quadlet write or
quadlet read response are the data in bus order, as `PacketBuilder` and `RxPath` have it; a
handler that goes through the little-endian number sees them reversed. -/
namespace ASFireWire.Service

open Async Bus SBP2 Quadlets

/-- Four data bytes. -/
abbrev Quadlet := { bytes : List UInt8 // bytes.length = 4 }

namespace Quadlet

/-- The same bytes in either order. -/
def Palindromic (d : Quadlet) : Prop := d.val.reverse = d.val

instance (d : Quadlet) : Decidable d.Palindromic := inferInstanceAs (Decidable (_ = _))

/-- The number the bytes stand for on the bus. -/
def number (d : Quadlet) : ℕ := be32At d.val 0

lemma bytes_eq (d : Quadlet) : ∃ b0 b1 b2 b3, d.val = [b0, b1, b2, b3] := by
  obtain ⟨bytes, h⟩ := d
  match bytes, h with
  | [b0, b1, b2, b3], _ => exact ⟨b0, b1, b2, b3, rfl⟩

lemma le32At_reverse (d : Quadlet) : le32At d.val.reverse 0 = d.number := by
  obtain ⟨b0, b1, b2, b3, h⟩ := d.bytes_eq
  simp only [number, h, le32At, be32At, byteAt, List.reverse_cons, List.reverse_nil, List.nil_append,
    List.cons_append, List.getD_cons_zero, List.getD_cons_succ, Nat.zero_add]

lemma beBytes_number (d : Quadlet) : beBytes d.number = d.val := by
  have h : leBytes (le32At d.val.reverse 0) = d.val.reverse :=
    leBytes_le32At (by rw [List.length_reverse, d.property])
  rw [le32At_reverse] at h
  rw [beBytes, h, List.reverse_reverse]

lemma beBytes_le32At (d : Quadlet) : beBytes (le32At d.val 0) = d.val.reverse := by
  rw [beBytes, leBytes_le32At d.property]

end Quadlet

/-! ### The four transactions on one address -/

section Contexts
variable (r : AsyncRequest) (x t : Fin (2 ^ 16)) (generation : ℕ) (d : Quadlet)

/-- The handlers' view of a quadlet write of four bytes to the address of `r`. -/
def quadletWrite : LocalRequestContext :=
  requestContext (AsyncRequest.view { r with body := .writeQuadlet d } x t) generation

def blockWrite : LocalRequestContext :=
  requestContext (AsyncRequest.view { r with
    body := .writeBlock ⟨d.val, by rw [d.property]; decide⟩ } x t) generation

def quadletRead : LocalRequestContext :=
  requestContext (AsyncRequest.view { r with body := .readQuadlet } x t) generation

def blockRead : LocalRequestContext :=
  requestContext (AsyncRequest.view { r with body := .readBlock 4 } x t) generation

lemma quadletWrite_eq : quadletWrite r x t generation d = {
    destOffset := r.seenOffset, tCode := kTcodeWriteQuad, sourceID := r.sourceID.val
    generation := generation, quadletData := le32At d.val 0, writePayload := d.val } := by
  have hoffset := AsyncRequest.extractDestOffset_header { r with body := .writeQuadlet d }
  have hfour := AsyncRequest.le32At_fourthQuadlet { r with body := .writeQuadlet d }
  have hlen : (AsyncRequest.header { r with body := .writeQuadlet d }).length = 16 :=
    AsyncRequest.header_length { r with body := .writeQuadlet d }
  have hdata : ((AsyncRequest.header { r with body := .writeQuadlet d }).drop 12).take 4 = d.val :=
    List.take_of_length_le d.property.le
  have hquad : readQuadletDataLE (AsyncRequest.header { r with body := .writeQuadlet d }) =
      le32At d.val 0 := by
    unfold readQuadletDataLE
    rw [hlen, if_neg (by omega)]
    exact hfour
  unfold quadletWrite requestContext AsyncRequest.view
  dsimp only
  rw [if_pos ⟨rfl, hlen.ge⟩, hoffset, hquad, hdata]
  rfl

lemma blockWrite_eq : blockWrite r x t generation d = {
    destOffset := r.seenOffset, tCode := kTcodeWriteBlock, sourceID := r.sourceID.val
    generation := generation, writePayload := d.val, dataLength := 4 } := by
  have hlt : d.val.length < 2 ^ 16 := by
    rw [d.property]
    decide
  have hoffset := AsyncRequest.extractDestOffset_header { r with body := .writeBlock ⟨d.val, hlt⟩ }
  have hlength := (AsyncRequest.extract_fourthQuadlet { r with body := .writeBlock ⟨d.val, hlt⟩ } hlt
    (by decide : 0 < 2 ^ 16) (AsyncRequest.header_length _) rfl).1
  unfold blockWrite requestContext AsyncRequest.view
  dsimp only
  rw [if_neg fun h => absurd h.1 (show kTcodeWriteBlock ≠ kTcodeWriteQuad by decide),
    if_pos (show RequestBody.tCode (.writeBlock ⟨d.val, hlt⟩) = kTcodeWriteBlock from rfl), hoffset,
    hlength, d.property]
  rfl

lemma quadletRead_eq : quadletRead r x t generation = {
    destOffset := r.seenOffset, tCode := kTcodeReadQuad, sourceID := r.sourceID.val
    generation := generation } := by
  have hoffset := AsyncRequest.extractDestOffset_header { r with body := .readQuadlet }
  have hsame : AsyncRequest.seenOffset { r with body := .readQuadlet } = r.seenOffset := rfl
  rw [← hsame, ← hoffset]
  rfl

lemma blockRead_eq : blockRead r x t generation = {
    destOffset := r.seenOffset, tCode := kTcodeReadBlock, sourceID := r.sourceID.val
    generation := generation, dataLength := 4 } := by
  obtain ⟨-, -, hoffset, hlength, -⟩ :=
    AsyncRequest.requestContext_view { r with body := .readBlock 4 } x t generation
  have hsame : AsyncRequest.seenOffset { r with body := .readBlock 4 } = r.seenOffset := rfl
  have hfour : RequestBody.dataLength (.readBlock 4) = 4 := rfl
  rw [← hsame, ← hoffset, ← hfour, ← hlength]
  rfl

end Contexts

/-! ### Writes -/

namespace WiredHandler

/-- What a quadlet write of the number `value` means to each handler. -/
def writeNumber (h : WiredHandler) (ctx : LocalRequestContext) (value : ℕ) (w : LocalWorld) :
    LocalRequestResult × LocalWorld :=
  match h with
  | csr =>
    match w.csrResponder with
    | none => (.notMine, w)
    | some responder => w.csrWrite responder (ctx.destOffset % 2 ^ 32) value
  | fcp =>
    match w.fcpResponseRouter with
    | none => (.notMine, w)
    | some router => w.fcpRoute router ctx (beBytes value)
  | dice => w.dicePublish value
  | fireworksEfc => (.write .dataError, w)
  | sbp2 =>
    match w.sbp2AddressSpaceManager with
    | none => (.notMine, w)
    | some mgr => w.sbp2Write mgr ctx.destOffset (beBytes value)

/-- Where both writes are claimed they have the same result and effect. -/
def WritesAgree (h : WiredHandler) (quad block : LocalRequestContext) : Prop :=
  ∀ w, (h.handle quad w).1.claimed = true → (h.handle block w).1.claimed = true →
    h.handle quad w = h.handle block w

/-- A claimed quadlet write stores this number. -/
def Stores (h : WiredHandler) (quad : LocalRequestContext) (value : ℕ) : Prop :=
  ∀ w, (h.handle quad w).1.claimed = true → h.handle quad w = h.writeNumber quad value w

end WiredHandler

def InFcpWindow (address : ℕ) : Prop :=
  kFCPResponseAddress ≤ address ∧ address < kFCPResponseAddressEnd

section Fcp
variable {w : LocalWorld} {fcp : FCPResponseRouter} {ctx : LocalRequestContext}

lemma fcpRoute_claimed {payload : List UInt8} :
    (w.fcpRoute fcp ctx payload).1.claimed = true ↔ InFcpWindow ctx.destOffset := by
  unfold LocalWorld.fcpRoute FCPResponseRouter.routeBlockWrite InFcpWindow
  by_cases hout : ctx.destOffset < kFCPResponseAddress ∨ kFCPResponseAddressEnd ≤ ctx.destOffset
  · simp only [if_pos hout, if_true, LocalRequestResult.notMine, Bool.false_eq_true, false_iff]
    omega
  · have hin : kFCPResponseAddress ≤ ctx.destOffset ∧ ctx.destOffset < kFCPResponseAddressEnd := by
      omega
    simp only [if_neg hout, hin, and_self, iff_true]
    split <;> simp [LocalRequestResult.write]

lemma fcpRoute_congr {ctx' : LocalRequestContext} (hsource : ctx'.sourceID = ctx.sourceID)
    (haddress : ctx'.destOffset = ctx.destOffset) (hgeneration : ctx'.generation = ctx.generation)
    (payload : List UInt8) : w.fcpRoute fcp ctx' payload = w.fcpRoute fcp ctx payload := by
  unfold LocalWorld.fcpRoute
  rw [hsource, haddress, hgeneration]

/-- A node with a transport gets the frame as it is. -/
lemma fcpRoute_delivered (hin : InFcpWindow ctx.destOffset)
    (htransport : fcp.transports ctx.sourceID = true) (payload : List UInt8) :
    (w.fcpRoute fcp ctx payload).2.fcpResponseRouter.map (·.delivered) =
      some (fcp.delivered ++ [(ctx.sourceID, ctx.generation, payload)]) := by
  unfold LocalWorld.fcpRoute FCPResponseRouter.routeBlockWrite
  unfold InFcpWindow at hin
  rw [if_neg (by omega)]
  simp [htransport]

/-- The two frames have the same effect at a claimed address only when they are equal. -/
lemma fcpRoute_inj (hin : InFcpWindow ctx.destOffset)
    (htransport : fcp.transports ctx.sourceID = true) {payload payload' : List UInt8}
    (h : w.fcpRoute fcp ctx payload = w.fcpRoute fcp ctx payload') : payload = payload' := by
  have heq := congrArg (fun out => out.2.fcpResponseRouter.map (·.delivered)) h
  rw [fcpRoute_delivered hin htransport, fcpRoute_delivered hin htransport] at heq
  simpa using heq

/-- A quadlet write reaches the router back to front. -/
lemma fcpLocalHandler_quadlet (hrouter : w.fcpResponseRouter = some fcp)
    (hcode : ctx.tCode = kTcodeWriteQuad) :
    fcpLocalHandler ctx w = w.fcpRoute fcp ctx (beBytes ctx.quadletData) := by
  have hne : ¬ kTcodeWriteQuad = kTcodeWriteBlock := by decide
  simp only [fcpLocalHandler, hrouter, hcode, if_neg hne, if_true]

lemma fcpLocalHandler_block (hrouter : w.fcpResponseRouter = some fcp)
    (hcode : ctx.tCode = kTcodeWriteBlock) (hne : ctx.writePayload ≠ []) :
    fcpLocalHandler ctx w = w.fcpRoute fcp ctx ctx.writePayload := by
  simp only [fcpLocalHandler, hrouter, hcode, if_neg hne, if_true]

lemma fcpLocalHandler_none (hrouter : w.fcpResponseRouter = none) :
    fcpLocalHandler ctx w = (.notMine, w) := by
  simp only [fcpLocalHandler, hrouter]

end Fcp

section Csr

lemma isBit_le32At (d : Quadlet) :
    (CSRResponder.isBit (le32At d.val 0) kCSRStateBitCMSTR = true ↔ byteAt d.val 1 % 2 = 1) ∧
      (CSRResponder.isBit (le32At d.val 0) kCSRStateBitABDICATE = true ↔
        byteAt d.val 1 / 4 % 2 = 1) ∧ le32At d.val 0 / 2 ^ 30 % 2 = byteAt d.val 3 / 64 % 2 := by
  have h0 := byteAt_lt d.val 0
  have h1 := byteAt_lt d.val 1
  have h2 := byteAt_lt d.val 2
  have h3 := byteAt_lt d.val 3
  simp only [CSRResponder.isBit, kCSRStateBitCMSTR, kCSRStateBitABDICATE, decide_eq_true_eq, le32At,
    Nat.zero_add]
  omega

lemma isBit_number (d : Quadlet) :
    (CSRResponder.isBit d.number kCSRStateBitCMSTR = true ↔ byteAt d.val 2 % 2 = 1) ∧
      (CSRResponder.isBit d.number kCSRStateBitABDICATE = true ↔ byteAt d.val 2 / 4 % 2 = 1) ∧
      d.number / 2 ^ 30 % 2 = byteAt d.val 0 / 64 % 2 := by
  have h0 := byteAt_lt d.val 0
  have h1 := byteAt_lt d.val 1
  have h2 := byteAt_lt d.val 2
  have h3 := byteAt_lt d.val 3
  simp only [CSRResponder.isBit, kCSRStateBitCMSTR, kCSRStateBitABDICATE, decide_eq_true_eq,
    Quadlet.number, be32At, Nat.zero_add]
  omega

/-- A root's responder in the state opposite to what a state write would leave. -/
def contrary (isSet : Bool) : CSRResponder :=
  { root := some true, cycleMaster := some !isSet, broadcastChannel := some 0, abdicate := !isSet }

/-- A state write looks at two bits. -/
lemma handleStateWrite_congr {value value' : ℕ}
    (hc : CSRResponder.isBit value kCSRStateBitCMSTR = CSRResponder.isBit value' kCSRStateBitCMSTR)
    (ha : CSRResponder.isBit value kCSRStateBitABDICATE =
      CSRResponder.isBit value' kCSRStateBitABDICATE) (isSet : Bool) (csr : CSRResponder) :
    csr.handleStateWrite isSet value = csr.handleStateWrite isSet value' := by
  unfold CSRResponder.handleStateWrite
  rw [hc, ha]

/-- In the contrary state both bits show. -/
lemma isBit_of_handleStateWrite (isSet : Bool) {value value' : ℕ}
    (h : ((contrary isSet).handleStateWrite isSet value).2 =
      ((contrary isSet).handleStateWrite isSet value').2) :
    CSRResponder.isBit value kCSRStateBitCMSTR = CSRResponder.isBit value' kCSRStateBitCMSTR ∧
      CSRResponder.isBit value kCSRStateBitABDICATE =
        CSRResponder.isBit value' kCSRStateBitABDICATE := by
  have heq := congrArg (fun csr => (csr.cycleMaster, csr.abdicate)) h
  unfold CSRResponder.handleStateWrite contrary at heq
  cases hc : CSRResponder.isBit value kCSRStateBitCMSTR <;>
    cases ha : CSRResponder.isBit value kCSRStateBitABDICATE <;>
    cases hc' : CSRResponder.isBit value' kCSRStateBitCMSTR <;>
    cases ha' : CSRResponder.isBit value' kCSRStateBitABDICATE <;> simp_all

/-- The registers whose writes look at the data, and what has to agree in the two byte orders. -/
def RegisterSymmetric (off : ℕ) (d : Quadlet) : Prop :=
  ((off = kCSRStateSet ∨ off = kCSRStateClear) → byteAt d.val 1 % 2 = byteAt d.val 2 % 2 ∧
      byteAt d.val 1 / 4 % 2 = byteAt d.val 2 / 4 % 2) ∧
    (off = kCSRBroadcastChannel → byteAt d.val 0 / 64 % 2 = byteAt d.val 3 / 64 % 2)

/-- The state registers decode both orders alike when bytes 1 and 2 agree on their two bits. -/
lemma isBit_symmetric_iff (d : Quadlet) :
    (CSRResponder.isBit (le32At d.val 0) kCSRStateBitCMSTR =
        CSRResponder.isBit d.number kCSRStateBitCMSTR ∧
      CSRResponder.isBit (le32At d.val 0) kCSRStateBitABDICATE =
        CSRResponder.isBit d.number kCSRStateBitABDICATE) ↔
      byteAt d.val 1 % 2 = byteAt d.val 2 % 2 ∧ byteAt d.val 1 / 4 % 2 = byteAt d.val 2 / 4 % 2 := by
  obtain ⟨hc, ha, -⟩ := isBit_le32At d
  obtain ⟨hc', ha', -⟩ := isBit_number d
  apply and_congr
  · rw [Bool.eq_iff_iff, hc, hc']
    omega
  · rw [Bool.eq_iff_iff, ha, ha']
    omega

lemma writeQuadlet_symmetric {off : ℕ} {d : Quadlet} (h : RegisterSymmetric off d)
    (csr : CSRResponder) : csr.writeQuadlet off (le32At d.val 0) = csr.writeQuadlet off d.number := by
  obtain ⟨hstate, hchannel⟩ := h
  unfold CSRResponder.writeQuadlet
  by_cases hset : off = kCSRStateSet
  · obtain ⟨hc, ha⟩ := (isBit_symmetric_iff d).mpr (hstate (Or.inl hset))
    rw [if_pos hset, if_pos hset, handleStateWrite_congr hc ha]
  by_cases hclear : off = kCSRStateClear
  · obtain ⟨hc, ha⟩ := (isBit_symmetric_iff d).mpr (hstate (Or.inr hclear))
    rw [if_neg hset, if_neg hset, if_pos hclear, if_pos hclear, handleStateWrite_congr hc ha]
  by_cases hbroadcast : off = kCSRBroadcastChannel
  · have hbit : CSRResponder.sanitize (le32At d.val 0) = CSRResponder.sanitize d.number := by
      unfold CSRResponder.sanitize
      rw [(isBit_le32At d).2.2, (isBit_number d).2.2, hchannel hbroadcast]
    rw [if_neg hset, if_neg hset, if_neg hclear, if_neg hclear, hbit]
  · rw [if_neg hset, if_neg hset, if_neg hclear, if_neg hclear, if_neg hbroadcast,
      if_neg hbroadcast]

lemma writeQuadlet_stateSet (csr : CSRResponder) (value : ℕ) :
    csr.writeQuadlet kCSRStateSet value = csr.handleStateWrite true value := by
  unfold CSRResponder.writeQuadlet
  rw [if_neg (by decide), if_pos rfl]

lemma writeQuadlet_stateClear (csr : CSRResponder) (value : ℕ) :
    csr.writeQuadlet kCSRStateClear value = csr.handleStateWrite false value := by
  unfold CSRResponder.writeQuadlet
  rw [if_neg (by decide), if_neg (by decide), if_pos rfl]

lemma writeQuadlet_broadcastChannel (csr : CSRResponder) (value : ℕ) :
    csr.writeQuadlet kCSRBroadcastChannel value = ({ mine := true, rcode := .complete },
      { csr with
        broadcastChannel := csr.broadcastChannel.map fun _ => CSRResponder.sanitize value }) := by
  unfold CSRResponder.writeQuadlet
  rw [if_neg (by decide), if_neg (by decide), if_neg (by decide), if_neg (by decide), if_pos rfl]

/-- A responder that has taken the number has taken it in bus order. -/
lemma registerSymmetric_of_writeQuadlet {off : ℕ} {d : Quadlet}
    (h : ∀ csr : CSRResponder, (csr.writeQuadlet off (le32At d.val 0)).1.mine = true →
      (csr.writeQuadlet off (le32At d.val 0)).2 = (csr.writeQuadlet off d.number).2) :
    RegisterSymmetric off d := by
  constructor
  · rintro (rfl | rfl)
    · have heq := h (contrary true)
      rw [writeQuadlet_stateSet, writeQuadlet_stateSet] at heq
      exact (isBit_symmetric_iff d).mp (isBit_of_handleStateWrite true (heq rfl))
    · have heq := h (contrary false)
      rw [writeQuadlet_stateClear, writeQuadlet_stateClear] at heq
      exact (isBit_symmetric_iff d).mp (isBit_of_handleStateWrite false (heq rfl))
  · rintro rfl
    have heq := h (contrary true)
    rw [writeQuadlet_broadcastChannel, writeQuadlet_broadcastChannel] at heq
    have hsanitize : CSRResponder.sanitize (le32At d.val 0) = CSRResponder.sanitize d.number :=
      Option.some.inj (congrArg CSRResponder.broadcastChannel (heq rfl))
    have hle := (isBit_le32At d).2.2
    have hbe := (isBit_number d).2.2
    unfold CSRResponder.sanitize at hsanitize
    omega

lemma csrLocalHandler_blockWrite {w : LocalWorld} {ctx : LocalRequestContext}
    (hcode : ctx.tCode = kTcodeWriteBlock) : csrLocalHandler ctx w = (.notMine, w) := by
  have hquad : ¬ kTcodeWriteBlock = kTcodeWriteQuad := by decide
  have hread : ¬ kTcodeWriteBlock = kTcodeReadQuad := by decide
  have hblock : ¬ kTcodeWriteBlock = kTcodeReadBlock := by decide
  cases hresponder : w.csrResponder with
  | none => simp only [csrLocalHandler, hresponder]
  | some responder =>
    simp only [csrLocalHandler, hresponder, hcode, if_neg hquad, if_neg hread, if_neg hblock,
      ite_self]

/-- A quadlet write at a CSR address stores the little-endian number. -/
lemma csrLocalHandler_quadletWrite {w : LocalWorld} {ctx : LocalRequestContext}
    {responder : CSRResponder} (hresponder : w.csrResponder = some responder)
    (hhigh : ctx.destOffset / 2 ^ 32 = 0xFFFF) (hcode : ctx.tCode = kTcodeWriteQuad) :
    csrLocalHandler ctx w = w.csrWrite responder (ctx.destOffset % 2 ^ 32) ctx.quadletData := by
  simp only [csrLocalHandler, hresponder, hhigh, hcode, ne_eq, not_true, if_false, if_true]

/-- Other addresses are not the responder's. -/
lemma csrLocalHandler_unclaimed {w : LocalWorld} {ctx : LocalRequestContext}
    (h : w.csrResponder = none ∨ ctx.destOffset / 2 ^ 32 ≠ 0xFFFF) :
    csrLocalHandler ctx w = (.notMine, w) := by
  cases hresponder : w.csrResponder with
  | none => simp only [csrLocalHandler, hresponder]
  | some responder =>
    have hhigh : ctx.destOffset / 2 ^ 32 ≠ 0xFFFF := by simpa [hresponder] using h
    simp only [csrLocalHandler, hresponder, if_pos hhigh]

end Csr

section Mailboxes
variable {w : LocalWorld} {ctx : LocalRequestContext}

lemma diceLocalHandler_quadlet (hcode : ctx.tCode = kTcodeWriteQuad)
    (hlen : ¬ ctx.writePayload.length < 4) :
    diceLocalHandler ctx w =
      if NotificationMailbox.matchesDestOffset ctx.destOffset then
        w.dicePublish (NotificationMailbox.decodeWireQuadlet ctx.writePayload)
      else (.notMine, w) := by
  cases hmatch : NotificationMailbox.matchesDestOffset ctx.destOffset with
  | true =>
    simp only [diceLocalHandler, hcode, hmatch, ne_eq, not_true, if_false, if_neg hlen, if_true,
      Bool.not_true, Bool.false_eq_true]
  | false =>
    simp only [diceLocalHandler, hcode, hmatch, ne_eq, not_true, if_false, if_true, Bool.not_false,
      Bool.false_eq_true]

/-- A frame shorter than the EFC header is refused, however it arrives. -/
lemma fireworksEfcLocalHandler_short
    (hcode : ctx.tCode = kTcodeWriteQuad ∨ ctx.tCode = kTcodeWriteBlock)
    (hshort : ctx.writePayload.length < EfcResponseMailbox.kHeaderBytes) :
    fireworksEfcLocalHandler ctx w =
      if EfcResponseMailbox.matchesDestOffset ctx.destOffset then (.write .dataError, w)
      else (.notMine, w) := by
  have hwrite : ¬ (ctx.tCode ≠ kTcodeWriteBlock ∧ ctx.tCode ≠ kTcodeWriteQuad) := by tauto
  cases hmatch : EfcResponseMailbox.matchesDestOffset ctx.destOffset with
  | true =>
    simp only [fireworksEfcLocalHandler, hmatch, if_neg hwrite, if_pos hshort, if_true,
      Bool.not_true, Bool.false_eq_true, if_false]
  | false =>
    simp only [fireworksEfcLocalHandler, hmatch, if_true, Bool.not_false, Bool.false_eq_true,
      if_false]

end Mailboxes

namespace WiredHandler

section Write
variable (r : AsyncRequest) (x t : Fin (2 ^ 16)) (generation : ℕ) (d : Quadlet)

/-- The FCP frame of a quadlet write is that of the block write only if it reads the same
backwards. -/
lemma fcp_writesAgree_iff :
    WritesAgree .fcp (quadletWrite r x t generation d) (blockWrite r x t generation d) ↔
      (InFcpWindow r.seenOffset → d.Palindromic) := by
  have hne : d.val ≠ [] := by
    intro hnil
    have := d.property
    simp [hnil] at this
  have hquad : ∀ w router, w.fcpResponseRouter = some router →
      handle .fcp (quadletWrite r x t generation d) w =
        w.fcpRoute router (quadletWrite r x t generation d) d.val.reverse := by
    intro w router hrouter
    rw [← d.beBytes_le32At]
    have h := fcpLocalHandler_quadlet hrouter
      (congrArg LocalRequestContext.tCode (quadletWrite_eq r x t generation d))
    rwa [congrArg LocalRequestContext.quadletData (quadletWrite_eq r x t generation d)] at h
  have hblock : ∀ w router, w.fcpResponseRouter = some router →
      handle .fcp (blockWrite r x t generation d) w =
        w.fcpRoute router (quadletWrite r x t generation d) d.val := by
    intro w router hrouter
    have hpayload := congrArg LocalRequestContext.writePayload (blockWrite_eq r x t generation d)
    have h := fcpLocalHandler_block hrouter
      (congrArg LocalRequestContext.tCode (blockWrite_eq r x t generation d)) (hpayload ▸ hne)
    rw [hpayload] at h
    refine h.trans (fcpRoute_congr ?_ ?_ ?_ d.val)
    · rw [quadletWrite_eq, blockWrite_eq]
    · rw [quadletWrite_eq, blockWrite_eq]
    · rw [quadletWrite_eq, blockWrite_eq]
  have haddress : (quadletWrite r x t generation d).destOffset = r.seenOffset :=
    congrArg LocalRequestContext.destOffset (quadletWrite_eq r x t generation d)
  constructor
  · intro hagree hin
    rw [← haddress] at hin
    have heq := hagree { fcpResponseRouter := some { transports := fun _ => true } }
    rw [hquad _ _ rfl, hblock _ _ rfl] at heq
    apply fcpRoute_inj hin _ (heq (fcpRoute_claimed.mpr hin) (fcpRoute_claimed.mpr hin))
    rfl
  · intro hsame w hclaimed _
    cases hrouter : w.fcpResponseRouter with
    | none =>
      have hnone : handle .fcp (quadletWrite r x t generation d) w = (.notMine, w) :=
        fcpLocalHandler_none hrouter
      rw [hnone] at hclaimed
      cases hclaimed
    | some router =>
      rw [hquad w router hrouter, fcpRoute_claimed, haddress] at hclaimed
      have hrev : d.val.reverse = d.val := hsame hclaimed
      rw [hquad w router hrouter, hblock w router hrouter, hrev]

/-- Quadlet and block writes agree unless an FCP frame reads differently backwards. -/
lemma writesAgree_iff (h : WiredHandler) :
    h.WritesAgree (quadletWrite r x t generation d) (blockWrite r x t generation d) ↔
      (h = .fcp → InFcpWindow r.seenOffset → d.Palindromic) := by
  cases h with
  | csr =>
    refine iff_of_true (fun w _ hclaimed => ?_) (by simp)
    have hnone : handle .csr (blockWrite r x t generation d) w = (.notMine, w) :=
      csrLocalHandler_blockWrite
        (congrArg LocalRequestContext.tCode (blockWrite_eq r x t generation d))
    rw [hnone] at hclaimed
    cases hclaimed
  | fcp =>
    rw [fcp_writesAgree_iff]
    simp
  | dice =>
    refine iff_of_true (fun w _ hclaimed => ?_) (by simp)
    rw [blockWrite_eq] at hclaimed
    simp [handle, diceLocalHandler, kTcodeWriteBlock, kTcodeWriteQuad,
      LocalRequestResult.notMine] at hclaimed
  | fireworksEfc =>
    refine iff_of_true (fun w _ _ => ?_) (by simp)
    have hshort : d.val.length < EfcResponseMailbox.kHeaderBytes := by
      rw [d.property]
      decide
    rw [quadletWrite_eq, blockWrite_eq]
    simp [handle, fireworksEfcLocalHandler, hshort, kTcodeWriteBlock, kTcodeWriteQuad]
  | sbp2 =>
    refine iff_of_true (fun w _ _ => ?_) (by simp)
    rw [quadletWrite_eq, blockWrite_eq]
    simp only [handle, sbp2LocalHandler, true_or, or_true, if_true]

/-- What has to read the same in both byte orders for a quadlet write to store its number. -/
def DataSymmetric (h : WiredHandler) (address : ℕ) (d : Quadlet) : Prop :=
  match h with
  | csr => address / 2 ^ 32 = 0xFFFF → RegisterSymmetric (address % 2 ^ 32) d
  | fcp => InFcpWindow address → d.Palindromic
  | _ => True

lemma csr_stores_iff :
    Stores .csr (quadletWrite r x t generation d) d.number ↔
      DataSymmetric .csr r.seenOffset d := by
  have haddress : (quadletWrite r x t generation d).destOffset = r.seenOffset :=
    congrArg LocalRequestContext.destOffset (quadletWrite_eq r x t generation d)
  have hcode : (quadletWrite r x t generation d).tCode = kTcodeWriteQuad :=
    congrArg LocalRequestContext.tCode (quadletWrite_eq r x t generation d)
  have hdata : (quadletWrite r x t generation d).quadletData = le32At d.val 0 :=
    congrArg LocalRequestContext.quadletData (quadletWrite_eq r x t generation d)
  have hhandle : r.seenOffset / 2 ^ 32 = 0xFFFF → ∀ w responder, w.csrResponder = some responder →
      handle .csr (quadletWrite r x t generation d) w =
        w.csrWrite responder (r.seenOffset % 2 ^ 32) (le32At d.val 0) := by
    intro hhigh w responder hresponder
    rw [← haddress] at hhigh
    have h := csrLocalHandler_quadletWrite hresponder hhigh hcode
    rw [haddress, hdata] at h
    exact h
  have hnumber : ∀ w responder, w.csrResponder = some responder →
      writeNumber .csr (quadletWrite r x t generation d) d.number w =
        w.csrWrite responder (r.seenOffset % 2 ^ 32) d.number := by
    intro w responder hresponder
    simp only [writeNumber, hresponder, haddress]
  constructor
  · intro hstores hhigh
    apply registerSymmetric_of_writeQuadlet
    intro responder hmine
    have heq := hstores { csrResponder := some responder }
    rw [hhandle hhigh _ responder rfl, hnumber _ responder rfl] at heq
    have hclaimed : (LocalWorld.csrWrite { csrResponder := some responder } responder
        (r.seenOffset % 2 ^ 32) (le32At d.val 0)).1.claimed = true := by
      simp only [LocalWorld.csrWrite, hmine, if_true, LocalRequestResult.write]
    have hworld := congrArg (fun out => out.2.csrResponder) (heq hclaimed)
    simpa [LocalWorld.csrWrite] using hworld
  · intro hsymmetric w hclaimed
    by_cases hcon : w.csrResponder = none ∨
        (quadletWrite r x t generation d).destOffset / 2 ^ 32 ≠ 0xFFFF
    · have hnone : handle .csr (quadletWrite r x t generation d) w = (.notMine, w) :=
        csrLocalHandler_unclaimed hcon
      rw [hnone] at hclaimed
      cases hclaimed
    · rw [not_or, ← ne_eq, Option.ne_none_iff_exists', not_not, haddress] at hcon
      obtain ⟨⟨responder, hresponder⟩, hhigh⟩ := hcon
      rw [hhandle hhigh w responder hresponder, hnumber w responder hresponder]
      unfold LocalWorld.csrWrite
      rw [writeQuadlet_symmetric (hsymmetric hhigh)]

lemma fcp_stores_iff :
    Stores .fcp (quadletWrite r x t generation d) d.number ↔
      DataSymmetric .fcp r.seenOffset d := by
  have haddress : (quadletWrite r x t generation d).destOffset = r.seenOffset :=
    congrArg LocalRequestContext.destOffset (quadletWrite_eq r x t generation d)
  have hhandle : ∀ w router, w.fcpResponseRouter = some router →
      handle .fcp (quadletWrite r x t generation d) w =
        w.fcpRoute router (quadletWrite r x t generation d) d.val.reverse := by
    intro w router hrouter
    rw [← d.beBytes_le32At]
    have h := fcpLocalHandler_quadlet hrouter
      (congrArg LocalRequestContext.tCode (quadletWrite_eq r x t generation d))
    rwa [congrArg LocalRequestContext.quadletData (quadletWrite_eq r x t generation d)] at h
  have hnumber : ∀ w router, w.fcpResponseRouter = some router →
      writeNumber .fcp (quadletWrite r x t generation d) d.number w =
        w.fcpRoute router (quadletWrite r x t generation d) d.val := by
    intro w router hrouter
    simp only [writeNumber, hrouter, d.beBytes_number]
  constructor
  · intro hstores hin
    rw [← haddress] at hin
    have heq := hstores { fcpResponseRouter := some { transports := fun _ => true } }
    rw [hhandle _ _ rfl, hnumber _ _ rfl] at heq
    apply fcpRoute_inj hin _ (heq (fcpRoute_claimed.mpr hin))
    rfl
  · intro hsame w hclaimed
    cases hrouter : w.fcpResponseRouter with
    | none =>
      have hnone : handle .fcp (quadletWrite r x t generation d) w = (.notMine, w) :=
        fcpLocalHandler_none hrouter
      rw [hnone] at hclaimed
      cases hclaimed
    | some router =>
      rw [hhandle w router hrouter, fcpRoute_claimed, haddress] at hclaimed
      have hrev : d.val.reverse = d.val := hsame hclaimed
      rw [hhandle w router hrouter, hnumber w router hrouter, hrev]

/-- A quadlet write stores its number when the little-endian detour makes no difference. -/
lemma stores_iff (h : WiredHandler) :
    h.Stores (quadletWrite r x t generation d) d.number ↔ h.DataSymmetric r.seenOffset d := by
  cases h with
  | csr => exact csr_stores_iff r x t generation d
  | fcp => exact fcp_stores_iff r x t generation d
  | dice =>
    refine iff_of_true (fun w hclaimed => ?_) trivial
    have hpayload : (quadletWrite r x t generation d).writePayload = d.val :=
      congrArg LocalRequestContext.writePayload (quadletWrite_eq r x t generation d)
    have hhandle : handle .dice (quadletWrite r x t generation d) w = _ :=
      diceLocalHandler_quadlet
        (congrArg LocalRequestContext.tCode (quadletWrite_eq r x t generation d))
        (by rw [hpayload, d.property]; decide)
    rw [hhandle] at hclaimed ⊢
    cases hmatch : NotificationMailbox.matchesDestOffset
        (quadletWrite r x t generation d).destOffset with
    | true =>
      rw [if_pos rfl, hpayload]
      rfl
    | false =>
      rw [hmatch, if_neg (by simp)] at hclaimed
      cases hclaimed
  | fireworksEfc =>
    refine iff_of_true (fun w hclaimed => ?_) trivial
    have hpayload : (quadletWrite r x t generation d).writePayload = d.val :=
      congrArg LocalRequestContext.writePayload (quadletWrite_eq r x t generation d)
    have hhandle : handle .fireworksEfc (quadletWrite r x t generation d) w = _ :=
      fireworksEfcLocalHandler_short
        (Or.inl (congrArg LocalRequestContext.tCode (quadletWrite_eq r x t generation d)))
        (by rw [hpayload, d.property]; decide)
    rw [hhandle] at hclaimed ⊢
    cases hmatch : EfcResponseMailbox.matchesDestOffset
        (quadletWrite r x t generation d).destOffset with
    | true =>
      rw [if_pos rfl]
      rfl
    | false =>
      rw [hmatch, if_neg (by simp)] at hclaimed
      cases hclaimed
  | sbp2 =>
    refine iff_of_true (fun w hclaimed => ?_) trivial
    have hne : d.val ≠ [] := by
      intro hnil
      have := d.property
      simp [hnil] at this
    rw [quadletWrite_eq]
    cases hmgr : w.sbp2AddressSpaceManager with
    | none => simp only [handle, sbp2LocalHandler, writeNumber, hmgr]
    | some mgr =>
      simp only [handle, sbp2LocalHandler, writeNumber, hmgr, true_or, if_true, if_neg hne,
        d.beBytes_number]

end Write

end WiredHandler

/-! ### Reads -/

lemma leBytes_le32At_drop {bytes : List UInt8} {i : ℕ} (h : i + 4 ≤ bytes.length) :
    leBytes (le32At bytes i) = (bytes.drop i).take 4 := by
  have hread : le32At bytes i = le32At ((bytes.drop i).take 4) 0 := by
    simp only [le32At, Nat.zero_add, byteAt_take _ (by omega : 0 < 4),
      byteAt_take _ (by omega : 1 < 4), byteAt_take _ (by omega : 2 < 4),
      byteAt_take _ (by omega : 3 < 4), byteAt_drop, Nat.add_zero]
  rw [hread]
  apply leBytes_le32At
  rw [List.length_take, List.length_drop]
  omega

/-- Data bytes of the quadlet read response that carries a result. -/
def responseQuadlet (request : ARPacketView) (result : LocalRequestResult) : List UInt8 :=
  (headerBytes (ResponseSender.readQuadletHeader request result.responseCode
    result.readQuadlet)).drop 12

lemma responseQuadlet_complete {request : ARPacketView} {result : LocalRequestResult}
    (hclaimed : result.claimed = true) (hcode : result.rcode = .complete) :
    responseQuadlet request result = leBytes result.readQuadlet := by
  have hresponse : result.responseCode = .complete := by
    rw [LocalRequestResult.responseCode, if_pos hclaimed, hcode]
  unfold responseQuadlet ResponseSender.readQuadletHeader
  rw [hresponse, if_pos rfl]
  rfl

/-- The read is answered with data. -/
structure Served (result : LocalRequestResult) : Prop where
  claimed : result.claimed = true
  complete : result.rcode = .complete

namespace WiredHandler

/-- Four bytes the controller fetches for a block read response. -/
def blockQuadlet (h : WiredHandler) (w : LocalWorld) (result : LocalRequestResult) : List UInt8 :=
  match h with
  | csr =>
    match w.csrResponder.bind (·.topologyMap) with
    | none => []
    | some service => service.fetchQuadlet result.readBlockDeviceAddress
  | sbp2 =>
    match w.sbp2AddressSpaceManager with
    | none => []
    | some mgr => mgr.fetch result.readBlockDeviceAddress result.readBlockLength
  | _ => []

section Read
variable (r : AsyncRequest) (x t : Fin (2 ^ 16)) (generation : ℕ)

/-- Where quadlet and block read are both served, their responses carry the same bytes. -/
def ReadsAgree (h : WiredHandler) (w : LocalWorld) : Prop :=
  Served (h.handle (quadletRead r x t generation) w).1 →
    Served (h.handle (blockRead r x t generation) w).1 →
    responseQuadlet (AsyncRequest.view { r with body := .readQuadlet } x t)
        (h.handle (quadletRead r x t generation) w).1 =
      h.blockQuadlet w (h.handle (blockRead r x t generation) w).1

/-- The TOPOLOGY_MAP word of an address is mirrored, and reads the same in both byte orders. -/
def WordSymmetric (service : TopologyMapService) (off : ℕ) : Prop :=
  let index := (off - kCSRTopologyMapBase) / 4
  service.mirror index = TopologyMapService.swapped (service.hostMap index) ∧
    leBytes (service.hostMap index).toNat = beBytes (service.hostMap index).toNat

/-- The condition for reads: only served TOPOLOGY_MAP words are at stake. -/
def ReadSymmetric (h : WiredHandler) (address : ℕ) (w : LocalWorld) : Prop :=
  h = .csr → address / 2 ^ 32 = 0xFFFF → ∀ service,
    w.csrResponder.bind (·.topologyMap) = some service → service.started = true →
    CSRResponder.inTopologyRegion (address % 2 ^ 32) = true → address % 2 ^ 32 % 4 = 0 →
    WordSymmetric service (address % 2 ^ 32)

end Read

end WiredHandler

/-- A world whose topology map and address ranges have come about by their own operations. -/
structure LocalWorld.Reachable (w : LocalWorld) : Prop where
  topologyMap : ∀ service, w.csrResponder.bind (·.topologyMap) = some service → service.Reachable
  addressSpace : ∀ mgr, w.sbp2AddressSpaceManager = some mgr → mgr.Reachable

section CsrReads
variable {w : LocalWorld} {ctx : LocalRequestContext} {responder : CSRResponder}
  {service : TopologyMapService} {off : ℕ}

/-- Served block reads lie in the mirror of a started topology map. -/
lemma blockReadClaim_complete (h : (responder.blockReadClaim off 4).rcode = .complete) :
    ∃ service dma, responder.topologyMap = some service ∧ service.started = true ∧
      service.dma = some dma ∧ CSRResponder.inTopologyRegion off = true ∧
      (off - kCSRTopologyMapBase) % 4 = 0 ∧
      responder.blockReadClaim off 4 = {
        mine := true, rcode := .complete
        readBlockDeviceAddress := dma + (off - kCSRTopologyMapBase), readBlockLength := 4 } := by
  unfold CSRResponder.blockReadClaim at h ⊢
  by_cases hspeed : CSRResponder.inSpeedMapRegion off = true
  · rw [if_pos hspeed] at h
    cases h
  rw [if_neg hspeed] at h ⊢
  cases hregion : CSRResponder.inTopologyRegion off with
  | false =>
    simp [hregion] at h
  | true =>
    simp only [hregion, Bool.not_true, Bool.false_eq_true, if_false] at h ⊢
    cases hmap : responder.topologyMap with
    | none => simp [hmap] at h
    | some service =>
      simp only [hmap] at h ⊢
      unfold TopologyMapService.resolveBlockRead at h ⊢
      cases hdma : service.dma with
      | none => simp [hdma] at h
      | some dma =>
        simp only [hdma] at h ⊢
        cases hstarted : service.started with
        | false => simp [hstarted] at h
        | true =>
          simp only [hstarted, Bool.not_true, Bool.false_eq_true, if_false] at h ⊢
          by_cases halign : (off - kCSRTopologyMapBase) % 4 ≠ 0 ∨ 4 % 4 ≠ 0
          · rw [if_pos halign] at h
            cases h
          rw [if_neg halign] at h ⊢
          by_cases hfit : 1024 < off - kCSRTopologyMapBase + 4
          · rw [if_pos hfit] at h
            cases h
          · rw [if_neg hfit]
            exact ⟨service, dma, rfl, hstarted, hdma, trivial, by omega, rfl⟩

lemma inTopologyRegion_iff : CSRResponder.inTopologyRegion off = true ↔
    kCSRTopologyMapBase ≤ off ∧ off ≤ kCSRTopologyMapEnd := by
  unfold CSRResponder.inTopologyRegion
  rw [Bool.and_eq_true, decide_eq_true_eq, decide_eq_true_eq]

lemma topologyRegion_apart (h : kCSRTopologyMapBase ≤ off ∧ off ≤ kCSRTopologyMapEnd)
    (halign : (off - kCSRTopologyMapBase) % 4 = 0) :
    off ≠ kCSRStateSet ∧ off ≠ kCSRStateClear ∧ off ≠ kCSRBroadcastChannel ∧
      off ≠ kCSRResetStart ∧ off ≠ kCSRBusManagerID ∧ off ≠ kCSRBandwidthAvailable ∧
      off ≠ kCSRChannelsAvailableHi ∧ off ≠ kCSRChannelsAvailableLo ∧ off % 4 = 0 ∧
      off - kCSRTopologyMapBase < 1024 := by
  unfold kCSRTopologyMapBase kCSRTopologyMapEnd kCSRCoreBase at h
  unfold kCSRTopologyMapBase kCSRCoreBase at halign
  unfold kCSRTopologyMapBase kCSRStateSet kCSRStateClear kCSRBroadcastChannel
    kCSRResetStart kCSRBusManagerID kCSRBandwidthAvailable kCSRChannelsAvailableHi
    kCSRChannelsAvailableLo kCSRCoreBase
  omega

lemma readTopologyQuadlet_aligned {place : ℕ} (hmap : responder.topologyMap = some service)
    (halign : place % 4 = 0) (hin : place < 1024) :
    responder.readTopologyQuadlet place = {
      mine := true, rcode := .complete, readValue := (service.hostMap (place / 4)).toNat } := by
  have hread : service.readQuadlet place = some (service.hostMap (place / 4)) := by
    unfold TopologyMapService.readQuadlet
    rw [if_neg (by omega)]
  simp only [CSRResponder.readTopologyQuadlet, hmap, hread]

/-- Aligned quadlet reads of the topology map return the host word. -/
lemma readQuadlet_topologyMap (hmap : responder.topologyMap = some service)
    (hregion : CSRResponder.inTopologyRegion off = true)
    (halign : (off - kCSRTopologyMapBase) % 4 = 0) :
    (responder.readQuadlet off).1 = {
      mine := true, rcode := .complete
      readValue := (service.hostMap ((off - kCSRTopologyMapBase) / 4)).toNat } := by
  obtain ⟨hset, hclear, hbroadcast, hreset, hbm, hbandwidth, hhi, hlo, hquad, hin⟩ :=
    topologyRegion_apart (inTopologyRegion_iff.mp hregion) halign
  have hstate : ¬ (off = kCSRStateSet ∨ off = kCSRStateClear) := fun h => h.elim hset hclear
  have hirm : CSRResponder.isIrmResourceCsr off = false := by
    unfold CSRResponder.isIrmResourceCsr
    rw [decide_eq_false hbm, decide_eq_false hbandwidth, decide_eq_false hhi,
      decide_eq_false hlo]
    rfl
  unfold CSRResponder.readQuadlet
  rw [if_neg hstate, if_neg hbroadcast, if_neg hreset, hirm, if_neg Bool.false_ne_true,
    if_pos hregion, if_neg (fun h => h hquad), readTopologyQuadlet_aligned hmap halign hin]

lemma csrLocalHandler_quadletRead (hresponder : w.csrResponder = some responder)
    (hhigh : ctx.destOffset / 2 ^ 32 = 0xFFFF) (hcode : ctx.tCode = kTcodeReadQuad) :
    (csrLocalHandler ctx w).1 =
      if (responder.readQuadlet (ctx.destOffset % 2 ^ 32)).1.mine then
        .quadlet (responder.readQuadlet (ctx.destOffset % 2 ^ 32)).1.rcode
          (responder.readQuadlet (ctx.destOffset % 2 ^ 32)).1.readValue
      else .notMine := by
  have hne : ¬ kTcodeReadQuad = kTcodeWriteQuad := by decide
  simp only [csrLocalHandler, hresponder, hhigh, hcode, ne_eq, not_true, if_false, if_neg hne,
    if_true]

lemma csrLocalHandler_blockRead (hresponder : w.csrResponder = some responder)
    (hhigh : ctx.destOffset / 2 ^ 32 = 0xFFFF) (hcode : ctx.tCode = kTcodeReadBlock) :
    (csrLocalHandler ctx w).1 =
      if !(responder.blockReadClaim (ctx.destOffset % 2 ^ 32) ctx.dataLength).mine then .notMine
      else .block (responder.blockReadClaim (ctx.destOffset % 2 ^ 32) ctx.dataLength).rcode
        (responder.blockReadClaim (ctx.destOffset % 2 ^ 32) ctx.dataLength).readBlockDeviceAddress
        (responder.blockReadClaim (ctx.destOffset % 2 ^ 32) ctx.dataLength).readBlockLength := by
  have hwrite : ¬ kTcodeReadBlock = kTcodeWriteQuad := by decide
  have hread : ¬ kTcodeReadBlock = kTcodeReadQuad := by decide
  simp only [csrLocalHandler, hresponder, hhigh, hcode, ne_eq, not_true, if_false, if_neg hwrite,
    if_neg hread, if_true]

/-- Block reads of a started topology map are claimed. -/
lemma blockReadClaim_topologyMap {dma : ℕ} (hmap : responder.topologyMap = some service)
    (hstarted : service.started = true) (hdma : service.dma = some dma)
    (hregion : CSRResponder.inTopologyRegion off = true)
    (halign : (off - kCSRTopologyMapBase) % 4 = 0) (hin : off - kCSRTopologyMapBase < 1024) :
    (responder.blockReadClaim off 4).mine = true ∧
      (responder.blockReadClaim off 4).rcode = .complete := by
  have hspeed : ¬ CSRResponder.inSpeedMapRegion off = true := by
    obtain ⟨-, hend⟩ := inTopologyRegion_iff.mp hregion
    unfold CSRResponder.inSpeedMapRegion
    rw [Bool.and_eq_true, decide_eq_true_eq, decide_eq_true_eq]
    unfold kCSRTopologyMapEnd kCSRCoreBase at hend
    unfold kCSRSpeedMapBase kCSRSpeedMapEnd kCSRCoreBase
    omega
  have hresolve : service.resolveBlockRead (off - kCSRTopologyMapBase) 4 =
      some (dma + (off - kCSRTopologyMapBase), 4) := by
    unfold TopologyMapService.resolveBlockRead
    rw [hdma, hstarted]
    generalize off - kCSRTopologyMapBase = place at halign hin
    have hfour : ¬ (place % 4 ≠ 0 ∨ 4 % 4 ≠ 0) := by omega
    have hfit : ¬ 1024 < place + 4 := by omega
    simp only [Bool.not_true, Bool.false_eq_true, if_false, if_neg hfour, if_neg hfit]
  unfold CSRResponder.blockReadClaim
  rw [if_neg hspeed, hregion, hmap]
  dsimp only
  rw [hresolve]
  exact ⟨rfl, rfl⟩

/-- In a map kept in step, host word and mirror agree exactly on symmetric words. -/
lemma leBytes_eq_mirror_iff (hstep : service.InStep) (hstarted : service.started = true)
    (hin : off - kCSRTopologyMapBase < 1024) :
    leBytes (service.hostMap ((off - kCSRTopologyMapBase) / 4)).toNat =
        service.mirror ((off - kCSRTopologyMapBase) / 4) ↔
      WiredHandler.WordSymmetric service off := by
  unfold WiredHandler.WordSymmetric
  dsimp only
  generalize off - kCSRTopologyMapBase = place at hin ⊢
  rcases (hstep hstarted).2 (place / 4) (by omega) with hmirror | hzero
  · rw [hmirror]
    exact ⟨fun h => ⟨rfl, h⟩, fun h => h.2⟩
  · rw [hzero]
    exact ⟨fun h => ⟨h.symm, rfl⟩, fun h => h.1.symm⟩

end CsrReads

lemma served_claim_block {claim : CSRResult} {device len : ℕ}
    (h : Served (if !claim.mine then .notMine else .block claim.rcode device len)) :
    claim.rcode = .complete := by
  cases hmine : claim.mine with
  | false =>
    rw [hmine] at h
    cases h.claimed
  | true =>
    rw [hmine] at h
    exact h.complete

namespace WiredHandler

section ReadResults
variable (r : AsyncRequest) (x t : Fin (2 ^ 16)) (generation : ℕ) {w : LocalWorld}

lemma csr_quadletRead {responder : CSRResponder} (hresponder : w.csrResponder = some responder)
    (hhigh : r.seenOffset / 2 ^ 32 = 0xFFFF) :
    (handle .csr (quadletRead r x t generation) w).1 =
      if (responder.readQuadlet (r.seenOffset % 2 ^ 32)).1.mine then
        .quadlet (responder.readQuadlet (r.seenOffset % 2 ^ 32)).1.rcode
          (responder.readQuadlet (r.seenOffset % 2 ^ 32)).1.readValue
      else .notMine := by
  have haddress : (quadletRead r x t generation).destOffset = r.seenOffset :=
    congrArg LocalRequestContext.destOffset (quadletRead_eq r x t generation)
  rw [← haddress] at hhigh ⊢
  exact csrLocalHandler_quadletRead hresponder hhigh
    (congrArg LocalRequestContext.tCode (quadletRead_eq r x t generation))

lemma csr_blockRead {responder : CSRResponder} (hresponder : w.csrResponder = some responder)
    (hhigh : r.seenOffset / 2 ^ 32 = 0xFFFF) :
    (handle .csr (blockRead r x t generation) w).1 =
      if !(responder.blockReadClaim (r.seenOffset % 2 ^ 32) 4).mine then .notMine
      else .block (responder.blockReadClaim (r.seenOffset % 2 ^ 32) 4).rcode
        (responder.blockReadClaim (r.seenOffset % 2 ^ 32) 4).readBlockDeviceAddress
        (responder.blockReadClaim (r.seenOffset % 2 ^ 32) 4).readBlockLength := by
  have haddress : (blockRead r x t generation).destOffset = r.seenOffset :=
    congrArg LocalRequestContext.destOffset (blockRead_eq r x t generation)
  have hlength : (blockRead r x t generation).dataLength = 4 :=
    congrArg LocalRequestContext.dataLength (blockRead_eq r x t generation)
  rw [← haddress] at hhigh ⊢
  rw [← hlength]
  exact csrLocalHandler_blockRead hresponder hhigh
    (congrArg LocalRequestContext.tCode (blockRead_eq r x t generation))

/-- An address in the map of a started topology service. -/
structure TopologyWord (w : LocalWorld) (address : ℕ) (service : TopologyMapService) : Prop where
  high : address / 2 ^ 32 = 0xFFFF
  map : w.csrResponder.bind (·.topologyMap) = some service
  started : service.started = true
  region : CSRResponder.inTopologyRegion (address % 2 ^ 32) = true
  aligned : (address % 2 ^ 32 - kCSRTopologyMapBase) % 4 = 0

/-- Only topology words are served as blocks. -/
lemma csr_blockRead_served (h : Served (handle .csr (blockRead r x t generation) w).1) :
    ∃ service, TopologyWord w r.seenOffset service := by
  by_cases hcon : w.csrResponder = none ∨
      (blockRead r x t generation).destOffset / 2 ^ 32 ≠ 0xFFFF
  · have hnone : handle .csr (blockRead r x t generation) w = (.notMine, w) :=
      csrLocalHandler_unclaimed hcon
    rw [hnone] at h
    cases h.claimed
  have haddress : (blockRead r x t generation).destOffset = r.seenOffset :=
    congrArg LocalRequestContext.destOffset (blockRead_eq r x t generation)
  rw [not_or, ← ne_eq, Option.ne_none_iff_exists', not_not, haddress] at hcon
  obtain ⟨⟨responder, hresponder⟩, hhigh⟩ := hcon
  rw [csr_blockRead r x t generation hresponder hhigh] at h
  obtain ⟨service, dma, hmap, hstarted, -, hregion, halign, -⟩ :=
    blockReadClaim_complete (served_claim_block h)
  have hbind : w.csrResponder.bind (·.topologyMap) = some service :=
    Option.bind_eq_some_iff.mpr ⟨responder, hresponder, hmap⟩
  exact ⟨service, hhigh, hbind, hstarted, hregion, halign⟩

/-- Both reads of a topology word are served: one from the host words, one from the mirror. -/
lemma csr_reads_topologyWord {service : TopologyMapService}
    (hword : TopologyWord w r.seenOffset service) (hstep : service.InStep) :
    Served (handle .csr (quadletRead r x t generation) w).1 ∧
      Served (handle .csr (blockRead r x t generation) w).1 ∧
      (handle .csr (quadletRead r x t generation) w).1.readQuadlet =
        (service.hostMap ((r.seenOffset % 2 ^ 32 - kCSRTopologyMapBase) / 4)).toNat ∧
      blockQuadlet .csr w (handle .csr (blockRead r x t generation) w).1 =
        service.mirror ((r.seenOffset % 2 ^ 32 - kCSRTopologyMapBase) / 4) := by
  obtain ⟨hhigh, hbind, hstarted, hregion, halign⟩ := hword
  obtain ⟨responder, hresponder, hmap⟩ := Option.bind_eq_some_iff.mp hbind
  obtain ⟨dma, hdma⟩ := Option.isSome_iff_exists.mp (hstep hstarted).1
  have hin := (topologyRegion_apart (inTopologyRegion_iff.mp hregion) halign).2.2.2.2.2.2.2.2.2
  obtain ⟨hmine, hcomplete⟩ :=
    blockReadClaim_topologyMap hmap hstarted hdma hregion halign hin
  obtain ⟨service', dma', hmap', -, hdma', -, -, hclaim⟩ := blockReadClaim_complete hcomplete
  obtain rfl : service = service' := Option.some.inj (hmap.symm.trans hmap')
  rw [csr_quadletRead r x t generation hresponder hhigh,
    csr_blockRead r x t generation hresponder hhigh,
    readQuadlet_topologyMap hmap hregion halign, hclaim]
  generalize r.seenOffset % 2 ^ 32 - kCSRTopologyMapBase = place
  refine ⟨⟨rfl, rfl⟩, ⟨rfl, rfl⟩, rfl, ?_⟩
  have hfetch : service.fetchQuadlet (dma' + place) = service.mirror (place / 4) := by
    unfold TopologyMapService.fetchQuadlet
    rw [hdma']
    dsimp only
    rw [Nat.add_sub_cancel_left]
  simp only [blockQuadlet, hbind, LocalRequestResult.block, Bool.not_true, Bool.false_eq_true,
    if_false, hfetch]

lemma topologyAligned_iff {address : ℕ}
    (h : CSRResponder.inTopologyRegion (address % 2 ^ 32) = true) :
    (address % 2 ^ 32 - kCSRTopologyMapBase) % 4 = 0 ↔ address % 2 ^ 32 % 4 = 0 := by
  obtain ⟨hlow, -⟩ := inTopologyRegion_iff.mp h
  unfold kCSRTopologyMapBase kCSRCoreBase at hlow ⊢
  omega

/-- The condition for reads is about the topology word at the address, if there is one. -/
lemma readSymmetric_csr_iff {address : ℕ} :
    ReadSymmetric .csr address w ↔
      ∀ service, TopologyWord w address service → WordSymmetric service (address % 2 ^ 32) := by
  constructor
  · intro h service hword
    exact h rfl hword.high service hword.map hword.started hword.region
      ((topologyAligned_iff hword.region).mp hword.aligned)
  · intro h _ hhigh service hmap hstarted hregion halign
    exact h service ⟨hhigh, hmap, hstarted, hregion, (topologyAligned_iff hregion).mpr halign⟩

lemma csr_readsAgree_iff (hw : w.Reachable) :
    ReadsAgree r x t generation .csr w ↔ ReadSymmetric .csr r.seenOffset w := by
  rw [readSymmetric_csr_iff]
  have hword : ∀ service, TopologyWord w r.seenOffset service →
      (responseQuadlet (AsyncRequest.view { r with body := .readQuadlet } x t)
          (handle .csr (quadletRead r x t generation) w).1 =
        blockQuadlet .csr w (handle .csr (blockRead r x t generation) w).1 ↔
      WordSymmetric service (r.seenOffset % 2 ^ 32)) := by
    intro service hword
    have hstep := (hw.topologyMap service hword.map).inStep
    obtain ⟨hquad, -, hvalue, hmirror⟩ := csr_reads_topologyWord r x t generation hword hstep
    have hin := (topologyRegion_apart (inTopologyRegion_iff.mp hword.region)
      hword.aligned).2.2.2.2.2.2.2.2.2
    rw [responseQuadlet_complete hquad.claimed hquad.complete, hvalue, hmirror]
    exact leBytes_eq_mirror_iff hstep hword.started hin
  constructor
  · intro hagree service hat
    obtain ⟨hquad, hblock, -⟩ := csr_reads_topologyWord r x t generation hat
      (hw.topologyMap service hat.map).inStep
    exact (hword service hat).mp (hagree hquad hblock)
  · intro hsymmetric _ hblock
    obtain ⟨service, hat⟩ := csr_blockRead_served r x t generation hblock
    exact (hword service hat).mpr (hsymmetric service hat)

/-- A served quadlet read of an address range returns the bytes of its host buffer. -/
lemma sbp2_readQuadlet {mgr : AddressSpaceManager} {address : ℕ}
    (h : (mgr.readQuadlet address).1 = .complete) :
    ∃ range, mgr.findRangeByAddressLocked address 4 = some range ∧
      (mgr.readQuadlet address).2 = le32At range.buffer (address - range.address) := by
  unfold AddressSpaceManager.readQuadlet at h ⊢
  cases hlock : mgr.lock with
  | false =>
    rw [hlock] at h
    cases h
  | true =>
    rw [hlock] at h
    cases hfind : mgr.findRangeByAddressLocked address 4 with
    | none =>
      rw [hfind] at h
      cases h
    | some range => exact ⟨range, rfl, rfl⟩

lemma sbp2_readsAgree (hw : w.Reachable) : ReadsAgree r x t generation .sbp2 w := by
  intro hquad hblock
  rw [responseQuadlet_complete hquad.claimed hquad.complete]
  rw [quadletRead_eq] at hquad ⊢
  rw [blockRead_eq] at hblock ⊢
  have hquadCode : ¬ (kTcodeReadQuad = kTcodeWriteQuad ∨ kTcodeReadQuad = kTcodeWriteBlock) := by
    decide
  have hblockCode : ¬ (kTcodeReadBlock = kTcodeWriteQuad ∨ kTcodeReadBlock = kTcodeWriteBlock) := by
    decide
  have hcodes : ¬ kTcodeReadBlock = kTcodeReadQuad := by decide
  have hfour : ¬ 4 = 0 := by decide
  cases hmgr : w.sbp2AddressSpaceManager with
  | none =>
    simp only [handle, sbp2LocalHandler, hmgr] at hquad
    cases hquad.claimed
  | some mgr =>
    simp only [handle, sbp2LocalHandler, hmgr, if_neg hquadCode, if_true] at hquad ⊢
    simp only [handle, sbp2LocalHandler, hmgr, if_neg hblockCode, if_neg hcodes, if_neg hfour,
      if_true] at hblock ⊢
    have hreadCode : (mgr.readQuadlet r.seenOffset).1 = .complete := by
      by_cases hmiss : (mgr.readQuadlet r.seenOffset).1 = .addressError
      · rw [if_pos hmiss] at hquad
        cases hquad.claimed
      · rw [if_neg hmiss] at hquad
        exact hquad.complete
    have hsliceCode : (mgr.resolveReadSlice r.seenOffset 4).1 = .complete := by
      by_contra hother
      by_cases hmiss : (mgr.resolveReadSlice r.seenOffset 4).1 = .addressError
      · rw [if_pos hmiss] at hblock
        cases hblock.claimed
      · rw [if_neg hmiss, if_neg hother] at hblock
        exact hother hblock.complete
    obtain ⟨range, hfind, hvalue⟩ := sbp2_readQuadlet hreadCode
    obtain ⟨range', hfind', hfetch⟩ := (hw.addressSpace mgr hmgr).inv.fetch_resolved
      (Prod.ext hsliceCode rfl : mgr.resolveReadSlice r.seenOffset 4 = (.complete, _, _))
    obtain rfl : range = range' := Option.some.inj (hfind.symm.trans hfind')
    have hmiss : ¬ ResponseCode.complete = .addressError := by decide
    have hcontains := List.find?_some hfind
    have hlength := ((hw.addressSpace mgr hmgr).inv.mirrored range
      (List.mem_of_find?_eq_some hfind)).length
    simp only [AddressRange.contains, Bool.and_eq_true, decide_eq_true_eq] at hcontains
    simp only [hreadCode, hsliceCode, if_neg hmiss, if_true, blockQuadlet, hmgr,
      LocalRequestResult.quadlet, LocalRequestResult.block]
    rw [hfetch, hvalue]
    exact leBytes_le32At_drop (by omega)

/-- Which reads agree, handler by handler. -/
lemma readsAgree_iff (h : WiredHandler) (hw : w.Reachable) :
    h.ReadsAgree r x t generation w ↔ h.ReadSymmetric r.seenOffset w := by
  cases h with
  | csr => exact csr_readsAgree_iff r x t generation hw
  | fcp =>
    refine iff_of_true (fun hquad => ?_) fun hcon => by cases hcon
    rw [quadletRead_eq] at hquad
    have hclaimed := hquad.claimed
    cases hrouter : w.fcpResponseRouter with
    | none => simp [handle, fcpLocalHandler, hrouter, LocalRequestResult.notMine] at hclaimed
    | some router =>
      simp [handle, fcpLocalHandler, hrouter, kTcodeReadQuad, kTcodeWriteBlock, kTcodeWriteQuad,
        LocalRequestResult.notMine] at hclaimed
  | dice =>
    refine iff_of_true (fun hquad => ?_) fun hcon => by cases hcon
    rw [quadletRead_eq] at hquad
    have hclaimed := hquad.claimed
    simp [handle, diceLocalHandler, kTcodeReadQuad, kTcodeWriteQuad,
      LocalRequestResult.notMine] at hclaimed
  | fireworksEfc =>
    refine iff_of_true (fun hquad => ?_) fun hcon => by cases hcon
    rw [quadletRead_eq] at hquad
    have hclaimed := hquad.claimed
    simp [handle, fireworksEfcLocalHandler, kTcodeReadQuad, kTcodeWriteQuad, kTcodeWriteBlock,
      LocalRequestResult.notMine] at hclaimed
  | sbp2 =>
    exact iff_of_true (sbp2_readsAgree r x t generation hw) fun hcon => by cases hcon

end ReadResults

end WiredHandler

/-! ### Agreement -/

/-- Quadlet and block transactions see the same memory, and quadlet writes store the number on the
bus, exactly where the little-endian detour is invisible: for FCP frames that are palindromes, for
register writes whose decoded bits sit symmetrically, and for mirrored topology words that are
palindromes. -/
theorem quadlet_block_agree (h : WiredHandler) (r : AsyncRequest) (x t : Fin (2 ^ 16))
    (generation : ℕ) (d : Quadlet) :
    (h.WritesAgree (quadletWrite r x t generation d) (blockWrite r x t generation d) ↔
        (h = .fcp → InFcpWindow r.seenOffset → d.Palindromic)) ∧
      (h.Stores (quadletWrite r x t generation d) d.number ↔ h.DataSymmetric r.seenOffset d) ∧
      ∀ w : LocalWorld, w.Reachable →
        (h.ReadsAgree r x t generation w ↔ h.ReadSymmetric r.seenOffset w) :=
  ⟨WiredHandler.writesAgree_iff r x t generation d h, WiredHandler.stores_iff r x t generation d h,
    fun _ hw => WiredHandler.readsAgree_iff r x t generation h hw⟩

/-- A request from node 1 to the local node 0 at some offset. -/
def requestAt (destOffset : Fin (2 ^ 48)) : AsyncRequest where
  destID := 0xFFC0
  tLabel := 0
  rt := 1
  priority := 0
  sourceID := 0xFFC1
  destOffset := destOffset
  body := .readQuadlet

/-- A local node whose topology map has been built with the same word everywhere. -/
def mappedWorld (word : UInt32) : LocalWorld where
  csrResponder := some {
    topologyMap := some (Runs.run TopologyMapService.step { hardware := true, hostMap := fun _ => 0 }
      [.rebuild (fun _ => word) (some 0x1000)]) }

lemma mappedWorld_reachable (word : UInt32) : (mappedWorld word).Reachable := by
  constructor
  · intro service hservice
    obtain rfl := Option.some.inj hservice
    exact ⟨_, _, _, rfl⟩
  · intro mgr hmgr
    cases hmgr

/-- Node 1's read of the first topology word in a bus whose map words are palindromes. -/
theorem topologyMap_reads_agree :
    (mappedWorld 0x04000004).Reachable ∧
      WiredHandler.ReadsAgree (requestAt 0xFFFFF0001000) 0 0 1 .csr (mappedWorld 0x04000004) := by
  refine ⟨mappedWorld_reachable _, ?_⟩
  apply ((quadlet_block_agree .csr (requestAt 0xFFFFF0001000) 0 0 1
    ⟨[0, 0, 0, 0], rfl⟩).2.2 _ (mappedWorld_reachable _)).mpr
  intro _ _ service hservice _ _ _
  have hindex : ((requestAt 0xFFFFF0001000).seenOffset % 2 ^ 32 - kCSRTopologyMapBase) / 4 = 0 := by
    decide
  obtain rfl := Option.some.inj hservice
  unfold WiredHandler.WordSymmetric
  rw [hindex]
  exact ⟨rfl, by decide⟩

/-- An AV/C response written as a quadlet arrives reversed, the valid bit is cleared by writing
`0xC000001F` to BROADCAST_CHANNEL, and a topology word is read in two orders. -/
theorem quadlets_reversed :
    ¬ WiredHandler.fcp.WritesAgree
        (quadletWrite (requestAt 0xFFFFF0000D00) 0 0 1 ⟨[0x09, 0x20, 0xC3, 0x75], rfl⟩)
        (blockWrite (requestAt 0xFFFFF0000D00) 0 0 1 ⟨[0x09, 0x20, 0xC3, 0x75], rfl⟩) ∧
      ¬ WiredHandler.csr.Stores
        (quadletWrite (requestAt 0xFFFFF0000234) 0 0 1 ⟨[0xC0, 0x00, 0x00, 0x1F], rfl⟩) 0xC000001F ∧
      (mappedWorld 0x00FF0002).Reachable ∧
      ¬ WiredHandler.ReadsAgree (requestAt 0xFFFFF0001000) 0 0 1 .csr (mappedWorld 0x00FF0002) := by
  refine ⟨?_, ?_, mappedWorld_reachable _, ?_⟩
  · rw [WiredHandler.writesAgree_iff]
    intro h
    have hin : InFcpWindow (requestAt 0xFFFFF0000D00).seenOffset := by
      unfold InFcpWindow
      decide
    exact absurd (h rfl hin) (by decide)
  · have hiff := WiredHandler.stores_iff (requestAt 0xFFFFF0000234) 0 0 1
      ⟨[0xC0, 0x00, 0x00, 0x1F], rfl⟩ .csr
    intro h
    exact absurd ((hiff.mp h (by decide)).2 (by decide)) (by decide)
  · rw [WiredHandler.readsAgree_iff _ _ _ _ _ (mappedWorld_reachable _)]
    intro h
    have hword := h rfl (by decide) _ rfl rfl (by decide) (by decide)
    exact absurd hword.2 (by decide)

end ASFireWire.Service
