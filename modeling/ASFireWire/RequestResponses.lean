import ASFireWire.ATSubmissionRuns
import ASFireWire.RequestDecoding
import ASFireWire.ResponseSender

/-! How inbound requests are answered. One queued response is a chain appended to the AT response
context; the payload of a lock response lies in a rotating scratch slot until the controller has
completed its chain. -/
namespace ASFireWire.Async

open Quadlets

/-! ### Submissions to any AT context -/

namespace ATContext

/-- Ring indices in range, whatever the chains look like. -/
structure Bounded (s : ATContext) : Prop where
  head : s.ring.head < s.ring.capacity
  tail : s.ring.tail < s.ring.capacity
  chains : ∀ c ∈ s.inRing, c.first < s.ring.capacity

/-- What submissions and the controller leave alone; the tail moves, but inside the ring. -/
structure Frame (s s' : ATContext) : Prop where
  inRing : s'.inRing = s.inRing
  capacity : s'.ring.capacity = s.ring.capacity
  base : s'.ring.descIOVABase = s.ring.descIOVABase
  head : s'.ring.head = s.ring.head
  tail : s.ring.tail < s.ring.capacity → s'.ring.tail < s'.ring.capacity

variable {s s' s'' : ATContext}

lemma Frame.refl (s : ATContext) : Frame s s := ⟨rfl, rfl, rfl, rfl, id⟩

lemma Frame.trans (h : Frame s s') (h' : Frame s' s'') : Frame s s'' :=
  ⟨h'.inRing.trans h.inRing, h'.capacity.trans h.capacity, h'.base.trans h.base,
    h'.head.trans h.head, fun ht => h'.tail (h.tail ht)⟩

lemma Frame.bounded (h : Frame s s') (hs : s.Bounded) : s'.Bounded := by
  constructor
  · rw [h.head, h.capacity]
    exact hs.head
  · exact h.tail hs.tail
  · rw [h.inRing, h.capacity]
    exact hs.chains

lemma completeCursor_frame (s : ATContext) (status : ℕ) : Frame s (s.completeCursor status) := by
  unfold completeCursor
  split
  · exact Frame.refl s
  · split
    · exact Frame.refl s
    · exact ⟨rfl, rfl, rfl, rfl, id⟩

lemma clearRunAndPoll_frame (s : ATContext) (polled : Option ℕ) :
    Frame s (s.clearRunAndPoll polled) := by
  cases polled with
  | none => exact ⟨rfl, rfl, rfl, rfl, id⟩
  | some status =>
    have h := s.completeCursor_frame status
    exact ⟨h.inRing, h.capacity, h.base, h.head, h.tail⟩

lemma hwStep_frame (s : ATContext) (status : ℕ) : Frame s (s.hwStep status) := by
  unfold hwStep
  split
  · exact Frame.refl s
  · split
    · exact s.completeCursor_frame status
    · split
      · exact Frame.refl s
      · dsimp only
        split
        · exact Frame.refl s
        · exact ⟨rfl, rfl, rfl, rfl, id⟩

lemma linkTailTo_fields {ring ring' : DescriptorRing} {tail : ℕ} {chain : DescriptorChain}
    (h : ring.linkTailTo tail chain = some ring') :
    ∃ storage, ring' = { ring with storage := storage } := by
  unfold DescriptorRing.linkTailTo at h
  split at h
  · cases h
  · dsimp only at h
    split at h
    · cases h
    · exact ⟨_, (Option.some.inj h).symm⟩

lemma unlinkTail_fields (ring : DescriptorRing) (tail : ℕ) :
    ∃ storage, ring.unlinkTail tail = { ring with storage := storage } := by
  unfold DescriptorRing.unlinkTail
  split
  · exact ⟨ring.storage, rfl⟩
  · exact ⟨_, rfl⟩

lemma submitPath2_frame (s : ATContext) (chain : DescriptorChain) :
    Frame s (s.submitPath2 chain).1 := by
  unfold submitPath2
  cases hlink : s.ring.linkTailTo s.ring.tail chain with
  | none => exact Frame.refl s
  | some ring =>
    obtain ⟨storage, rfl⟩ := linkTailTo_fields hlink
    dsimp only
    split
    · obtain ⟨storage', h⟩ := unlinkTail_fields { s.ring with storage := storage } s.ring.tail
      rw [h]
      exact ⟨rfl, rfl, rfl, rfl, id⟩
    · exact ⟨rfl, rfl, rfl, rfl, fun ht => Nat.mod_lt _ (by exact Nat.zero_lt_of_lt ht)⟩

/-- PATH 1 accepts every chain of the ring. -/
lemma submitPath1_accepts (s : ATContext) {c : SubmittedChain}
    (hc : c.Shaped s.ring.capacity s.ring.descIOVABase) (polled : Option ℕ) :
    (s.submitPath1 c.toDescriptorChain polled).2 = .success ∧
      Frame s (s.submitPath1 c.toDescriptorChain polled).1 := by
  have hstop : Frame s (if s.hw.run then clearRunAndPoll { s with state := .arming } polled
      else { s with state := .arming }) := by
    split
    · have h := clearRunAndPoll_frame { s with state := .arming } polled
      exact ⟨h.inRing, h.capacity, h.base, h.head, h.tail⟩
    · exact ⟨rfl, rfl, rfl, rfl, id⟩
  unfold submitPath1
  dsimp only
  generalize (if s.hw.run then clearRunAndPoll { s with state := .arming } polled
      else { s with state := .arming }) = stopped at hstop ⊢
  have hshaped : c.Shaped stopped.ring.capacity stopped.ring.descIOVABase := by
    rw [hstop.capacity, hstop.base]
    exact hc
  obtain ⟨hne, -⟩ := DescriptorRing.commandPtr_spec hshaped (c.totalBlocks % 16)
  rw [if_neg hne]
  exact ⟨rfl, hstop.trans ⟨rfl, rfl, rfl, rfl, fun ht =>
    Nat.mod_lt _ (by exact Nat.zero_lt_of_lt ht)⟩⟩

lemma submitChain_accepts (s : ATContext) {c : SubmittedChain}
    (hc : c.Shaped s.ring.capacity s.ring.descIOVABase) (polled : Option ℕ) :
    (s.submitChain c.toDescriptorChain polled).2 = .success ∧
      Frame s (s.submitChain c.toDescriptorChain polled).1 := by
  have hpath := s.submitPath2_frame c.toDescriptorChain
  unfold submitChain
  dsimp only
  split
  · rename_i h
    exact ⟨by simpa using (Bool.and_eq_true_iff.mp h).2, hpath⟩
  · split
    · have hshaped : c.Shaped (s.submitPath2 c.toDescriptorChain).1.ring.capacity
          (s.submitPath2 c.toDescriptorChain).1.ring.descIOVABase := by
        rw [hpath.capacity, hpath.base]
        exact hc
      obtain ⟨hok, hframe⟩ := submitPath1_accepts _ hshaped polled
      exact ⟨hok, hpath.trans hframe⟩
    · exact submitPath1_accepts s hc polled

end ATContext

/-- The ring can take a response with this payload. -/
def DescriptorRing.RoomFor (ring : DescriptorRing) (payloadDeviceAddress payloadSize : ℕ) : Prop :=
  if payloadSize = 0 then (ring.reserveBlocks 2).isSome = true
  else payloadSize ≤ 0xFFFF ∧ validPayloadAddress payloadDeviceAddress = true ∧
    (ring.reserveBlocks 3).isSome = true

instance (ring : DescriptorRing) (address size : ℕ) : Decidable (ring.RoomFor address size) :=
  inferInstanceAs (Decidable (ite _ _ _))

lemma buildTransactionChain_isSome {ring : DescriptorRing} {req : ChainRequest}
    (htail : ring.tail < ring.capacity) (hhead : ring.head < ring.capacity)
    (hheader : 0 < req.headerData.length) (hcap : req.headerData.length ≤ kImmediateCapacity) :
    (buildTransactionChain ring req).2.isSome = true ↔
      ring.RoomFor req.payloadDeviceAddress req.payloadSize := by
  unfold buildTransactionChain DescriptorRing.RoomFor
  rw [if_neg (by omega)]
  by_cases hzero : req.payloadSize = 0
  · have honly : req.headerOnly = true := by simp [ChainRequest.headerOnly, hzero]
    rw [if_pos hzero, if_neg (by omega), if_neg (by omega), if_pos honly]
    unfold buildHeaderOnly
    cases hres : ring.reserveBlocks 2 with
    | none => simp
    | some index =>
      obtain ⟨-, hle, -⟩ := DescriptorRing.reserveBlocks_spec hres htail hhead
      simp [ring.validIOVA (show index < ring.capacity by omega)]
  · have honly : ¬ req.headerOnly = true := by simp [ChainRequest.headerOnly, hzero]
    rw [if_neg hzero]
    by_cases hsize : req.payloadSize > 0xFFFF
    · rw [if_pos hsize]
      simp only [Option.isSome_none, Bool.false_eq_true, false_iff]
      rintro ⟨hle, -⟩
      omega
    · rw [if_neg hsize, if_neg (by omega), if_neg honly]
      unfold buildHeaderPayload
      cases hvalid : validPayloadAddress req.payloadDeviceAddress with
      | false => simp
      | true =>
        cases hres : ring.reserveBlocks 3 with
        | none => simp
        | some index =>
          obtain ⟨-, hle, -⟩ := DescriptorRing.reserveBlocks_spec hres htail hhead
          have hmod : (index + 2) % ring.capacity = index + 2 := Nat.mod_eq_of_lt (by omega)
          simp only [Bool.not_true, Bool.false_eq_true, if_false, hmod,
            ring.validIOVA (show index < ring.capacity by omega),
            ring.validIOVA (show index + 2 < ring.capacity by omega), Bool.or_self]
          simp
          omega

namespace ATContext

/-- A submission queues one chain exactly when the ring has room for it. -/
lemma submit_spec {s : ATContext} (hs : s.Bounded) {req : ChainRequest}
    (hheader : 0 < req.headerData.length) (hcap : req.headerData.length ≤ kImmediateCapacity)
    (polled : Option ℕ) :
    (s.submit req polled).1.Bounded ∧
      (¬ s.ring.RoomFor req.payloadDeviceAddress req.payloadSize →
        (s.submit req polled).1.inRing = s.inRing) ∧
      (s.ring.RoomFor req.payloadDeviceAddress req.payloadSize →
        ∃ c, c.req = req ∧ (s.submit req polled).1.inRing = s.inRing ++ [c]) := by
  have hroom := buildTransactionChain_isSome hs.tail hs.head hheader hcap
  unfold submit
  rcases buildTransactionChain_spec req hs.tail hs.head with hbuild | ⟨built, c, hbuild, hb⟩
  · rw [hbuild] at hroom ⊢
    refine ⟨hs, fun _ => rfl, fun h => ?_⟩
    exact absurd (hroom.mpr h) (by simp)
  · rw [hbuild] at hroom ⊢
    obtain ⟨storage, rfl⟩ : ∃ storage, built = { s.ring with storage := storage } := ⟨_, hb.rest⟩
    obtain ⟨hok, hframe⟩ := submitChain_accepts { s with ring := { s.ring with storage := storage } }
      hb.shaped polled
    dsimp only at hok hframe ⊢
    rw [if_pos hok]
    have hbounded := hframe.bounded ⟨hs.head, hs.tail, hs.chains⟩
    have hin : (submitChain { s with ring := { s.ring with storage := storage } }
        c polled).1.inRing = s.inRing := hframe.inRing
    refine ⟨⟨hbounded.head, hbounded.tail, ?_⟩, fun h => absurd (hroom.mp rfl) h,
      fun _ => ⟨⟨c, req⟩, rfl, congrArg (· ++ [⟨c, req⟩]) hin⟩⟩
    intro d hd
    rcases List.mem_append.mp hd with hd | hd
    · exact hbounded.chains d hd
    · rw [List.mem_singleton.mp hd]
      have hfit := hb.shaped.fits
      have hpos := SubmittedChain.blocks_pos ⟨c, req⟩
      have hcapacity := hframe.capacity
      dsimp only at hfit hcapacity ⊢
      rw [hcapacity]
      omega

lemma reclaim_bounded {s : ATContext} (hs : s.Bounded) : s.reclaim.Bounded := by
  unfold reclaim
  cases hin : s.inRing with
  | nil => exact hs
  | cons chain rest =>
    have hchains := hs.chains
    rw [hin] at hchains
    dsimp only
    split
    · exact hs
    · cases rest with
      | nil => exact ⟨hs.tail, hs.tail, by simp⟩
      | cons next rest =>
        exact ⟨hchains next (by simp), hs.tail, fun d hd => hchains d (List.mem_cons_of_mem _ hd)⟩

end ATContext

/-! ### One response -/

lemma le32At_headerBytes (quadlets : List ℕ) (i : ℕ) :
    le32At (headerBytes quadlets) (4 * i) = quadlets.getD i 0 % 2 ^ 32 := by
  induction quadlets generalizing i with
  | nil => simp [headerBytes, le32At, byteAt]
  | cons q rest ih =>
    have hcons : headerBytes (q :: rest) = leBytes q ++ headerBytes rest := rfl
    cases i with
    | zero => rw [hcons, Nat.mul_zero, le32At_stored, List.getD_cons_zero]
    | succ i => rw [hcons, Nat.mul_succ, le32At_behind, ih, List.getD_cons_succ]

@[simp] lemma headerBytes_length (quadlets : List ℕ) :
    (headerBytes quadlets).length = 4 * quadlets.length := by
  induction quadlets with
  | nil => rfl
  | cons q rest ih =>
    rw [show headerBytes (q :: rest) = leBytes q ++ headerBytes rest from rfl, List.length_append,
      ih, length_leBytes, List.length_cons]
    omega

lemma buildQ0_fields {label code : ℕ} (hlabel : label < 64) (hcode : code < 16) :
    buildQ0 label code % 2 ^ 32 / 2 ^ 10 % 64 = label ∧
      buildQ0 label code % 2 ^ 32 / 2 ^ 4 % 16 = code := by
  unfold buildQ0 kSpeedS400 kRetryX
  omega

lemma buildQ1_fields {destID : ℕ} (hdest : destID < 2 ^ 16) (rcode : ResponseCode) :
    buildQ1 destID rcode % 2 ^ 32 / 2 ^ 16 = destID ∧
      buildQ1 destID rcode % 2 ^ 32 / 2 ^ 12 % 16 = rcode.toNat % 16 := by
  unfold buildQ1
  omega

lemma ResponseCode.toNat_mod_inj {a b : ResponseCode} (h : a.toNat % 16 = b.toNat % 16) : a = b := by
  cases a <;> cases b <;> simp_all [ResponseCode.toNat]

/-- Cycles since the seconds field was last zero. -/
def cycleTime (timeStamp : ℕ) : ℕ := timeStamp / 2 ^ 13 * 8000 + timeStamp % 2 ^ 13

/-- The deadline is two seconds later on the circle of eight. -/
lemma computeResponseDeadline_spec (timeStamp : ℕ) :
    computeResponseDeadline timeStamp % 2 ^ 13 < 8000 ∧
      cycleTime (computeResponseDeadline timeStamp) = (cycleTime timeStamp + 2 * 8000) % (8 * 8000) := by
  unfold computeResponseDeadline cycleTime kSplitTimeoutCycles
  dsimp only
  omega

namespace RequestBody

/-- The tCode a response to this kind of request has. -/
def responseTCode : RequestBody → ℕ
  | writeQuadlet _ => 0x2
  | writeBlock _ => 0x2
  | readQuadlet => 0x6
  | readBlock _ => 0x7
  | lock _ _ => 0xB

/-- Responses with a data length in their fourth quadlet. -/
def declaresLength : RequestBody → Bool
  | readBlock _ => true
  | lock _ _ => true
  | _ => false

def isWrite : RequestBody → Bool
  | writeQuadlet _ => true
  | writeBlock _ => true
  | _ => false

end RequestBody

namespace AsyncRequest

def Broadcast (r : AsyncRequest) : Prop := r.destID.val = 0xFFFF

/-- The response a request is owed when it is answered with `rcode`. -/
structure Answers (r : AsyncRequest) (timeStamp : Fin (2 ^ 16)) (rcode : ResponseCode)
    (req : ChainRequest) : Prop where
  destination : le32At req.headerData 4 / 2 ^ 16 = r.sourceID.val
  label : le32At req.headerData 0 / 2 ^ 10 % 64 = r.tLabel.val
  tCode : le32At req.headerData 0 / 2 ^ 4 % 16 = r.body.responseTCode
  rCode : le32At req.headerData 4 / 2 ^ 12 % 16 = rcode.toNat % 16
  length : r.body.declaresLength = true → le32At req.headerData 12 / 2 ^ 16 = req.payloadSize
  cycle : req.atTimeStamp % 2 ^ 13 < 8000
  deadline : cycleTime req.atTimeStamp = (cycleTime timeStamp.val + 2 * 8000) % (8 * 8000)

/-- Event code of the acknowledge in the trailer. -/
def AckPending (xferStatus : Fin (2 ^ 16)) : Prop := xferStatus.val % 32 = 0x12

def AckComplete (xferStatus : Fin (2 ^ 16)) : Prop := xferStatus.val % 32 = 0x11

/-- A broadcast or completed request queues nothing, one acknowledged as pending exactly its
response. -/
def Answered (r : AsyncRequest) (x t : Fin (2 ^ 16)) (rcode : ResponseCode)
    (before after : List SubmittedChain) : Prop :=
  (r.Broadcast ∨ AckComplete x → after = before) ∧
    (¬ r.Broadcast ∧ AckPending x → ∃ c, after = before ++ [c] ∧ r.Answers t rcode c.req)

/-- The condition for `Answered`: a pending request finds room and its code stands, a completed one
finds none. -/
def Answerable (r : AsyncRequest) (x : Fin (2 ^ 16)) (queues stands : Prop) : Prop :=
  r.Broadcast ∨ ((AckPending x → queues ∧ stands) ∧ (AckComplete x → ¬ queues))

lemma Answerable.congr {r : AsyncRequest} {x : Fin (2 ^ 16)} {queues queues' stands stands' : Prop}
    (h : queues ↔ queues') (h' : stands ↔ stands') :
    r.Answerable x queues stands ↔ r.Answerable x queues' stands' := by
  unfold Answerable
  rw [h, h']

end AsyncRequest

namespace ResponseSender

/-- Unreleased chains of the response context, oldest first. -/
def responses (s : ResponseSender) : List SubmittedChain :=
  match s.atResponse with
  | none => []
  | some context => context.inRing

/-- Responses the controller has not sent. -/
def unsent (s : ResponseSender) : List SubmittedChain :=
  match s.atResponse with
  | none => []
  | some context => context.pending

def Bounded (s : ResponseSender) : Prop := ∀ context, s.atResponse = some context → context.Bounded

/-- There is a response context with room for this payload. -/
def Accepts (s : ResponseSender) (payload : ℕ × ℕ) : Prop :=
  ∃ context, s.atResponse = some context ∧ context.ring.RoomFor payload.1 payload.2

section Send
variable {s : ResponseSender} {header : List ℕ}

@[simp] lemma sendResponse_scratch (s : ResponseSender) (request : ARPacketView) (header : List ℕ)
    (address length : ℕ) (polled : Option ℕ) :
    (s.sendResponse request header address length polled).lockResponseScratch =
      s.lockResponseScratch := by
  unfold sendResponse
  split
  · rfl
  · split <;> rfl

/-- `SendResponse` queues at most one chain, and one exactly when it can. -/
lemma sendResponse_spec (hs : s.Bounded) (request : ARPacketView)
    (hheader : header.length = 3 ∨ header.length = 4) (address length : ℕ) (polled : Option ℕ) :
    (s.sendResponse request header address length polled).Bounded ∧
      (request.destID = 0xFFFF ∨ ¬ s.Accepts (address, length) →
        (s.sendResponse request header address length polled).responses = s.responses) ∧
      (request.destID ≠ 0xFFFF → s.Accepts (address, length) →
        ∃ c, c.req.headerData = headerBytes header ∧ c.req.payloadDeviceAddress = address ∧
          c.req.payloadSize = length ∧
          c.req.atTimeStamp = computeResponseDeadline (request.timeStamp % 2 ^ 16) ∧
          (s.sendResponse request header address length polled).responses =
            s.responses ++ [c]) := by
  unfold sendResponse
  by_cases hcast : request.destID = 0xFFFF
  · rw [if_pos hcast]
    exact ⟨hs, fun _ => rfl, fun h => absurd hcast h⟩
  rw [if_neg hcast]
  cases hctx : s.atResponse with
  | none =>
    refine ⟨hs, fun _ => rfl, fun _ h => ?_⟩
    obtain ⟨context, hsome, -⟩ := h
    rw [hctx] at hsome
    cases hsome
  | some context =>
    obtain ⟨hbounded, hnone, hsome⟩ := @ATContext.submit_spec context (hs context hctx) {
        headerData := headerBytes header, payloadDeviceAddress := address, payloadSize := length
        needsFlush := false
        atTimeStamp := computeResponseDeadline (request.timeStamp % 2 ^ 16) }
      (by rw [headerBytes_length]; omega)
      (by rw [headerBytes_length]; unfold kImmediateCapacity; omega) polled
    refine ⟨?_, fun h => ?_, fun _ h => ?_⟩
    · intro context' h
      rw [← Option.some.inj h]
      exact hbounded
    · have hroom : ¬ context.ring.RoomFor address length := fun hroom =>
        h.elim hcast fun h => h ⟨context, hctx, hroom⟩
      simp only [responses, hctx]
      exact hnone hroom
    · obtain ⟨context', hsome', hroom⟩ := h
      rw [hctx] at hsome'
      obtain rfl := Option.some.inj hsome'
      obtain ⟨c, hreq, hin⟩ := hsome hroom
      refine ⟨c, by rw [hreq], by rw [hreq], by rw [hreq], by rw [hreq], ?_⟩
      simp only [responses, hctx]
      exact hin

/-- The fields of a queued response chain. -/
lemma answers_of_header (r : AsyncRequest) (t : Fin (2 ^ 16)) {rc rcode : ResponseCode}
    {req : ChainRequest} (h0 : header.getD 0 0 = buildQ0 r.tLabel.val r.body.responseTCode)
    (h1 : header.getD 1 0 = buildQ1 r.sourceID.val rc)
    (h3 : r.body.declaresLength = true → header.getD 3 0 % 2 ^ 32 / 2 ^ 16 = req.payloadSize)
    (hdata : req.headerData = headerBytes header)
    (htime : req.atTimeStamp = computeResponseDeadline (t.val % 2 ^ 16)) :
    r.Answers t rcode req ↔ rc = rcode := by
  have hq0 := le32At_headerBytes header 0
  have hq1 := le32At_headerBytes header 1
  have hq3 := le32At_headerBytes header 3
  rw [← hdata] at hq0 hq1 hq3
  norm_num only at hq0 hq1 hq3
  have hcode : r.body.responseTCode < 16 := by
    cases r.body <;> simp [RequestBody.responseTCode]
  obtain ⟨hlabel, htcode⟩ := buildQ0_fields r.tLabel.isLt hcode
  obtain ⟨hdest, hrcode⟩ := buildQ1_fields r.sourceID.isLt rc
  obtain ⟨hcycle, hdeadline⟩ := computeResponseDeadline_spec (t.val % 2 ^ 16)
  rw [Nat.mod_eq_of_lt t.isLt] at htime hcycle hdeadline
  constructor
  · intro h
    have := h.rCode
    rw [hq1, h1] at this
    exact ResponseCode.toNat_mod_inj (hrcode.symm.trans this)
  · rintro rfl
    refine ⟨?_, ?_, ?_, ?_, fun hl => ?_, ?_, ?_⟩
    · rw [hq1, h1]
      exact hdest
    · rw [hq0, h0]
      exact hlabel
    · rw [hq0, h0]
      exact htcode
    · rw [hq1, h1]
      exact hrcode
    · rw [hq3]
      exact h3 hl
    · rw [htime]
      exact hcycle
    · rw [htime]
      exact hdeadline

/-- When a response to a request is the right one. -/
lemma sendResponse_answered (hs : s.Bounded) (r : AsyncRequest) (x t : Fin (2 ^ 16))
    {rc rcode : ResponseCode} {address length : ℕ}
    (hheader : header.length = 3 ∨ header.length = 4)
    (h0 : header.getD 0 0 = buildQ0 r.tLabel.val r.body.responseTCode)
    (h1 : header.getD 1 0 = buildQ1 r.sourceID.val rc)
    (h3 : r.body.declaresLength = true → length ≤ 0xFFFF →
      header.getD 3 0 % 2 ^ 32 / 2 ^ 16 = length) (polled : Option ℕ) :
    r.Answered x t rcode s.responses
        (s.sendResponse (r.view x t) header address length polled).responses ↔
      r.Answerable x (s.Accepts (address, length)) (rc = rcode) := by
  unfold AsyncRequest.Answerable
  obtain ⟨-, hnone, hone⟩ := sendResponse_spec hs (r.view x t) hheader address length polled
  by_cases hcast : r.Broadcast
  · simp only [AsyncRequest.Answered, hcast, true_or, not_true, false_and, false_implies, and_true,
      forall_const, iff_true]
    exact hnone (Or.inl hcast)
  by_cases hroom : s.Accepts (address, length)
  · obtain ⟨c, hdata, -, hsize, htime, hqueued⟩ := hone hcast hroom
    have hlen : length ≤ 0xFFFF := by
      obtain ⟨context, -, h⟩ := hroom
      unfold DescriptorRing.RoomFor at h
      dsimp only at h
      split at h
      · omega
      · exact h.1
    have hans : r.Answers t rcode c.req ↔ rc = rcode :=
      answers_of_header r t h0 h1 (fun hl => hsize ▸ h3 hl hlen) hdata htime
    have hne : s.responses ++ [c] ≠ s.responses := by simp
    rw [hqueued]
    simp only [AsyncRequest.Answered, hcast, hroom, false_or, not_false_iff, true_and, hne,
      not_true, List.append_cancel_left_eq, List.cons.injEq, and_true, exists_eq_left', hans]
    exact and_comm
  · rw [hnone (Or.inr hroom)]
    simp only [AsyncRequest.Answered, hcast, hroom, false_or, not_false_iff, true_and,
      List.self_eq_append_right, List.cons_ne_self, false_and, exists_false,
      implies_true, and_true]

end Send

/-! ### The five kinds of request -/

/-- Device address and length of the payload the response to a request gets. -/
def payload (s : ResponseSender) (body : RequestBody) (result : LocalRequestResult) : ℕ × ℕ :=
  match body with
  | .readBlock _ =>
    if result.responseCode = .complete ∧ 0 < result.readBlockLength then
      (result.readBlockDeviceAddress, result.readBlockLength)
    else (0, 0)
  | .lock _ _ =>
    if result.responseCode = .complete ∧ s.lockResponseScratch.usable = true ∧
        s.dmaManager = true then
      (s.lockResponseScratch.slotAddress s.lockResponseScratch.slot, 4)
    else (0, 0)
  | _ => (0, 0)

/-- A response can be queued: no write handler keeps it back, and the response context has room. -/
structure Queues (s : ResponseSender) (body : RequestBody) (result : LocalRequestResult) : Prop where
  code : body.isWrite = true → result.responseCode ≠ .noResponse
  room : s.Accepts (s.payload body result)

/-- A completed lock finds memory for its old value. -/
def HasScratch (s : ResponseSender) (body : RequestBody) (result : LocalRequestResult) : Prop :=
  body.tCode = kTcodeLockRequest → result.responseCode = .complete →
    s.lockResponseScratch.usable = true ∧ s.dmaManager = true

end ResponseSender

namespace LocalNode

variable {W : Type*} (node : LocalNode W) (r : AsyncRequest) (x t : Fin (2 ^ 16))
  (generation : ℕ) (polled : Option ℕ)

/-- What the handlers make of a request. -/
def resultOf : LocalRequestResult :=
  (route node.handlers (requestContext (r.view x t) generation) node.world).1

/-- The sender after a request has been routed. -/
lemma routeParsedPacket_sender {info : PacketInfo} (hview : buildView info = some (r.view x t)) :
    (node.routeParsedPacket info generation polled).sender =
      let view := r.view x t
      let result := node.resultOf r x t generation
      let rcode := result.responseCode
      match r.body with
      | .readQuadlet => node.sender.sendReadQuadletResponse view rcode result.readQuadlet polled
      | .readBlock _ => if rcode = .complete then
            node.sender.sendReadBlockResponse view rcode result.readBlockDeviceAddress
              result.readBlockLength polled
          else node.sender.sendReadBlockResponse view rcode 0 0 polled
      | .lock _ _ => node.sender.sendLockResponse view rcode result.lockResponseQuadlet polled
      | _ => if rcode = .noResponse then node.sender
          else node.sender.sendWriteResponse view rcode polled := by
  have hcode : (r.view x t).tCode = r.body.tCode := rfl
  unfold routeParsedPacket dispatchView resultOf
  rw [hview]
  dsimp only
  rw [hcode]
  cases hbody : r.body with
  | writeQuadlet data =>
    simp only [RequestBody.tCode, installed, kTcodeWriteQuad, kTcodeReadQuad, kTcodeReadBlock,
      kTcodeLockRequest, List.mem_cons, true_or, if_true, OfNat.zero_ne_ofNat, if_false]
    split <;> simp_all
  | writeBlock payload =>
    simp only [RequestBody.tCode, installed, kTcodeWriteQuad, kTcodeWriteBlock, kTcodeReadQuad,
      kTcodeReadBlock, kTcodeLockRequest, List.mem_cons, true_or, or_true, if_true,
      OfNat.one_ne_ofNat, if_false]
    split <;> simp_all
  | readQuadlet => simp [RequestBody.tCode, installed, kTcodeReadQuad]
  | readBlock dataLength =>
    simp [RequestBody.tCode, installed, kTcodeReadQuad, kTcodeReadBlock]
  | lock extendedTCode payload =>
    simp [RequestBody.tCode, installed, kTcodeReadQuad, kTcodeReadBlock, kTcodeLockRequest]

end LocalNode

namespace ResponseSender

variable {s : ResponseSender} (hs : s.Bounded) (r : AsyncRequest) (x t : Fin (2 ^ 16))
  (polled : Option ℕ)

include hs

lemma sendWriteResponse_answered (hbody : r.body.isWrite = true) (rcode : ResponseCode) :
    r.Answered x t rcode s.responses
        (s.sendWriteResponse (r.view x t) rcode polled).responses ↔
      r.Answerable x (s.Accepts (0, 0)) True := by
  have hcodes : (r.view x t).tCode = 0x0 ∨ (r.view x t).tCode = 0x1 := by
    change r.body.tCode = 0x0 ∨ r.body.tCode = 0x1
    cases hb : r.body <;> simp_all [RequestBody.isWrite, RequestBody.tCode]
  have hcode : r.body.responseTCode = 0x2 := by
    cases hb : r.body <;> simp_all [RequestBody.isWrite, RequestBody.responseTCode]
  have hlen : r.body.declaresLength = false := by
    cases hb : r.body <;> simp_all [RequestBody.isWrite, RequestBody.declaresLength]
  unfold sendWriteResponse
  rw [if_neg (by omega), sendResponse_answered hs r x t (Or.inl rfl) (by rw [hcode]; rfl) rfl
    (by simp [hlen])]
  exact AsyncRequest.Answerable.congr Iff.rfl (by simp)

lemma sendReadQuadletResponse_answered (hbody : r.body = .readQuadlet) (rcode : ResponseCode)
    (quadletData : ℕ) :
    r.Answered x t rcode s.responses
        (s.sendReadQuadletResponse (r.view x t) rcode quadletData polled).responses ↔
      r.Answerable x (s.Accepts (0, 0)) True := by
  have hcode : (r.view x t).tCode = 0x4 := by
    change r.body.tCode = 0x4
    rw [hbody]
    rfl
  unfold sendReadQuadletResponse
  rw [if_neg (by simp [hcode]), sendResponse_answered hs r x t (Or.inr rfl) (by rw [hbody]; rfl) rfl
    (by simp [hbody, RequestBody.declaresLength])]
  exact AsyncRequest.Answerable.congr Iff.rfl (by simp)

lemma sendReadBlockResponse_answered {dataLength : Fin (2 ^ 16)}
    (hbody : r.body = .readBlock dataLength) (rcode : ResponseCode) (address length : ℕ) :
    r.Answered x t rcode s.responses
        (s.sendReadBlockResponse (r.view x t) rcode address length polled).responses ↔
      r.Answerable x (s.Accepts (if rcode = .complete ∧ 0 < length then (address, length)
        else (0, 0))) True := by
  have hcode : (r.view x t).tCode = 0x5 := by
    change r.body.tCode = 0x5
    rw [hbody]
    rfl
  unfold sendReadBlockResponse
  rw [if_neg (by simp [hcode])]
  dsimp only
  by_cases hcomplete : rcode = .complete ∧ 0 < length
  · rw [if_pos hcomplete, if_pos hcomplete, sendResponse_answered hs r x t (Or.inr rfl)
      (by rw [hbody]; rfl) rfl]
    · exact AsyncRequest.Answerable.congr Iff.rfl (by simp)
    · intro _ hle
      simp only [List.getD_cons_succ, List.getD_cons_zero]
      omega
  · rw [if_neg hcomplete, if_neg hcomplete, sendResponse_answered hs r x t (Or.inr rfl)
      (by rw [hbody]; rfl) rfl (by simp)]
    exact AsyncRequest.Answerable.congr Iff.rfl (by simp)

lemma sendLockResponse_answered {extendedTCode : Fin (2 ^ 16)}
    {data : { bytes : List UInt8 // bytes.length < 2 ^ 16 }}
    (hbody : r.body = .lock extendedTCode data) {result : LocalRequestResult} (oldValue : ℕ) :
    r.Answered x t result.responseCode s.responses
        (s.sendLockResponse (r.view x t) result.responseCode oldValue polled).responses ↔
      r.Answerable x (s.Accepts (s.payload r.body result)) (s.HasScratch r.body result) := by
  have hcode : (r.view x t).tCode = 0x9 := by
    change r.body.tCode = 0x9
    rw [hbody]
    rfl
  have hlock : r.body.tCode = kTcodeLockRequest := hcode
  have hresponse : r.body.responseTCode = 0xB := by
    rw [hbody]
    rfl
  have hext : extractExtendedTCode (r.view x t).header < 2 ^ 16 := by
    have h0 := byteAt_lt (r.view x t).header 12
    have h1 := byteAt_lt (r.view x t).header 13
    unfold extractExtendedTCode
    split <;> omega
  have hbusy : result.responseCode = .complete → ¬ (s.lockResponseScratch.usable = true ∧
      s.dmaManager = true) →
      (r.Answered x t result.responseCode s.responses (s.sendResponse (r.view x t)
          [buildQ0 (r.view x t).tLabel 0xB, buildQ1 (r.view x t).sourceID .busy, 0, 0]
          0 0 polled).responses ↔
        r.Answerable x (s.Accepts (s.payload r.body result)) (s.HasScratch r.body result)) := by
    intro hcomplete hmissing
    rw [sendResponse_answered hs r x t (Or.inr rfl) (by rw [hresponse]; rfl) rfl (by simp)]
    apply AsyncRequest.Answerable.congr
    · rw [hbody, payload, if_neg fun h => hmissing h.2]
    · simp [HasScratch, hlock, hcomplete, hmissing]
  unfold sendLockResponse
  rw [if_neg (by simp [hcode])]
  dsimp only
  by_cases hcomplete : result.responseCode = .complete
  · rw [if_pos hcomplete]
    by_cases husable : s.lockResponseScratch.usable = true
    · rw [if_neg (by simp [husable])]
      by_cases hdma : s.dmaManager = true
      · have htaken : Bounded { s with
            lockResponseScratch := s.lockResponseScratch.take oldValue } := hs
        rw [if_pos hdma]
        refine (sendResponse_answered htaken r x t (Or.inr rfl) (by rw [hresponse]; rfl) rfl ?_
          polled).trans ?_
        · intro _ _
          simp only [List.getD_cons_succ, List.getD_cons_zero]
          omega
        · apply AsyncRequest.Answerable.congr
          · rw [hbody, payload, if_pos ⟨hcomplete, husable, hdma⟩]
            rfl
          · simp [HasScratch, husable, hdma]
      · rw [if_neg hdma]
        exact hbusy hcomplete fun h => hdma h.2
    · rw [if_pos (by simpa using husable)]
      exact hbusy hcomplete fun h => husable h.1
  · rw [if_neg hcomplete, sendResponse_answered hs r x t (Or.inr rfl) (by rw [hresponse]; rfl) rfl
      (by simp)]
    apply AsyncRequest.Answerable.congr
    · rw [hbody, payload, if_neg fun h => hcomplete h.1]
    · simp [HasScratch, hcomplete]

end ResponseSender

namespace LocalNode

variable {W : Type*} {node : LocalNode W}

/-- When a routed request is answered as it should be. -/
lemma routeParsedPacket_answered (hnode : node.sender.Bounded) (r : AsyncRequest)
    (x t : Fin (2 ^ 16)) (generation : ℕ) (polled : Option ℕ) {info : PacketInfo}
    (hview : buildView info = some (r.view x t)) :
    let result := node.resultOf r x t generation
    r.Answered x t result.responseCode node.sender.responses
        (node.routeParsedPacket info generation polled).sender.responses ↔
      r.Answerable x (node.sender.Queues r.body result) (node.sender.HasScratch r.body result) := by
  intro result
  rw [routeParsedPacket_sender node r x t generation polled hview]
  have hwrite : r.body.isWrite = true →
      (r.Answered x t result.responseCode node.sender.responses (if result.responseCode = .noResponse
        then node.sender else node.sender.sendWriteResponse (r.view x t) result.responseCode
          polled).responses ↔
        r.Answerable x (node.sender.Queues r.body result) (node.sender.HasScratch r.body result)) := by
    intro hbody
    have hscratch : node.sender.HasScratch r.body result := by
      intro h
      cases hb : r.body <;> simp_all [RequestBody.isWrite, RequestBody.tCode, kTcodeLockRequest]
    have hpayload : node.sender.payload r.body result = (0, 0) := by
      cases hb : r.body <;> simp_all [RequestBody.isWrite, ResponseSender.payload]
    by_cases hcode : result.responseCode = .noResponse
    · have hqueues : ¬ node.sender.Queues r.body result := fun h => h.code hbody hcode
      rw [if_pos hcode]
      simp [AsyncRequest.Answered, AsyncRequest.Answerable, hqueues]
      tauto
    · rw [if_neg hcode, ResponseSender.sendWriteResponse_answered hnode r x t polled hbody]
      apply AsyncRequest.Answerable.congr
      · rw [← hpayload]
        exact ⟨fun h => ⟨fun _ => hcode, h⟩, fun h => h.room⟩
      · simp [hscratch]
  have hread : r.body.isWrite = false → (node.sender.Queues r.body result ↔
      node.sender.Accepts (node.sender.payload r.body result)) := by
    intro hbody
    exact ⟨fun h => h.room, fun h => ⟨by simp [hbody], h⟩⟩
  cases hbody : r.body with
  | writeQuadlet data =>
    rw [hbody] at hwrite
    exact hwrite rfl
  | writeBlock data =>
    rw [hbody] at hwrite
    exact hwrite rfl
  | readQuadlet =>
    rw [hbody] at hread
    refine (ResponseSender.sendReadQuadletResponse_answered hnode r x t polled hbody _ _).trans ?_
    apply AsyncRequest.Answerable.congr
    · exact (hread rfl).symm
    · simp [ResponseSender.HasScratch, RequestBody.tCode, kTcodeLockRequest]
  | readBlock dataLength =>
    rw [hbody] at hread
    have hscratch : node.sender.HasScratch (.readBlock dataLength) result := by
      simp [ResponseSender.HasScratch, RequestBody.tCode, kTcodeLockRequest]
    dsimp only
    by_cases hcomplete : result.responseCode = .complete
    · rw [if_pos hcomplete]
      refine (ResponseSender.sendReadBlockResponse_answered hnode r x t polled hbody _ _ _).trans ?_
      apply AsyncRequest.Answerable.congr
      · exact (hread rfl).symm
      · simp [hscratch]
    · rw [if_neg hcomplete]
      refine (ResponseSender.sendReadBlockResponse_answered hnode r x t polled hbody _ _ _).trans ?_
      apply AsyncRequest.Answerable.congr
      · rw [hread rfl, ResponseSender.payload, if_neg fun h => hcomplete h.1,
          if_neg fun h => hcomplete h.1]
      · simp [hscratch]
  | lock extendedTCode data =>
    rw [hbody] at hread
    refine (ResponseSender.sendLockResponse_answered hnode r x t polled hbody _).trans ?_
    rw [hbody]
    exact AsyncRequest.Answerable.congr (hread rfl).symm Iff.rfl

end LocalNode

end ASFireWire.Async
