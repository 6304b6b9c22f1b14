import ASFireWire.RequestResponses
import ASFireWire.Widths

/-! Runs of the local node. The payload of a lock response lies in one of the rotating scratch
slots until the controller has completed its chain; it survives as long as no later lock takes the
same slot first. -/
namespace ASFireWire.Async

open Quadlets

namespace ScratchRegion

variable (scratch : ScratchRegion) (oldValue : ℕ)

/-- The slot just taken holds the old value in bus order. -/
lemma fetch_take :
    (scratch.take oldValue).fetch (scratch.slotAddress scratch.slot) = beBytes oldValue := by
  have hoffset : scratch.slotAddress scratch.slot - scratch.deviceBase =
      scratch.slot * kLockResponseScratchStride := by
    unfold slotAddress
    omega
  simp only [fetch, take, store, hoffset]
  apply List.ext_getElem
  · simp
  · intro k hk _
    have hlt : k < 4 := by simpa using hk
    simp only [List.getElem_map, List.getElem_range]
    rw [if_pos (by omega), Nat.add_sub_cancel_left, List.getD_eq_getElem]

/-- Other slots keep their bytes. -/
lemma fetch_take_of_ne {k : ℕ} (hne : scratch.slotAddress k ≠ scratch.slotAddress scratch.slot) :
    (scratch.take oldValue).fetch (scratch.slotAddress k) = scratch.fetch (scratch.slotAddress k) := by
  have hoffset : scratch.slotAddress k - scratch.deviceBase = k * kLockResponseScratchStride := by
    unfold slotAddress
    omega
  have hslot : k ≠ scratch.slot := fun h => hne (by rw [h])
  simp only [fetch, take, store, hoffset]
  apply List.map_congr_left
  intro j hj
  have hlt : j < 4 := List.mem_range.mp hj
  rw [if_neg]
  unfold kLockResponseScratchStride
  omega

end ScratchRegion

namespace ResponseSender

/-- What one request does to the sender: at most one call of `SendResponse`, behind a scratch slot
taken for a completed lock. -/
inductive Sent (s : ResponseSender) (view : ARPacketView) (result : LocalRequestResult)
    (polled : Option ℕ) : ResponseSender → Prop
  | nothing : Sent s view result polled s
  | plain (header : List ℕ) (address length : ℕ) (h : header.length = 3 ∨ header.length = 4) :
      Sent s view result polled (s.sendResponse view header address length polled)
  | lock (header : List ℕ) (h : header.length = 3 ∨ header.length = 4)
      (hcode : view.tCode = kTcodeLockRequest) (hcomplete : result.responseCode = .complete)
      (husable : s.lockResponseScratch.usable = true) (hdma : s.dmaManager = true) :
      Sent s view result polled
        (sendResponse { s with
            lockResponseScratch := s.lockResponseScratch.take result.lockResponseQuadlet }
          view header (s.lockResponseScratch.slotAddress s.lockResponseScratch.slot) 4 polled)

variable {s s' : ResponseSender} {view : ARPacketView} {result : LocalRequestResult}
  {polled : Option ℕ}

lemma Sent.bounded (h : Sent s view result polled s') (hs : s.Bounded) : s'.Bounded := by
  cases h with
  | nothing => exact hs
  | plain header address length h => exact (sendResponse_spec hs view h address length polled).1
  | lock header h =>
    have htaken : Bounded { s with
        lockResponseScratch := s.lockResponseScratch.take result.lockResponseQuadlet } := hs
    exact (sendResponse_spec htaken view h _ 4 polled).1

lemma sendWriteResponse_sent (s : ResponseSender) (view : ARPacketView)
    (result : LocalRequestResult) (rcode : ResponseCode) (polled : Option ℕ) :
    Sent s view result polled (s.sendWriteResponse view rcode polled) := by
  unfold sendWriteResponse
  split
  · exact .nothing
  · exact .plain _ _ _ (Or.inl rfl)

lemma sendReadQuadletResponse_sent (s : ResponseSender) (view : ARPacketView)
    (result : LocalRequestResult) (rcode : ResponseCode) (data : ℕ) (polled : Option ℕ) :
    Sent s view result polled (s.sendReadQuadletResponse view rcode data polled) := by
  unfold sendReadQuadletResponse
  split
  · exact .nothing
  · exact .plain _ _ _ (Or.inr rfl)

lemma sendReadBlockResponse_sent (s : ResponseSender) (view : ARPacketView)
    (result : LocalRequestResult) (rcode : ResponseCode) (address length : ℕ)
    (polled : Option ℕ) :
    Sent s view result polled (s.sendReadBlockResponse view rcode address length polled) := by
  unfold sendReadBlockResponse
  split
  · exact .nothing
  · dsimp only
    split
    · exact .plain _ _ _ (Or.inr rfl)
    · exact .plain _ _ _ (Or.inr rfl)

lemma sendLockResponse_sent (s : ResponseSender) (view : ARPacketView)
    (result : LocalRequestResult) (polled : Option ℕ) (hcode : view.tCode = kTcodeLockRequest) :
    Sent s view result polled
      (s.sendLockResponse view result.responseCode result.lockResponseQuadlet polled) := by
  unfold sendLockResponse
  split
  · exact .nothing
  · dsimp only
    by_cases hcomplete : result.responseCode = .complete
    · rw [if_pos hcomplete]
      by_cases husable : s.lockResponseScratch.usable = true
      · rw [if_neg (by simp [husable])]
        split
        · rename_i hdma
          exact .lock _ (Or.inr rfl) hcode hcomplete husable hdma
        · exact .plain _ _ _ (Or.inr rfl)
      · rw [if_pos (by simpa using husable)]
        exact .plain _ _ _ (Or.inr rfl)
    · rw [if_neg hcomplete]
      exact .plain _ _ _ (Or.inr rfl)

end ResponseSender

namespace LocalNode

variable {W : Type*} {node : LocalNode W}

open ResponseSender

/-- Every routed packet is one `Sent`. -/
lemma routeParsedPacket_sent (node : LocalNode W) (info : PacketInfo) (generation : ℕ)
    (polled : Option ℕ) :
    (node.routeParsedPacket info generation polled).sender = node.sender ∨
      ∃ view, buildView info = some view ∧
        Sent node.sender view (route node.handlers (requestContext view generation) node.world).1
          polled (node.routeParsedPacket info generation polled).sender := by
  unfold routeParsedPacket
  cases hview : buildView info with
  | none => exact Or.inl rfl
  | some view =>
    dsimp only
    by_cases hcode : view.tCode ∈ installed
    · refine Or.inr ⟨view, rfl, ?_⟩
      rw [if_pos hcode]
      unfold dispatchView
      dsimp only
      by_cases hquad : view.tCode = kTcodeReadQuad
      · simp only [if_pos hquad, ne_eq, not_true, if_false]
        exact sendReadQuadletResponse_sent _ _ _ _ _ _
      by_cases hblock : view.tCode = kTcodeReadBlock
      · simp only [if_neg hquad, if_pos hblock, ne_eq, not_true, if_false]
        split
        · exact sendReadBlockResponse_sent _ _ _ _ _ _ _
        · exact sendReadBlockResponse_sent _ _ _ _ _ _ _
      by_cases hlock : view.tCode = kTcodeLockRequest
      · simp only [if_neg hquad, if_neg hblock, if_pos hlock, ne_eq, not_true, if_false]
        exact sendLockResponse_sent _ _ _ _ hlock
      · simp only [if_neg hquad, if_neg hblock, if_neg hlock]
        split
        · exact sendWriteResponse_sent _ _ _ _ _
        · exact .nothing
    · rw [if_neg hcode]
      exact Or.inl rfl

end LocalNode

namespace LocalNode

variable {W : Type*} {node : LocalNode W}

lemma step_bounded (e : NodeEvent) (h : node.sender.Bounded) : (node.step e).sender.Bounded := by
  have hmap : ∀ f : ATContext → ATContext, (∀ context, context.Bounded → (f context).Bounded) →
      (node.mapResponse f).sender.Bounded := by
    intro f hf context hcontext
    obtain ⟨context', hsome, rfl⟩ := Option.map_eq_some_iff.mp hcontext
    exact hf context' (h context' hsome)
  cases e with
  | packet info generation polled =>
    rcases node.routeParsedPacket_sent info generation polled with hsame | ⟨view, -, hsent⟩
    · change (node.routeParsedPacket info generation polled).sender.Bounded
      rw [hsame]
      exact h
    · exact hsent.bounded h
  | hwStep status =>
    apply hmap
    intro context hcontext
    exact (context.hwStep_frame status).bounded hcontext
  | reclaim =>
    apply hmap
    intro context hcontext
    exact ATContext.reclaim_bounded hcontext

/-- The request takes a scratch slot. -/
def TakesSlot (node : LocalNode W) (view : ARPacketView) (generation : ℕ) : Prop :=
  view.tCode = kTcodeLockRequest ∧
    (route node.handlers (requestContext view generation) node.world).1.responseCode = .complete ∧
    node.sender.lockResponseScratch.usable = true ∧ node.sender.dmaManager = true

instance (node : LocalNode W) (view : ARPacketView) (generation : ℕ) :
    Decidable (node.TakesSlot view generation) :=
  inferInstanceAs (Decidable (_ ∧ _ ∧ _ ∧ _))

def isLockResponse (c : SubmittedChain) : Bool := le32At c.req.headerData 0 / 2 ^ 4 % 16 = 0xB

/-- A lock about to take a slot does not take that of an unsent lock response. -/
def SlotFree (node : LocalNode W) : NodeEvent → Prop
  | .packet info generation _ => ∀ view ∈ buildView info, node.TakesSlot view generation →
      ∀ c ∈ node.sender.unsent, isLockResponse c = true → c.req.payloadDeviceAddress ≠
        node.sender.lockResponseScratch.slotAddress node.sender.lockResponseScratch.slot
  | _ => True

instance (node : LocalNode W) : (e : NodeEvent) → Decidable (node.SlotFree e)
  | .packet info generation _ => inferInstanceAs (Decidable (∀ view ∈ buildView info,
      node.TakesSlot view generation → ∀ c ∈ node.sender.unsent, isLockResponse c = true →
        c.req.payloadDeviceAddress ≠
          node.sender.lockResponseScratch.slotAddress node.sender.lockResponseScratch.slot))
  | .hwStep _ => isTrue trivial
  | .reclaim => isTrue trivial

/-- The controller has not sent the response, and no lock takes its slot. -/
def Undisturbed (c : SubmittedChain) (node : LocalNode W) (e : NodeEvent) : Prop :=
  c ∈ node.sender.unsent ∧ node.SlotFree e

instance (c : SubmittedChain) (node : LocalNode W) (e : NodeEvent) :
    Decidable (Undisturbed c node e) := inferInstanceAs (Decidable (_ ∧ _))

/-- A scratch slot with its bytes. -/
structure HoldsSlot (base count slot : ℕ) (bytes : List UInt8) (node : LocalNode W) : Prop where
  deviceBase : node.sender.lockResponseScratch.deviceBase = base
  slotCount : node.sender.lockResponseScratch.slotCount = count
  bytes : node.sender.lockResponseScratch.fetch (base + slot * kLockResponseScratchStride) = bytes

/-- One step does not touch the slot of an undisturbed lock response. -/
lemma HoldsSlot.step {base count slot : ℕ} {bytes : List UInt8}
    (h : HoldsSlot base count slot bytes node) {c : SubmittedChain} {e : NodeEvent}
    (hc : c.req.payloadDeviceAddress = base + slot * kLockResponseScratchStride)
    (hlock : isLockResponse c = true) (hok : Undisturbed c node e) :
    HoldsSlot base count slot bytes (node.step e) := by
  have hsame : ∀ node' : LocalNode W,
      node'.sender.lockResponseScratch = node.sender.lockResponseScratch →
      HoldsSlot base count slot bytes node' := by
    intro node' heq
    constructor
    · rw [heq, h.deviceBase]
    · rw [heq, h.slotCount]
    · rw [heq, h.bytes]
  cases e with
  | hwStep status => exact hsame _ rfl
  | reclaim => exact hsame _ rfl
  | packet info generation polled =>
    rcases node.routeParsedPacket_sent info generation polled with heq | ⟨view, hview, hsent⟩
    · exact hsame _ (congrArg ResponseSender.lockResponseScratch heq)
    · change HoldsSlot base count slot bytes (node.routeParsedPacket info generation polled)
      generalize hnode' : node.routeParsedPacket info generation polled = node' at hsent ⊢
      generalize hsender : node'.sender = sender' at hsent
      cases hsent with
      | nothing => exact hsame _ (by rw [hsender])
      | plain header address length hlen =>
        exact hsame _ (by rw [hsender, ResponseSender.sendResponse_scratch])
      | lock header hlen hcode hcomplete husable hdma =>
        have hne := hok.2 view hview ⟨hcode, hcomplete, husable, hdma⟩ c hok.1 hlock
        have haddr : base + slot * kLockResponseScratchStride =
            node.sender.lockResponseScratch.slotAddress slot := by
          unfold ScratchRegion.slotAddress
          rw [h.deviceBase]
        rw [hc, haddr] at hne
        have hfetch := node.sender.lockResponseScratch.fetch_take_of_ne
          (route node.handlers (requestContext view generation) node.world).1.lockResponseQuadlet hne
        constructor
        · rw [hsender, ResponseSender.sendResponse_scratch]
          exact h.deviceBase
        · rw [hsender, ResponseSender.sendResponse_scratch]
          exact h.slotCount
        · rw [hsender, ResponseSender.sendResponse_scratch]
          dsimp only
          rw [haddr, hfetch, ← haddr, h.bytes]

end LocalNode

namespace ResponseSender

/-- The chain a call of `SendResponse` queued. -/
lemma sendResponse_queued {s : ResponseSender} (hs : s.Bounded) {request : ARPacketView}
    {header : List ℕ} (hheader : header.length = 3 ∨ header.length = 4) {address length : ℕ}
    {polled : Option ℕ} {c : SubmittedChain}
    (h : (s.sendResponse request header address length polled).responses = s.responses ++ [c]) :
    c.req.headerData = headerBytes header ∧ c.req.payloadDeviceAddress = address ∧
      c.req.payloadSize = length := by
  obtain ⟨-, hnone, hone⟩ := sendResponse_spec hs request hheader address length polled
  have hne : ¬ (request.destID = 0xFFFF ∨ ¬ s.Accepts (address, length)) := by
    intro hcon
    rw [hnone hcon] at h
    simp at h
  rw [not_or, not_not] at hne
  obtain ⟨c', hdata, haddress, hsize, -, hqueued⟩ := hone hne.1 hne.2
  rw [hqueued] at h
  obtain rfl : c' = c := by simpa using h
  exact ⟨hdata, haddress, hsize⟩

/-- A lock response with a payload owns the slot it was queued with. -/
lemma sendLockResponse_queued {s : ResponseSender} (hs : s.Bounded) {view : ARPacketView}
    {rcode : ResponseCode} {oldValue : ℕ} {polled : Option ℕ} {c : SubmittedChain}
    (h : (s.sendLockResponse view rcode oldValue polled).responses = s.responses ++ [c])
    (hpayload : c.req.payloadSize ≠ 0) :
    c.req.payloadDeviceAddress = s.lockResponseScratch.slotAddress s.lockResponseScratch.slot ∧
      LocalNode.isLockResponse c = true ∧
      (s.sendLockResponse view rcode oldValue polled).lockResponseScratch =
        s.lockResponseScratch.take oldValue := by
  have hplain : ∀ header : List ℕ, header.length = 3 ∨ header.length = 4 →
      (s.sendResponse view header 0 0 polled).responses ≠ s.responses ++ [c] := by
    intro header hheader hcon
    exact hpayload (sendResponse_queued hs hheader hcon).2.2
  unfold sendLockResponse at h ⊢
  split at h
  · simp at h
  · rename_i hcode
    rw [if_neg hcode]
    dsimp only at h ⊢
    by_cases hcomplete : rcode = .complete
    · rw [if_pos hcomplete] at h ⊢
      by_cases husable : s.lockResponseScratch.usable = true
      · rw [if_neg (by simp [husable])] at h ⊢
        by_cases hdma : s.dmaManager = true
        · rw [if_pos hdma] at h ⊢
          have htaken : Bounded { s with
              lockResponseScratch := s.lockResponseScratch.take oldValue } := hs
          obtain ⟨hdata, haddress, -⟩ := sendResponse_queued htaken (Or.inr rfl) h
          refine ⟨haddress, ?_, by rw [sendResponse_scratch]⟩
          have hq0 := le32At_headerBytes [buildQ0 view.tLabel 0xB,
            buildQ1 view.sourceID rcode, 0, 4 * 2 ^ 16 + extractExtendedTCode view.header] 0
          rw [Nat.mul_zero, ← hdata, List.getD_cons_zero] at hq0
          simp only [LocalNode.isLockResponse, hq0, decide_eq_true_eq]
          unfold buildQ0 kSpeedS400 kRetryX
          omega
        · rw [if_neg hdma] at h
          exact absurd h (hplain _ (Or.inr rfl))
      · rw [if_pos (by simpa using husable)] at h
        exact absurd h (hplain _ (Or.inr rfl))
    · rw [if_neg hcomplete] at h
      exact absurd h (hplain _ (Or.inr rfl))

end ResponseSender

namespace LocalNode

variable {W : Type*} {node : LocalNode W}

/-- The payload of a lock response stays what the lock returned while it is undisturbed. -/
lemma lock_payload_kept (hnode : node.sender.Bounded) (r : AsyncRequest) (x t : Fin (2 ^ 16))
    (generation : ℕ) (polled : Option ℕ) {info : PacketInfo}
    (hview : buildView info = some (r.view x t)) (hlock : r.body.tCode = kTcodeLockRequest)
    {c : SubmittedChain}
    (hqueued : (node.step (.packet info generation polled)).sender.responses =
      node.sender.responses ++ [c]) (hpayload : c.req.payloadSize ≠ 0) {later : List NodeEvent}
    (hlater : Runs.Meets step (Undisturbed c) (node.step (.packet info generation polled)) later) :
    (Runs.run step (node.step (.packet info generation polled))
      later).sender.lockResponseScratch.fetch c.req.payloadDeviceAddress =
        beBytes (node.resultOf r x t generation).lockResponseQuadlet := by
  have hsender : (node.step (.packet info generation polled)).sender =
      node.sender.sendLockResponse (r.view x t) (node.resultOf r x t generation).responseCode
        (node.resultOf r x t generation).lockResponseQuadlet polled := by
    refine (node.routeParsedPacket_sender r x t generation polled hview).trans ?_
    cases hbody : r.body <;> simp_all [RequestBody.tCode, kTcodeLockRequest]
  rw [hsender] at hqueued
  obtain ⟨haddress, hresponse, hscratch⟩ :=
    ResponseSender.sendLockResponse_queued hnode hqueued hpayload
  have hholds : HoldsSlot node.sender.lockResponseScratch.deviceBase
      node.sender.lockResponseScratch.slotCount node.sender.lockResponseScratch.slot
      (beBytes (node.resultOf r x t generation).lockResponseQuadlet)
      (node.step (.packet info generation polled)) := by
    constructor
    · rw [hsender, hscratch]
      rfl
    · rw [hsender, hscratch]
      rfl
    · rw [hsender, hscratch]
      exact node.sender.lockResponseScratch.fetch_take _
  have hrun := Runs.invariant_run_of_meets
    (I := HoldsSlot node.sender.lockResponseScratch.deviceBase
      node.sender.lockResponseScratch.slotCount node.sender.lockResponseScratch.slot
      (beBytes (node.resultOf r x t generation).lockResponseQuadlet))
    (fun _ _ h hok => HoldsSlot.step h haddress hresponse hok) hholds hlater
  rw [haddress]
  exact hrun.bytes

/-- A node before its first request: the response context, if any, is idle over a fresh ring. -/
def Started (node : LocalNode W) : Prop :=
  ∀ context, node.sender.atResponse = some context →
    ∃ ring, ATContext.Fresh ring ∧ context = { ring := ring }

lemma Started.bounded (h : node.Started) : node.sender.Bounded := by
  intro context hcontext
  obtain ⟨ring, hfresh, rfl⟩ := h context hcontext
  refine ⟨?_, ?_, by simp⟩
  · rw [hfresh.head]
    exact hfresh.capacity
  · rw [hfresh.tail]
    exact hfresh.capacity

lemma buildView_of_parseNext {r : AsyncRequest} {x t : Fin (2 ^ 16)} {front rest : List UInt8}
    {info : PacketInfo}
    (h : parseNext (front ++ (r.memory x t ++ rest)) front.length = .ok info) :
    buildView info = some (r.view x t) := by
  rw [r.parseNext_memory] at h
  split at h
  · cases h
  · rename_i hlen
    split at h
    · cases h
    · obtain rfl := Except.ok.inj h
      exact r.buildView_memory x t rest (by omega) _ _

/-- In every state a node reaches, a request is answered as its acknowledge and destination require
exactly when it is `Answerable`; the payload of a lock response stays in place until it is sent, as
long as no later lock takes its scratch slot. -/
theorem requests_answered {node₀ : LocalNode W} (hstart : node₀.Started)
    (history : List NodeEvent) (r : AsyncRequest) (x t : Fin (2 ^ 16)) (front rest : List UInt8)
    (info : PacketInfo) (generation : ℕ) (polled : Option ℕ)
    (hparse : parseNext (front ++ (r.memory x t ++ rest)) front.length = .ok info) :
    let node := Runs.run step node₀ history
    let result := node.resultOf r x t generation
    let after := node.step (.packet info generation polled)
    (r.Answered x t result.responseCode node.sender.responses after.sender.responses ↔
      r.Answerable x (node.sender.Queues r.body result) (node.sender.HasScratch r.body result)) ∧
    (r.body.tCode = kTcodeLockRequest → ∀ c,
      after.sender.responses = node.sender.responses ++ [c] → c.req.payloadSize ≠ 0 →
      ∀ later, Runs.Meets step (Undisturbed c) after later →
        (Runs.run step after later).sender.lockResponseScratch.fetch c.req.payloadDeviceAddress =
          beBytes result.lockResponseQuadlet) := by
  intro node result after
  have hbounded : node.sender.Bounded := Runs.invariant_run
    (I := fun n : LocalNode W => n.sender.Bounded) (fun _ e h => step_bounded e h) hstart.bounded
    history
  have hview := buildView_of_parseNext hparse
  constructor
  · exact routeParsedPacket_answered hbounded r x t generation polled hview
  · intro hlock c hqueued hpayload later hlater
    exact lock_payload_kept hbounded r x t generation polled hview hlock hqueued hpayload hlater

/-- A node with one register that every lock claims, a small response ring and 64 lock slots. -/
def lockNode : LocalNode Unit where
  handlers := [fun ctx world =>
    if ctx.tCode = kTcodeLockRequest then (.lock .complete 0x12345678, world)
    else (.notMine, world)]
  world := ()
  sender := {
    atResponse := some { ring := ATContext.smallRing }
    dmaManager := true
    lockResponseScratch := { allocated := true, deviceBase := 0x8000, slotCount := 64 } }

lemma lockNode_started : lockNode.Started := by
  intro context hcontext
  obtain rfl := Option.some.inj hcontext
  exact ⟨_, ATContext.smallRing_fresh, rfl⟩

/-- A compare-swap request, and a quadlet write. -/
def compareSwap : AsyncRequest where
  destID := 0xFFC0
  tLabel := 7
  rt := 1
  priority := 0
  sourceID := 0xFFC1
  destOffset := 0xFFFFF0000220
  body := .lock 2 ⟨List.replicate 8 0, by decide⟩

def quadletWrite : AsyncRequest :=
  { compareSwap with body := .writeQuadlet ⟨[1, 2, 3, 4], rfl⟩ }

def compareSwapInfo : PacketInfo where
  packetStart := compareSwap.memory 0x0012 0x2000 ++ []
  headerLength := 16
  dataLength := 8
  totalLength := 28
  tCode := 0x9
  rCode := 0xFF
  xferStatus := 0x0012
  timeStamp := 0x2000

def quadletWriteInfo : PacketInfo where
  packetStart := quadletWrite.memory 0x0011 0x2000 ++ []
  headerLength := 16
  dataLength := 0
  totalLength := 20
  tCode := 0x0
  rCode := 0xFF
  xferStatus := 0x0011
  timeStamp := 0x2000

theorem compareSwap_answered :
    let after := lockNode.step (.packet compareSwapInfo 1 none)
    let again := after.step (.packet compareSwapInfo 1 none)
    lockNode.Started ∧ compareSwap.Answered 0x0012 0x2000 .complete [] after.sender.responses ∧
      ∃ c, after.sender.responses = [c] ∧ c ∈ after.sender.unsent ∧
        again.sender.lockResponseScratch.fetch c.req.payloadDeviceAddress =
          [0x12, 0x34, 0x56, 0x78] := by
  intro after again
  have hparse : parseNext ([] ++ (compareSwap.memory 0x0012 0x2000 ++ [])) ([] : List UInt8).length =
      .ok compareSwapInfo := by decide
  have h := requests_answered lockNode_started [] compareSwap 0x0012 0x2000 [] [] compareSwapInfo 1
    none hparse
  have hpending : ¬ AsyncRequest.AckComplete 0x0012 := by
    unfold AsyncRequest.AckComplete
    decide
  refine ⟨lockNode_started, h.1.mpr (Or.inr ⟨fun _ => ⟨⟨by decide, ⟨_, rfl, by decide⟩⟩,
    fun _ _ => ⟨rfl, rfl⟩⟩, fun hcon => absurd hcon hpending⟩),
    after.sender.responses.head (by decide), by decide, by decide, ?_⟩
  exact h.2 rfl (after.sender.responses.head (by decide)) (by decide) (by decide)
    [.packet compareSwapInfo 1 none] (by decide)

/-- A write its acknowledge has completed is answered once more. -/
theorem completedWrite_answered :
    let result := lockNode.resultOf quadletWrite 0x0011 0x2000 1
    let after := lockNode.step (.packet quadletWriteInfo 1 none)
    parseNext (quadletWrite.memory 0x0011 0x2000 ++ []) 0 = .ok quadletWriteInfo ∧
      ¬ quadletWrite.Answered 0x0011 0x2000 result.responseCode lockNode.sender.responses
        after.sender.responses := by
  intro result after
  refine ⟨by decide, fun h => ?_⟩
  have hsame : after.sender.responses = lockNode.sender.responses := h.1 (Or.inr rfl)
  revert hsame
  decide

end LocalNode

end ASFireWire.Async
