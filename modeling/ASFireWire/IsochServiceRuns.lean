import ASFireWire.IsochServiceCalls

/-! Runs of calls on the isochronous service over any number of sessions: which contexts run after
a start, and whether the flag agrees with them. -/
namespace ASFireWire.Isoch

inductive IsochCall
  | prepareReceive (channel : ℕ) (a : HardwareAnswers)
  | prepareReceiveStream (streamIndex channel channelOffset : ℕ) (a : HardwareAnswers)
  | startPreparedReceive (a : HardwareAnswers)
  | startPacketReceive (channel : ℕ) (consumer : Option ℕ) (a : HardwareAnswers)
  | stopPacketReceive (consumer : Option ℕ) (a : HardwareAnswers)
  | stopReceive (a : HardwareAnswers)
  | prepareTransmit (channel sid speed : ℕ) (a : HardwareAnswers)
  | prepareTransmitStream (streamIndex channel sid speed : ℕ) (a : HardwareAnswers)
  | startPreparedTransmit (a : HardwareAnswers)
  | stopTransmit (a : HardwareAnswers)
  | beginSplitDuplex (guid : ℕ)
  | stopAll (a : HardwareAnswers)
  | setReceiveConsumer (streamIndex : ℕ) (consumer : Option ℕ)

/-- The start the last call made, if any, with its answer. -/
inductive LastStart
  | none
  | receive (status : KernReturn)
  | transmit (status : KernReturn)
  deriving DecidableEq, Repr

/-- The service, the channel each stream was last prepared with since the last `StopAll`, and the
last start. -/
structure IsochRun where
  service : IsochService := {}
  preparedReceive : ℕ → Option ℕ := fun _ => none
  preparedTransmit : ℕ → Option ℕ := fun _ => none
  lastStart : LastStart := .none

namespace IsochRun

/-- A prepare that succeeded. -/
def note (prepared : ℕ → Option ℕ) (streamIndex channel : ℕ) (status : KernReturn) :
    ℕ → Option ℕ :=
  if status = .success then Function.update prepared streamIndex (some channel) else prepared

def step (w : IsochRun) : IsochCall → IsochRun
  | .prepareReceive channel a =>
    let (s, status) := w.service.prepareReceive channel a
    { w with service := s, preparedReceive := note w.preparedReceive 0 channel status
             lastStart := .none }
  | .prepareReceiveStream streamIndex channel channelOffset a =>
    let (s, status) := w.service.prepareReceiveStream streamIndex channel channelOffset a
    { w with service := s, preparedReceive := note w.preparedReceive streamIndex channel status
             lastStart := .none }
  | .startPreparedReceive a =>
    let (s, status) := w.service.startPreparedReceive a
    { w with service := s, lastStart := .receive status }
  | .startPacketReceive channel consumer a =>
    let (s, status, reached) := w.service.startPacketReceive channel consumer a
    if reached then
      { w with service := s, preparedReceive := note w.preparedReceive 0 channel .success
               lastStart := .receive status }
    else { w with service := s, lastStart := .none }
  | .stopPacketReceive consumer a =>
    { w with service := (w.service.stopPacketReceive consumer a).1, lastStart := .none }
  | .stopReceive a => { w with service := (w.service.stopReceive a).1, lastStart := .none }
  | .prepareTransmit channel sid speed a =>
    let (s, status) := w.service.prepareTransmit channel sid speed a
    { w with service := s, preparedTransmit := note w.preparedTransmit 0 channel status
             lastStart := .none }
  | .prepareTransmitStream streamIndex channel sid speed a =>
    let (s, status) := w.service.prepareTransmitStream streamIndex channel sid speed a
    { w with service := s, preparedTransmit := note w.preparedTransmit streamIndex channel status
             lastStart := .none }
  | .startPreparedTransmit a =>
    let (s, status) := w.service.startPreparedTransmit a
    { w with service := s, lastStart := .transmit status }
  | .stopTransmit a => { w with service := (w.service.stopTransmit a).1, lastStart := .none }
  | .beginSplitDuplex guid =>
    { w with service := (w.service.beginSplitDuplex guid).1, lastStart := .none }
  | .stopAll a => ⟨(w.service.stopAll a).1, fun _ => none, fun _ => none, .none⟩
  | .setReceiveConsumer streamIndex consumer =>
    { w with service := w.service.setReceiveConsumer streamIndex consumer, lastStart := .none }

/-- The channels the running contexts of a direction run on. -/
def runningOn {C : Type} (running : C → Bool) (channel : C → ℕ) (table : ℕ → Option C) (i : ℕ) :
    Option ℕ := ((table i).filter running).map channel

/-- After every call: the flag says whether a context runs; a start that succeeded leaves running
exactly the prepared streams, each on its channel; what a failed start leaves running is among the
streams the service stops, and the flag counts it. -/
structure Exact (w : IsochRun) : Prop where
  active : w.service.streamingActive = w.service.anyRunning
  receive : w.lastStart = .receive .success → ∀ i,
    runningOn IsochReceiveContext.running IsochReceiveContext.channel w.service.receive i =
      w.preparedReceive i
  transmit : w.lastStart = .transmit .success → ∀ i,
    runningOn IsochTransmitContext.running IsochTransmitContext.channel w.service.transmit i =
      w.preparedTransmit i
  accounted : ∀ i, (w.service.receive i).any (·.running) = true ∨
      (w.service.transmit i).any (·.running) = true →
    i ∈ IsochService.streams ∧ w.service.streamingActive = true

/-- Every context there is was last configured by a prepare of this session that succeeded. -/
def Fresh {C : Type} (channel : C → ℕ) (streams : List ℕ) (table : ℕ → Option C)
    (prepared : ℕ → Option ℕ) : Prop :=
  ∀ i ∈ streams, ∀ c, table i = some c → prepared i = some (channel c)

/-- No context of an earlier session or of a failed prepare is there to be started along, and
receive is not stopped alone while it is all that runs. -/
def Allowed (w : IsochRun) : IsochCall → Prop
  | .startPreparedReceive a =>
    (w.service.receive 0).isSome = true →
      AllReady (ReceiveReady a) IsochService.streams w.service.receive →
        Fresh IsochReceiveContext.channel IsochService.streams w.service.receive
          w.preparedReceive
  | .startPacketReceive _ consumer a =>
    consumer ≠ none → ((w.service.receive 0).isSome = true ∨ a.create = true) →
      a.setupRings = .success → a.startReceive 0 = .success →
        AllReady (ReceiveReady a) IsochService.streams w.service.receive →
          Fresh IsochReceiveContext.channel IsochService.secondaries w.service.receive
            w.preparedReceive
  | .startPreparedTransmit a =>
    (w.service.transmit 0).isSome = true →
      AllReady (TransmitReady a) IsochService.streams w.service.transmit →
        Fresh IsochTransmitContext.channel IsochService.streams w.service.transmit
          w.preparedTransmit
  | .stopReceive a => ¬ w.service.StopsTheLast a
  | .stopPacketReceive consumer a =>
    consumer ≠ none → w.service.receiveConsumers 0 = consumer → ¬ w.service.StopsTheLast a
  | _ => True

open IsochService

variable {w : IsochRun}

/-- A stream that counts as prepared has its context. -/
structure Kept (w : IsochRun) : Prop where
  tidy : Tidy w.service
  receive : ∀ i, w.preparedReceive i ≠ none → (w.service.receive i).isSome = true
  transmit : ∀ i, w.preparedTransmit i ≠ none → (w.service.transmit i).isSome = true

lemma note_ne_none {prepared : ℕ → Option ℕ} {streamIndex channel i : ℕ} {status : KernReturn}
    (h : note prepared streamIndex channel status i ≠ none) :
    (i = streamIndex ∧ status = .success) ∨ prepared i ≠ none := by
  unfold note at h
  split_ifs at h with hsuccess
  · by_cases hi : i = streamIndex
    · exact .inl ⟨hi, hsuccess⟩
    · rw [Function.update_of_ne hi] at h
      exact .inr h
  · exact .inr h

/-- A call that prepares nothing and drops no context. -/
lemma Kept.of_grows (h : Kept w) {s : IsochService} {last : LastStart} (htidy : Tidy s)
    (hgrows : Grows w.service s) : Kept { w with service := s, lastStart := last } where
  tidy := htidy
  receive i hi := (hgrows i).1 (h.receive i hi)
  transmit i hi := (hgrows i).2 (h.transmit i hi)

lemma Kept.noteReceive (h : Kept w) {s : IsochService} {last : LastStart} (htidy : Tidy s)
    (hgrows : Grows w.service s) {streamIndex channel : ℕ} {status : KernReturn}
    (hprepared : status = .success → (s.receive streamIndex).isSome = true) :
    Kept { w with service := s, lastStart := last
                  preparedReceive := note w.preparedReceive streamIndex channel status } where
  tidy := htidy
  receive i hi := by
    rcases note_ne_none hi with ⟨rfl, hsuccess⟩ | hbefore
    · exact hprepared hsuccess
    · exact (hgrows i).1 (h.receive i hbefore)
  transmit i hi := (hgrows i).2 (h.transmit i hi)

lemma Kept.noteTransmit (h : Kept w) {s : IsochService} {last : LastStart} (htidy : Tidy s)
    (hgrows : Grows w.service s) {streamIndex channel : ℕ} {status : KernReturn}
    (hprepared : status = .success → (s.transmit streamIndex).isSome = true) :
    Kept { w with service := s, lastStart := last
                  preparedTransmit := note w.preparedTransmit streamIndex channel status } where
  tidy := htidy
  receive i hi := (hgrows i).1 (h.receive i hi)
  transmit i hi := by
    rcases note_ne_none hi with ⟨rfl, hsuccess⟩ | hbefore
    · exact hprepared hsuccess
    · exact (hgrows i).2 (h.transmit i hbefore)

theorem Kept.step (h : Kept w) (call : IsochCall) : Kept (w.step call) := by
  cases call with
  | prepareReceive channel a =>
    exact h.noteReceive (h.tidy.prepareReceiveContext mem_streams_zero channel a)
      (grows_prepareReceiveContext _ 0 channel a) prepareReceiveContext_isSome
  | prepareReceiveStream streamIndex channel channelOffset a =>
    exact h.noteReceive (h.tidy.prepareReceiveStream streamIndex channel channelOffset a)
      (grows_prepareReceiveStream _ streamIndex channel channelOffset a)
      prepareReceiveStream_isSome
  | startPreparedReceive a =>
    exact h.of_grows (h.tidy.startPreparedReceive a) (grows_startPreparedReceive _ a)
  | startPacketReceive channel consumer a =>
    have htidy := h.tidy.startPacketReceive channel consumer a
    have hgrows := grows_startPacketReceive w.service channel consumer a
    unfold IsochRun.step
    dsimp only
    split_ifs with hreached
    · refine h.noteReceive htidy hgrows fun _ => ?_
      rcases startPacketReceive_cases w.service channel consumer a with
        ⟨hr, -⟩ | ⟨-, -, -, hr, -⟩ | ⟨-, -, hprepared, -, -, hr⟩
      · rw [hr] at hreached
        cases hreached
      · rw [hr] at hreached
        cases hreached
      · obtain ⟨-, c, hc, -⟩ := prepareForPackets_receive hprepared
        have hthere : ((w.service.prepareForPackets channel consumer a).1.receive 0).isSome =
            true := by
          rw [hc]
          rfl
        have hstarted := (grows_startPreparedReceive _ a 0).1 hthere
        rcases hr with hr | ⟨-, hr⟩
        · rw [hr]
          exact hstarted
        · rw [hr]
          exact (grows_setReceiveConsumer _ 0 none 0).1 hstarted
    · exact h.of_grows htidy hgrows
  | stopPacketReceive consumer a =>
    exact h.of_grows (h.tidy.stopPacketReceive consumer a) (grows_stopPacketReceive _ consumer a)
  | stopReceive a => exact h.of_grows (h.tidy.stopReceive a) (grows_stopReceive _ a)
  | prepareTransmit channel sid speed a =>
    exact h.noteTransmit (h.tidy.prepareTransmitContext mem_streams_zero channel sid speed a)
      (grows_prepareTransmitContext _ 0 channel sid speed a) prepareTransmitContext_isSome
  | prepareTransmitStream streamIndex channel sid speed a =>
    exact h.noteTransmit (h.tidy.prepareTransmitStream streamIndex channel sid speed a)
      (grows_prepareTransmitStream _ streamIndex channel sid speed a)
      prepareTransmitStream_isSome
  | startPreparedTransmit a =>
    exact h.of_grows (h.tidy.startPreparedTransmit a) (grows_startPreparedTransmit _ a)
  | stopTransmit a => exact h.of_grows (h.tidy.stopTransmit a) (grows_stopTransmit _ a)
  | beginSplitDuplex guid =>
    obtain ⟨hreceive, htransmit, hhardware, hflag⟩ := beginSplitDuplex_frame w.service guid
    refine h.of_grows (h.tidy.of_isSome (fun i => by rw [hreceive]) (fun i => by rw [htransmit])
      (fun hset => by rwa [hhardware]) hflag) fun i => ?_
    rw [hreceive, htransmit]
    exact ⟨id, id⟩
  | stopAll a => exact ⟨h.tidy.stopAll a, fun _ hi => absurd rfl hi, fun _ hi => absurd rfl hi⟩
  | setReceiveConsumer streamIndex consumer =>
    exact h.of_grows (h.tidy.setReceiveConsumer streamIndex consumer)
      (grows_setReceiveConsumer _ streamIndex consumer)

/-! ### When the streams and the flag are exact -/

end IsochRun

end ASFireWire.Isoch
