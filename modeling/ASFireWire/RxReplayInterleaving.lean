import ASFireWire.EventLog
import ASFireWire.RxReplayWriter
import ASFireWire.Runs

/-! The replay ring with every atomic access a step of its own: one writer publishes, resets and
marks, one reader begins and reads, and their accesses fall in any order. -/
namespace ASFireWire.AudioRx

open Runs EventLog RxSequenceReplayState

/-! ### The reader -/

inductive ReaderPc
  | idle
  | beginProducer | beginEstablished (producer : ℕ) | beginEpoch (producer : ℕ)
  | readProducer | readEpoch (producer : ℕ) | readEstablished (producer epoch : ℕ)
  | firstSequence | firstEpoch
  | loadFields (got : RxSequenceEntry) (left : List EntryField) (torn : Bool)
  | finalEpoch (got : RxSequenceEntry)
  deriving DecidableEq, Repr

/-- What a call of the reader did. `began` and `read` carry the reader's epoch, counted without
end, and the cursor; `failed` carries the cursor the failed read left. -/
inductive Outcome
  | began (epoch cursor : ℕ)
  | failed (cursor : ℕ)
  | read (epoch cursor : ℕ) (entry : RxSequenceEntry)
  | dropped
  deriving DecidableEq, Repr

structure RxSequenceReplayReader where
  nextCursor : ℕ := 0
  epoch : ℕ := 0
  active : Bool := false
  pc : ReaderPc := .idle
  /-- Resets the writer had made when the reader loaded its epoch. -/
  beganAt : ℕ := 0
  log : List Outcome := []

namespace RxSequenceReplayReader

def fail (r : RxSequenceReplayReader) : RxSequenceReplayReader :=
  { r with pc := .idle, log := .failed r.nextCursor :: r.log }

/-- The checks of `TryRead` on what it has loaded. -/
def mayRead (r : RxSequenceReplayReader) (producer epoch : ℕ) : Bool :=
  r.active && epoch == r.epoch && decide (r.nextCursor < producer) &&
    decide (producer - r.nextCursor ≤ kCapacity)

/-- One atomic load of `Begin` or `TryRead`. -/
def advance (w : ReplayWriter) (r : RxSequenceReplayReader) : RxSequenceReplayReader :=
  let slot := w.replay.slots (r.nextCursor % kCapacity)
  match r.pc with
  | .idle => r
  | .beginProducer => { r with pc := .beginEstablished w.replay.producerCursor }
  | .beginEstablished producer =>
    if w.replay.established = false ∨ producer < kReadDelay then { r with pc := .idle }
    else { r with pc := .beginEpoch producer }
  | .beginEpoch producer =>
    { r with
      epoch := w.replay.epoch
      nextCursor := producer - kReadDelay
      active := true
      pc := .idle
      beganAt := w.resets
      log := .began w.resets (producer - kReadDelay) :: r.log }
  | .readProducer => { r with pc := .readEpoch w.replay.producerCursor }
  | .readEpoch producer => { r with pc := .readEstablished producer w.replay.epoch }
  | .readEstablished producer epoch =>
    if r.mayRead producer epoch then { r with pc := .firstSequence } else r.fail
  | .firstSequence =>
    if slot.sequence = r.nextCursor + 1 then { r with pc := .firstEpoch } else r.fail
  | .firstEpoch =>
    if slot.epoch = r.epoch then { r with pc := .loadFields {} EntryField.all false } else r.fail
  | .loadFields got (f :: left) torn =>
    { r with
      pc := .loadFields (f.copy slot.entry got) left
        (torn || rewriting w r.beganAt r.nextCursor fun left => f ∉ left) }
  | .loadFields got [] _ =>
    if slot.sequence = r.nextCursor + 1 then { r with pc := .finalEpoch got } else r.fail
  | .finalEpoch got =>
    if slot.epoch = r.epoch then
      { r with
        nextCursor := r.nextCursor + 1
        pc := .idle
        log := .read r.beganAt r.nextCursor got :: r.log }
    else r.fail

/-- `Reset` touches nothing shared. -/
def reset (r : RxSequenceReplayReader) : RxSequenceReplayReader :=
  { r with nextCursor := 0, epoch := 0, active := false, beganAt := 0, log := .dropped :: r.log }

end RxSequenceReplayReader

/-! ### What the reader hands over -/

/-- The reader's epoch and next cursor, as its calls so far leave them. -/
def expected : List Outcome → Option (ℕ × ℕ)
  | [] => none
  | .began epoch cursor :: _ => some (epoch, cursor)
  | .failed _ :: older => expected older
  | .read _ _ _ :: older => (expected older).map fun at_ => (at_.1, at_.2 + 1)
  | .dropped :: _ => none

/-- A read hands over the entry published at the reader's cursor in the reader's epoch; a failed
read leaves the cursor. -/
def Faithful (published : ℕ → ℕ → Option RxSequenceEntry) (outcome : Outcome)
    (older : List Outcome) : Prop :=
  match outcome with
  | .read epoch cursor entry =>
    expected older = some (epoch, cursor) ∧ published epoch cursor = some entry
  | .failed cursor => ∀ epoch before, expected older = some (epoch, before) → cursor = before
  | _ => True

namespace RxSequenceReplayReader

open ReplayWriter

/-- The reader has found its sequence word in the slot. -/
def Found (w : ReplayWriter) (r : RxSequenceReplayReader) : Prop :=
  r.active = true ∧ w.Done r.beganAt r.nextCursor ∧
    r.beganAt ≤ w.slotResets (r.nextCursor % kCapacity)

/-- What the reader knows between two of its loads. -/
def AtPc (w : ReplayWriter) (r : RxSequenceReplayReader) : Prop :=
  match r.pc with
  | .readEpoch producer | .readEstablished producer _ =>
    r.nextCursor < producer → w.Done r.beganAt r.nextCursor
  | .firstSequence => r.active = true ∧ w.Done r.beganAt r.nextCursor
  | .firstEpoch => r.Found w
  | .loadFields got left torn =>
    r.Found w ∧ (w.Current r.beganAt r.nextCursor →
      ∃ p, w.published r.beganAt r.nextCursor = some p ∧
        (torn = false → ∀ f ∉ left, f.get got = f.get p) ∧
        (torn = true → rewriting w r.beganAt r.nextCursor (fun _ => true) = true))
  | .finalEpoch got =>
    r.Found w ∧ (w.slotResets (r.nextCursor % kCapacity) = r.beganAt →
      w.published r.beganAt r.nextCursor = some got)
  | _ => True

structure Sound (w : ReplayWriter) (r : RxSequenceReplayReader) : Prop where
  beganAt : r.beganAt ≤ w.resets
  epoch : r.epoch = r.beganAt % 2 ^ 32
  expected : expected r.log = if r.active then some (r.beganAt, r.nextCursor) else none
  log : Throughout (Faithful w.published) r.log
  atPc : r.AtPc w

lemma sound_init : Sound {} {} where
  beganAt := le_rfl
  epoch := rfl
  expected := rfl
  log := trivial
  atPc := trivial

variable {w w' : ReplayWriter} {r : RxSequenceReplayReader}

lemma faithful_mono (hp : ∀ g c p, w.published g c = some p → w'.published g c = some p)
    {log : List Outcome} (h : Throughout (Faithful w.published) log) :
    Throughout (Faithful w'.published) log := by
  induction log with
  | nil => trivial
  | cons outcome older ih =>
    apply And.intro _ (ih h.2)
    have hhead := h.1
    cases outcome with
    | read epoch cursor entry => exact ⟨hhead.1, hp _ _ _ hhead.2⟩
    | failed cursor => exact hhead
    | began epoch cursor => trivial
    | dropped => trivial

lemma Found.later (h : r.Found w) (hw : Later w w') : r.Found w' :=
  ⟨h.1, hw.done _ _ h.2.1, h.2.2.trans (hw.slotResets _)⟩

lemma Sound.later (h : Sound w r) (hw : Later w w') : Sound w' r := by
  refine ⟨h.beganAt.trans hw.resets, h.epoch, h.expected, faithful_mono hw.published h.log, ?_⟩
  have hat := h.atPc
  unfold AtPc at hat ⊢
  cases hpc : r.pc with
  | readEpoch producer =>
    simp only [hpc] at hat ⊢
    exact fun hlt => hw.done _ _ (hat hlt)
  | readEstablished producer epoch =>
    simp only [hpc] at hat ⊢
    exact fun hlt => hw.done _ _ (hat hlt)
  | firstSequence =>
    simp only [hpc] at hat ⊢
    exact ⟨hat.1, hw.done _ _ hat.2⟩
  | firstEpoch =>
    simp only [hpc] at hat ⊢
    exact hat.later hw
  | loadFields got left torn =>
    simp only [hpc] at hat ⊢
    obtain ⟨hfound, hgot⟩ := hat
    refine ⟨hfound.later hw, fun hcur => ?_⟩
    obtain ⟨p, hp, hwhole, htorn⟩ := hgot (hw.current _ _ hfound.2.1 hcur)
    exact ⟨p, hw.published _ _ _ hp, hwhole, fun ht => hw.stillRewriting _ _ hcur (htorn ht)⟩
  | finalEpoch got =>
    simp only [hpc] at hat ⊢
    obtain ⟨hfound, hgot⟩ := hat
    refine ⟨hfound.later hw, fun hres => hw.published _ _ _ (hgot ?_)⟩
    have hle := hw.slotResets (r.nextCursor % kCapacity)
    have hge := hfound.2.2
    omega
  | _ => trivial

/-- In a slot that still holds the reader's entry, every field but those the writer is rewriting
for the next turn of the ring. -/
lemma current_field (hw : w.Coherent) {e c : ℕ} (hcur : w.Current e c) {f : EntryField}
    (hf : rewriting w e c (fun left => f ∉ left) = false) :
    ∃ p, w.published e c = some p ∧
      f.get (w.replay.slots (c % kCapacity)).entry = f.get p := by
  obtain ⟨hres, hseq⟩ := hcur
  obtain ⟨p, hp, hfield⟩ := hw.entries (c % kCapacity) (by omega)
  rw [hres, hseq, Nat.add_sub_cancel] at hp
  refine ⟨p, hp, hfield f ?_⟩
  rintro ⟨entry, cursor, left, hpc, hi, hleft⟩
  have hat := hw.atPc
  simp only [ReplayWriter.AtPc, hpc] at hat
  obtain ⟨hcursor, -, hslot, -⟩ := hat
  have hin := hw.notReset (by simp [hpc]) (c % kCapacity) (by omega)
  have hbehind := hin.behind (by omega) (by rw [← hcursor, hi])
  have hnext : cursor = c + kCapacity := by omega
  rw [hi, hres] at hslot
  simp [rewriting, hpc, hnext, hslot, hleft] at hf

lemma Sound.fail (h : Sound w r) : Sound w r.fail := by
  refine ⟨h.beganAt, h.epoch, h.expected, ⟨fun epoch before hbefore => ?_, h.log⟩, trivial⟩
  rw [h.expected] at hbefore
  split at hbefore
  · cases hbefore
    rfl
  · cases hbefore

/-- The reader's calls, and the condition under which it hands over what was published: at the
second load of the sequence word no field has been loaded that the writer, still busy with the
entry one ring later, had rewritten, and fewer than `2 ^ 32` resets since the reader began. -/
def Allowed (w : ReplayWriter) (r : RxSequenceReplayReader) : Prop :=
  match r.pc with
  | .loadFields _ [] torn =>
    (torn && rewriting w r.beganAt r.nextCursor fun _ => true) = false
  | .finalEpoch _ => w.resets < r.beganAt + 2 ^ 32
  | _ => True

/-- A load that ends no call. -/
lemma Sound.of_pc (h : Sound w r) {pc : ReaderPc} (hpc : AtPc w { r with pc := pc }) :
    Sound w { r with pc := pc } :=
  ⟨h.beganAt, h.epoch, h.expected, h.log, hpc⟩

lemma Sound.loadField (h : Sound w r) (hw : w.Coherent) {got : RxSequenceEntry} {f : EntryField}
    {left : List EntryField} {torn : Bool} (hpc : r.pc = .loadFields got (f :: left) torn) :
    Sound w (r.advance w) := by
  have hat := h.atPc
  simp only [AtPc, hpc] at hat
  obtain ⟨hfound, hgot⟩ := hat
  simp only [advance, hpc]
  apply h.of_pc
  refine ⟨hfound, fun hcur => ?_⟩
  obtain ⟨p, hp, hwhole, htorn⟩ := hgot hcur
  refine ⟨p, hp, fun hnot g hg => ?_, fun hor => ?_⟩
  · simp only [Bool.or_eq_false_iff] at hnot
    rw [EntryField.get_copy]
    split
    · rename_i hgf
      subst hgf
      obtain ⟨q, hq, hfield⟩ := current_field hw hcur hnot.2
      rw [hp] at hq
      cases hq
      exact hfield
    · rename_i hgf
      exact hwhole hnot.1 g (by simp [hgf, hg])
  · simp only [Bool.or_eq_true] at hor
    rcases hor with ht | hnow
    · exact htorn ht
    · revert hnow
      unfold rewriting
      split <;> simp_all

lemma Sound.loadFinalSequence (h : Sound w r) (ha : Allowed w r) {got : RxSequenceEntry}
    {torn : Bool} (hpc : r.pc = .loadFields got [] torn) : Sound w (r.advance w) := by
  have hat := h.atPc
  simp only [AtPc, hpc] at hat
  simp only [Allowed, hpc] at ha
  obtain ⟨hfound, hgot⟩ := hat
  simp only [advance, hpc]
  split
  · rename_i hseq
    apply h.of_pc
    refine ⟨hfound, fun hres => ?_⟩
    obtain ⟨p, hp, hwhole, htorn⟩ := hgot ⟨hres, hseq⟩
    have hnot : torn = false := by
      cases ht : torn with
      | false => rfl
      | true => simp [ht, htorn ht] at ha
    rw [hp, EntryField.entry_ext fun f => hwhole hnot f (by simp)]
  · exact h.fail

lemma Sound.loadFinalEpoch (h : Sound w r) (hw : w.Coherent) (ha : Allowed w r)
    {got : RxSequenceEntry} (hpc : r.pc = .finalEpoch got) : Sound w (r.advance w) := by
  have hat := h.atPc
  simp only [AtPc, hpc] at hat
  simp only [Allowed, hpc] at ha
  obtain ⟨hfound, hgot⟩ := hat
  simp only [advance, hpc]
  split
  · rename_i hepoch
    have hres : w.slotResets (r.nextCursor % kCapacity) = r.beganAt := by
      rw [hw.slotEpoch, h.epoch] at hepoch
      have hle := hw.slotResets (r.nextCursor % kCapacity)
      have hge := hfound.2.2
      omega
    have hexp : AudioRx.expected r.log = some (r.beganAt, r.nextCursor) := by
      rw [h.expected, if_pos hfound.1]
    refine ⟨h.beganAt, h.epoch, ?_, ⟨⟨hexp, hgot hres⟩, h.log⟩, trivial⟩
    simp [AudioRx.expected, hexp, hfound.1]
  · exact h.fail

lemma Sound.advance (h : Sound w r) (hw : w.Coherent) (ha : Allowed w r) :
    Sound w (r.advance w) := by
  have hat := h.atPc
  cases hpc : r.pc with
  | idle => simpa only [RxSequenceReplayReader.advance, hpc] using h
  | beginProducer =>
    simp only [RxSequenceReplayReader.advance, hpc]
    exact h.of_pc trivial
  | beginEstablished producer =>
    simp only [RxSequenceReplayReader.advance, hpc]
    split <;> exact h.of_pc trivial
  | beginEpoch producer =>
    simp only [RxSequenceReplayReader.advance, hpc]
    exact ⟨le_rfl, hw.epoch, rfl, ⟨trivial, h.log⟩, trivial⟩
  | readProducer =>
    simp only [RxSequenceReplayReader.advance, hpc]
    apply h.of_pc
    intro hlt
    have hle := hw.producer
    have hbegan := h.beganAt
    dsimp only at hlt ⊢
    unfold Done
    omega
  | readEpoch producer =>
    simp only [AtPc, hpc] at hat
    simp only [RxSequenceReplayReader.advance, hpc]
    exact h.of_pc hat
  | readEstablished producer epoch =>
    simp only [AtPc, hpc] at hat
    simp only [RxSequenceReplayReader.advance, hpc]
    split
    · rename_i hmay
      simp only [mayRead, Bool.and_eq_true, decide_eq_true_eq] at hmay
      apply h.of_pc
      exact ⟨hmay.1.1.1, hat hmay.1.2⟩
    · exact h.fail
  | firstSequence =>
    simp only [AtPc, hpc] at hat
    simp only [RxSequenceReplayReader.advance, hpc]
    split
    · rename_i hseq
      apply h.of_pc
      refine ⟨hat.1, hat.2, ?_⟩
      have hdone := hat.2
      unfold Done at hdone
      dsimp only
      rcases hw.slots (r.nextCursor % kCapacity) (by omega) with hin | ⟨⟨j, hj⟩, hlo⟩
      · have := hin.1
        omega
      · have hreset := hw.atPc
        simp only [ReplayWriter.AtPc, hj] at hreset
        omega
    · exact h.fail
  | firstEpoch =>
    simp only [AtPc, hpc] at hat
    simp only [RxSequenceReplayReader.advance, hpc]
    split
    · apply h.of_pc
      refine ⟨hat, fun hcur => ?_⟩
      obtain ⟨p, hp, -⟩ := hw.entries (r.nextCursor % kCapacity) (by rw [hcur.2]; omega)
      rw [hcur.1, hcur.2, Nat.add_sub_cancel] at hp
      exact ⟨p, hp, fun _ f hf => absurd f.mem_all hf, by simp⟩
    · exact h.fail
  | loadFields got left torn =>
    cases left with
    | nil => exact h.loadFinalSequence ha hpc
    | cons f left => exact h.loadField hw hpc
  | finalEpoch got => exact h.loadFinalEpoch hw ha hpc

lemma Sound.reset (h : Sound w r) (hidle : r.pc = .idle) : Sound w r.reset := by
  refine ⟨Nat.zero_le _, rfl, rfl, ⟨trivial, h.log⟩, ?_⟩
  simp [AtPc, RxSequenceReplayReader.reset, hidle]

end RxSequenceReplayReader

/-- The writer when a `Publish` of its own has returned. -/
def ReplayWriter.afterPublish (w : ReplayWriter) (entry : RxSequenceEntry) : ReplayWriter :=
  { w with
    replay := w.replay.publish entry
    count := w.replay.producerCursor + 1
    slotResets :=
      Function.update w.slotResets (w.replay.producerCursor % kCapacity) w.resets
    published := Function.update w.published w.resets
      (Function.update (w.published w.resets) w.replay.producerCursor (some entry)) }

/-! ### Interleavings -/

structure ReplayPair where
  writer : ReplayWriter := {}
  reader : RxSequenceReplayReader := {}

/-- A call of either side, or its next access. -/
inductive ReplayEvent
  | publish (entry : RxSequenceEntry) | reset | markEstablished | writer
  | begin | tryRead | readerReset | reader
  deriving DecidableEq, Repr

namespace ReplayPair

open RxSequenceReplayReader

def step (s : ReplayPair) : ReplayEvent → ReplayPair
  | .publish entry => { s with writer := s.writer.call (.publish entry) }
  | .reset => { s with writer := s.writer.call .reset }
  | .markEstablished => { s with writer := s.writer.call .markEstablished }
  | .writer => { s with writer := s.writer.advance }
  | .begin => if s.reader.pc = .idle then
      { s with reader := { s.reader with pc := .beginProducer } } else s
  | .tryRead => if s.reader.pc = .idle then
      { s with reader := { s.reader with pc := .readProducer } } else s
  | .readerReset => if s.reader.pc = .idle then { s with reader := s.reader.reset } else s
  | .reader => { s with reader := s.reader.advance s.writer }

/-- What `Allowed` asks, of the reader's own loads. -/
def ReadAllowed (s : ReplayPair) : ReplayEvent → Prop
  | .reader => Allowed s.writer s.reader
  | _ => True

structure Inv (s : ReplayPair) : Prop where
  coherent : s.writer.Coherent
  sound : Sound s.writer s.reader

lemma Inv.writer {s : ReplayPair} (h : Inv s) {w : ReplayWriter} (hw : w.Coherent)
    (hlater : ReplayWriter.Later s.writer w) : Inv { s with writer := w } :=
  ⟨hw, h.sound.later hlater⟩

lemma Inv.step {s : ReplayPair} (h : Inv s) {event : ReplayEvent} (ha : s.ReadAllowed event) :
    Inv (s.step event) := by
  cases event with
  | publish entry =>
    exact h.writer (h.coherent.call (Or.inl ⟨entry, rfl⟩)) (ReplayWriter.later_call _ _)
  | reset => exact h.writer (h.coherent.call (Or.inr (Or.inl rfl))) (ReplayWriter.later_call _ _)
  | markEstablished =>
    exact h.writer (h.coherent.call (Or.inr (Or.inr rfl))) (ReplayWriter.later_call _ _)
  | writer => exact h.writer h.coherent.advance h.coherent.later_advance
  | begin =>
    simp only [ReplayPair.step]
    split
    · exact ⟨h.coherent, h.sound.of_pc trivial⟩
    · exact h
  | tryRead =>
    simp only [ReplayPair.step]
    split
    · exact ⟨h.coherent, h.sound.of_pc trivial⟩
    · exact h
  | readerReset =>
    simp only [ReplayPair.step]
    split
    · rename_i hidle
      exact ⟨h.coherent, h.sound.reset hidle⟩
    · exact h
  | reader => exact ⟨h.coherent, h.sound.advance h.coherent ha⟩

/-- Whatever the order of the accesses, every read hands over the entry published at the reader's
cursor in its epoch, the cursors of the reads follow each other, and a failed read leaves the
cursor, as long as no read ends on a field the writer had rewritten. -/
theorem tryRead_whole (events : List ReplayEvent) (h : Meets step ReadAllowed {} events) :
    (∀ newer outcome older, (run step {} events).reader.log = newer ++ outcome :: older →
      Faithful (run step {} events).writer.published outcome older) ∧
    ((run step {} events).reader.active = true → expected (run step {} events).reader.log =
      some ((run step {} events).reader.beganAt, (run step {} events).reader.nextCursor)) := by
  have hinit : Inv {} := ⟨ReplayWriter.coherent_init, sound_init⟩
  have hinv := invariant_run_of_meets (I := Inv) (fun s e hs he => hs.step he) hinit h
  constructor
  · exact throughout_iff.mp hinv.sound.log
  · intro hactive
    rw [hinv.sound.expected, if_pos hactive]

/-! ### A call run to its end -/

/-- The accesses of one `Publish`, none between them. -/
def wholePublish (entry : RxSequenceEntry) : List ReplayEvent :=
  .publish entry :: List.replicate 11 .writer

lemma run_wholePublish (s : ReplayPair) (entry : RxSequenceEntry) (hidle : s.writer.pc = .idle) :
    run step s (wholePublish entry) = { s with writer := s.writer.afterPublish entry } := by
  obtain ⟨⟨⟨slots, cursor, epoch, established⟩, pc, resets, count, slotResets, published⟩, r⟩ := s
  simp only at hidle
  subst hidle
  obtain ⟨f1, f2, f3, f4, f5, f6⟩ := entry
  simp [wholePublish, List.replicate, run, step, ReplayWriter.call, ReplayWriter.advance, setSlot,
    EntryField.all, EntryField.copy, publish, ReplayWriter.afterPublish]

/-- After `n` publications of one entry, none of them over the first. -/
structure Filled (entry : RxSequenceEntry) (n : ℕ) (w : ReplayWriter) : Prop where
  idle : w.pc = .idle
  resets : w.resets = 0
  epoch : w.replay.epoch = 0
  producer : w.replay.producerCursor = n
  slot : 0 < n → w.replay.slots 0 = { sequence := 1, epoch := 0, entry := entry }
  published : 0 < n → w.published 0 0 = some entry

lemma Filled.establish {entry : RxSequenceEntry} {n : ℕ} {w : ReplayWriter} (h : Filled entry n w) :
    Filled entry n { w with replay := { w.replay with established := true } } :=
  ⟨h.idle, h.resets, h.epoch, h.producer, h.slot, h.published⟩

lemma Filled.publish {entry : RxSequenceEntry} {n : ℕ} {w : ReplayWriter} (h : Filled entry n w)
    (hn : n < kCapacity) : Filled entry (n + 1) (w.afterPublish entry) := by
  have hmod : n % kCapacity = n := Nat.mod_eq_of_lt hn
  constructor
  · exact h.idle
  · exact h.resets
  · exact h.epoch
  · exact congrArg (· + 1) h.producer
  · intro _
    simp only [ReplayWriter.afterPublish, RxSequenceReplayState.publish, h.producer, hmod]
    by_cases h0 : n = 0
    · subst h0
      simp [h.epoch]
    · rw [Function.update_of_ne (Ne.symm h0)]
      exact h.slot (Nat.pos_of_ne_zero h0)
  · intro _
    simp only [ReplayWriter.afterPublish, h.producer, h.resets, Function.update_self]
    by_cases h0 : n = 0
    · subst h0
      simp
    · rw [Function.update_of_ne (Ne.symm h0)]
      exact h.published (Nat.pos_of_ne_zero h0)

def fill (entry : RxSequenceEntry) (n : ℕ) : List ReplayEvent :=
  (List.replicate n (wholePublish entry)).flatten

lemma run_fill {entry : RxSequenceEntry} {n m : ℕ} {s : ReplayPair} (h : Filled entry n s.writer)
    (hm : n + m ≤ kCapacity) :
    Filled entry (n + m) (run step s (fill entry m)).writer ∧
      (run step s (fill entry m)).reader = s.reader ∧
      (run step s (fill entry m)).writer.replay.established = s.writer.replay.established := by
  induction m generalizing n s with
  | zero => exact ⟨h, rfl, rfl⟩
  | succ m ih =>
    have hfill : fill entry (m + 1) = wholePublish entry ++ fill entry m := by
      simp [fill, List.replicate_succ]
    have hn : n < kCapacity := by omega
    have hnext := ih (s := { s with writer := s.writer.afterPublish entry }) (h.publish hn)
      (by omega)
    rw [hfill, run_append, run_wholePublish s entry h.idle, show n + (m + 1) = n + 1 + m by omega]
    exact hnext

/-- `MarkEstablished` and `Begin`, run one after the other. -/
def establishAndBegin : List ReplayEvent :=
  [.markEstablished, .writer, .writer, .begin, .reader, .reader, .reader]

lemma run_establishAndBegin {entry : RxSequenceEntry} {s : ReplayPair}
    (h : Filled entry 256 s.writer) (hr : s.reader = {}) :
    run step s establishAndBegin =
      { writer := { s.writer with replay := { s.writer.replay with established := true } }
        reader := { active := true, log := [.began 0 0] } } := by
  obtain ⟨w, r⟩ := s
  subst hr
  obtain ⟨hidle, hresets, hepoch, hproducer, -, -⟩ := h
  simp only at hidle hresets hepoch hproducer
  simp [establishAndBegin, step, ReplayWriter.call, ReplayWriter.advance,
    RxSequenceReplayReader.advance, hidle, hresets, hepoch, hproducer, kReadDelay, kCapacity]

/-- One `TryRead`, the writer standing still. -/
def wholeRead : List ReplayEvent := .tryRead :: List.replicate 13 .reader

lemma run_wholeRead {entry : RxSequenceEntry} {s : ReplayPair} {n : ℕ}
    (hslot : s.writer.replay.slots 0 = { sequence := 1, epoch := 0, entry := entry })
    (hepoch : s.writer.replay.epoch = 0) (hproducer : s.writer.replay.producerCursor = n)
    (hpos : 0 < n) (hn : n ≤ kCapacity) (hr : s.reader = { active := true, log := [.began 0 0] }) :
    (run step s wholeRead).reader.log = [.read 0 0 entry, .began 0 0] ∧
      (run step s wholeRead).writer = s.writer := by
  obtain ⟨w, r⟩ := s
  subst hr
  obtain ⟨f1, f2, f3, f4, f5, f6⟩ := entry
  simp only at hslot hepoch hproducer
  simp [wholeRead, List.replicate, step, RxSequenceReplayReader.advance,
    RxSequenceReplayReader.mayRead, EntryField.all, EntryField.copy, hslot, hepoch, hproducer, hpos, hn]

def whole : RxSequenceEntry := { firstAudioFrame := 0, dataBlocks := 8 }

def later : RxSequenceEntry := { firstAudioFrame := 4096, dataBlocks := 9 }

/-- `Publish` of `later` up to its first field. -/
def startPublish : List ReplayEvent := [.publish later, .writer, .writer, .writer, .writer]

/-- The reader stands at cursor 0, half a ring behind, when the writer has filled the ring and
stored the first field of entry 512. -/
def tornRun : List ReplayEvent :=
  fill whole 256 ++ (establishAndBegin ++ (fill whole 256 ++ (startPublish ++ wholeRead)))

def mixed : RxSequenceEntry := { whole with firstAudioFrame := later.firstAudioFrame }

lemma run_startPublish {s : ReplayPair} (h : Filled whole kCapacity s.writer) :
    (run step s startPublish).writer.replay.slots 0 = ⟨1, 0, mixed⟩ ∧
      (run step s startPublish).writer.replay.epoch = 0 ∧
      (run step s startPublish).writer.replay.producerCursor = kCapacity ∧
      (run step s startPublish).writer.published 0 0 = some whole ∧
      (run step s startPublish).reader = s.reader := by
  obtain ⟨w, r⟩ := s
  obtain ⟨hidle, hresets, hepoch, hproducer, hslot, hpub⟩ := h
  simp only at hidle hresets hepoch hproducer hslot hpub
  have hslot := hslot (by decide)
  have hpub := hpub (by decide)
  simp [startPublish, step, ReplayWriter.call, ReplayWriter.advance, setSlot, EntryField.all,
    EntryField.copy, hidle, hepoch, hproducer, hslot, hpub, mixed]

/-- A read of the entry one ring behind the writer returns the first field of the entry being
written over it and the other fields of its own. -/
lemma run_tornRun :
    (run step {} tornRun).reader.log = [.read 0 0 mixed, .began 0 0] ∧
      (run step {} tornRun).writer.published 0 0 = some whole := by
  have hempty : Filled whole 0 ({} : ReplayPair).writer := ⟨rfl, rfl, rfl, rfl, nofun, nofun⟩
  obtain ⟨h, hr, -⟩ := run_fill (m := 256) hempty (by decide)
  simp only [tornRun, run_append]
  generalize run step {} (fill whole 256) = s at h hr
  rw [run_establishAndBegin h hr]
  obtain ⟨h, hr, -⟩ := run_fill (s := ⟨_, { active := true, log := [.began 0 0] }⟩) (m := 256)
    h.establish (by decide)
  generalize run step _ (fill whole 256) = s at h hr
  obtain ⟨hslot, hepoch, hproducer, hpub, hreader⟩ := run_startPublish h
  generalize run step s startPublish = s' at hslot hepoch hproducer hpub hreader
  obtain ⟨hlog, hwriter⟩ := run_wholeRead hslot hepoch hproducer (by decide) le_rfl
    (hreader.trans hr)
  rw [hwriter]
  exact ⟨hlog, hpub⟩

theorem tryRead_mixed : ¬ ∀ (events : List ReplayEvent) newer outcome older,
    (run step {} events).reader.log = newer ++ outcome :: older →
      Faithful (run step {} events).writer.published outcome older := by
  intro h
  obtain ⟨hlog, hpub⟩ := run_tornRun
  have hhead := h tornRun
  have hread := (hhead [] _ _ hlog).2
  rw [hpub] at hread
  exact absurd hread (by decide)

/-! ### A run that meets the condition -/

lemma meets_writer {s : ReplayPair} {events : List ReplayEvent}
    (h : ∀ event ∈ events, event ≠ .reader) : Meets step ReadAllowed s events := by
  induction events generalizing s with
  | nil => trivial
  | cons event events ih =>
    apply And.intro
    · cases event with
      | reader => exact absurd rfl (h .reader (by simp))
      | _ => trivial
    · exact ih fun event' hmem => h event' (by simp [hmem])

lemma fill_ne_reader (entry : RxSequenceEntry) (n : ℕ) :
    ∀ event ∈ fill entry n, event ≠ .reader := by
  intro event hmem
  obtain ⟨l, hl, hevent⟩ := List.mem_flatten.mp hmem
  rw [List.eq_of_mem_replicate hl] at hevent
  rcases List.mem_cons.mp hevent with rfl | hwriter
  · nofun
  · rw [List.eq_of_mem_replicate hwriter]
    nofun

lemma meets_reader {s : ReplayPair} {events : List ReplayEvent} (hidle : s.writer.pc = .idle)
    (hresets : s.writer.resets = 0)
    (h : ∀ event ∈ events, event = .reader ∨ event = .tryRead ∨ event = .begin) :
    Meets step ReadAllowed s events := by
  induction events generalizing s with
  | nil => trivial
  | cons event events ih =>
    have hrest : ∀ event' ∈ events, event' = .reader ∨ event' = .tryRead ∨ event' = .begin :=
      fun event' hmem => h event' (List.mem_cons_of_mem event hmem)
    have hwriter : (s.step event).writer = s.writer := by
      rcases h event List.mem_cons_self with rfl | rfl | rfl <;> simp only [step] <;>
        split <;> rfl
    apply And.intro
    · rcases h event List.mem_cons_self with rfl | rfl | rfl
      · simp only [ReadAllowed, RxSequenceReplayReader.Allowed]
        split
        · simp [rewriting, hidle]
        · omega
        · trivial
      · trivial
      · trivial
    · exact ih (by rw [hwriter, hidle]) (by rw [hwriter, hresets]) hrest

lemma run_beginAndRead {s : ReplayPair} (h : Filled whole 256 s.writer) (hr : s.reader = {}) :
    Meets step ReadAllowed s (establishAndBegin ++ wholeRead) ∧
      (run step s (establishAndBegin ++ wholeRead)).reader.log =
        [.read 0 0 whole, .began 0 0] := by
  have hmark : Meets step ReadAllowed s establishAndBegin := by
    have hsplit : establishAndBegin =
        [.markEstablished, .writer, .writer] ++ [.begin, .reader, .reader, .reader] := rfl
    rw [hsplit, meets_append]
    refine ⟨meets_writer (by simp), meets_reader ?_ ?_ (by simp)⟩
    · simp [step, ReplayWriter.call, ReplayWriter.advance, h.idle, h.producer, kReadDelay,
        kCapacity]
    · simp [step, ReplayWriter.call, ReplayWriter.advance, h.idle, h.producer, kReadDelay,
        kCapacity, h.resets]
  have hreader : ∀ event ∈ wholeRead, event = .reader ∨ event = .tryRead ∨ event = .begin := by
    intro event hmem
    rcases List.mem_cons.mp hmem with rfl | hreader
    · exact Or.inr (Or.inl rfl)
    · exact Or.inl (List.eq_of_mem_replicate hreader)
  rw [meets_append, run_append, run_establishAndBegin h hr]
  have hest := h.establish
  generalize { s.writer with replay := { s.writer.replay with established := true } } = w at hest ⊢
  obtain ⟨hlog, -⟩ := run_wholeRead (s := ⟨w, { active := true, log := [.began 0 0] }⟩)
    (hest.slot (by decide)) hest.epoch hest.producer (by decide) (by decide) rfl
  exact ⟨⟨hmark, meets_reader hest.idle hest.resets hreader⟩, hlog⟩

def cleanRun : List ReplayEvent := fill whole 256 ++ (establishAndBegin ++ wholeRead)

lemma run_cleanRun : Meets step ReadAllowed {} cleanRun ∧
    (run step {} cleanRun).reader.log = [.read 0 0 whole, .began 0 0] := by
  have hempty : Filled whole 0 ({} : ReplayPair).writer := ⟨rfl, rfl, rfl, rfl, nofun, nofun⟩
  obtain ⟨h, hr, -⟩ := run_fill (m := 256) hempty (by decide)
  have hfill := meets_writer (s := {}) (fill_ne_reader whole 256)
  obtain ⟨hmeets, hlog⟩ := run_beginAndRead h hr
  rw [cleanRun, meets_append, run_append]
  exact ⟨⟨hfill, hmeets⟩, hlog⟩

theorem tryRead_whole_first :
    (run step {} cleanRun).reader.log = [.read 0 0 whole, .began 0 0] ∧
      (run step {} cleanRun).writer.published 0 0 = some whole := by
  obtain ⟨hmeets, hlog⟩ := run_cleanRun
  exact ⟨hlog, ((tryRead_whole cleanRun hmeets).1 [] _ _ hlog).2⟩

end ReplayPair

end ASFireWire.AudioRx
