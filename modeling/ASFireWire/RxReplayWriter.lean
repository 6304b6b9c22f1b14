import ASFireWire.RxSequenceReplay

/-! The writer of the replay ring with every atomic access a step of its own, and what the shared
words say between two accesses. -/
namespace ASFireWire.AudioRx

open RxSequenceReplayState

/-! ### Fields of an entry, in the order both sides access them -/

inductive EntryField
  | firstAudioFrame | sourceCycleTimer | sytOffset | dataBlocks | dbc | flags
  deriving DecidableEq, Repr

namespace EntryField

def all : List EntryField :=
  [firstAudioFrame, sourceCycleTimer, sytOffset, dataBlocks, dbc, flags]

def get : EntryField → RxSequenceEntry → ℕ
  | firstAudioFrame, entry => entry.firstAudioFrame
  | sourceCycleTimer, entry => entry.sourceCycleTimer
  | sytOffset, entry => entry.sytOffset
  | dataBlocks, entry => entry.dataBlocks
  | dbc, entry => entry.dbc
  | flags, entry => entry.flags

/-- `target` with this field taken from `source`. -/
def copy : EntryField → RxSequenceEntry → RxSequenceEntry → RxSequenceEntry
  | firstAudioFrame, source, target => { target with firstAudioFrame := source.firstAudioFrame }
  | sourceCycleTimer, source, target => { target with sourceCycleTimer := source.sourceCycleTimer }
  | sytOffset, source, target => { target with sytOffset := source.sytOffset }
  | dataBlocks, source, target => { target with dataBlocks := source.dataBlocks }
  | dbc, source, target => { target with dbc := source.dbc }
  | flags, source, target => { target with flags := source.flags }

lemma get_copy (f g : EntryField) (source target : RxSequenceEntry) :
    g.get (f.copy source target) = if g = f then g.get source else g.get target := by
  cases f <;> cases g <;> rfl

lemma mem_all (f : EntryField) : f ∈ all := by
  cases f <;> simp [all]

lemma entry_ext {a b : RxSequenceEntry} (h : ∀ f : EntryField, f.get a = f.get b) : a = b := by
  obtain ⟨a1, a2, a3, a4, a5, a6⟩ := a
  obtain ⟨b1, b2, b3, b4, b5, b6⟩ := b
  have h1 := h firstAudioFrame
  have h2 := h sourceCycleTimer
  have h3 := h sytOffset
  have h4 := h dataBlocks
  have h5 := h dbc
  have h6 := h flags
  simp only [get] at h1 h2 h3 h4 h5 h6
  subst h1 h2 h3 h4 h5 h6
  rfl

end EntryField

/-! ### The writer -/

/-- The access the writer makes next. -/
inductive WriterPc
  | idle
  | publish (entry : RxSequenceEntry)
  | loadEpoch (entry : RxSequenceEntry) (cursor : ℕ)
  | storeEpoch (entry : RxSequenceEntry) (cursor epoch : ℕ)
  | storeFields (entry : RxSequenceEntry) (cursor : ℕ) (left : List EntryField)
  | storeCursor (cursor : ℕ)
  | reset | resetCursor | resetEpoch | resetSlots (slot : ℕ)
  | markEstablished | storeEstablished
  deriving DecidableEq, Repr

/-- The shared words and the writer, with what the words stand for: resets counted without end,
entries published since the last one, the reset each slot was last written after, and every entry
by the number of resets before it and its cursor. -/
structure ReplayWriter where
  replay : RxSequenceReplayState := {}
  pc : WriterPc := .idle
  resets : ℕ := 0
  count : ℕ := 0
  slotResets : ℕ → ℕ := fun _ => 0
  published : ℕ → ℕ → Option RxSequenceEntry := fun _ _ => none

def setSlot (r : RxSequenceReplayState) (i : ℕ) (slot : Slot) : RxSequenceReplayState :=
  { r with slots := Function.update r.slots i slot }

namespace ReplayWriter

/-- One atomic access of `Publish`, `Reset` or `MarkEstablished`. -/
def advance (w : ReplayWriter) : ReplayWriter :=
  match w.pc with
  | .idle => w
  | .publish entry => { w with pc := .loadEpoch entry w.replay.producerCursor }
  | .loadEpoch entry cursor => { w with pc := .storeEpoch entry cursor w.replay.epoch }
  | .storeEpoch entry cursor epoch =>
    { w with
      replay := setSlot w.replay (cursor % kCapacity)
        { w.replay.slots (cursor % kCapacity) with epoch := epoch }
      slotResets := Function.update w.slotResets (cursor % kCapacity) w.resets
      pc := .storeFields entry cursor EntryField.all }
  | .storeFields entry cursor (f :: left) =>
    { w with
      replay := setSlot w.replay (cursor % kCapacity)
        { w.replay.slots (cursor % kCapacity) with
          entry := f.copy entry (w.replay.slots (cursor % kCapacity)).entry }
      pc := .storeFields entry cursor left }
  | .storeFields entry cursor [] =>
    { w with
      replay := setSlot w.replay (cursor % kCapacity)
        { w.replay.slots (cursor % kCapacity) with sequence := cursor + 1 }
      count := cursor + 1
      published := Function.update w.published w.resets
        (Function.update (w.published w.resets) cursor (some entry))
      pc := .storeCursor cursor }
  | .storeCursor cursor =>
    { w with replay := { w.replay with producerCursor := cursor + 1 }, pc := .idle }
  | .reset => { w with replay := { w.replay with established := false }, pc := .resetCursor }
  | .resetCursor => { w with replay := { w.replay with producerCursor := 0 }, pc := .resetEpoch }
  | .resetEpoch =>
    { w with
      replay := { w.replay with epoch := (w.replay.epoch + 1) % 2 ^ 32 }
      resets := w.resets + 1
      count := 0
      pc := .resetSlots 0 }
  | .resetSlots i =>
    if i < kCapacity then
      { w with
        replay := setSlot w.replay i { w.replay.slots i with sequence := 0 }
        pc := .resetSlots (i + 1) }
    else { w with pc := .idle }
  | .markEstablished =>
    if w.replay.producerCursor < kReadDelay then { w with pc := .idle }
    else { w with pc := .storeEstablished }
  | .storeEstablished => { w with replay := { w.replay with established := true }, pc := .idle }

/-- A call is made only when the one before it has returned. -/
def call (w : ReplayWriter) (pc : WriterPc) : ReplayWriter :=
  if w.pc = .idle then { w with pc := pc } else w

end ReplayWriter

/-- The writer is rewriting the slot of `cursor` for the entry one ring later. -/
def rewriting (w : ReplayWriter) (beganAt cursor : ℕ) (stored : List EntryField → Bool) : Bool :=
  match w.pc with
  | .storeFields _ c left => c == cursor + kCapacity && w.resets == beganAt && stored left
  | _ => false

/-! ### What the shared words say at every moment -/

namespace ReplayWriter

/-- The writer has stored field `f` of a new entry in slot `i`, and not yet its sequence word. -/
def Overwritten (w : ReplayWriter) (i : ℕ) (f : EntryField) : Prop :=
  ∃ entry cursor left, w.pc = .storeFields entry cursor left ∧ cursor % kCapacity = i ∧ f ∉ left

/-- What the writer knows between two of its accesses. -/
def AtPc (w : ReplayWriter) : Prop :=
  match w.pc with
  | .loadEpoch _ cursor => cursor = w.count ∧ w.replay.producerCursor = w.count
  | .storeEpoch _ cursor epoch =>
    cursor = w.count ∧ w.replay.producerCursor = w.count ∧ epoch = w.resets % 2 ^ 32
  | .storeFields entry cursor left =>
    cursor = w.count ∧ w.replay.producerCursor = w.count ∧
      w.slotResets (cursor % kCapacity) = w.resets ∧ left.Nodup ∧
      ∀ f ∉ left, f.get (w.replay.slots (cursor % kCapacity)).entry = f.get entry
  | .storeCursor cursor => w.count = cursor + 1 ∧ w.replay.producerCursor = cursor
  | .resetCursor => True
  | .resetEpoch => w.replay.producerCursor = 0
  | .resetSlots j =>
    w.replay.producerCursor = 0 ∧ w.count = 0 ∧ ∀ i < j, (w.replay.slots i).sequence = 0
  | _ => w.replay.producerCursor = w.count

/-- Slot `i` holds an entry of the current epoch. -/
def InEpoch (w : ReplayWriter) (i : ℕ) : Prop :=
  w.slotResets i = w.resets ∧ (w.replay.slots i).sequence ≤ w.count ∧
    w.count < (w.replay.slots i).sequence + kCapacity ∧
    ((w.replay.slots i).sequence - 1) % kCapacity = i

/-- Slot `i` holds an entry of the epoch that is being reset. -/
def Leftover (w : ReplayWriter) (i : ℕ) : Prop :=
  (∃ j, w.pc = .resetSlots j) ∧ w.slotResets i + 1 = w.resets

structure Coherent (w : ReplayWriter) : Prop where
  epoch : w.replay.epoch = w.resets % 2 ^ 32
  slotEpoch : ∀ i, (w.replay.slots i).epoch = w.slotResets i % 2 ^ 32
  slotResets : ∀ i, w.slotResets i ≤ w.resets
  producer : w.replay.producerCursor ≤ w.count
  index : ∀ i, (w.replay.slots i).sequence ≠ 0 → i < kCapacity
  slots : ∀ i, (w.replay.slots i).sequence ≠ 0 → w.InEpoch i ∨ w.Leftover i
  entries : ∀ i, (w.replay.slots i).sequence ≠ 0 →
    ∃ p, w.published (w.slotResets i) ((w.replay.slots i).sequence - 1) = some p ∧
      ∀ f, ¬ w.Overwritten i f → f.get (w.replay.slots i).entry = f.get p
  fresh : ∀ g c p, w.published g c = some p → g < w.resets ∨ (g = w.resets ∧ c < w.count)
  atPc : w.AtPc

lemma coherent_init : Coherent {} where
  epoch := rfl
  slotEpoch _ := rfl
  slotResets _ := le_rfl
  producer := le_rfl
  index _ h := absurd rfl h
  slots _ h := absurd rfl h
  entries _ h := absurd rfl h
  fresh := by simp
  atPc := rfl

variable {w : ReplayWriter}

/-- Accesses that touch no slot and count nothing move the writer from one access to the next. -/
lemma Coherent.of_pc (h : Coherent w) {pc : WriterPc} {producerCursor : ℕ} {established : Bool}
    (hproducer : producerCursor ≤ w.count)
    (hfrom : (∀ e c l, w.pc ≠ .storeFields e c l) ∧
      ∀ j, w.pc = .resetSlots j → ∀ i < kCapacity, (w.replay.slots i).sequence = 0)
    (hpc : AtPc { w with
      pc := pc
      replay := { w.replay with producerCursor := producerCursor, established := established } }) :
    Coherent { w with
      pc := pc
      replay := { w.replay with producerCursor := producerCursor, established := established } } where
  epoch := h.epoch
  slotEpoch := h.slotEpoch
  slotResets := h.slotResets
  producer := hproducer
  index := h.index
  slots i hi := by
    rcases h.slots i hi with hin | ⟨⟨j, hj⟩, -⟩
    · exact Or.inl hin
    · exact absurd (hfrom.2 j hj i (h.index i hi)) hi
  entries i hi := by
    obtain ⟨p, hp, hf⟩ := h.entries i hi
    refine ⟨p, hp, fun f _ => hf f ?_⟩
    rintro ⟨e, c, l, hw, -⟩
    exact hfrom.1 e c l hw
  fresh := h.fresh
  atPc := hpc

lemma Coherent.notReset (h : Coherent w) (hpc : ∀ j, w.pc ≠ .resetSlots j) (i : ℕ)
    (hi : (w.replay.slots i).sequence ≠ 0) : w.InEpoch i := by
  rcases h.slots i hi with hin | ⟨⟨j, hj⟩, -⟩
  · exact hin
  · exact absurd hj (hpc j)

/-- In the slot the writer is about to use, the entry one ring back. -/
lemma InEpoch.behind {i : ℕ} (h : w.InEpoch i) (hseq : (w.replay.slots i).sequence ≠ 0)
    (hi : w.count % kCapacity = i) : (w.replay.slots i).sequence + kCapacity = w.count + 1 := by
  obtain ⟨-, hle, hlt, hmod⟩ := h
  generalize (w.replay.slots i).sequence = n at *
  simp only [kCapacity] at *
  omega

/-- Accesses to the slots that only keep or clear their sequence words. -/
lemma Coherent.of_slots (h : Coherent w) {w' : ReplayWriter}
    (hsame : w'.resets = w.resets ∧ w'.count = w.count ∧ w'.published = w.published ∧
      w'.replay.epoch = w.replay.epoch ∧ w'.replay.producerCursor = w.replay.producerCursor)
    (hepoch : ∀ i, (w'.replay.slots i).epoch = w'.slotResets i % 2 ^ 32)
    (hresets : ∀ i, w'.slotResets i ≤ w.resets)
    (hkeep : ∀ i, (w'.replay.slots i).sequence ≠ 0 →
      (w'.replay.slots i).sequence = (w.replay.slots i).sequence ∧
        w'.slotResets i = w.slotResets i)
    (hleft : ∀ i, w.Leftover i → (∃ j, w'.pc = .resetSlots j))
    (hentries : ∀ i f p, (w'.replay.slots i).sequence ≠ 0 → ¬ w'.Overwritten i f →
      (¬ w.Overwritten i f → f.get (w.replay.slots i).entry = f.get p) →
      f.get (w'.replay.slots i).entry = f.get p)
    (hat : w'.AtPc) : Coherent w' := by
  obtain ⟨hr, hc, hp, he, hprod⟩ := hsame
  have hold : ∀ i, (w'.replay.slots i).sequence ≠ 0 → (w.replay.slots i).sequence ≠ 0 := by
    intro i hi
    rw [← (hkeep i hi).1]
    exact hi
  constructor
  · rw [he, hr]
    exact h.epoch
  · exact hepoch
  · rw [hr]
    exact hresets
  · rw [hprod, hc]
    exact h.producer
  · intro i hi
    exact h.index i (hold i hi)
  · intro i hi
    rcases h.slots i (hold i hi) with hin | hlo
    · apply Or.inl
      unfold InEpoch at hin ⊢
      rw [hr, hc, (hkeep i hi).1, (hkeep i hi).2]
      exact hin
    · apply Or.inr
      constructor
      · exact hleft i hlo
      · rw [hr, (hkeep i hi).2]
        exact hlo.2
  · intro i hi
    obtain ⟨p, hpub, hf⟩ := h.entries i (hold i hi)
    refine ⟨p, ?_, fun f hf' => hentries i f p hi hf' (hf f)⟩
    rw [hp, (hkeep i hi).1, (hkeep i hi).2]
    exact hpub
  · intro g c p hpub
    rw [hp] at hpub
    rw [hr, hc]
    exact h.fresh g c p hpub
  · exact hat

lemma Coherent.storeEpoch (h : Coherent w) {entry : RxSequenceEntry} {cursor epoch : ℕ}
    (hpc : w.pc = .storeEpoch entry cursor epoch) : Coherent w.advance := by
  have hat := h.atPc
  simp only [AtPc, hpc] at hat
  obtain ⟨hcursor, hproducer, hepoch⟩ := hat
  have hin := h.notReset (by simp [hpc])
  have hslot : ∀ i, (w.advance.replay.slots i).sequence = (w.replay.slots i).sequence ∧
      (w.advance.replay.slots i).entry = (w.replay.slots i).entry := by
    intro i
    by_cases hi : i = cursor % kCapacity
    · subst hi
      simp [advance, hpc, setSlot]
    · simp [advance, hpc, setSlot, hi]
  apply h.of_slots
  · simp [advance, hpc, setSlot]
  · intro i
    by_cases hi : i = cursor % kCapacity
    · subst hi
      simpa [advance, hpc, setSlot] using hepoch
    · simpa [advance, hpc, setSlot, hi] using h.slotEpoch i
  · intro i
    by_cases hi : i = cursor % kCapacity
    · subst hi
      simp [advance, hpc]
    · simpa [advance, hpc, hi] using h.slotResets i
  · intro i hi
    rw [(hslot i).1] at hi ⊢
    apply And.intro rfl
    by_cases hi' : i = cursor % kCapacity
    · subst hi'
      simpa [advance, hpc] using (hin _ hi).1.symm
    · simp [advance, hpc, hi']
  · rintro i ⟨⟨j, hj⟩, -⟩
    rw [hpc] at hj
    cases hj
  · intro i f p _ _ hold
    rw [(hslot i).2]
    apply hold
    rintro ⟨e, c, l, hw, -⟩
    rw [hpc] at hw
    cases hw
  · simp only [AtPc, advance, hpc, setSlot, Function.update_self]
    exact ⟨hcursor, hproducer, trivial, by decide, fun f hf => absurd f.mem_all hf⟩

lemma Coherent.storeField (h : Coherent w) {entry : RxSequenceEntry} {cursor : ℕ} {f : EntryField}
    {left : List EntryField} (hpc : w.pc = .storeFields entry cursor (f :: left)) :
    Coherent w.advance := by
  have hat := h.atPc
  simp only [AtPc, hpc] at hat
  obtain ⟨hcursor, hproducer, hslot, hnodup, hfields⟩ := hat
  have hkeep : ∀ i, (w.advance.replay.slots i).sequence = (w.replay.slots i).sequence ∧
      (w.advance.replay.slots i).epoch = (w.replay.slots i).epoch := by
    intro i
    by_cases hi : i = cursor % kCapacity
    · subst hi
      simp [advance, hpc, setSlot]
    · simp [advance, hpc, setSlot, hi]
  have hsr : w.advance.slotResets = w.slotResets := by simp [advance, hpc]
  apply h.of_slots
  · simp [advance, hpc, setSlot]
  · intro i
    rw [(hkeep i).2, hsr]
    exact h.slotEpoch i
  · intro i
    rw [hsr]
    exact h.slotResets i
  · intro i _
    rw [hsr]
    exact ⟨(hkeep i).1, rfl⟩
  · rintro i ⟨⟨j, hj⟩, -⟩
    rw [hpc] at hj
    cases hj
  · intro i g p _ hg hold
    by_cases hi : i = cursor % kCapacity
    · subst hi
      have hgleft : g ∈ left := by
        by_contra hcon
        exact hg ⟨entry, cursor, left, by simp [advance, hpc], rfl, hcon⟩
      have hgf : g ≠ f := by
        rintro rfl
        exact (List.nodup_cons.mp hnodup).1 hgleft
      simp only [advance, hpc, setSlot, Function.update_self, EntryField.get_copy, if_neg hgf]
      apply hold
      rintro ⟨e, c, l, hw, -, hl⟩
      rw [hpc] at hw
      cases hw
      exact hl (List.mem_cons_of_mem f hgleft)
    · simp only [advance, hpc, setSlot, Function.update_of_ne hi]
      apply hold
      rintro ⟨e, c, l, hw, hi', -⟩
      rw [hpc] at hw
      cases hw
      exact hi hi'.symm
  · simp only [AtPc, advance, hpc, setSlot, Function.update_self]
    refine ⟨hcursor, hproducer, hslot, (List.nodup_cons.mp hnodup).2, fun g hg => ?_⟩
    rw [EntryField.get_copy]
    split
    · rfl
    · rename_i hgf
      exact hfields g (by simp [hgf, hg])

lemma Coherent.storeSequence (h : Coherent w) {entry : RxSequenceEntry} {cursor : ℕ}
    (hpc : w.pc = .storeFields entry cursor []) : Coherent w.advance := by
  have hat := h.atPc
  simp only [AtPc, hpc] at hat
  obtain ⟨hcursor, hproducer, hslot, -, hfields⟩ := hat
  subst hcursor
  have hin := h.notReset (by simp [hpc])
  have hother : ∀ i, i ≠ w.count % kCapacity →
      w.advance.replay.slots i = w.replay.slots i := by
    intro i hi
    simp [advance, hpc, setSlot, hi]
  have hown : (w.advance.replay.slots (w.count % kCapacity)).sequence = w.count + 1 ∧
      (w.advance.replay.slots (w.count % kCapacity)).epoch =
        (w.replay.slots (w.count % kCapacity)).epoch ∧
      (w.advance.replay.slots (w.count % kCapacity)).entry =
        (w.replay.slots (w.count % kCapacity)).entry := by
    simp [advance, hpc, setSlot]
  have hsame : w.advance.slotResets = w.slotResets ∧ w.advance.resets = w.resets ∧
      w.advance.count = w.count + 1 ∧ w.advance.replay.epoch = w.replay.epoch ∧
      w.advance.replay.producerCursor = w.replay.producerCursor := by
    simp [advance, hpc, setSlot]
  obtain ⟨hsr, hr, hc, he, hprod⟩ := hsame
  have hpub : ∀ g c, w.advance.published g c =
      if g = w.resets ∧ c = w.count then some entry else w.published g c := by
    intro g c
    simp only [advance, hpc, Function.update_apply]
    by_cases hg : g = w.resets
    · subst hg
      by_cases hcur : c = w.count <;> simp [hcur]
    · simp [hg]
  constructor
  · rw [he, hr]
    exact h.epoch
  · intro i
    rw [hsr, ← h.slotEpoch i]
    by_cases hi : i = w.count % kCapacity
    · subst hi
      exact hown.2.1
    · rw [hother i hi]
  · intro i
    rw [hsr, hr]
    exact h.slotResets i
  · rw [hprod, hc]
    exact h.producer.trans (Nat.le_succ _)
  · intro i hi
    by_cases hi' : i = w.count % kCapacity
    · subst hi'
      exact Nat.mod_lt _ (by decide)
    · rw [hother i hi'] at hi
      exact h.index i hi
  · intro i hi
    apply Or.inl
    unfold InEpoch
    rw [hsr, hr, hc]
    by_cases hi' : i = w.count % kCapacity
    · subst hi'
      rw [hown.1]
      exact ⟨hslot, le_rfl, by simp [kCapacity], rfl⟩
    · rw [hother i hi'] at hi ⊢
      obtain ⟨hres, hle, hlt, hmod⟩ := hin i hi
      refine ⟨hres, by omega, ?_, hmod⟩
      simp only [kCapacity] at *
      omega
  · intro i hi
    rw [hsr]
    by_cases hi' : i = w.count % kCapacity
    · subst hi'
      refine ⟨entry, ?_, fun f _ => ?_⟩
      · rw [hpub, hown.1, if_pos ⟨hslot, rfl⟩]
      · rw [hown.2.2]
        exact hfields f (by simp)
    · rw [hother i hi'] at hi ⊢
      obtain ⟨p, hp, hf⟩ := h.entries i hi
      refine ⟨p, ?_, fun f _ => hf f ?_⟩
      · rw [hpub, if_neg]
        · exact hp
        · rintro ⟨-, hcur⟩
          have hle := (hin i hi).2.1
          omega
      · rintro ⟨e, c, l, hw, hi'', -⟩
        rw [hpc] at hw
        cases hw
        exact hi' hi''.symm
  · intro g c p hp
    rw [hpub] at hp
    rw [hr, hc]
    split at hp
    · rename_i hgc
      exact Or.inr ⟨hgc.1, by omega⟩
    · rcases h.fresh g c p hp with hlt | ⟨hg, hlt⟩
      · exact Or.inl hlt
      · exact Or.inr ⟨hg, by omega⟩
  · simp only [AtPc, advance, hpc, setSlot]
    exact ⟨trivial, hproducer⟩

lemma Coherent.countReset (h : Coherent w) (hpc : w.pc = .resetEpoch) : Coherent w.advance := by
  have hat := h.atPc
  simp only [AtPc, hpc] at hat
  have hin := h.notReset (by simp [hpc])
  constructor
  · simp only [advance, hpc, h.epoch]
    omega
  · intro i
    simpa only [advance, hpc] using h.slotEpoch i
  · intro i
    simpa only [advance, hpc] using (h.slotResets i).trans (Nat.le_succ _)
  · simp only [advance, hpc, hat, le_refl]
  · intro i hi
    simp only [advance, hpc] at hi
    exact h.index i hi
  · intro i hi
    simp only [advance, hpc] at hi
    apply Or.inr
    simp only [Leftover, advance, hpc]
    exact ⟨⟨0, rfl⟩, by rw [(hin i hi).1]⟩
  · intro i hi
    simp only [advance, hpc] at hi ⊢
    obtain ⟨p, hp, hf⟩ := h.entries i hi
    refine ⟨p, hp, fun f _ => hf f ?_⟩
    rintro ⟨e, c, l, hw, -⟩
    rw [hpc] at hw
    cases hw
  · intro g c p hp
    simp only [advance, hpc] at hp ⊢
    rcases h.fresh g c p hp with hlt | ⟨hg, -⟩ <;> omega
  · simp only [AtPc, advance, hpc]
    exact ⟨hat, trivial, by simp⟩

lemma Coherent.clearSlot (h : Coherent w) {j : ℕ} (hpc : w.pc = .resetSlots j)
    (hj : j < kCapacity) : Coherent w.advance := by
  have hat := h.atPc
  simp only [AtPc, hpc] at hat
  obtain ⟨hproducer, hcount, hcleared⟩ := hat
  have hslot : ∀ i, (w.advance.replay.slots i).epoch = (w.replay.slots i).epoch ∧
      (w.advance.replay.slots i).entry = (w.replay.slots i).entry ∧
      (w.advance.replay.slots i).sequence =
        if i = j then 0 else (w.replay.slots i).sequence := by
    intro i
    by_cases hi : i = j
    · subst hi
      simp [advance, hpc, hj, setSlot]
    · simp [advance, hpc, hj, setSlot, hi]
  have hsr : w.advance.slotResets = w.slotResets := by simp [advance, hpc, hj]
  apply h.of_slots
  · simp [advance, hpc, hj, setSlot]
  · intro i
    rw [(hslot i).1, hsr]
    exact h.slotEpoch i
  · intro i
    rw [hsr]
    exact h.slotResets i
  · intro i hi
    rw [(hslot i).2.2] at hi ⊢
    split at hi
    · exact absurd rfl hi
    · rename_i hij
      rw [if_neg hij, hsr]
      exact ⟨rfl, rfl⟩
  · intro i _
    exact ⟨j + 1, by simp [advance, hpc, hj]⟩
  · intro i f p _ _ hold
    rw [(hslot i).2.1]
    apply hold
    rintro ⟨e, c, l, hw, -⟩
    rw [hpc] at hw
    cases hw
  · have hpc' : w.advance.pc = .resetSlots (j + 1) := by simp [advance, hpc, hj]
    simp only [AtPc, hpc']
    refine ⟨by simpa [advance, hpc, hj, setSlot] using hproducer,
      by simpa [advance, hpc, hj] using hcount, fun i hi => ?_⟩
    rw [(hslot i).2.2]
    split
    · rfl
    · exact hcleared i (by omega)

lemma Coherent.advance (h : Coherent w) : Coherent w.advance := by
  have hat := h.atPc
  cases hpc : w.pc with
  | idle => simpa only [ReplayWriter.advance, hpc] using h
  | publish entry =>
    simp only [AtPc, hpc] at hat
    simp only [ReplayWriter.advance, hpc]
    exact h.of_pc h.producer (by simp [hpc]) (by simp [AtPc, hat])
  | loadEpoch entry cursor =>
    simp only [AtPc, hpc] at hat
    simp only [ReplayWriter.advance, hpc]
    exact h.of_pc h.producer (by simp [hpc]) ⟨hat.1, hat.2, h.epoch⟩
  | storeEpoch entry cursor epoch => exact h.storeEpoch hpc
  | storeFields entry cursor left =>
    cases left with
    | nil => exact h.storeSequence hpc
    | cons f left => exact h.storeField hpc
  | storeCursor cursor =>
    simp only [AtPc, hpc] at hat
    simp only [ReplayWriter.advance, hpc]
    exact h.of_pc (by omega) (by simp [hpc]) (by simp [AtPc, hat])
  | reset =>
    simp only [ReplayWriter.advance, hpc]
    exact h.of_pc h.producer (by simp [hpc]) trivial
  | resetCursor =>
    simp only [ReplayWriter.advance, hpc]
    exact h.of_pc (Nat.zero_le _) (by simp [hpc]) rfl
  | resetEpoch => exact h.countReset hpc
  | resetSlots j =>
    simp only [AtPc, hpc] at hat
    by_cases hj : j < kCapacity
    · exact h.clearSlot hpc hj
    · have hcleared : ∀ i < kCapacity, (w.replay.slots i).sequence = 0 :=
        fun i hi => hat.2.2 i (by omega)
      simp only [ReplayWriter.advance, hpc, if_neg hj]
      exact h.of_pc h.producer ⟨by simp [hpc], fun _ _ => hcleared⟩ (by simp [AtPc, hat])
  | markEstablished =>
    simp only [AtPc, hpc] at hat
    simp only [ReplayWriter.advance, hpc]
    split
    · exact h.of_pc h.producer (by simp [hpc]) hat
    · exact h.of_pc h.producer (by simp [hpc]) hat
  | storeEstablished =>
    simp only [AtPc, hpc] at hat
    simp only [ReplayWriter.advance, hpc]
    exact h.of_pc h.producer (by simp [hpc]) hat

lemma Coherent.call (h : Coherent w) {pc : WriterPc}
    (hpc : (∃ entry, pc = .publish entry) ∨ pc = .reset ∨ pc = .markEstablished) :
    Coherent (w.call pc) := by
  unfold ReplayWriter.call
  split
  · rename_i hidle
    have hat := h.atPc
    simp only [AtPc, hidle] at hat
    apply h.of_pc h.producer (by simp [hidle])
    rcases hpc with ⟨entry, rfl⟩ | rfl | rfl <;> exact hat
  · exact h

/-! ### What stays true while the writer goes on -/

/-- The entry at `cursor` of epoch `e` has been published. -/
def Done (w : ReplayWriter) (e cursor : ℕ) : Prop :=
  e < w.resets ∨ (e = w.resets ∧ cursor < w.count)

/-- The slot of `cursor` holds its entry of epoch `e`. -/
def Current (w : ReplayWriter) (e cursor : ℕ) : Prop :=
  w.slotResets (cursor % kCapacity) = e ∧
    (w.replay.slots (cursor % kCapacity)).sequence = cursor + 1

/-- What a reader may rely on between a state of the writer and a later one. -/
structure Later (w w' : ReplayWriter) : Prop where
  resets : w.resets ≤ w'.resets
  slotResets : ∀ i, w.slotResets i ≤ w'.slotResets i
  published : ∀ g c p, w.published g c = some p → w'.published g c = some p
  done : ∀ e c, w.Done e c → w'.Done e c
  current : ∀ e c, w.Done e c → w'.Current e c → w.Current e c
  stillRewriting : ∀ e c, w'.Current e c → rewriting w e c (fun _ => true) = true →
    rewriting w' e c (fun _ => true) = true

/-- An access that counts nothing and leaves the slots' sequence words alone. -/
lemma Later.of_pc {w' : ReplayWriter} (hr : w'.resets = w.resets) (hc : w'.count = w.count)
    (hp : w'.published = w.published) (hsr : w'.slotResets = w.slotResets)
    (hseq : ∀ i, (w'.replay.slots i).sequence = (w.replay.slots i).sequence)
    (hpc : ∀ e c, rewriting w e c (fun _ => true) = true →
      rewriting w' e c (fun _ => true) = true) : Later w w' where
  resets := hr.ge
  slotResets i := by rw [hsr]
  published g c p h := by rwa [hp]
  done e c h := by
    unfold Done at h ⊢
    rwa [hr, hc]
  current e c _ h := by
    unfold Current at h ⊢
    rwa [hsr, hseq] at h
  stillRewriting e c _ h := hpc e c h

lemma Coherent.later_storeEpoch (h : Coherent w) {entry : RxSequenceEntry} {cursor epoch : ℕ}
    (hpc : w.pc = .storeEpoch entry cursor epoch) : Later w w.advance := by
  have hin := h.notReset (by simp [hpc])
  constructor
  · simp [ReplayWriter.advance, hpc]
  · intro i
    by_cases hi : i = cursor % kCapacity
    · subst hi
      simpa [ReplayWriter.advance, hpc] using h.slotResets _
    · simp [ReplayWriter.advance, hpc, hi]
  · intro g c p hp
    simpa only [ReplayWriter.advance, hpc] using hp
  · intro e c hd
    simpa only [Done, ReplayWriter.advance, hpc] using hd
  · rintro e c - ⟨hres, hseq⟩
    by_cases hi : c % kCapacity = cursor % kCapacity
    · simp only [ReplayWriter.advance, hpc, setSlot, hi, Function.update_self] at hres hseq
      rw [← hi] at hseq
      have hcur := (hin (c % kCapacity) (by omega)).1
      exact ⟨hcur.trans hres, hseq⟩
    · simp only [ReplayWriter.advance, hpc, setSlot, Function.update_of_ne hi] at hres hseq
      exact ⟨hres, hseq⟩
  · intro e c _ hw
    simp [rewriting, hpc] at hw

lemma Coherent.later_storeSequence (h : Coherent w) {entry : RxSequenceEntry} {cursor : ℕ}
    (hpc : w.pc = .storeFields entry cursor []) : Later w w.advance := by
  have hat := h.atPc
  simp only [AtPc, hpc] at hat
  obtain ⟨hcursor, -, hslot, -⟩ := hat
  subst hcursor
  have hown : ∀ c, c % kCapacity = w.count % kCapacity →
      (w.advance.replay.slots (c % kCapacity)).sequence = w.count + 1 := by
    intro c hc
    simp [ReplayWriter.advance, hpc, setSlot, hc]
  constructor
  · simp [ReplayWriter.advance, hpc]
  · simp [ReplayWriter.advance, hpc]
  · intro g c p hp
    have hne : ¬ (g = w.resets ∧ c = w.count) := by
      rintro ⟨rfl, rfl⟩
      rcases h.fresh _ _ p hp with hlt | ⟨-, hlt⟩ <;> omega
    simp only [ReplayWriter.advance, hpc, Function.update_apply]
    by_cases hg : g = w.resets
    · subst hg
      have hc : c ≠ w.count := fun hc => hne ⟨rfl, hc⟩
      simpa [hc] using hp
    · simpa [hg] using hp
  · intro e c hd
    simp only [Done, ReplayWriter.advance, hpc] at hd ⊢
    omega
  · rintro e c hd ⟨hres, hseq⟩
    by_cases hi : c % kCapacity = w.count % kCapacity
    · rw [hown c hi] at hseq
      have hres' : w.slotResets (c % kCapacity) = e := by
        simpa only [ReplayWriter.advance, hpc] using hres
      rw [hi, hslot] at hres'
      rcases hd with hd | hd <;> omega
    · simp only [ReplayWriter.advance, hpc, setSlot, Function.update_of_ne hi] at hres hseq
      exact ⟨hres, hseq⟩
  · rintro e c ⟨-, hseq⟩ hw
    simp only [rewriting, hpc, Bool.and_true, Bool.and_eq_true, beq_iff_eq] at hw
    rw [hown c (by rw [hw.1]; simp)] at hseq
    simp only [kCapacity] at hw
    omega

lemma Coherent.later_advance (h : Coherent w) : Later w w.advance := by
  cases hpc : w.pc with
  | storeEpoch entry cursor epoch => exact h.later_storeEpoch hpc
  | storeFields entry cursor left =>
    cases left with
    | nil => exact h.later_storeSequence hpc
    | cons f left =>
      apply Later.of_pc
      · simp [ReplayWriter.advance, hpc]
      · simp [ReplayWriter.advance, hpc]
      · simp [ReplayWriter.advance, hpc]
      · simp [ReplayWriter.advance, hpc]
      · intro i
        by_cases hi : i = cursor % kCapacity
        · subst hi
          simp [ReplayWriter.advance, hpc, setSlot]
        · simp [ReplayWriter.advance, hpc, setSlot, hi]
      · intro e c hw
        simpa [ReplayWriter.advance, hpc, rewriting] using hw
  | resetEpoch =>
    constructor
    · simp [ReplayWriter.advance, hpc]
    · simp [ReplayWriter.advance, hpc]
    · intro g c p hp
      simpa only [ReplayWriter.advance, hpc] using hp
    · intro e c hd
      simp only [Done, ReplayWriter.advance, hpc] at hd ⊢
      omega
    · intro e c _ hcur
      simpa only [Current, ReplayWriter.advance, hpc] using hcur
    · intro e c _ hw
      simp [rewriting, hpc] at hw
  | resetSlots j =>
    by_cases hj : j < kCapacity
    · constructor
      · simp [ReplayWriter.advance, hpc, hj]
      · simp [ReplayWriter.advance, hpc, hj]
      · intro g c p hp
        simpa only [ReplayWriter.advance, hpc, if_pos hj] using hp
      · intro e c hd
        simpa only [Done, ReplayWriter.advance, hpc, if_pos hj] using hd
      · rintro e c - ⟨hres, hseq⟩
        by_cases hi : c % kCapacity = j
        · simp [ReplayWriter.advance, hpc, hj, setSlot, hi] at hseq
        · simp only [ReplayWriter.advance, hpc, if_pos hj, setSlot,
            Function.update_of_ne hi] at hres hseq
          exact ⟨hres, hseq⟩
      · intro e c _ hw
        simp [rewriting, hpc] at hw
    · apply Later.of_pc <;> simp [ReplayWriter.advance, hpc, hj, rewriting]
  | markEstablished =>
    by_cases hp : w.replay.producerCursor < kReadDelay <;>
      apply Later.of_pc <;> simp [ReplayWriter.advance, hpc, hp, rewriting]
  | _ => apply Later.of_pc <;> simp [ReplayWriter.advance, hpc, rewriting]

lemma later_call (w : ReplayWriter) (pc : WriterPc) : Later w (w.call pc) := by
  by_cases hidle : w.pc = .idle
  · apply Later.of_pc <;> simp [ReplayWriter.call, hidle, rewriting]
  · simp only [ReplayWriter.call, if_neg hidle]
    exact Later.of_pc rfl rfl rfl rfl (fun _ => rfl) fun _ _ => id

end ReplayWriter

end ASFireWire.AudioRx
