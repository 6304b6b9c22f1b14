import ASFireWire.BusGeneration
import ASFireWire.Runs

/-! Payloads of outstanding commands (`Async/Track/PayloadRegistry`) across bus resets. `Attach`
stamps the ten-bit generation of the tracker; the sweep of `ConfirmBusGeneration` compares the
stamps with the eight-bit generation before the confirmed one. -/
namespace ASFireWire.Async

structure PayloadEntry (α : Type*) where
  handle : ℕ
  payload : α
  epoch : ℕ
  deriving DecidableEq, Repr

/-- The map from handles to payloads, one entry a handle. -/
structure PayloadRegistry (α : Type*) where
  map : List (PayloadEntry α) := []
  epoch : ℕ := 0
  deriving DecidableEq, Repr

namespace PayloadRegistry
variable {α : Type*}

def attach (r : PayloadRegistry α) (handle : ℕ) (payload : α) (epoch : ℕ) : PayloadRegistry α :=
  { r with map := ⟨handle, payload, epoch⟩ :: r.map.filter (·.handle ≠ handle) }

def cancelAll (r : PayloadRegistry α) : PayloadRegistry α := { r with map := [] }

def cancelByEpoch (r : PayloadRegistry α) (epoch : ℕ) : PayloadRegistry α :=
  { r with map := r.map.filter fun entry => ¬ entry.epoch ≤ epoch }

def setEpoch (r : PayloadRegistry α) (epoch : ℕ) : PayloadRegistry α := { r with epoch := epoch }

end PayloadRegistry

/-- The parts of the async subsystem that reset handling touches. A payload is named by the number
of resets confirmed before it was attached. -/
structure PayloadRun where
  selfIDGeneration : UInt8
  tracker : GenerationTracker := {}
  payloads : PayloadRegistry ℕ := {}
  busResetInProgress : Bool := false
  confirmed : ℕ := 0

inductive PayloadEvent
  | submit (handle : ℕ)
  | stopFlushAT (nextGen : UInt8)
  | busResetComplete
  | confirmBusGeneration (during : List ℕ)
  deriving DecidableEq

namespace PayloadRun

/-- A command with a payload: gated while a reset is in progress, stamped with the generation
`PrepareTransactionContext` reads. -/
def submit (s : PayloadRun) (handle : ℕ) : PayloadRun :=
  if s.busResetInProgress then s
  else { s with
    payloads := s.payloads.attach handle s.confirmed s.tracker.getCurrentState.generation16 }

/-- `OnBusResetBegin` and `StopATContextsOnly`, whose `OnATContextsStopped` cancels everything. -/
def stopFlushAT (s : PayloadRun) (nextGen : UInt8) : PayloadRun :=
  { s with
    busResetInProgress := true
    tracker := { s.tracker with labelAllocator := s.tracker.labelAllocator.clearBitmap }
    payloads := (s.payloads.setEpoch nextGen.toNat).cancelAll }

/-- The controller counts up and the tracker takes the new generation. -/
def trackGeneration (s : PayloadRun) : PayloadRun :=
  { s with
    selfIDGeneration := s.selfIDGeneration + 1
    tracker := s.tracker.onConfirmedBusGeneration (s.selfIDGeneration + 1)
    confirmed := s.confirmed + 1 }

/-- The generation before the confirmed one, as the sweep computes it. -/
def oldGeneration (confirmedGeneration : UInt8) : ℕ :=
  if confirmedGeneration = 0 then 0xFF else confirmedGeneration.toNat - 1

def sweep (s : PayloadRun) : PayloadRun :=
  { s with
    payloads := (s.payloads.cancelByEpoch (oldGeneration s.selfIDGeneration)).setEpoch
      s.selfIDGeneration.toNat }

/-- `ConfirmBusGeneration`; the commands of `during` get in between the tracker's update and the
sweep. -/
def confirmBusGeneration (s : PayloadRun) (during : List ℕ) : PayloadRun :=
  (during.foldl submit s.trackGeneration).sweep

def step (s : PayloadRun) : PayloadEvent → PayloadRun
  | .submit handle => s.submit handle
  | .stopFlushAT nextGen => s.stopFlushAT nextGen
  | .busResetComplete => { s with busResetInProgress := false }
  | .confirmBusGeneration during => s.confirmBusGeneration during

/-- A confirmation leaves no payload of an earlier generation and sweeps none of the generation it
confirms. -/
def SweepsExactly (s : PayloadRun) : PayloadEvent → Prop
  | .confirmBusGeneration during =>
      (∀ entry ∈ (s.confirmBusGeneration during).payloads.map,
        entry.payload = (s.confirmBusGeneration during).confirmed) ∧
      ∀ entry ∈ (during.foldl submit s.trackGeneration).payloads.map,
        entry.payload = (s.confirmBusGeneration during).confirmed →
          entry ∈ (s.confirmBusGeneration during).payloads.map
  | _ => True

/-- Every payload is stamped below 256 or about to be replaced, and no command gets in while the
extended generation comes back to zero. -/
def BelowWrap (s : PayloadRun) : PayloadEvent → Prop
  | .confirmBusGeneration during =>
      (s.tracker.getCurrentState.generation16 < 256 ∨
        ∀ entry ∈ s.payloads.map, entry.handle ∈ during ∧ s.busResetInProgress = false) ∧
      (during = [] ∨ s.busResetInProgress = true ∨ s.selfIDGeneration ≠ 0xFF ∨
        (s.tracker.getCurrentState.generation16 ≠ 0 ∧
          s.tracker.getCurrentState.generation16 ≠ 1023))
  | _ => True

/-- Between confirmations every payload in the registry is of the current generation and carries
its ten-bit stamp. -/
structure Inv (first : ℕ) (s : PayloadRun) : Prop where
  counter : (s.selfIDGeneration + 1).toNat = (first + s.confirmed) % 256
  tracker : s.tracker.labelAllocator.currentGeneration = confirmedGeneration first s.confirmed
  entries : ∀ entry ∈ s.payloads.map, entry.payload = s.confirmed ∧
    entry.epoch = confirmedGeneration first s.confirmed

variable {s : PayloadRun} {first : ℕ}

/-- The context with this map of payloads. -/
def withMap (s : PayloadRun) (map : List (PayloadEntry ℕ)) : PayloadRun :=
  { s with payloads := { s.payloads with map := map } }

lemma submit_open (h : s.busResetInProgress = false) (handle : ℕ) :
    s.submit handle = s.withMap (⟨handle, s.confirmed, s.tracker.getCurrentState.generation16⟩ ::
      s.payloads.map.filter (·.handle ≠ handle)) := if_neg (by simp [h])

lemma foldl_submit_gated (h : s.busResetInProgress = true) (during : List ℕ) :
    during.foldl submit s = s := by
  induction during with
  | nil => rfl
  | cons handle during ih =>
    have hsame : s.submit handle = s := if_pos h
    rw [List.foldl_cons, hsame, ih]

/-- Commands that get through attach under the current stamp and replace their handle's payload. -/
lemma foldl_submit_open (h : s.busResetInProgress = false) (during : List ℕ) :
    ∃ map, during.foldl submit s = s.withMap map ∧
      ∀ entry, entry ∈ map ↔ (entry ∈ s.payloads.map ∧ entry.handle ∉ during) ∨
        (entry.handle ∈ during ∧ entry.payload = s.confirmed ∧
          entry.epoch = s.tracker.getCurrentState.generation16) := by
  induction during generalizing s with
  | nil => exact ⟨s.payloads.map, rfl, by simp⟩
  | cons handle during ih =>
    rw [List.foldl_cons, submit_open h]
    obtain ⟨map, hrun, hmem⟩ := ih (s := s.withMap
      (⟨handle, s.confirmed, s.tracker.getCurrentState.generation16⟩ ::
        s.payloads.map.filter (·.handle ≠ handle))) h
    refine ⟨map, hrun, fun entry => (hmem entry).trans ?_⟩
    obtain ⟨key, payload, epoch⟩ := entry
    simp only [withMap, List.mem_cons, PayloadEntry.mk.injEq, List.mem_filter, decide_eq_true_eq]
    by_cases hkey : key = handle
    · by_cases hin : handle ∈ during <;> simp [hkey, hin]
    · simp [hkey]

/-! ### One confirmation -/

lemma Inv.generation16 (h : s.Inv first) :
    s.tracker.getCurrentState.generation16 = confirmedGeneration first s.confirmed := h.tracker

/-- The tracker's counter moves on by one. -/
lemma Inv.trackGeneration (hfirst : first < 256) (h : s.Inv first) :
    (s.trackGeneration.selfIDGeneration + 1).toNat = (first + (s.confirmed + 1)) % 256 ∧
      s.trackGeneration.tracker.labelAllocator.currentGeneration =
        confirmedGeneration first (s.confirmed + 1) := by
  have hc := h.counter
  have ht := h.tracker
  constructor
  · change (s.selfIDGeneration + 1 + 1).toNat = (first + (s.confirmed + 1)) % 256
    rw [UInt8.toNat_add, hc]
    simp only [UInt8.reduceToNat]
    omega
  · change (GenerationTracker.applyBusGeneration _ _).labelAllocator.currentGeneration = _
    cases hn : s.confirmed with
    | zero =>
      rw [hn] at hc ht
      refine (GenerationTracker.applyBusGeneration_first ht).trans (hc.trans ?_)
      rw [confirmedGeneration, if_neg (Nat.succ_ne_zero 0)]
      omega
    | succ n =>
      rw [hn] at hc ht
      exact GenerationTracker.applyBusGeneration_succ ht hc

/-- The sweep reaches the stamps of the generation before exactly while they are below 256. -/
lemma Inv.old_swept_iff (h : s.Inv first) :
    confirmedGeneration first s.confirmed ≤ oldGeneration (s.selfIDGeneration + 1) ↔
      confirmedGeneration first s.confirmed < 256 := by
  have hc := h.counter
  have hzero : s.selfIDGeneration + 1 = 0 ↔ (first + s.confirmed) % 256 = 0 := by
    rw [← hc, ← UInt8.toNat_inj]
    rfl
  unfold oldGeneration confirmedGeneration
  rw [hc]
  by_cases hn : s.confirmed = 0
  · rw [if_pos hn]
    simp
  · rw [if_neg hn]
    by_cases hg : s.selfIDGeneration + 1 = 0
    · rw [if_pos hg]
      omega
    · have := mt hzero.mpr hg
      rw [if_neg hg]
      omega

/-- The sweep spares the stamps of the confirmed generation unless they have come back to zero. -/
lemma Inv.new_kept_iff (hfirst : first < 256) (h : s.Inv first) :
    ¬ confirmedGeneration first (s.confirmed + 1) ≤ oldGeneration (s.selfIDGeneration + 1) ↔
      s.selfIDGeneration ≠ 0xFF ∨ (confirmedGeneration first s.confirmed ≠ 0 ∧
        confirmedGeneration first s.confirmed ≠ 1023) := by
  have hc := h.counter
  have hzero : s.selfIDGeneration + 1 = 0 ↔ (first + s.confirmed) % 256 = 0 := by
    rw [← hc, ← UInt8.toNat_inj]
    rfl
  have hlast : s.selfIDGeneration = 0xFF ↔ s.selfIDGeneration + 1 = 0 := by
    have hlt := s.selfIDGeneration.toNat_lt
    rw [← UInt8.toNat_inj, ← UInt8.toNat_inj, UInt8.toNat_add]
    simp only [UInt8.reduceToNat]
    omega
  rw [ne_eq, hlast, hzero]
  unfold oldGeneration confirmedGeneration
  rw [hc, if_neg (Nat.succ_ne_zero _), Nat.add_sub_cancel]
  by_cases hg : s.selfIDGeneration + 1 = 0
  · rw [if_pos hg]
    have := hzero.mp hg
    by_cases hn : s.confirmed = 0
    · rw [if_pos hn]
      omega
    · rw [if_neg hn]
      omega
  · have := mt hzero.mpr hg
    rw [if_neg hg]
    omega

/-- The payloads a confirmation finds: those it finds in place and those attached under the new
stamp. -/
lemma Inv.confirm_map (hfirst : first < 256) (h : s.Inv first) (during : List ℕ) :
    ∃ map, (during.foldl submit s.trackGeneration).payloads.map = map ∧
      (s.confirmBusGeneration during).payloads.map =
        map.filter (fun entry => ¬ entry.epoch ≤ oldGeneration (s.selfIDGeneration + 1)) ∧
      (s.confirmBusGeneration during).confirmed = s.confirmed + 1 ∧
      (s.confirmBusGeneration during).selfIDGeneration = s.selfIDGeneration + 1 ∧
      (s.confirmBusGeneration during).tracker = s.trackGeneration.tracker ∧
      ∀ entry, entry ∈ map ↔
        (entry ∈ s.payloads.map ∧ (entry.handle ∈ during → s.busResetInProgress = true)) ∨
        (s.busResetInProgress = false ∧ entry.handle ∈ during ∧
          entry.payload = s.confirmed + 1 ∧
          entry.epoch = confirmedGeneration first (s.confirmed + 1)) := by
  unfold PayloadRun.confirmBusGeneration
  by_cases hgate : s.busResetInProgress = true
  · rw [foldl_submit_gated (s := s.trackGeneration) hgate]
    refine ⟨s.payloads.map, rfl, rfl, rfl, rfl, rfl, fun entry => ?_⟩
    simp [hgate]
  · have hopen : s.busResetInProgress = false := by simpa using hgate
    obtain ⟨map, hrun, hmem⟩ := foldl_submit_open (s := s.trackGeneration) hopen during
    rw [hrun]
    refine ⟨map, rfl, rfl, rfl, rfl, rfl, fun entry => (hmem entry).trans ?_⟩
    have hgen : s.trackGeneration.tracker.getCurrentState.generation16 =
        confirmedGeneration first (s.confirmed + 1) := (h.trackGeneration hfirst).2
    rw [hgen]
    simp [hopen, PayloadRun.trackGeneration]

/-- A confirmation sweeps exactly the earlier payloads under the condition on the stamps. -/
lemma Inv.sweepsExactly_iff (hfirst : first < 256) (h : s.Inv first) (e : PayloadEvent) :
    s.SweepsExactly e ↔ s.BelowWrap e := by
  cases e with
  | submit handle => exact Iff.rfl
  | stopFlushAT nextGen => exact Iff.rfl
  | busResetComplete => exact Iff.rfl
  | confirmBusGeneration during =>
    obtain ⟨map, hmap, hswept, hcount, -, -, hmem⟩ := h.confirm_map hfirst during
    have hold := h.old_swept_iff
    have hnew := h.new_kept_iff hfirst
    unfold SweepsExactly BelowWrap
    dsimp only
    rw [hmap, hswept, hcount, h.generation16, ← hold]
    refine and_congr ?_ ?_
    · constructor
      · intro hclean
        by_cases hreach : confirmedGeneration first s.confirmed ≤
            oldGeneration (s.selfIDGeneration + 1)
        · exact Or.inl hreach
        · refine Or.inr fun entry hentry => ?_
          obtain ⟨hpayload, hepoch⟩ := h.entries entry hentry
          have hgone : entry ∉ map := by
            intro hin
            have := hclean entry (List.mem_filter.mpr ⟨hin, by simpa [hepoch] using hreach⟩)
            omega
          rw [hmem, not_or] at hgone
          have hreplaced := hgone.1
          simp only [hentry, true_and, Classical.not_imp, Bool.not_eq_true] at hreplaced
          exact hreplaced
      · intro hcond entry hentry
        obtain ⟨hin, hepoch⟩ := List.mem_filter.mp hentry
        rcases (hmem entry).mp hin with ⟨hstay, hgate⟩ | ⟨-, -, hpayload, -⟩
        · exfalso
          obtain ⟨-, hstamp⟩ := h.entries entry hstay
          rcases hcond with hreach | hreplaced
          · rw [hstamp] at hepoch
            simp [hreach] at hepoch
          · obtain ⟨hduring, hopen⟩ := hreplaced entry hstay
            rw [hgate hduring] at hopen
            exact absurd hopen (by simp)
        · exact hpayload
    · constructor
      · intro hkept
        by_cases hnone : during = [] ∨ s.busResetInProgress = true
        · rcases hnone with hnil | hgate
          · exact Or.inl hnil
          · exact Or.inr (Or.inl hgate)
        · rw [not_or] at hnone
          obtain ⟨handle, during', hduring⟩ := List.exists_cons_of_ne_nil hnone.1
          have hopen : s.busResetInProgress = false := by simpa using hnone.2
          refine Or.inr (Or.inr (hnew.mp ?_))
          have hin : (⟨handle, s.confirmed + 1, confirmedGeneration first (s.confirmed + 1)⟩ :
              PayloadEntry ℕ) ∈ map :=
            (hmem _).mpr (Or.inr ⟨hopen, by simp [hduring], rfl, rfl⟩)
          have := (List.mem_filter.mp (hkept _ hin rfl)).2
          simpa using this
      · intro hcond entry hin hpayload
        refine List.mem_filter.mpr ⟨hin, ?_⟩
        rcases (hmem entry).mp hin with ⟨hstay, -⟩ | ⟨hopen, hduring, -, hstamp⟩
        · have := (h.entries entry hstay).1
          omega
        · have hkeep := hnew.mpr (hcond.resolve_left (by
            rintro rfl
            simp at hduring) |>.resolve_left (by simp [hopen]))
          simpa [hstamp] using hkeep

lemma Inv.submit (h : s.Inv first) (handle : ℕ) : (s.submit handle).Inv first := by
  by_cases hgate : s.busResetInProgress = true
  · have hsame : s.submit handle = s := if_pos hgate
    rw [hsame]
    exact h
  · rw [submit_open (by simpa using hgate)]
    refine ⟨h.counter, h.tracker, fun entry hentry => ?_⟩
    rcases List.mem_cons.mp hentry with rfl | hentry
    · exact ⟨rfl, h.generation16⟩
    · exact h.entries entry (List.mem_of_mem_filter hentry)

/-- A step that sweeps exactly keeps the stamps current. -/
lemma Inv.step (hfirst : first < 256) (h : s.Inv first) {e : PayloadEvent}
    (hok : s.SweepsExactly e) : (s.step e).Inv first := by
  cases e with
  | submit handle => exact h.submit handle
  | stopFlushAT nextGen =>
    exact ⟨h.counter, h.tracker, fun entry hentry => absurd hentry List.not_mem_nil⟩
  | busResetComplete => exact ⟨h.counter, h.tracker, h.entries⟩
  | confirmBusGeneration during =>
    obtain ⟨map, hmap, hswept, hcount, hself, htracker, hmem⟩ := h.confirm_map hfirst during
    obtain ⟨hcounter, hgen⟩ := h.trackGeneration hfirst
    change (s.confirmBusGeneration during).Inv first
    refine ⟨?_, ?_, fun entry hentry => ?_⟩
    · rw [hself, hcount]
      exact hcounter
    · rw [htracker, hcount]
      exact hgen
    · have hpayload := hok.1 entry hentry
      rw [hswept] at hentry
      rw [hcount] at hpayload ⊢
      rcases (hmem entry).mp (List.mem_of_mem_filter hentry) with ⟨hstay, -⟩ | ⟨-, -, -, hstamp⟩
      · have := (h.entries entry hstay).1
        omega
      · exact ⟨hpayload, hstamp⟩

lemma Inv.initial (counter : UInt8) : Inv (counter + 1).toNat { selfIDGeneration := counter } := by
  have := (counter + 1).toNat_lt
  refine ⟨?_, rfl, by simp⟩
  dsimp only
  omega

/-- In a run every confirmation leaves no payload of an earlier generation, and sweeps none of its
own, exactly when every confirmation finds the stamps below the wrap. -/
theorem payloads_swept_iff (counter : UInt8) (events : List PayloadEvent) :
    Runs.Meets step SweepsExactly { selfIDGeneration := counter } events ↔
      Runs.Meets step BelowWrap { selfIDGeneration := counter } events :=
  Runs.meets_congr (I := Inv (counter + 1).toNat)
    (fun _ e h => h.sweepsExactly_iff (counter + 1).toNat_lt e)
    (fun _ _ h hok => h.step (counter + 1).toNat_lt hok) (Inv.initial counter) events

/-- 257 confirmations, a command with a payload, and one more confirmation. -/
def payloadAfterWrap : List PayloadEvent :=
  List.replicate 257 (.confirmBusGeneration []) ++ [.submit 1, .confirmBusGeneration []]

/-- Once the eight-bit counter has wrapped, a payload is stamped 256 and no sweep reaches it. -/
theorem payload_outlives_generation :
    let s := Runs.run step { selfIDGeneration := 0xFF } payloadAfterWrap
    s.confirmed = 258 ∧ s.selfIDGeneration = 1 ∧ s.payloads.map = [⟨1, 257, 256⟩] := by
  decide +kernel

end PayloadRun

end ASFireWire.Async
