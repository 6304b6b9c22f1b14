import ASFireWire.FetchAgentInvariant
import ASFireWire.Rankings

/-! Runs of the fetch agent: what its bookkeeping is worth in every state, and how the waiting of an
ORB ends. -/
namespace ASFireWire.SBP2.FetchAgent

open Runs Rankings

variable {s : FetchAgent}

/-! ### Runs -/

/-- What the agent cannot cope with: a submission while a failed write waits for its timer; a
pointer write the bus refuses, or one that fails after its ORB is gone, with others waiting; a
status block for an ORB that waits, or for one between two tries that others wait behind; and the
late completion of a cancelled write that passes for the one in use. -/
def Allowed (s : FetchAgent) : Event → Prop
  | .submit _ _ _ _ => s.fetchAgentWriteInUse = true ∨ s.activeFetchAgentORB = none
  | .writeComplete handle success accepted =>
    if s.fetchAgentWriteHandle = some handle then
      if success = true then accepted = true ∨ s.pendingImmediateORBs.length ≤ 1
      else s.activeFetchAgentORB ≠ none ∨ s.pendingImmediateORBs = []
    else
      (∀ w ∈ s.writes, w.handle = handle → s.bound = false ∨ w.generation ≠ s.generation) ∨
        (s.fetchAgentWriteInUse = false ∧ (s.activeFetchAgentORB = none ∨ success = false))
  | .retryTimer orb accepted => s.activeFetchAgentORB = some orb →
      s.fetchAgentWriteInUse = false → accepted = true ∨ s.pendingImmediateORBs = []
  | .statusBlock orb _ _ _ => orb ∉ s.pendingImmediateORBs ∧ (s.activeFetchAgentORB = some orb →
      s.fetchAgentWriteInUse = true ∨ s.pendingImmediateORBs = [])
  | _ => True

/-- The agent once the write in use is over. -/
def released (s : FetchAgent) (w : PointerWrite) (success : Bool) : FetchAgent :=
  { s.arrive w success with fetchAgentWriteInUse := false, fetchAgentWriteHandle := none }

/-- A completion is that of the write in use, or not heeded, or a late one heeded by an agent that
has no write in use. -/
lemma Inv.completion_cases (h : s.Inv) {w : PointerWrite} (hmem : w ∈ s.writes)
    {success accepted : Bool} (ha : s.Allowed (.writeComplete w.handle success accepted)) :
    (s.fetchAgentWriteHandle = some w.handle ∧ s.fetchAgentWriteInUse = true ∧
      (s.released w success).Consistent ∧
      (∀ orb, success = true → s.activeFetchAgentORB = some orb →
        s.submission orb ∈ (s.released w success).delivered) ∧
      (s.arrive w success).onFetchAgentWriteComplete w.generation success accepted =
        if success then (s.released w success).onWriteSucceeded accepted
        else (s.released w success).onWriteFailed accepted) ∨
    (s.fetchAgentWriteHandle ≠ some w.handle ∧ (s.arrive w success).Consistent ∧
      ((s.arrive w success).onFetchAgentWriteComplete w.generation success accepted =
          s.arrive w success ∨
        (s.fetchAgentWriteInUse = false ∧ (s.activeFetchAgentORB = none ∨ success = false) ∧
          (s.arrive w success).onFetchAgentWriteComplete w.generation success accepted =
            if success then (s.arrive w success).onWriteSucceeded accepted
            else (s.arrive w success).onWriteFailed accepted))) := by
  have hwired := h.consistent.wired
  unfold FetchAgent.onFetchAgentWriteComplete
  by_cases hcur : s.fetchAgentWriteHandle = some w.handle
  · apply Or.inl
    have hin : s.fetchAgentWriteInUse = true := by
      by_contra hin
      rw [hwired.handle (by simpa using hin)] at hcur
      cases hcur
    obtain ⟨v, hlive, hhandle, hgen, hact⟩ := hwired.inUse hin
    have hvw : v = w := by
      have hvl : v ∈ s.live := by
        rw [hlive]
        exact List.mem_singleton_self v
      rw [hhandle] at hcur
      exact List.inj_on_of_nodup_map hwired.handles (List.mem_filter.mp hvl).1 hmem
        (Option.some.inj hcur)
    subst hvw
    have hb : s.bound = true := by
      by_contra hb
      rw [(h.consistent.tracked.unbound (by simpa using hb)).1] at hin
      cases hin
    refine ⟨hcur, hin, h.consistent.arriveInUse success hlive, fun orb hs horb => ?_, ?_⟩
    · simp only [released, FetchAgent.arrive, hs, if_true, ← (hact orb horb).2]
      exact List.mem_cons_self
    · rw [if_neg]
      · rfl
      · rintro (hb' | hg)
        · rw [show s.bound = false from hb'] at hb
          cases hb
        · exact hg hgen
  · apply Or.inr
    simp only [Allowed, if_neg hcur] at ha
    have hlate : s.fetchAgentWriteInUse = false ∨ w ∉ s.live := by
      by_cases hin : s.fetchAgentWriteInUse = true
      · apply Or.inr
        intro hwl
        obtain ⟨v, hlive, hhandle, -⟩ := hwired.inUse hin
        rw [hlive, List.mem_singleton] at hwl
        rw [hwl] at hcur
        exact hcur hhandle
      · exact Or.inl (by simpa using hin)
    refine ⟨hcur, h.consistent.arrive success hlate hmem, ?_⟩
    split
    · exact Or.inl rfl
    · rename_i hheeded
      push Not at hheeded
      have hidle : s.fetchAgentWriteInUse = false ∧
          (s.activeFetchAgentORB = none ∨ success = false) := by
        apply ha.resolve_left
        intro hskip
        rcases hskip w hmem rfl with hb | hg
        · exact hheeded.1 hb
        · exact hg hheeded.2
      have hsame : { s.arrive w success with
          fetchAgentWriteInUse := false, fetchAgentWriteHandle := none } = s.arrive w success := by
        have hhandle := hwired.handle hidle.1
        simp only [FetchAgent.arrive, hidle.1, hhandle]
      refine Or.inr ⟨hidle.1, hidle.2, ?_⟩
      dsimp only
      rw [hsame]

lemma Inv.writeComplete (h : s.Inv) {w : PointerWrite} (hmem : w ∈ s.writes)
    {success accepted : Bool} (ha : s.Allowed (.writeComplete w.handle success accepted)) :
    ((s.arrive w success).onFetchAgentWriteComplete w.generation success accepted).Inv := by
  rcases h.completion_cases hmem ha with ⟨hcur, -, hc, hdel, heq⟩ | ⟨-, hc, heq | ⟨hin, hcase, heq⟩⟩
  · simp only [Allowed, hcur, if_true] at ha
    rw [heq]
    split
    · rename_i hs
      rw [if_pos hs] at ha
      exact hc.onWriteSucceeded rfl (fun orb horb => hdel orb hs horb) ha
    · rename_i hs
      rw [if_neg hs] at ha
      apply hc.onWriteFailed h.armed.activeLast
      intro hnone _
      exact ha.resolve_left fun hne => hne hnone
  · rw [heq]
    exact ⟨hc, h.armed.retry, h.armed.activeLast, h.armed.busy⟩
  · rw [heq]
    split
    · rename_i hs
      have hnone : s.activeFetchAgentORB = none := hcase.resolve_right (by simp [hs])
      apply hc.onWriteSucceeded hin
      · intro o ho
        rw [show s.activeFetchAgentORB = some o from ho] at hnone
        cases hnone
      · apply Or.inr
        rw [show (s.arrive w success).pendingImmediateORBs = [] from h.armed.busy hin hnone]
        exact Nat.zero_le _
    · apply hc.onWriteFailed h.armed.activeLast
      exact fun hnone hin => h.armed.busy hin hnone

lemma Inv.statusBlock (h : s.Inv) {orb : ORBKey} {sbpStatus : ℕ} {dead accepted : Bool}
    (ha : s.Allowed (.statusBlock orb sbpStatus dead accepted)) :
    (s.onStatusBlock orb sbpStatus dead accepted).1.Inv := by
  obtain ⟨hpend, hact⟩ := ha
  unfold FetchAgent.onStatusBlock
  split
  · exact h
  · rename_i hout
    have hc := h.consistent.forget hpend hout
    have hfresh : s.submission orb < s.submissions ∧
        ∀ o, (s.forget orb).outstandingORBs o ≠ none → s.submission orb ≠ s.submission o := by
      refine ⟨h.consistent.numbered.current orb hout, fun o ho heq => ?_⟩
      by_cases hoe : o = orb
      · simp [FetchAgent.forget, hoe] at ho
      · have ho' : s.outstandingORBs o ≠ none := by simpa [FetchAgent.forget, hoe] using ho
        exact hoe (h.consistent.numbered.injective o orb ho' hout heq.symm)
    have harmed : (s.forget orb).Armed := by
      refine ⟨fun hin o ho => ?_, fun o ho => ?_, fun hin hnone => ?_⟩
      · simp only [FetchAgent.forget] at ho
        split at ho
        · cases ho
        · exact h.armed.retry hin o ho
      · simp only [FetchAgent.forget] at ho
        split at ho
        · cases ho
        · exact h.armed.activeLast o ho
      · simp only [FetchAgent.forget] at hnone
        split at hnone
        · rename_i hself
          rcases hact hself with hin' | hnil
          · rw [show s.fetchAgentWriteInUse = false from hin] at hin'
            cases hin'
          · exact hnil
        · exact h.armed.busy hin hnone
    have hready : ∀ c, some (⟨s.submission orb, 0, sbpStatus⟩ : ORBCompletion) = some c →
        c.submission < (s.forget orb).submissions ∧
          ∀ o, (s.forget orb).outstandingORBs o ≠ none →
            c.submission ≠ (s.forget orb).submission o := by
      rintro c hcc
      cases hcc
      exact hfresh
    dsimp only
    split
    · refine ⟨hc.resetNoWait hready accepted, ?_⟩
      unfold FetchAgent.resetNoWait
      split <;> exact ⟨harmed.retry, harmed.activeLast, harmed.busy⟩
    · have hdone := hc.resetNoWait hready false
      simp only [FetchAgent.resetNoWait, or_true, if_true] at hdone
      exact ⟨hdone, harmed.retry, harmed.activeLast, harmed.busy⟩

/-- The active ORB has the newest number, the pending ones newer numbers still. -/
lemma Inv.issued_le (h : s.Inv) {orb : ORBKey} (hact : s.activeFetchAgentORB = some orb) :
    ∀ n ∈ s.issued, n ≤ s.submission orb := by
  intro n hn
  have hhead := h.armed.activeLast orb hact
  have hsorted := h.consistent.numbered.issuedSorted
  cases hi : s.issued with
  | nil =>
    rw [hi] at hn
    cases hn
  | cons m rest =>
    rw [hi] at hn hhead hsorted
    cases hhead
    rcases List.mem_cons.mp hn with rfl | hmem
    · exact le_rfl
    · exact (List.pairwise_cons.mp hsorted).1 n hmem

lemma Inv.active_lt (h : s.Inv) {orb : ORBKey} (hact : s.activeFetchAgentORB = some orb) :
    ∀ o ∈ s.pendingImmediateORBs, s.submission orb < s.submission o := by
  intro o ho
  apply h.consistent.numbered.pendingAfter o ho
  exact List.mem_of_mem_head? (h.armed.activeLast orb hact)

lemma Inv.retryTimer (h : s.Inv) {orb : ORBKey} {accepted : Bool}
    (ha : s.Allowed (.retryTimer orb accepted)) :
    (onRetryTimer { s with retryTimers := s.retryTimers.erase orb } orb accepted).Inv := by
  have hle := fun hact : s.activeFetchAgentORB = some orb => h.issued_le hact
  have hlt := fun hact : s.activeFetchAgentORB = some orb => h.active_lt hact
  obtain ⟨hc, harm⟩ := h
  have hc := hc.frame (s.retryTimers.erase orb) s.resetWrites s.agentResetInProgress
    s.timeouts fun _ => id
  unfold onRetryTimer
  split
  · rename_i hact
    by_cases hin : s.fetchAgentWriteInUse = true
    · have heq : FetchAgent.appendImmediate { s with retryTimers := s.retryTimers.erase orb } orb
          accepted = ({ s with retryTimers := s.retryTimers.erase orb }, false) := by
        simp [FetchAgent.appendImmediate, hin]
      rw [heq]
      refine ⟨hc, fun hfree => ?_, harm.activeLast, harm.busy⟩
      rw [show s.fetchAgentWriteInUse = false from hfree] at hin
      cases hin
    · have hfree : s.fetchAgentWriteInUse = false := by simpa using hin
      exact hc.appendImmediate hfree hact (hle hact) (hlt hact) (ha hact hfree)
  · rename_i hact
    refine ⟨hc, fun hin o ho => ?_, harm.activeLast, harm.busy⟩
    have hoe : o ≠ orb := fun hoe => hact (hoe ▸ ho)
    exact (List.mem_erase_of_ne hoe).mpr (harm.retry hin o ho)

/-- An ORB with a timer is neither pending nor active. -/
lemma Tracked.timed_elsewhere (ht : s.Tracked) {t : ℕ × ORBKey} (hmem : t ∈ s.timeouts) :
    t.2 ∉ s.pendingImmediateORBs ∧ s.activeFetchAgentORB ≠ some t.2 := by
  obtain ⟨hpos, hout⟩ := ht.timers t hmem
  have hpend : t.2 ∉ s.pendingImmediateORBs := by
    intro hmem
    rw [ht.pendingOut t.2 hmem, Option.some.injEq] at hout
    omega
  have hact : s.activeFetchAgentORB ≠ some t.2 := by
    intro hact
    rw [(ht.activeOut t.2 hact).1, Option.some.injEq] at hout
    omega
  exact ⟨hpend, hact⟩

lemma Inv.orbTimeout (h : s.Inv) {t : ℕ × ORBKey} (hmem : t ∈ s.timeouts) (accepted : Bool) :
    (onORBTimeout { s with timeouts := s.timeouts.filter fun u => u.1 ≠ t.1 } t.2 accepted).Inv := by
  obtain ⟨hc, harm⟩ := h
  have ht := hc.tracked
  have hc := hc.frame s.retryTimers s.resetWrites s.agentResetInProgress
    (s.timeouts.filter fun u => u.1 ≠ t.1) fun u hu => (List.mem_filter.mp hu).1
  obtain ⟨hpend, hact⟩ := ht.timed_elsewhere hmem
  have hout := (ht.timers t hmem).2
  have hfilter : s.pendingImmediateORBs.filter (· ≠ t.2) = s.pendingImmediateORBs := by
    rw [List.filter_eq_self]
    intro o ho
    simpa using fun hoe : o = t.2 => hpend (hoe ▸ ho)
  have hnone : ∀ c, (none : Option ORBCompletion) = some c → c.submission < s.submissions ∧
      ∀ orb, s.outstandingORBs orb ≠ none → c.submission ≠ s.submission orb := nofun
  have hsame := hc.resetNoWait hnone accepted
  unfold onORBTimeout
  rw [if_neg (by dsimp only; rw [hout]; nofun)]
  unfold FetchAgent.resetNoWait at hsame ⊢
  split
  · rename_i hno
    rw [if_pos hno] at hsame
    refine ⟨hsame.failORB (by dsimp only; rw [hout]; nofun) _ _, ?_⟩
    constructor
    · simpa [FetchAgent.failORB, FetchAgent.forget, hact] using harm.retry
    · simpa [FetchAgent.failORB, FetchAgent.forget, hact] using harm.activeLast
    · simpa only [FetchAgent.failORB, FetchAgent.forget, hact, if_false, hfilter] using harm.busy
  · rename_i hno
    rw [if_neg hno] at hsame
    refine ⟨hsame.failORB (by dsimp only; rw [hout]; nofun) _ _, ?_⟩
    constructor
    · simpa [FetchAgent.failORB, FetchAgent.forget, hact] using harm.retry
    · simpa [FetchAgent.failORB, FetchAgent.forget, hact] using harm.activeLast
    · simpa only [FetchAgent.failORB, FetchAgent.forget, hact, if_false, hfilter] using harm.busy

lemma Inv.step (h : s.Inv) {event : Event} (ha : s.Allowed event) : (s.step event).Inv := by
  cases event with
  | bind generation => exact h.consistent.rebind generation true
  | unbind => exact h.consistent.rebind 0 false
  | submit orb timeout prepared accepted => exact h.submit orb timeout prepared accepted ha
  | writeComplete handle success accepted =>
    simp only [FetchAgent.step]
    split
    · exact h
    · rename_i w hfind
      have hmem := List.mem_of_find?_eq_some hfind
      have hhandle := List.find?_some hfind
      simp only [decide_eq_true_eq] at hhandle
      subst hhandle
      exact h.writeComplete hmem ha
  | retryTimer orb accepted =>
    simp only [FetchAgent.step]
    split
    · exact h.retryTimer ha
    · exact h
  | statusBlock orb sbpStatus dead accepted => exact h.statusBlock ha
  | orbTimeout token accepted =>
    simp only [FetchAgent.step]
    split
    · exact h
    · rename_i t hfind
      have hmem := List.mem_of_find?_eq_some hfind
      have htoken := List.find?_some hfind
      simp only [decide_eq_true_eq] at htoken
      subst htoken
      exact h.orbTimeout hmem accepted
  | reset accepted => exact h.reset accepted
  | resetComplete index =>
    simp only [FetchAgent.step]
    split
    · exact h
    · have hc := h.consistent.frame s.retryTimers (s.resetWrites.eraseIdx index)
        s.agentResetInProgress s.timeouts fun _ => id
      unfold FetchAgent.onAgentResetComplete
      split
      · exact ⟨hc, h.armed.retry, h.armed.activeLast, h.armed.busy⟩
      · obtain ⟨hcleared, harmed⟩ := hc.clear
        exact ⟨hcleared.frame s.retryTimers (s.resetWrites.eraseIdx index) false _ fun _ => id,
          harmed.retry, harmed.activeLast, harmed.busy⟩
  | noWaitComplete index =>
    simp only [FetchAgent.step]
    split
    · exact h
    · rename_i onComplete hget
      refine ⟨h.consistent.call ?_, h.armed.retry, h.armed.activeLast, h.armed.busy⟩
      rintro c (hc | hc)
      · rcases List.mem_append.mp hc with hc | hc
        · rw [Option.mem_toList] at hc
          rw [hc] at hget
          exact Or.inr (Or.inl (List.mem_of_getElem? hget))
        · exact Or.inl hc
      · exact Or.inr (Or.inl (List.mem_of_mem_eraseIdx hc))

/-! ### Waiting ends -/

/-- The completion of the write in use, or the timer of the ORB between two tries. -/
def Serves (s : FetchAgent) : Event → Prop
  | .writeComplete handle _ _ => s.fetchAgentWriteHandle = some handle
  | .retryTimer orb _ => s.fetchAgentWriteInUse = false ∧ s.activeFetchAgentORB = some orb ∧
      orb ∈ s.retryTimers
  | _ => False

instance (s : FetchAgent) (event : Event) : Decidable (s.Serves event) := by
  cases event <;> unfold Serves <;> infer_instance

/-- What the ORB at the head of the line may still take. -/
def headWork (s : FetchAgent) : ℕ :=
  match s.activeFetchAgentORB with
  | none => if s.fetchAgentWriteInUse then 1 else 0
  | some orb => 2 * s.fetchAgentWriteRetries orb + if s.fetchAgentWriteInUse then 1 else 2

/-- A pending ORB waits for those before it, each with all its tries. -/
def work (s : FetchAgent) (orb : ORBKey) : ℕ :=
  (2 * s.defaultWriteRetries + 2) * s.pendingImmediateORBs.idxOf orb + s.headWork

/-- The ORB still waits under the number it waited under. -/
def Waits (orb : ORBKey) (n : ℕ) (s : FetchAgent) : Prop :=
  orb ∈ s.pendingImmediateORBs ∧ s.submission orb = n

/-- Nothing has moved in the line. -/
structure SameLine (s s' : FetchAgent) : Prop where
  pending : s'.pendingImmediateORBs = s.pendingImmediateORBs
  active : s'.activeFetchAgentORB = s.activeFetchAgentORB
  inUse : s'.fetchAgentWriteInUse = s.fetchAgentWriteInUse
  retries : s'.fetchAgentWriteRetries = s.fetchAgentWriteRetries
  budget : s'.defaultWriteRetries = s.defaultWriteRetries
  submission : s'.submission = s.submission

lemma SameLine.pays {s' : FetchAgent} (h : SameLine s s') {orb : ORBKey} {n : ℕ}
    (hw : s'.Waits orb n) : s.Waits orb n ∧ s'.work orb ≤ s.work orb := by
  obtain ⟨hp, ha, hi, hr, hb, hs⟩ := h
  unfold Waits at hw ⊢
  unfold work headWork
  rw [hp, hs] at hw
  rw [hp, ha, hi, hr, hb]
  exact ⟨hw, le_rfl⟩

lemma not_waits_clear (orb : ORBKey) (n : ℕ) : ¬ s.clear.Waits orb n := by
  simp [Waits, FetchAgent.clear]

/-- The write in use has succeeded: the line moves up by one. -/
lemma Consistent.writeNext_pays (h : s.Consistent) (hin : s.fetchAgentWriteInUse = false)
    (hact : s.activeFetchAgentORB = none) {accepted : Bool}
    (ha : accepted = true ∨ s.pendingImmediateORBs.length ≤ 1) {orb : ORBKey} {n : ℕ}
    (hw : (s.writeNext accepted).Waits orb n) :
    s.Waits orb n ∧ (s.writeNext accepted).work orb <
      (2 * s.defaultWriteRetries + 2) * s.pendingImmediateORBs.idxOf orb + 1 := by
  have hinv := h.writeNext hin hact ha
  revert hw hinv
  unfold FetchAgent.writeNext
  split
  · rename_i hp
    intro hw
    rw [Waits, hp] at hw
    exact absurd hw.1 List.not_mem_nil
  · rename_i next rest hp
    cases accepted with
    | false =>
      intro hw
      have hrest : rest = [] := by simpa [hp] using ha
      subst hrest
      simp [FetchAgent.appendImmediate, hin, Waits, FetchAgent.failORB, FetchAgent.forget] at hw
    | true =>
      intro hw hinv
      simp only [FetchAgent.appendImmediate, hin, Bool.false_eq_true, if_false, if_true, Waits]
        at hw hinv
      obtain ⟨hmem, hsub⟩ := hw
      have hmem' : orb ∈ s.pendingImmediateORBs := by
        rw [hp]
        exact List.mem_cons_of_mem next hmem
      refine ⟨⟨hmem', hsub⟩, ?_⟩
      have hnodup := h.tracked.pendingNodup
      rw [hp] at hnodup
      have hne : next ≠ orb := fun hne => (List.nodup_cons.mp hnodup).1 (hne ▸ hmem)
      have hle := h.tracked.retries next
        (by rw [h.tracked.pendingOut next (by rw [hp]; exact List.mem_cons_self)]; simp)
      rw [hp, List.idxOf_cons_ne _ hne]
      simp only [work, headWork, FetchAgent.appendImmediate, hin, Bool.false_eq_true, if_false,
        if_true]
      rw [Nat.mul_succ]
      omega

lemma startORBTimeout_line (s : FetchAgent) (orb : ORBKey) : SameLine s (s.startORBTimeout orb) := by
  unfold FetchAgent.startORBTimeout
  split
  · exact ⟨rfl, rfl, rfl, rfl, rfl, rfl⟩
  · split <;> exact ⟨rfl, rfl, rfl, rfl, rfl, rfl⟩

lemma reset_line (s : FetchAgent) (accepted : Bool) : SameLine s (s.reset accepted) := by
  unfold FetchAgent.reset
  split
  · exact ⟨rfl, rfl, rfl, rfl, rfl, rfl⟩
  · split <;> exact ⟨rfl, rfl, rfl, rfl, rfl, rfl⟩

lemma resetNoWait_line (s : FetchAgent) (onComplete : Option ORBCompletion) (accepted : Bool) :
    SameLine s (s.resetNoWait onComplete accepted) := by
  unfold FetchAgent.resetNoWait
  split <;> exact ⟨rfl, rfl, rfl, rfl, rfl, rfl⟩

lemma Consistent.onWriteSucceeded_pays (h : s.Consistent) (hin : s.fetchAgentWriteInUse = false)
    (hdel : ∀ orb, s.activeFetchAgentORB = some orb → s.submission orb ∈ s.delivered)
    {accepted : Bool} (ha : accepted = true ∨ s.pendingImmediateORBs.length ≤ 1) {orb : ORBKey}
    {n : ℕ} (hw : (s.onWriteSucceeded accepted).Waits orb n) :
    s.Waits orb n ∧ (s.onWriteSucceeded accepted).work orb <
      (2 * s.defaultWriteRetries + 2) * s.pendingImmediateORBs.idxOf orb + 1 := by
  have hd := h.deliver hin hdel
  revert hw
  unfold FetchAgent.onWriteSucceeded
  cases hact : s.activeFetchAgentORB with
  | none =>
    dsimp only
    exact hd.writeNext_pays hin rfl ha
  | some active =>
    have hstart := hd.startORBTimeout rfl (h.tracked.activeOut active hact).2
      fun _ => hdel active hact
    have hcomm : FetchAgent.startORBTimeout { s with activeFetchAgentORB := none } active =
        { s.startORBTimeout active with activeFetchAgentORB := none } := by
      unfold FetchAgent.startORBTimeout
      dsimp only
      split
      · rfl
      · split <;> rfl
    have hline := startORBTimeout_line s active
    rw [hcomm] at hstart
    dsimp only
    intro hw
    have hpays := hstart.writeNext_pays (hline.inUse.trans hin) rfl
      (by rw [hline.pending]; exact ha) hw
    obtain ⟨⟨hmem, hsub⟩, hlt⟩ := hpays
    refine ⟨⟨hline.pending ▸ hmem, hline.submission ▸ hsub⟩, ?_⟩
    rw [← hline.pending, ← hline.budget]
    exact hlt

lemma onWriteFailed_pays
    (hbusy : s.activeFetchAgentORB = none → s.pendingImmediateORBs = []) {accepted : Bool}
    {orb : ORBKey} {n : ℕ} (hw : (s.onWriteFailed accepted).Waits orb n) :
    s.Waits orb n ∧ ∃ active, s.activeFetchAgentORB = some active ∧
      (s.onWriteFailed accepted).work orb + 2 ≤
        (2 * s.defaultWriteRetries + 2) * s.pendingImmediateORBs.idxOf orb +
          2 * s.fetchAgentWriteRetries active + if s.fetchAgentWriteInUse then 1 else 2 := by
  revert hw
  unfold FetchAgent.onWriteFailed
  split
  · rename_i hact
    intro hw
    rw [Waits, hbusy hact] at hw
    exact absurd hw.1 List.not_mem_nil
  · rename_i active hact
    split
    · rename_i hpos
      intro hw
      refine ⟨hw, active, hact, ?_⟩
      simp only [work, headWork, hact, Function.update_self]
      split <;> omega
    · intro hw
      exact absurd ((reset_line _ _).pays hw).1 (not_waits_clear orb n)

lemma Inv.writeComplete_pays (h : s.Inv) {w : PointerWrite} (hmem : w ∈ s.writes)
    {success accepted : Bool} (ha : s.Allowed (.writeComplete w.handle success accepted))
    {orb : ORBKey} {n : ℕ}
    (hw : ((s.arrive w success).onFetchAgentWriteComplete w.generation success
      accepted).Waits orb n) :
    s.Waits orb n ∧ (if s.fetchAgentWriteHandle = some w.handle then 1 else 0) +
      ((s.arrive w success).onFetchAgentWriteComplete w.generation success accepted).work orb ≤
        s.work orb := by
  revert hw
  rcases h.completion_cases hmem ha with ⟨hcur, hin, hc, hdel, heq⟩ |
    ⟨hcur, hc, heq | ⟨hin, hcase, heq⟩⟩
  · simp only [Allowed, hcur, if_true] at ha
    rw [heq, if_pos hcur]
    split
    · rename_i hs
      rw [if_pos hs] at ha
      intro hw
      obtain ⟨hwaits, hlt⟩ := hc.onWriteSucceeded_pays rfl (fun orb horb => hdel orb hs horb) ha hw
      have hpos : 1 ≤ s.headWork := by
        unfold headWork
        rw [hin]
        split <;> simp
      refine ⟨hwaits, ?_⟩
      change _ < (2 * s.defaultWriteRetries + 2) * s.pendingImmediateORBs.idxOf orb + 1 at hlt
      unfold work at hlt ⊢
      omega
    · rename_i hs
      rw [if_neg hs] at ha
      intro hw
      obtain ⟨hwaits, active, hact, hle⟩ := onWriteFailed_pays
        (s := s.released w success) (fun hnone => ha.resolve_left fun hne => hne hnone) hw
      refine ⟨hwaits, ?_⟩
      have hact' : s.activeFetchAgentORB = some active := hact
      have hwork : s.work orb = (2 * s.defaultWriteRetries + 2) * s.pendingImmediateORBs.idxOf orb +
          (2 * s.fetchAgentWriteRetries active + 1) := by
        simp [work, headWork, hact', hin]
      change _ + 2 ≤ (2 * s.defaultWriteRetries + 2) * s.pendingImmediateORBs.idxOf orb +
          2 * s.fetchAgentWriteRetries active + 2 at hle
      rw [hwork]
      omega
  · rw [heq, if_neg hcur]
    intro hw
    exact ⟨hw, by simp [work, headWork, FetchAgent.arrive]⟩
  · rw [heq, if_neg hcur]
    split
    · rename_i hs
      have hnone : s.activeFetchAgentORB = none := hcase.resolve_right (by simp [hs])
      have hnil := h.armed.busy hin hnone
      intro hw
      have hlen : (s.arrive w success).pendingImmediateORBs.length ≤ 1 := by
        rw [show (s.arrive w success).pendingImmediateORBs = [] from hnil]
        exact Nat.zero_le _
      have hpays := hc.onWriteSucceeded_pays hin (fun o ho => by
        rw [show s.activeFetchAgentORB = some o from ho] at hnone
        cases hnone) (Or.inr hlen) hw
      have hmem' : orb ∈ s.pendingImmediateORBs := hpays.1.1
      rw [hnil] at hmem'
      cases hmem'
    · intro hw
      obtain ⟨hwaits, active, hact, hle⟩ := onWriteFailed_pays
        (s := s.arrive w success) (fun hnone => h.armed.busy hin hnone) hw
      refine ⟨hwaits, ?_⟩
      have hact' : s.activeFetchAgentORB = some active := hact
      have hwork : s.work orb = (2 * s.defaultWriteRetries + 2) * s.pendingImmediateORBs.idxOf orb +
          (2 * s.fetchAgentWriteRetries active + 2) := by
        simp [work, headWork, hact', hin]
      have hin' : (s.arrive w success).fetchAgentWriteInUse = false := hin
      rw [hin'] at hle
      change _ + 2 ≤ (2 * s.defaultWriteRetries + 2) * s.pendingImmediateORBs.idxOf orb +
          2 * s.fetchAgentWriteRetries active + 2 at hle
      rw [hwork]
      omega

lemma retryTimer_pays {timer : ORBKey} {accepted : Bool}
    (ha : s.Allowed (.retryTimer timer accepted)) (hmem : timer ∈ s.retryTimers) {orb : ORBKey}
    {n : ℕ} (hw : (onRetryTimer { s with retryTimers := s.retryTimers.erase timer } timer
      accepted).Waits orb n) :
    s.Waits orb n ∧ (if s.Serves (.retryTimer timer accepted) then 1 else 0) +
      (onRetryTimer { s with retryTimers := s.retryTimers.erase timer } timer accepted).work orb ≤
        s.work orb := by
  have hline : SameLine s { s with retryTimers := s.retryTimers.erase timer } :=
    ⟨rfl, rfl, rfl, rfl, rfl, rfl⟩
  revert hw
  unfold onRetryTimer
  by_cases hact : s.activeFetchAgentORB = some timer
  · rw [if_pos hact]
    by_cases hin : s.fetchAgentWriteInUse = true
    · have heq : FetchAgent.appendImmediate { s with retryTimers := s.retryTimers.erase timer }
          timer accepted = ({ s with retryTimers := s.retryTimers.erase timer }, false) := by
        simp [FetchAgent.appendImmediate, hin]
      have hnot : ¬ s.Serves (.retryTimer timer accepted) := by
        rintro ⟨hfree, -⟩
        rw [hin] at hfree
        cases hfree
      rw [heq, if_neg hnot, Nat.zero_add]
      exact hline.pays
    · have hfree : s.fetchAgentWriteInUse = false := by simpa using hin
      cases accepted with
      | true =>
        simp only [FetchAgent.appendImmediate, hfree, Bool.false_eq_true, if_false, if_true, Serves,
          hact, hmem, and_self]
        exact fun hw => ⟨hw, by simp [work, headWork, hfree, hact]; omega⟩
      | false =>
        have hnil : s.pendingImmediateORBs = [] := (ha hact hfree).resolve_left Bool.false_ne_true
        intro hw
        simp [FetchAgent.appendImmediate, hfree, Waits, FetchAgent.failORB, FetchAgent.forget,
          hnil] at hw
  · rw [if_neg hact, if_neg fun hserves => hact hserves.2.1, Nat.zero_add]
    exact hline.pays

lemma Inv.submit_pays (h : s.Inv) {new : ORBKey} {timeout : ℕ} {prepared accepted : Bool}
    (ha : s.fetchAgentWriteInUse = true ∨ s.activeFetchAgentORB = none) {orb : ORBKey} {n : ℕ}
    (hn : n < s.submissions) (hw : (s.submit new timeout prepared accepted).1.Waits orb n) :
    s.Waits orb n ∧ (s.submit new timeout prepared accepted).1.work orb ≤ s.work orb := by
  revert hw
  unfold FetchAgent.submit
  split
  · exact fun hw => ⟨hw, le_rfl⟩
  · rename_i hno
    push Not at hno
    dsimp only
    split
    · rintro ⟨hmem, hsub⟩
      dsimp only at hmem hsub
      have hout : s.outstandingORBs new = none := by
        have happ := hno.2.1
        rw [h.consistent.tracked.appended] at happ
        simpa using happ
      have hne : orb ≠ new := by
        rintro rfl
        rw [Function.update_self] at hsub
        omega
      have hold : orb ∈ s.pendingImmediateORBs := by simpa [hne] using hmem
      rw [Function.update_of_ne hne] at hsub
      refine ⟨⟨hold, hsub⟩, ?_⟩
      simp only [work, headWork, List.idxOf_append_of_mem hold]
      split
      · exact le_rfl
      · rename_i active hact
        have hother : active ≠ new := by
          rintro rfl
          rw [(h.consistent.tracked.activeOut active hact).1] at hout
          cases hout
        rw [Function.update_of_ne hother]
    · rename_i hin
      have hfree : s.fetchAgentWriteInUse = false := by simpa using hin
      have hnil := h.armed.busy hfree (ha.resolve_left hin)
      intro hw
      have hmem := hw.1
      cases accepted with
      | true => simp [FetchAgent.appendImmediate, hfree, hnil] at hmem
      | false =>
        simp [FetchAgent.appendImmediate, hfree, hnil, FetchAgent.failORB, FetchAgent.forget]
          at hmem

lemma Inv.statusBlock_pays {status : ORBKey} {sbpStatus : ℕ} {dead accepted : Bool}
    (ha : s.Allowed (.statusBlock status sbpStatus dead accepted)) {orb : ORBKey} {n : ℕ}
    (hw : (s.onStatusBlock status sbpStatus dead accepted).1.Waits orb n) :
    s.Waits orb n ∧ (s.onStatusBlock status sbpStatus dead accepted).1.work orb ≤ s.work orb := by
  have hforget : (s.forget status).Waits orb n →
      s.Waits orb n ∧ (s.forget status).work orb ≤ s.work orb := by
    intro hw
    by_cases hact : s.activeFetchAgentORB = some status
    · refine ⟨hw, ?_⟩
      simp only [work, FetchAgent.forget, headWork, if_pos hact]
      rcases ha.2 hact with hin | hnil
      · simp [hin, hact]
      · have hmem : orb ∈ s.pendingImmediateORBs := hw.1
        rw [hnil] at hmem
        cases hmem
    · have hline : SameLine s (s.forget status) := ⟨rfl, if_neg hact, rfl, rfl, rfl, rfl⟩
      exact hline.pays hw
  revert hw
  unfold FetchAgent.onStatusBlock
  split
  · exact fun hw => ⟨hw, le_rfl⟩
  · dsimp only
    split
    · intro hw
      obtain ⟨hwaits, hle⟩ := (resetNoWait_line _ _ _).pays hw
      exact ⟨(hforget hwaits).1, hle.trans (hforget hwaits).2⟩
    · exact hforget

lemma Inv.orbTimeout_pays (h : s.Inv) {t : ℕ × ORBKey} (hmem : t ∈ s.timeouts) {accepted : Bool}
    {orb : ORBKey} {n : ℕ}
    (hw : (onORBTimeout { s with timeouts := s.timeouts.filter fun u => u.1 ≠ t.1 } t.2
      accepted).Waits orb n) :
    s.Waits orb n ∧ (onORBTimeout { s with timeouts := s.timeouts.filter fun u => u.1 ≠ t.1 } t.2
      accepted).work orb ≤ s.work orb := by
  obtain ⟨hpend, hact⟩ := h.consistent.tracked.timed_elsewhere hmem
  have hfilter : s.pendingImmediateORBs.filter (· ≠ t.2) = s.pendingImmediateORBs := by
    rw [List.filter_eq_self]
    intro o ho
    simpa using fun hoe : o = t.2 => hpend (hoe ▸ ho)
  have hline : SameLine s (onORBTimeout
      { s with timeouts := s.timeouts.filter fun u => u.1 ≠ t.1 } t.2 accepted) := by
    unfold onORBTimeout
    split
    · exact ⟨rfl, rfl, rfl, rfl, rfl, rfl⟩
    · unfold FetchAgent.resetNoWait
      split <;> exact ⟨hfilter, if_neg hact, rfl, rfl, rfl, rfl⟩
  exact hline.pays hw

lemma Inv.step_pays (h : s.Inv) {event : Event} (ha : s.Allowed event) {orb : ORBKey} {n : ℕ}
    (hn : n < s.submissions) (hw : (s.step event).Waits orb n) :
    s.Waits orb n ∧ (if s.Serves event then 1 else 0) + (s.step event).work orb ≤ s.work orb := by
  cases event with
  | bind generation => exact absurd hw (not_waits_clear orb n)
  | unbind => exact absurd hw (not_waits_clear orb n)
  | submit new timeout prepared accepted =>
    have hno : ¬ s.Serves (.submit new timeout prepared accepted) := id
    rw [if_neg hno, Nat.zero_add]
    exact h.submit_pays ha hn hw
  | writeComplete handle success accepted =>
    revert hw
    simp only [FetchAgent.step]
    split
    · rename_i hfind
      have hno : ¬ s.Serves (.writeComplete handle success accepted) := by
        intro hserves
        obtain ⟨w, hlive, hhandle, -⟩ := h.consistent.wired.inUse (by
          by_contra hin
          rw [Serves, h.consistent.wired.handle (by simpa using hin)] at hserves
          cases hserves)
        have hwl : w ∈ s.live := by
          rw [hlive]
          exact List.mem_singleton_self w
        rw [Serves, hhandle, Option.some.injEq] at hserves
        have hnone := List.find?_eq_none.mp hfind w (List.mem_filter.mp hwl).1
        exact hnone (by simpa using hserves)
      rw [if_neg hno, Nat.zero_add]
      exact fun hw => ⟨hw, le_rfl⟩
    · rename_i w hfind
      have hmem := List.mem_of_find?_eq_some hfind
      have hhandle := List.find?_some hfind
      simp only [decide_eq_true_eq] at hhandle
      subst hhandle
      exact h.writeComplete_pays hmem ha
  | retryTimer timer accepted =>
    revert hw
    simp only [FetchAgent.step]
    by_cases hmem : timer ∈ s.retryTimers
    · rw [if_pos hmem]
      exact retryTimer_pays ha hmem
    · have hno : ¬ s.Serves (.retryTimer timer accepted) := fun hserves => hmem hserves.2.2
      rw [if_neg hmem, if_neg hno, Nat.zero_add]
      exact fun hw => ⟨hw, le_rfl⟩
  | statusBlock status sbpStatus dead accepted =>
    have hno : ¬ s.Serves (.statusBlock status sbpStatus dead accepted) := id
    rw [if_neg hno, Nat.zero_add]
    exact Inv.statusBlock_pays ha hw
  | orbTimeout token accepted =>
    have hno : ¬ s.Serves (.orbTimeout token accepted) := id
    rw [if_neg hno, Nat.zero_add]
    revert hw
    simp only [FetchAgent.step]
    split
    · exact fun hw => ⟨hw, le_rfl⟩
    · rename_i t hfind
      have hmem := List.mem_of_find?_eq_some hfind
      have htoken := List.find?_some hfind
      simp only [decide_eq_true_eq] at htoken
      subst htoken
      exact h.orbTimeout_pays hmem
  | reset accepted =>
    have hno : ¬ s.Serves (.reset accepted) := id
    rw [if_neg hno, Nat.zero_add]
    exact (reset_line s accepted).pays hw
  | resetComplete index =>
    have hno : ¬ s.Serves (.resetComplete index) := id
    rw [if_neg hno, Nat.zero_add]
    revert hw
    simp only [FetchAgent.step]
    split
    · exact fun hw => ⟨hw, le_rfl⟩
    · unfold FetchAgent.onAgentResetComplete
      split
      · have hline : SameLine s { s with resetWrites := s.resetWrites.eraseIdx index } :=
          ⟨rfl, rfl, rfl, rfl, rfl, rfl⟩
        exact hline.pays
      · exact fun hw => absurd hw (not_waits_clear orb n)
  | noWaitComplete index =>
    have hno : ¬ s.Serves (.noWaitComplete index) := id
    rw [if_neg hno, Nat.zero_add]
    revert hw
    simp only [FetchAgent.step]
    split
    · exact fun hw => ⟨hw, le_rfl⟩
    · have hline : ∀ completed noWaitResets, SameLine s
          { s with noWaitResets := noWaitResets, completed := completed } :=
        fun _ _ => ⟨rfl, rfl, rfl, rfl, rfl, rfl⟩
      exact (hline _ _).pays

lemma submissions_failPendingImmediate (s : FetchAgent) (transportStatus : ℤ) (sbpStatus : ℕ) :
    (s.failPendingImmediate transportStatus sbpStatus).submissions = s.submissions := by
  have hall : ∀ (l : List ORBKey) (s : FetchAgent),
      (l.foldl (fun s orb => s.failORB orb transportStatus sbpStatus) s).submissions =
        s.submissions := by
    intro l
    induction l with
    | nil => exact fun _ => rfl
    | cons orb l ih => exact fun s => ih _
  exact hall _ s

lemma submissions_appendImmediate (s : FetchAgent) (orb : ORBKey) (accepted : Bool) :
    (s.appendImmediate orb accepted).1.submissions = s.submissions := by
  unfold FetchAgent.appendImmediate
  split
  · rfl
  · split <;> rfl

lemma submissions_reset (s : FetchAgent) (accepted : Bool) :
    (s.reset accepted).submissions = s.submissions := by
  unfold FetchAgent.reset
  split
  · rfl
  · split <;> rfl

lemma submissions_onWriteFailed (s : FetchAgent) (accepted : Bool) :
    (s.onWriteFailed accepted).submissions = s.submissions := by
  unfold FetchAgent.onWriteFailed
  split
  · rfl
  · split
    · rfl
    · rw [submissions_reset]
      exact submissions_failPendingImmediate _ _ _

lemma submissions_onWriteSucceeded (s : FetchAgent) (accepted : Bool) :
    (s.onWriteSucceeded accepted).submissions = s.submissions := by
  have hstart : ∀ orb, (s.startORBTimeout orb).submissions = s.submissions := by
    intro orb
    unfold FetchAgent.startORBTimeout
    split
    · rfl
    · split <;> rfl
  have hnext : ∀ s : FetchAgent, (s.writeNext accepted).submissions = s.submissions := by
    intro s
    unfold FetchAgent.writeNext
    split
    · rfl
    · exact submissions_appendImmediate _ _ _
  unfold FetchAgent.onWriteSucceeded
  rw [hnext]
  dsimp only
  split
  · rfl
  · exact hstart _

/-- Submissions are only ever added. -/
lemma submissions_step (s : FetchAgent) (event : Event) :
    s.submissions ≤ (s.step event).submissions := by
  cases event with
  | submit orb timeout prepared accepted =>
    simp only [FetchAgent.step, FetchAgent.submit]
    split
    · exact le_rfl
    · split
      · exact Nat.le_succ _
      · rw [submissions_appendImmediate]
        exact Nat.le_succ _
  | writeComplete handle success accepted =>
    simp only [FetchAgent.step, FetchAgent.onFetchAgentWriteComplete]
    split
    · exact le_rfl
    · split
      · exact le_rfl
      · split
        · rw [submissions_onWriteSucceeded]
        · rw [submissions_onWriteFailed]
  | retryTimer orb accepted =>
    simp only [FetchAgent.step, onRetryTimer]
    split
    · split
      · rw [submissions_appendImmediate]
      · exact le_rfl
    · exact le_rfl
  | statusBlock orb sbpStatus dead accepted =>
    simp only [FetchAgent.step, FetchAgent.onStatusBlock, FetchAgent.resetNoWait]
    split
    · exact le_rfl
    · split
      · split <;> exact le_rfl
      · exact le_rfl
  | orbTimeout token accepted =>
    simp only [FetchAgent.step, onORBTimeout, FetchAgent.resetNoWait]
    split
    · exact le_rfl
    · split
      · exact le_rfl
      · split <;> exact le_rfl
  | reset accepted => exact (submissions_reset s accepted).ge
  | resetComplete index =>
    simp only [FetchAgent.step, FetchAgent.onAgentResetComplete]
    split
    · exact le_rfl
    · split <;> exact le_rfl
  | noWaitComplete index =>
    simp only [FetchAgent.step]
    split <;> exact le_rfl
  | _ => exact le_rfl

/-! ### What ends the waiting -/

/-- The events that drop every ORB. -/
def Event.Drops : Event → Prop
  | .bind _ | .unbind | .resetComplete _ => True
  | _ => False

/-- The submission has been written, or its callback has run. -/
def Settled (s : FetchAgent) (n : ℕ) : Prop :=
  n ∈ s.issued ∨ ∃ c ∈ s.completed, c.submission = n

lemma completed_failPendingImmediate (s : FetchAgent) (transportStatus : ℤ) (sbpStatus : ℕ) :
    ∀ orb ∈ s.pendingImmediateORBs,
      ∃ c ∈ (s.failPendingImmediate transportStatus sbpStatus).completed,
        c.submission = s.submission orb := by
  have hall : ∀ (l : List ORBKey) (s : FetchAgent),
      (∀ c ∈ s.completed,
        c ∈ (l.foldl (fun s orb => s.failORB orb transportStatus sbpStatus) s).completed) ∧
      ∀ orb ∈ l, ∃ c ∈ (l.foldl (fun s orb => s.failORB orb transportStatus sbpStatus) s).completed,
        c.submission = s.submission orb := by
    intro l
    induction l with
    | nil => exact fun s => ⟨fun c hc => hc, by simp⟩
    | cons o l ih =>
      intro s
      obtain ⟨hkeep, hmem⟩ := ih (s.failORB o transportStatus sbpStatus)
      refine ⟨fun c hc => hkeep c (List.mem_cons_of_mem _ hc), fun orb horb => ?_⟩
      rcases List.mem_cons.mp horb with rfl | horb
      · exact ⟨_, hkeep _ List.mem_cons_self, rfl⟩
      · exact hmem orb horb
  exact (hall _ s).2

lemma writeNext_settles (hin : s.fetchAgentWriteInUse = false) {orb : ORBKey} {n : ℕ}
    (hw : s.Waits orb n) {accepted : Bool}
    (ha : accepted = true ∨ s.pendingImmediateORBs.length ≤ 1) :
    (s.writeNext accepted).Waits orb n ∨ (s.writeNext accepted).Settled n := by
  obtain ⟨hmem, hsub⟩ := hw
  unfold FetchAgent.writeNext
  split
  · rename_i hp
    rw [hp] at hmem
    cases hmem
  · rename_i next rest hp
    rw [hp] at hmem
    rcases List.mem_cons.mp hmem with rfl | hmem
    · apply Or.inr
      cases accepted with
      | true => simp [Settled, FetchAgent.appendImmediate, hin, hsub]
      | false => simp [Settled, FetchAgent.appendImmediate, hin, FetchAgent.failORB, hsub]
    · cases accepted with
      | true => exact Or.inl (by simp [Waits, FetchAgent.appendImmediate, hin, hmem, hsub])
      | false =>
        have hrest : rest = [] := by simpa [hp] using ha
        rw [hrest] at hmem
        cases hmem

lemma onWriteSucceeded_settles (hin : s.fetchAgentWriteInUse = false) {orb : ORBKey} {n : ℕ}
    (hw : s.Waits orb n) {accepted : Bool}
    (ha : accepted = true ∨ s.pendingImmediateORBs.length ≤ 1) :
    (s.onWriteSucceeded accepted).Waits orb n ∨ (s.onWriteSucceeded accepted).Settled n := by
  unfold FetchAgent.onWriteSucceeded
  dsimp only
  split
  · exact writeNext_settles (s := { s with activeFetchAgentORB := none }) hin hw ha
  · rename_i active _
    have hline := startORBTimeout_line s active
    have hw' : Waits orb n { s.startORBTimeout active with activeFetchAgentORB := none } :=
      ⟨hline.pending ▸ hw.1, hline.submission ▸ hw.2⟩
    exact writeNext_settles (s := { s.startORBTimeout active with activeFetchAgentORB := none })
      (hline.inUse.trans hin) hw' (by
      rw [hline.pending]
      exact ha)

lemma onWriteFailed_settles {orb : ORBKey} {n : ℕ} (hw : s.Waits orb n)
    (hact : ∀ active, s.activeFetchAgentORB = some active → orb ≠ active) (accepted : Bool) :
    (s.onWriteFailed accepted).Waits orb n ∨ (s.onWriteFailed accepted).Settled n := by
  unfold FetchAgent.onWriteFailed
  split
  · exact Or.inl hw
  · rename_i active hactive
    split
    · exact Or.inl hw
    · apply Or.inr
      apply Or.inr
      have hreset : ∀ s : FetchAgent, (s.reset accepted).completed = s.completed := by
        intro s
        unfold FetchAgent.reset
        split
        · rfl
        · split <;> rfl
      have hmem : orb ∈ (s.failORB active (-1) kUnspecifiedError).pendingImmediateORBs :=
        List.mem_filter.mpr ⟨hw.1, by simpa using hact active hactive⟩
      obtain ⟨c, hc, hsub⟩ := completed_failPendingImmediate _ (-1) kUnspecifiedError orb hmem
      rw [hreset]
      exact ⟨c, hc, hsub.trans hw.2⟩

lemma Inv.step_settles (h : s.Inv) {event : Event} (ha : s.Allowed event) {orb : ORBKey} {n : ℕ}
    (hw : s.Waits orb n) :
    (s.step event).Waits orb n ∨ (s.step event).Settled n ∨ event.Drops := by
  have hpending : s.pendingImmediateORBs ≠ [] := List.ne_nil_of_mem hw.1
  have hout : s.outstandingORBs orb ≠ none := by
    rw [h.consistent.tracked.pendingOut orb hw.1]
    nofun
  cases event with
  | bind generation => exact Or.inr (Or.inr trivial)
  | unbind => exact Or.inr (Or.inr trivial)
  | resetComplete index => exact Or.inr (Or.inr trivial)
  | submit new timeout prepared accepted =>
    simp only [FetchAgent.step, FetchAgent.submit]
    split
    · exact Or.inl hw
    · rename_i hno
      push Not at hno
      have hne : orb ≠ new := by
        rintro rfl
        have happ := hno.2.1
        rw [h.consistent.tracked.appended] at happ
        exact hout (by simpa using happ)
      split
      · apply Or.inl
        exact ⟨List.mem_append_left _ hw.1, by simpa [hne] using hw.2⟩
      · rename_i hin
        exact absurd (h.armed.busy (by simpa using hin) (ha.resolve_left hin)) hpending
  | writeComplete handle success accepted =>
    simp only [FetchAgent.step]
    split
    · exact Or.inl hw
    · rename_i w hfind
      have hmem := List.mem_of_find?_eq_some hfind
      have hhandle := List.find?_some hfind
      simp only [decide_eq_true_eq] at hhandle
      subst hhandle
      have hactive : ∀ active, s.activeFetchAgentORB = some active → orb ≠ active := by
        rintro active hact rfl
        exact (h.consistent.tracked.activeOut orb hact).2 hw.1
      suffices hsettles : _ ∨ _ by
        rcases hsettles with hw' | hs
        · exact Or.inl hw'
        · exact Or.inr (Or.inl hs)
      change ((s.arrive w success).onFetchAgentWriteComplete w.generation success accepted).Waits
          orb n ∨ ((s.arrive w success).onFetchAgentWriteComplete w.generation success
            accepted).Settled n
      rcases h.completion_cases hmem ha with ⟨hcur, -, -, -, heq⟩ | ⟨-, -, heq | ⟨hin, hcase, heq⟩⟩
      · simp only [Allowed, hcur, if_true] at ha
        rw [heq]
        split
        · rename_i hs
          rw [if_pos hs] at ha
          exact onWriteSucceeded_settles (s := s.released w success) rfl hw ha
        · exact onWriteFailed_settles (s := s.released w success) hw hactive accepted
      · rw [heq]
        exact Or.inl hw
      · rw [heq]
        split
        · rename_i hs
          have hnone := hcase.resolve_right (by simp [hs])
          exact absurd (h.armed.busy hin hnone) hpending
        · exact onWriteFailed_settles (s := s.arrive w success) hw hactive accepted
  | retryTimer timer accepted =>
    simp only [FetchAgent.step, onRetryTimer]
    split
    · split
      · rename_i hact
        unfold FetchAgent.appendImmediate
        split
        · exact Or.inl hw
        · rename_i hin
          have hacc := (ha hact (by simpa using hin)).resolve_right hpending
          rw [if_pos hacc]
          exact Or.inl hw
      · exact Or.inl hw
    · exact Or.inl hw
  | statusBlock status sbpStatus dead accepted =>
    simp only [FetchAgent.step, FetchAgent.onStatusBlock, FetchAgent.resetNoWait]
    split
    · exact Or.inl hw
    · split
      · split <;> exact Or.inl hw
      · exact Or.inl hw
  | orbTimeout token accepted =>
    simp only [FetchAgent.step]
    split
    · exact Or.inl hw
    · rename_i t hfind
      have hmem := List.mem_of_find?_eq_some hfind
      have hne : orb ≠ t.2 := by
        rintro rfl
        exact (h.consistent.tracked.timed_elsewhere hmem).1 hw.1
      apply Or.inl
      unfold onORBTimeout FetchAgent.resetNoWait
      split
      · exact hw
      · split <;> exact ⟨List.mem_filter.mpr ⟨hw.1, by simpa using hne⟩, hw.2⟩
  | reset accepted =>
    simp only [FetchAgent.step, FetchAgent.reset]
    split
    · exact Or.inl hw
    · split <;> exact Or.inl hw
  | noWaitComplete index =>
    simp only [FetchAgent.step]
    split <;> exact Or.inl hw

/-! ### Every run -/

/-- What is promised of the agent in every state. -/
structure Sound (s : FetchAgent) : Prop where
  inUse : s.live.length = if s.fetchAgentWriteInUse then 1 else 0
  places : ∀ orb, s.outstandingORBs orb ≠ none →
    (s.activeFetchAgentORB = some orb ∧
      ((∃ w ∈ s.live, w.submission = s.submission orb) ∨ orb ∈ s.retryTimers)) ∨
    s.pendingImmediateORBs.count orb = 1 ∨ s.submission orb ∈ s.delivered
  issuedInOrder : s.issued.Pairwise (· ≥ ·)
  pendingInOrder : (s.pendingImmediateORBs.map s.submission).Pairwise (· < ·) ∧
    ∀ orb ∈ s.pendingImmediateORBs, ∀ n ∈ s.issued, n < s.submission orb
  activeLast : ∀ orb, s.activeFetchAgentORB = some orb → s.issued.head? = some (s.submission orb)
  waiting : s.pendingImmediateORBs ≠ [] →
    s.live ≠ [] ∨ ∃ orb, s.activeFetchAgentORB = some orb ∧ orb ∈ s.retryTimers
  uncompleted : ∀ orb, s.outstandingORBs orb ≠ none ∨ orb ∈ s.pendingImmediateORBs ∨
    s.activeFetchAgentORB = some orb → ∀ c ∈ s.completed, c.submission ≠ s.submission orb

lemma Inv.sound (h : s.Inv) : s.Sound := by
  obtain ⟨⟨ht, hn, hw⟩, harm⟩ := h
  have hlength : s.live.length = if s.fetchAgentWriteInUse then 1 else 0 := by
    split
    · rename_i hin
      obtain ⟨w, hlive, -⟩ := hw.inUse hin
      rw [hlive]
      rfl
    · rename_i hin
      rw [hw.free (by simpa using hin)]
      rfl
  refine ⟨hlength, fun orb horb => ?_, hn.issuedSorted, ⟨hn.pendingSorted, hn.pendingAfter⟩,
    harm.activeLast, fun hne => ?_, fun orb horb => ?_⟩
  · rcases ht.placed orb horb with hact | hpend | hdel
    · refine Or.inl ⟨hact, ?_⟩
      by_cases hin : s.fetchAgentWriteInUse = true
      · obtain ⟨w, hlive, -, -, hown⟩ := hw.inUse hin
        exact Or.inl ⟨w, by rw [hlive]; exact List.mem_singleton_self w, (hown orb hact).2⟩
      · exact Or.inr (harm.retry (by simpa using hin) orb hact)
    · exact Or.inr (Or.inl (List.count_eq_one_of_mem ht.pendingNodup hpend))
    · exact Or.inr (Or.inr hdel)
  · by_cases hin : s.fetchAgentWriteInUse = true
    · obtain ⟨w, hlive, -⟩ := hw.inUse hin
      rw [hlive]
      exact Or.inl (List.cons_ne_nil w [])
    · have hfree : s.fetchAgentWriteInUse = false := by simpa using hin
      apply Or.inr
      cases hact : s.activeFetchAgentORB with
      | none => exact absurd (harm.busy hfree hact) hne
      | some orb => exact ⟨orb, rfl, harm.retry hfree orb hact⟩
  · have hout : s.outstandingORBs orb ≠ none := by
      rcases horb with hout | hpend | hact
      · exact hout
      · rw [ht.pendingOut orb hpend]
        nofun
      · rw [(ht.activeOut orb hact).1]
        nofun
    exact fun c hc => (hn.completed c hc).2 orb hout

/-- In every run without the events the agent cannot cope with, its bookkeeping is sound; an ORB
stops waiting only to be written, to be failed, or because everything is dropped; and while it
waits, only so many writes complete and retries fire. -/
theorem run_sound (retries : ℕ) (events : List Event)
    (h : Meets step Allowed (start retries) events) :
    (run step (start retries) events).Sound ∧
    (∀ event, (run step (start retries) events).Allowed event →
      ∀ orb ∈ (run step (start retries) events).pendingImmediateORBs,
        (run step (start retries) (events ++ [event])).Waits orb
            ((run step (start retries) events).submission orb) ∨
          (run step (start retries) (events ++ [event])).Settled
            ((run step (start retries) events).submission orb) ∨ event.Drops) ∧
    ∀ more, Meets step Allowed (run step (start retries) events) more →
      ∀ orb ∈ (run step (start retries) events).pendingImmediateORBs,
        (run step (run step (start retries) events) more).Waits orb
          ((run step (start retries) events).submission orb) →
        occurrences step Serves (run step (start retries) events) more ≤
          (run step (start retries) events).work orb := by
  have hinv := invariant_run_of_meets (I := Inv) (fun s e hs he => hs.step he) (inv_start retries) h
  refine ⟨hinv.sound, fun event he orb horb => ?_, fun more hmore orb horb hwaits => ?_⟩
  · rw [run_append]
    exact hinv.step_settles he ⟨horb, rfl⟩
  generalize run step (start retries) events = s at *
  have hout : s.outstandingORBs orb ≠ none := by
    rw [hinv.consistent.tracked.pendingOut orb horb]
    nofun
  have hn := hinv.consistent.numbered.current orb hout
  have hkeep : ∀ s' e, s'.Inv ∧ s.submission orb < s'.submissions → s'.Allowed e →
      (step s' e).Inv ∧ s.submission orb < (step s' e).submissions :=
    fun s' e hs he => ⟨hs.1.step he, hs.2.trans_le (submissions_step s' e)⟩
  have hpays : ∀ s' e, s'.Inv ∧ s.submission orb < s'.submissions → s'.Allowed e →
      (step s' e).Waits orb (s.submission orb) → s'.Waits orb (s.submission orb) ∧
        (if s'.Serves e then 1 else 0) + (step s' e).work orb ≤ s'.work orb :=
    fun s' e hs he hw => hs.1.step_pays he hs.2 hw
  exact (occurrences_le (fun s' => s'.work orb) hkeep hpays ⟨hinv, hn⟩ hmore hwaits).2

instance (s : FetchAgent) (event : Event) : Decidable (s.Allowed event) := by
  cases event <;> unfold Allowed <;> infer_instance

/-- Two submissions; the first ORB's status arrives while the second one is being written. -/
def servedRun : List Event :=
  [.bind 1, .submit 1 500 true true, .submit 2 500 true true, .writeComplete 1 true true,
    .statusBlock 1 0 false true]

theorem run_sound_served : (run step (start 20) servedRun).Sound ∧
    (run step (start 20) servedRun).activeFetchAgentORB = some 2 :=
  ⟨(run_sound 20 servedRun (by decide)).1, rfl⟩

/-- The bus refuses the second of three pointer writes. -/
def refusedRun : List Event :=
  [.bind 1, .submit 1 500 true true, .submit 2 500 true true, .submit 3 500 true true,
    .writeComplete 1 true false]

/-- The third ORB waits for nothing. -/
theorem not_run_sound : ¬ ∀ retries events, (run step (start retries) events).Sound := by
  intro h
  have hwaiting := (h 20 refusedRun).waiting (by decide)
  rcases hwaiting with hlive | ⟨orb, hact, -⟩
  · exact hlive (by decide)
  · exact absurd hact nofun

end ASFireWire.SBP2.FetchAgent
