import ASFireWire.FetchAgent

/-! What the fetch agent's bookkeeping says: which ORBs it tracks, where each of them is, and when a
pointer write is on its way. -/
namespace ASFireWire.SBP2.FetchAgent

/-- The pointer writes issued in the current binding, neither completed nor cancelled. -/
def live (s : FetchAgent) : List PointerWrite :=
  s.writes.filter fun w => w.binding = s.binding ∧ w.cancelled = false

/-! ### The ORBs -/

/-- What holds of the tracked ORBs also between the parts of one event. -/
structure Tracked (s : FetchAgent) : Prop where
  unbound : s.bound = false → s.fetchAgentWriteInUse = false ∧ ∀ orb, s.outstandingORBs orb = none
  appended : ∀ orb, s.isAppended orb = (s.outstandingORBs orb).isSome
  pendingNodup : s.pendingImmediateORBs.Nodup
  pendingOut : ∀ orb ∈ s.pendingImmediateORBs, s.outstandingORBs orb = some 0
  activeOut : ∀ orb, s.activeFetchAgentORB = some orb →
    s.outstandingORBs orb = some 0 ∧ orb ∉ s.pendingImmediateORBs
  placed : ∀ orb, s.outstandingORBs orb ≠ none →
    s.activeFetchAgentORB = some orb ∨ orb ∈ s.pendingImmediateORBs ∨
      s.submission orb ∈ s.delivered
  timers : ∀ t ∈ s.timeouts, 0 < t.1 ∧ s.outstandingORBs t.2 = some t.1
  tokens : 0 < s.nextToken
  retries : ∀ orb, s.outstandingORBs orb ≠ none →
    s.fetchAgentWriteRetries orb ≤ s.defaultWriteRetries

/-- Submissions are numbered, and a callback that has run or waits for a reset is not that of a
tracked ORB. -/
structure Numbered (s : FetchAgent) : Prop where
  current : ∀ orb, s.outstandingORBs orb ≠ none → s.submission orb < s.submissions
  injective : ∀ orb orb', s.outstandingORBs orb ≠ none → s.outstandingORBs orb' ≠ none →
    s.submission orb = s.submission orb' → orb = orb'
  completed : ∀ c ∈ s.completed, c.submission < s.submissions ∧
    ∀ orb, s.outstandingORBs orb ≠ none → c.submission ≠ s.submission orb
  deferred : ∀ c, some c ∈ s.noWaitResets → c.submission < s.submissions ∧
    ∀ orb, s.outstandingORBs orb ≠ none → c.submission ≠ s.submission orb
  issued : ∀ n ∈ s.issued, n < s.submissions
  issuedSorted : s.issued.Pairwise (· ≥ ·)
  pendingSorted : (s.pendingImmediateORBs.map s.submission).Pairwise (· < ·)
  pendingAfter : ∀ orb ∈ s.pendingImmediateORBs, ∀ n ∈ s.issued, n < s.submission orb

/-! ### The writes -/

structure Wired (s : FetchAgent) : Prop where
  handles : (s.writes.map PointerWrite.handle).Nodup
  fresh : ∀ w ∈ s.writes, w.handle < s.nextHandle ∧ w.binding ≤ s.binding
  inUse : s.fetchAgentWriteInUse = true →
    ∃ w, s.live = [w] ∧ s.fetchAgentWriteHandle = some w.handle ∧ w.generation = s.generation ∧
      ∀ orb, s.activeFetchAgentORB = some orb → w.orb = orb ∧ w.submission = s.submission orb
  free : s.fetchAgentWriteInUse = false → s.live = []
  handle : s.fetchAgentWriteInUse = false → s.fetchAgentWriteHandle = none

/-- Work is waiting only where a completion or a timer will take it up. -/
structure Armed (s : FetchAgent) : Prop where
  retry : s.fetchAgentWriteInUse = false → ∀ orb, s.activeFetchAgentORB = some orb →
    orb ∈ s.retryTimers
  activeLast : ∀ orb, s.activeFetchAgentORB = some orb → s.issued.head? = some (s.submission orb)
  busy : s.fetchAgentWriteInUse = false → s.activeFetchAgentORB = none →
    s.pendingImmediateORBs = []

structure Consistent (s : FetchAgent) : Prop where
  tracked : s.Tracked
  numbered : s.Numbered
  wired : s.Wired

structure Inv (s : FetchAgent) : Prop where
  consistent : s.Consistent
  armed : s.Armed

/-- An agent with a retry budget of its own. -/
def start (retries : ℕ) : FetchAgent := { defaultWriteRetries := retries }

lemma inv_start (retries : ℕ) : (start retries).Inv := by
  unfold start
  refine ⟨⟨?_, ?_, ?_⟩, ?_⟩
  · constructor <;> simp
  · constructor <;> simp
  · constructor <;> simp [FetchAgent.live]
  · constructor <;> simp

variable {s : FetchAgent}

/-- Timers and resets of the agent count for nothing but themselves. -/
lemma Consistent.frame (h : s.Consistent) (retryTimers : List ORBKey) (resetWrites : List ℕ)
    (agentResetInProgress : Bool) (timeouts : List (ℕ × ORBKey))
    (htimeouts : ∀ t ∈ timeouts, t ∈ s.timeouts) :
    Consistent { s with
      retryTimers := retryTimers
      resetWrites := resetWrites
      agentResetInProgress := agentResetInProgress
      timeouts := timeouts } := by
  obtain ⟨ht, hn, hw⟩ := h
  exact ⟨⟨ht.unbound, ht.appended, ht.pendingNodup, ht.pendingOut, ht.activeOut, ht.placed,
    fun t hmem => ht.timers t (htimeouts t hmem), ht.tokens, ht.retries⟩, ⟨hn.current,
    hn.injective, hn.completed, hn.deferred, hn.issued, hn.issuedSorted, hn.pendingSorted,
    hn.pendingAfter⟩, ⟨hw.handles, hw.fresh, hw.inUse, hw.free, hw.handle⟩⟩

/-- Callbacks that run or come to wait for a reset belong to no tracked ORB. -/
lemma Consistent.call (h : s.Consistent) {completed : List ORBCompletion}
    {noWaitResets : List (Option ORBCompletion)}
    (hcalls : ∀ c, c ∈ completed ∨ some c ∈ noWaitResets → c ∈ s.completed ∨
      some c ∈ s.noWaitResets ∨ (c.submission < s.submissions ∧
        ∀ orb, s.outstandingORBs orb ≠ none → c.submission ≠ s.submission orb)) :
    Consistent { s with completed := completed, noWaitResets := noWaitResets } := by
  obtain ⟨ht, hn, hw⟩ := h
  have hall : ∀ c, c ∈ completed ∨ some c ∈ noWaitResets → c.submission < s.submissions ∧
      ∀ orb, s.outstandingORBs orb ≠ none → c.submission ≠ s.submission orb := by
    intro c hc
    rcases hcalls c hc with hold | hold | hnew
    · exact hn.completed c hold
    · exact hn.deferred c hold
    · exact hnew
  exact ⟨⟨ht.unbound, ht.appended, ht.pendingNodup, ht.pendingOut, ht.activeOut, ht.placed,
    ht.timers, ht.tokens, ht.retries⟩, ⟨hn.current, hn.injective, fun c hc => hall c (Or.inl hc),
    fun c hc => hall c (Or.inr hc), hn.issued, hn.issuedSorted, hn.pendingSorted,
    hn.pendingAfter⟩, ⟨hw.handles, hw.fresh, hw.inUse, hw.free, hw.handle⟩⟩

/-! ### Clearing -/

lemma live_clear (h : s.Wired) : s.clear.live = [] := by
  unfold FetchAgent.live FetchAgent.clear
  dsimp only
  by_cases hin : s.fetchAgentWriteInUse = true
  · rw [if_pos hin]
    obtain ⟨w, hw, hhandle, -⟩ := h.inUse hin
    rw [List.filter_eq_nil_iff]
    intro w' hmem
    obtain ⟨v, hv, rfl⟩ := List.mem_map.mp hmem
    by_cases hsame : s.fetchAgentWriteHandle = some v.handle
    · simp [hsame]
    · rw [if_neg hsame]
      intro hlv
      have hvlive : v ∈ s.live := List.mem_filter.mpr ⟨hv, hlv⟩
      rw [hw, List.mem_singleton] at hvlive
      exact hsame (by rw [hvlive, hhandle])
  · rw [if_neg hin]
    exact h.free (by simpa using hin)

lemma clear_writes (s : FetchAgent) :
    s.clear.writes.map PointerWrite.handle = s.writes.map PointerWrite.handle ∧
      ∀ w ∈ s.clear.writes, ∃ w' ∈ s.writes, w.handle = w'.handle ∧ w.binding = w'.binding := by
  unfold FetchAgent.clear
  dsimp only
  split
  · constructor
    · rw [List.map_map]
      apply List.map_congr_left
      intro w _
      simp only [Function.comp_apply]
      split <;> rfl
    · intro w hw
      obtain ⟨v, hv, rfl⟩ := List.mem_map.mp hw
      refine ⟨v, hv, ?_⟩
      split <;> exact ⟨rfl, rfl⟩
  · exact ⟨rfl, fun w hw => ⟨w, hw, rfl, rfl⟩⟩

lemma Tracked.clear (h : s.Tracked) : s.clear.Tracked := by
  constructor
  · intro _
    exact ⟨rfl, fun _ => rfl⟩
  · intro orb
    simp only [FetchAgent.clear, Option.isSome_none]
    split
    · rfl
    · rename_i hout
      rw [h.appended]
      simpa using hout
  · simp [FetchAgent.clear]
  · simp [FetchAgent.clear]
  · simp [FetchAgent.clear]
  · simp [FetchAgent.clear]
  · intro t ht
    simp only [FetchAgent.clear, List.mem_filter, decide_eq_true_eq] at ht
    exact absurd (h.timers t ht.1).2 ht.2
  · exact h.tokens
  · simp [FetchAgent.clear]

lemma Numbered.clear (h : s.Numbered) : s.clear.Numbered := by
  constructor
  · simp [FetchAgent.clear]
  · simp [FetchAgent.clear]
  · intro c hc
    exact ⟨(h.completed c hc).1, by simp [FetchAgent.clear]⟩
  · intro c hc
    exact ⟨(h.deferred c hc).1, by simp [FetchAgent.clear]⟩
  · exact h.issued
  · exact h.issuedSorted
  · simp [FetchAgent.clear]
  · simp [FetchAgent.clear]

lemma Wired.clear (h : s.Wired) : s.clear.Wired := by
  obtain ⟨hhandles, hfrom⟩ := clear_writes s
  constructor
  · rw [hhandles]
    exact h.handles
  · intro w hw
    obtain ⟨w', hw', hh, hb⟩ := hfrom w hw
    rw [hh, hb]
    exact h.fresh w' hw'
  · nofun
  · exact fun _ => live_clear h
  · exact fun _ => rfl

lemma armed_clear (s : FetchAgent) : s.clear.Armed := by
  constructor <;> simp [FetchAgent.clear]

lemma Consistent.clear (h : s.Consistent) : s.clear.Inv :=
  ⟨⟨h.tracked.clear, h.numbered.clear, h.wired.clear⟩, armed_clear s⟩

/-- `Bind` and `Unbind` start a binding of their own. -/
lemma Consistent.rebind (h : s.Consistent) (generation : ℕ) (bound : Bool) :
    Inv { s.clear with generation := generation, bound := bound, binding := s.binding + 1 } := by
  obtain ⟨hc, hc'⟩ := h.clear
  refine ⟨⟨⟨fun _ => ⟨rfl, fun _ => rfl⟩, hc.tracked.appended, hc.tracked.pendingNodup,
    hc.tracked.pendingOut, hc.tracked.activeOut, hc.tracked.placed, hc.tracked.timers,
    hc.tracked.tokens, hc.tracked.retries⟩, ?_, ⟨hc.wired.handles, ?_, nofun, ?_,
    fun _ => rfl⟩⟩, ?_⟩
  · exact ⟨hc.numbered.current, hc.numbered.injective, hc.numbered.completed,
      hc.numbered.deferred, hc.numbered.issued, hc.numbered.issuedSorted,
      hc.numbered.pendingSorted, hc.numbered.pendingAfter⟩
  · intro w hw
    have := hc.wired.fresh w hw
    exact ⟨this.1, this.2.trans (Nat.le_succ _)⟩
  · intro _
    unfold FetchAgent.live
    rw [List.filter_eq_nil_iff]
    intro w hw
    have hle : w.binding ≤ s.binding := (hc.wired.fresh w hw).2
    simp only [decide_eq_true_eq]
    omega
  · exact ⟨hc'.retry, hc'.activeLast, hc'.busy⟩

/-! ### Failing an ORB -/

lemma Tracked.failORB (h : s.Tracked) (orb : ORBKey) (transportStatus : ℤ) (sbpStatus : ℕ) :
    (s.failORB orb transportStatus sbpStatus).Tracked := by
  have hother : ∀ o, Function.update s.outstandingORBs orb none o ≠ none →
      o ≠ orb ∧ s.outstandingORBs o ≠ none := by
    intro o ho
    by_cases hoe : o = orb
    · simp [hoe] at ho
    · exact ⟨hoe, by simpa [hoe] using ho⟩
  have hsame : ∀ o, o ≠ orb → Function.update s.outstandingORBs orb none o =
      s.outstandingORBs o := fun o ho => Function.update_of_ne ho _ _
  constructor
  · intro hb
    obtain ⟨hin, hout⟩ := h.unbound hb
    refine ⟨hin, fun o => ?_⟩
    by_cases hoe : o = orb
    · simp [FetchAgent.failORB, forget, hoe]
    · simp [FetchAgent.failORB, forget, hoe, hout]
  · intro o
    by_cases hoe : o = orb
    · simp [FetchAgent.failORB, forget, hoe]
    · simp [FetchAgent.failORB, forget, hoe, h.appended]
  · exact h.pendingNodup.filter _
  · intro o ho
    obtain ⟨hmem, hne⟩ := List.mem_filter.mp ho
    simp only [decide_eq_true_eq] at hne
    exact (hsame o hne).trans (h.pendingOut o hmem)
  · intro o ho
    simp only [FetchAgent.failORB, forget] at ho ⊢
    split at ho
    · cases ho
    · rename_i hact
      obtain ⟨hout, hpend⟩ := h.activeOut o ho
      have hne : o ≠ orb := fun hoe => hact (hoe ▸ ho)
      exact ⟨(hsame o hne).trans hout, fun hmem => hpend (List.mem_filter.mp hmem).1⟩
  · intro o ho
    obtain ⟨hne, hout⟩ := hother o ho
    rcases h.placed o hout with hact | hpend | hdel
    · apply Or.inl
      simp only [FetchAgent.failORB, forget]
      rw [if_neg]
      · exact hact
      · rw [hact]
        simpa using hne
    · exact Or.inr (Or.inl (List.mem_filter.mpr ⟨hpend, by simpa using hne⟩))
    · exact Or.inr (Or.inr hdel)
  · intro t ht
    simp only [FetchAgent.failORB, forget, List.mem_filter, decide_eq_true_eq] at ht
    obtain ⟨hpos, hout⟩ := h.timers t ht.1
    have hne : t.2 ≠ orb := fun hoe => ht.2 ⟨hoe, hoe ▸ hout⟩
    exact ⟨hpos, (hsame _ hne).trans hout⟩
  · exact h.tokens
  · intro o ho
    exact h.retries o (hother o ho).2

lemma Numbered.failORB (h : s.Numbered) {orb : ORBKey} (horb : s.outstandingORBs orb ≠ none)
    (transportStatus : ℤ) (sbpStatus : ℕ) : (s.failORB orb transportStatus sbpStatus).Numbered := by
  have hother : ∀ o, Function.update s.outstandingORBs orb none o ≠ none →
      o ≠ orb ∧ s.outstandingORBs o ≠ none := by
    intro o ho
    by_cases hoe : o = orb
    · simp [hoe] at ho
    · exact ⟨hoe, by simpa [hoe] using ho⟩
  constructor
  · exact fun o ho => h.current o (hother o ho).2
  · exact fun o o' ho ho' => h.injective o o' (hother o ho).2 (hother o' ho').2
  · intro c hc
    rcases List.mem_cons.mp hc with rfl | hc
    · refine ⟨h.current orb horb, fun o ho hsub => ?_⟩
      obtain ⟨hne, hout⟩ := hother o ho
      exact hne (h.injective o orb hout horb hsub.symm)
    · exact ⟨(h.completed c hc).1, fun o ho => (h.completed c hc).2 o (hother o ho).2⟩
  · intro c hc
    exact ⟨(h.deferred c hc).1, fun o ho => (h.deferred c hc).2 o (hother o ho).2⟩
  · exact h.issued
  · exact h.issuedSorted
  · exact h.pendingSorted.sublist (List.filter_sublist.map _)
  · intro o ho
    exact h.pendingAfter o (List.mem_filter.mp ho).1

lemma Wired.failORB (h : s.Wired) (orb : ORBKey) (transportStatus : ℤ) (sbpStatus : ℕ) :
    (s.failORB orb transportStatus sbpStatus).Wired := by
  refine ⟨h.handles, h.fresh, fun hin => ?_, h.free, h.handle⟩
  obtain ⟨w, hw, hhandle, hgen, hact⟩ := h.inUse hin
  refine ⟨w, hw, hhandle, hgen, fun o ho => ?_⟩
  simp only [FetchAgent.failORB, forget] at ho
  split at ho
  · cases ho
  · exact hact o ho

lemma Consistent.failORB (h : s.Consistent) {orb : ORBKey} (horb : s.outstandingORBs orb ≠ none)
    (transportStatus : ℤ) (sbpStatus : ℕ) :
    (s.failORB orb transportStatus sbpStatus).Consistent :=
  ⟨h.tracked.failORB orb _ _, h.numbered.failORB horb _ _, h.wired.failORB orb _ _⟩

lemma Consistent.failPendingImmediate (h : s.Consistent) (transportStatus : ℤ) (sbpStatus : ℕ) :
    (s.failPendingImmediate transportStatus sbpStatus).Consistent := by
  have hall : ∀ (l : List ORBKey) (s : FetchAgent), s.Consistent → l.Nodup →
      (∀ orb ∈ l, s.outstandingORBs orb ≠ none) →
      (l.foldl (fun s orb => s.failORB orb transportStatus sbpStatus) s).Consistent := by
    intro l
    induction l with
    | nil => exact fun s h _ _ => h
    | cons orb l ih =>
      intro s h hnodup hout
      obtain ⟨hnot, hnodup⟩ := List.nodup_cons.mp hnodup
      apply ih _ (h.failORB (hout orb List.mem_cons_self) _ _) hnodup
      intro o ho
      have hne : o ≠ orb := fun hoe => hnot (hoe ▸ ho)
      simp only [FetchAgent.failORB, forget, Function.update_of_ne hne]
      exact hout o (List.mem_cons_of_mem orb ho)
  apply hall _ s h h.tracked.pendingNodup
  intro orb horb
  rw [h.tracked.pendingOut orb horb]
  nofun

/-- A status block takes an ORB out, unless it is still pending, as a failure does. -/
lemma forget_eq_failORB {orb : ORBKey} (horb : orb ∉ s.pendingImmediateORBs) (transportStatus : ℤ)
    (sbpStatus : ℕ) : s.forget orb =
      { s.failORB orb transportStatus sbpStatus with completed := s.completed } := by
  have hfilter : s.pendingImmediateORBs.filter (· ≠ orb) = s.pendingImmediateORBs := by
    rw [List.filter_eq_self]
    intro o ho
    simpa using fun hoe : o = orb => horb (hoe ▸ ho)
  simp only [FetchAgent.failORB, hfilter]
  rfl

lemma Consistent.forget (h : s.Consistent) {orb : ORBKey} (horb : orb ∉ s.pendingImmediateORBs)
    (hout : s.outstandingORBs orb ≠ none) : (s.forget orb).Consistent := by
  rw [forget_eq_failORB horb 0 0]
  apply (h.failORB hout 0 0).call
  rintro c (hmem | hmem)
  · exact Or.inl (List.mem_cons_of_mem _ hmem)
  · exact Or.inr (Or.inl hmem)

/-! ### Writing an ORB pointer -/

lemma Tracked.bound_of_out (h : s.Tracked) {orb : ORBKey} (horb : s.outstandingORBs orb ≠ none) :
    s.bound = true := by
  by_contra hb
  exact horb ((h.unbound (by simpa using hb)).2 orb)

lemma Consistent.issue (h : s.Consistent) (hin : s.fetchAgentWriteInUse = false) {orb : ORBKey}
    (hact : s.activeFetchAgentORB = some orb) (hissued : ∀ n ∈ s.issued, n ≤ s.submission orb)
    (hpend : ∀ o ∈ s.pendingImmediateORBs, s.submission orb < s.submission o) :
    (s.appendImmediate orb true).1.Inv := by
  have hout := (h.tracked.activeOut orb hact).1
  have hsome : s.outstandingORBs orb ≠ none := by
    rw [hout]
    nofun
  have hlive : live (s.appendImmediate orb true).1 =
      [{ handle := s.nextHandle, orb := orb, generation := s.generation
         binding := s.binding, submission := s.submission orb }] := by
    have hfree := h.wired.free hin
    unfold FetchAgent.live at hfree ⊢
    simp only [appendImmediate, hin, Bool.false_eq_true, if_false, if_true, List.filter_append,
      hfree]
    simp
  simp only [appendImmediate, hin, Bool.false_eq_true, if_false, if_true] at hlive ⊢
  obtain ⟨ht, hn, hw⟩ := h
  refine ⟨⟨⟨fun hb => ?_, ht.appended, ht.pendingNodup, ht.pendingOut, ?_, ?_, ht.timers, ht.tokens,
    ht.retries⟩, ⟨hn.current, hn.injective, hn.completed, hn.deferred, ?_, ?_, hn.pendingSorted,
    ?_⟩, ⟨?_, ?_, fun _ => ⟨_, hlive, rfl, rfl, ?_⟩, nofun, nofun⟩⟩, ⟨nofun, ?_, nofun⟩⟩
  · rw [ht.bound_of_out hsome] at hb
    cases hb
  · rintro o ho
    cases ho
    exact ht.activeOut orb hact
  · intro o ho
    have := ht.placed o ho
    rw [hact] at this
    exact this
  · intro n hmem
    rcases List.mem_cons.mp hmem with rfl | hmem
    · exact hn.current orb hsome
    · exact hn.issued n hmem
  · exact List.pairwise_cons.mpr ⟨hissued, hn.issuedSorted⟩
  · intro o ho n hmem
    rcases List.mem_cons.mp hmem with rfl | hmem
    · exact hpend o ho
    · exact hn.pendingAfter o ho n hmem
  · rw [List.map_append, List.nodup_append]
    refine ⟨hw.handles, by simp, fun a ha b hb => ?_⟩
    obtain ⟨w, hmem, rfl⟩ := List.mem_map.mp ha
    have := (hw.fresh w hmem).1
    simp only [List.map_cons, List.map_nil, List.mem_singleton] at hb
    omega
  · intro w hmem
    rcases List.mem_append.mp hmem with hmem | hmem
    · have := hw.fresh w hmem
      exact ⟨by dsimp only; omega, this.2⟩
    · rw [List.mem_singleton.mp hmem]
      exact ⟨Nat.lt_succ_self _, le_rfl⟩
  · rintro o ho
    cases ho
    exact ⟨rfl, rfl⟩
  · rintro o ho
    cases ho
    rfl

lemma Consistent.refuse (h : s.Consistent) (hin : s.fetchAgentWriteInUse = false) {orb : ORBKey}
    (hact : s.activeFetchAgentORB = some orb) (hpend : s.pendingImmediateORBs = []) :
    (s.appendImmediate orb false).1.Inv := by
  have hout := (h.tracked.activeOut orb hact).1
  have heq : (s.appendImmediate orb false).1 = s.failORB orb (-1) kUnspecifiedError := by
    simp [appendImmediate, hin, FetchAgent.failORB, FetchAgent.forget, hact, h.wired.handle hin]
  rw [heq]
  refine ⟨h.failORB (by rw [hout]; nofun) _ _, ?_⟩
  constructor <;> simp [FetchAgent.failORB, FetchAgent.forget, hact, hpend]

lemma Consistent.appendImmediate (h : s.Consistent) (hin : s.fetchAgentWriteInUse = false)
    {orb : ORBKey} (hact : s.activeFetchAgentORB = some orb)
    (hissued : ∀ n ∈ s.issued, n ≤ s.submission orb)
    (hpend : ∀ o ∈ s.pendingImmediateORBs, s.submission orb < s.submission o) {accepted : Bool}
    (ha : accepted = true ∨ s.pendingImmediateORBs = []) : (s.appendImmediate orb accepted).1.Inv := by
  cases accepted with
  | true => exact h.issue hin hact hissued hpend
  | false => exact h.refuse hin hact (by simpa using ha)

/-- The head of the queue becomes the active ORB. -/
lemma Consistent.pop (h : s.Consistent) (hin : s.fetchAgentWriteInUse = false)
    (hact : s.activeFetchAgentORB = none) {next : ORBKey} {rest : List ORBKey}
    (hp : s.pendingImmediateORBs = next :: rest) :
    Consistent { s with pendingImmediateORBs := rest, activeFetchAgentORB := some next } := by
  obtain ⟨ht, hn, hw⟩ := h
  have hnodup := ht.pendingNodup
  have hsorted := hn.pendingSorted
  rw [hp] at hnodup hsorted
  have hsub : ∀ o ∈ rest, o ∈ s.pendingImmediateORBs := by
    intro o ho
    rw [hp]
    exact List.mem_cons_of_mem next ho
  refine ⟨⟨ht.unbound, ht.appended, (List.nodup_cons.mp hnodup).2,
    fun o ho => ht.pendingOut o (hsub o ho), ?_, ?_, ht.timers, ht.tokens, ht.retries⟩,
    ⟨hn.current, hn.injective, hn.completed, hn.deferred, hn.issued, hn.issuedSorted, ?_,
      fun o ho => hn.pendingAfter o (hsub o ho)⟩,
    ⟨hw.handles, hw.fresh, fun hin' => ?_, hw.free, hw.handle⟩⟩
  · rintro o ho
    cases ho
    exact ⟨ht.pendingOut next (by rw [hp]; exact List.mem_cons_self),
      (List.nodup_cons.mp hnodup).1⟩
  · intro o ho
    rcases ht.placed o ho with hold | hpend | hdel
    · rw [hact] at hold
      cases hold
    · rw [hp] at hpend
      rcases List.mem_cons.mp hpend with rfl | hpend
      · exact Or.inl rfl
      · exact Or.inr (Or.inl hpend)
    · exact Or.inr (Or.inr hdel)
  · exact (List.pairwise_cons.mp hsorted).2
  · dsimp only at hin'
    rw [hin] at hin'
    cases hin'

lemma Consistent.writeNext (h : s.Consistent) (hin : s.fetchAgentWriteInUse = false)
    (hact : s.activeFetchAgentORB = none) {accepted : Bool}
    (ha : accepted = true ∨ s.pendingImmediateORBs.length ≤ 1) : (s.writeNext accepted).Inv := by
  unfold FetchAgent.writeNext
  split
  · rename_i hp
    refine ⟨h, ?_⟩
    constructor <;> simp [hact, hp]
  · rename_i next rest hp
    have hpop := h.pop hin hact hp
    have hsame : FetchAgent.appendImmediate { s with pendingImmediateORBs := rest } next accepted =
        FetchAgent.appendImmediate
          { s with pendingImmediateORBs := rest, activeFetchAgentORB := some next } next
          accepted := by
      cases accepted <;> simp [FetchAgent.appendImmediate, hin]
    rw [hsame]
    have hsorted := h.numbered.pendingSorted
    rw [hp, List.map_cons] at hsorted
    apply hpop.appendImmediate hin rfl
    · intro n hmem
      exact (h.numbered.pendingAfter next (by rw [hp]; exact List.mem_cons_self) n hmem).le
    · intro o ho
      exact (List.pairwise_cons.mp hsorted).1 _ (List.mem_map_of_mem ho)
    · rcases ha with ha | ha
      · exact Or.inl ha
      · rw [hp, List.length_cons] at ha
        exact Or.inr (List.eq_nil_of_length_eq_zero (by dsimp only; omega))

/-! ### Submission -/

/-- A submission as far as the queue: the ORB is tracked under a new number and waits. -/
def enqueue (s : FetchAgent) (orb : ORBKey) (timeout : ℕ) : FetchAgent :=
  { s with
    fetchAgentWriteRetries :=
      Function.update s.fetchAgentWriteRetries orb s.defaultWriteRetries
    timeoutDuration := Function.update s.timeoutDuration orb timeout
    isAppended := Function.update s.isAppended orb true
    outstandingORBs := Function.update s.outstandingORBs orb (some 0)
    submissions := s.submissions + 1
    submission := Function.update s.submission orb s.submissions
    pendingImmediateORBs := s.pendingImmediateORBs ++ [orb] }

lemma Consistent.enqueue (h : s.Consistent) (hb : s.bound = true) {orb : ORBKey}
    (horb : s.outstandingORBs orb = none) (timeout : ℕ) : (s.enqueue orb timeout).Consistent := by
  obtain ⟨ht, hn, hw⟩ := h
  have hout : ∀ o, o ≠ orb → (s.enqueue orb timeout).outstandingORBs o = s.outstandingORBs o ∧
      (s.enqueue orb timeout).submission o = s.submission o :=
    fun o ho => ⟨Function.update_of_ne ho _ _, Function.update_of_ne ho _ _⟩
  have hself : (s.enqueue orb timeout).outstandingORBs orb = some 0 ∧
      (s.enqueue orb timeout).submission orb = s.submissions :=
    ⟨Function.update_self _ _ _, Function.update_self _ _ _⟩
  have hne : ∀ o, s.outstandingORBs o ≠ none → o ≠ orb := by
    rintro o ho rfl
    exact ho horb
  have hpend : ∀ o ∈ s.pendingImmediateORBs, o ≠ orb := by
    intro o ho
    exact hne o (by rw [ht.pendingOut o ho]; nofun)
  have hactive : ∀ o, s.activeFetchAgentORB = some o → o ≠ orb := by
    intro o ho
    exact hne o (by rw [(ht.activeOut o ho).1]; nofun)
  have hnumber : ∀ o, (s.enqueue orb timeout).outstandingORBs o ≠ none →
      o = orb ∨ (o ≠ orb ∧ s.outstandingORBs o ≠ none) := by
    intro o ho
    by_cases hoe : o = orb
    · exact Or.inl hoe
    · rw [(hout o hoe).1] at ho
      exact Or.inr ⟨hoe, ho⟩
  refine ⟨⟨fun hb' => ?_, ?_, ?_, ?_, ?_, ?_, ?_, ht.tokens, ?_⟩, ⟨?_, ?_, ?_, ?_, ?_,
    hn.issuedSorted, ?_, ?_⟩, ⟨hw.handles, hw.fresh, fun hin => ?_, hw.free, hw.handle⟩⟩
  · have hb'' : s.bound = false := hb'
    rw [hb] at hb''
    cases hb''
  · intro o
    by_cases hoe : o = orb
    · subst hoe
      simp [FetchAgent.enqueue]
    · simp [FetchAgent.enqueue, hoe, ht.appended]
  · apply List.nodup_append.mpr
    refine ⟨ht.pendingNodup, by simp, fun o ho b hb => ?_⟩
    rw [List.mem_singleton] at hb
    subst hb
    exact hpend o ho
  · intro o ho
    rcases List.mem_append.mp ho with ho | ho
    · rw [(hout o (hpend o ho)).1]
      exact ht.pendingOut o ho
    · rw [List.mem_singleton.mp ho]
      exact hself.1
  · intro o ho
    obtain ⟨h0, hnot⟩ := ht.activeOut o ho
    rw [(hout o (hactive o ho)).1]
    refine ⟨h0, fun hmem => ?_⟩
    rcases List.mem_append.mp hmem with hmem | hmem
    · exact hnot hmem
    · exact hactive o ho (List.mem_singleton.mp hmem)
  · intro o ho
    rcases hnumber o ho with rfl | ⟨hoe, ho⟩
    · exact Or.inr (Or.inl (List.mem_append_right _ (List.mem_singleton_self _)))
    · rw [(hout o hoe).2]
      rcases ht.placed o ho with hact | hmem | hdel
      · exact Or.inl hact
      · exact Or.inr (Or.inl (List.mem_append_left _ hmem))
      · exact Or.inr (Or.inr hdel)
  · intro t ht'
    obtain ⟨hpos, hsome⟩ := ht.timers t ht'
    refine ⟨hpos, ?_⟩
    rw [(hout t.2 (hne t.2 (by rw [hsome]; nofun))).1]
    exact hsome
  · intro o ho
    rcases hnumber o ho with rfl | ⟨hoe, ho⟩
    · simp [FetchAgent.enqueue]
    · simpa [FetchAgent.enqueue, hoe] using ht.retries o ho
  · intro o ho
    rcases hnumber o ho with rfl | ⟨hoe, ho⟩
    · rw [hself.2]
      exact Nat.lt_succ_self _
    · rw [(hout o hoe).2]
      exact (hn.current o ho).trans (Nat.lt_succ_self _)
  · intro o o' ho ho' heq
    rcases hnumber o ho with rfl | ⟨hoe, hold⟩ <;> rcases hnumber o' ho' with rfl | ⟨hoe', hold'⟩
    · rfl
    · rw [hself.2, (hout o' hoe').2] at heq
      have := hn.current o' hold'
      omega
    · rw [hself.2, (hout o hoe).2] at heq
      have := hn.current o hold
      omega
    · rw [(hout o hoe).2, (hout o' hoe').2] at heq
      exact hn.injective o o' hold hold' heq
  · intro c hc
    obtain ⟨hlt, hdiff⟩ := hn.completed c hc
    refine ⟨hlt.trans (Nat.lt_succ_self _), fun o ho => ?_⟩
    rcases hnumber o ho with rfl | ⟨hoe, ho⟩
    · rw [hself.2]
      omega
    · rw [(hout o hoe).2]
      exact hdiff o ho
  · intro c hc
    obtain ⟨hlt, hdiff⟩ := hn.deferred c hc
    refine ⟨hlt.trans (Nat.lt_succ_self _), fun o ho => ?_⟩
    rcases hnumber o ho with rfl | ⟨hoe, ho⟩
    · rw [hself.2]
      omega
    · rw [(hout o hoe).2]
      exact hdiff o ho
  · exact fun n hmem => (hn.issued n hmem).trans (Nat.lt_succ_self _)
  · simp only [FetchAgent.enqueue, List.map_append, List.map_cons, List.map_nil,
      Function.update_self]
    have hmap : s.pendingImmediateORBs.map (Function.update s.submission orb s.submissions) =
        s.pendingImmediateORBs.map s.submission :=
      List.map_congr_left fun o ho => (hout o (hpend o ho)).2
    rw [hmap]
    apply List.pairwise_append.mpr
    refine ⟨hn.pendingSorted, by simp, fun a ha b hb => ?_⟩
    obtain ⟨o, ho, rfl⟩ := List.mem_map.mp ha
    rw [List.mem_singleton.mp hb]
    exact hn.current o (by rw [ht.pendingOut o ho]; nofun)
  · intro o ho n hmem
    rcases List.mem_append.mp ho with ho | ho
    · rw [(hout o (hpend o ho)).2]
      exact hn.pendingAfter o ho n hmem
    · rw [List.mem_singleton.mp ho, hself.2]
      exact hn.issued n hmem
  · obtain ⟨w, hlive, hhandle, hgen, hact⟩ := hw.inUse hin
    refine ⟨w, hlive, hhandle, hgen, fun o ho => ?_⟩
    rw [(hout o (hactive o ho)).2]
    exact hact o ho

/-- A submission is written at once only where nothing waits before it. -/
lemma Inv.submit (h : s.Inv) (orb : ORBKey) (timeout : ℕ) (prepared accepted : Bool)
    (ha : s.fetchAgentWriteInUse = true ∨ s.activeFetchAgentORB = none) :
    (s.submit orb timeout prepared accepted).1.Inv := by
  unfold FetchAgent.submit
  split
  · exact h
  · rename_i hno
    push Not at hno
    obtain ⟨hb, happ, -⟩ := hno
    have hout : s.outstandingORBs orb = none := by
      rw [h.consistent.tracked.appended] at happ
      simpa using happ
    have hq := h.consistent.enqueue (by simpa using hb) hout timeout
    dsimp only
    split
    · rename_i hin
      refine ⟨hq, ⟨fun hfree => ?_, fun o ho => ?_, fun hfree => ?_⟩⟩
      · rw [hin] at hfree
        cases hfree
      · have hne : o ≠ orb := by
          rintro rfl
          rw [(h.consistent.tracked.activeOut o ho).1] at hout
          cases hout
        simpa [Function.update_of_ne hne] using h.armed.activeLast o ho
      · rw [hin] at hfree
        cases hfree
    · rename_i hin
      have hfree : s.fetchAgentWriteInUse = false := by simpa using hin
      have hact : s.activeFetchAgentORB = none := by simpa [hfree] using ha
      have hnil := h.armed.busy hfree hact
      have hshort : accepted = true ∨ (s.enqueue orb timeout).pendingImmediateORBs.length ≤ 1 :=
        Or.inr (by simp [FetchAgent.enqueue, hnil])
      have hnext := hq.writeNext hfree hact hshort
      simpa only [FetchAgent.writeNext, FetchAgent.enqueue, hnil, List.nil_append] using hnext

/-! ### Write completions -/

lemma Inv.reset (h : s.Inv) (accepted : Bool) : (s.reset accepted).Inv := by
  unfold FetchAgent.reset
  split
  · exact h
  · split
    · exact ⟨h.consistent.frame s.retryTimers (s.resetWrites ++ [s.generation]) true
        s.timeouts fun _ => id, h.armed.retry, h.armed.activeLast, h.armed.busy⟩
    · exact h

lemma Consistent.resetNoWait (h : s.Consistent) {onComplete : Option ORBCompletion}
    (hc : ∀ c, onComplete = some c → c.submission < s.submissions ∧
      ∀ orb, s.outstandingORBs orb ≠ none → c.submission ≠ s.submission orb) (accepted : Bool) :
    (s.resetNoWait onComplete accepted).Consistent := by
  unfold FetchAgent.resetNoWait
  split
  · apply h.call
    rintro c (hmem | hmem)
    · rcases List.mem_append.mp hmem with hmem | hmem
      · exact Or.inr (Or.inr (hc c (Option.mem_toList.mp hmem)))
      · exact Or.inl hmem
    · exact Or.inr (Or.inl hmem)
  · apply h.call
    rintro c (hmem | hmem)
    · exact Or.inl hmem
    · rcases List.mem_append.mp hmem with hmem | hmem
      · exact Or.inr (Or.inl hmem)
      · exact Or.inr (Or.inr (hc c (List.mem_singleton.mp hmem).symm))

/-- An ORB whose write has succeeded is not the active one any more. -/
lemma Consistent.deliver (h : s.Consistent) (hin : s.fetchAgentWriteInUse = false)
    (hdel : ∀ orb, s.activeFetchAgentORB = some orb → s.submission orb ∈ s.delivered) :
    Consistent { s with activeFetchAgentORB := none } := by
  obtain ⟨ht, hn, hw⟩ := h
  refine ⟨⟨ht.unbound, ht.appended, ht.pendingNodup, ht.pendingOut, nofun, fun o ho => ?_,
    ht.timers, ht.tokens, ht.retries⟩, ⟨hn.current, hn.injective, hn.completed, hn.deferred,
    hn.issued, hn.issuedSorted, hn.pendingSorted, hn.pendingAfter⟩,
    ⟨hw.handles, hw.fresh, fun hin' => ?_, hw.free, hw.handle⟩⟩
  · rcases ht.placed o ho with hact | hmem | hdel'
    · exact Or.inr (Or.inr (hdel o hact))
    · exact Or.inr (Or.inl hmem)
    · exact Or.inr (Or.inr hdel')
  · dsimp only at hin'
    rw [hin] at hin'
    cases hin'

lemma Consistent.startORBTimeout (h : s.Consistent) {orb : ORBKey}
    (hact : s.activeFetchAgentORB = none) (horb : orb ∉ s.pendingImmediateORBs)
    (hdel : s.outstandingORBs orb ≠ none → s.submission orb ∈ s.delivered) :
    (s.startORBTimeout orb).Consistent := by
  obtain ⟨ht, hn, hw⟩ := h
  unfold FetchAgent.startORBTimeout
  split
  · exact ⟨ht, hn, hw⟩
  · split
    · exact ⟨ht, hn, hw⟩
    · rename_i token htoken
      have hsome : s.outstandingORBs orb ≠ none := by
        rw [htoken]
        nofun
      have hnone : ∀ o, Function.update s.outstandingORBs orb (some s.nextToken) o ≠ none →
          s.outstandingORBs o ≠ none := by
        intro o ho
        by_cases hoe : o = orb
        · rw [hoe]
          exact hsome
        · simpa [hoe] using ho
      refine ⟨⟨fun hb => ?_, fun o => ?_, ht.pendingNodup, fun o ho => ?_, fun o ho => ?_,
        fun o ho => ht.placed o (hnone o ho), fun t hmem => ?_, Nat.succ_pos _,
        fun o ho => ht.retries o (hnone o ho)⟩,
        ⟨fun o ho => hn.current o (hnone o ho),
        fun o o' ho ho' => hn.injective o o' (hnone o ho) (hnone o' ho'),
        fun c hc => ⟨(hn.completed c hc).1, fun o ho => (hn.completed c hc).2 o (hnone o ho)⟩,
        fun c hc => ⟨(hn.deferred c hc).1, fun o ho => (hn.deferred c hc).2 o (hnone o ho)⟩,
        hn.issued, hn.issuedSorted, hn.pendingSorted, hn.pendingAfter⟩,
        ⟨hw.handles, hw.fresh, hw.inUse, hw.free, hw.handle⟩⟩
      · rw [ht.bound_of_out hsome] at hb
        cases hb
      · by_cases hoe : o = orb
        · subst hoe
          simp [ht.appended, htoken]
        · simp [hoe, ht.appended]
      · have hoe : o ≠ orb := fun hoe => horb (hoe ▸ ho)
        simpa [hoe] using ht.pendingOut o ho
      · dsimp only at ho
        rw [hact] at ho
        cases ho
      · rcases List.mem_append.mp hmem with hmem | hmem
        · obtain ⟨hmem, hkeep⟩ := List.mem_filter.mp hmem
          obtain ⟨hpos, hout⟩ := ht.timers t hmem
          have hoe : t.2 ≠ orb := by
            intro hoe
            rw [hoe, htoken] at hout
            cases hout
            simp [hoe] at hkeep
          exact ⟨hpos, by simpa [hoe] using hout⟩
        · rw [List.mem_singleton.mp hmem]
          exact ⟨ht.tokens, by simp⟩

lemma Consistent.onWriteSucceeded (h : s.Consistent) (hin : s.fetchAgentWriteInUse = false)
    (hdel : ∀ orb, s.activeFetchAgentORB = some orb → s.submission orb ∈ s.delivered)
    {accepted : Bool} (ha : accepted = true ∨ s.pendingImmediateORBs.length ≤ 1) :
    (s.onWriteSucceeded accepted).Inv := by
  have hd := h.deliver hin hdel
  unfold FetchAgent.onWriteSucceeded
  cases hact : s.activeFetchAgentORB with
  | none =>
    dsimp only
    exact hd.writeNext hin rfl ha
  | some orb =>
    have hstart := hd.startORBTimeout rfl (h.tracked.activeOut orb hact).2 fun _ => hdel orb hact
    have hcomm : FetchAgent.startORBTimeout { s with activeFetchAgentORB := none } orb =
        { s.startORBTimeout orb with activeFetchAgentORB := none } := by
      unfold FetchAgent.startORBTimeout
      dsimp only
      split
      · rfl
      · split <;> rfl
    have hrest : (s.startORBTimeout orb).pendingImmediateORBs = s.pendingImmediateORBs ∧
        (s.startORBTimeout orb).fetchAgentWriteInUse = s.fetchAgentWriteInUse := by
      unfold FetchAgent.startORBTimeout
      split
      · exact ⟨rfl, rfl⟩
      · split <;> exact ⟨rfl, rfl⟩
    rw [hcomm] at hstart
    dsimp only
    exact hstart.writeNext (hrest.2.trans hin) rfl (by rw [hrest.1]; exact ha)

lemma Consistent.onWriteFailed (h : s.Consistent)
    (hlast : ∀ orb, s.activeFetchAgentORB = some orb → s.issued.head? = some (s.submission orb))
    (hbusy : s.activeFetchAgentORB = none → s.fetchAgentWriteInUse = false →
      s.pendingImmediateORBs = []) (accepted : Bool) :
    (s.onWriteFailed accepted).Inv := by
  unfold FetchAgent.onWriteFailed
  split
  · rename_i hact
    refine ⟨h, ⟨fun _ o ho => ?_, hlast, fun hin _ => hbusy hact hin⟩⟩
    rw [hact] at ho
    cases ho
  · rename_i orb hact
    have hout := (h.tracked.activeOut orb hact).1
    split
    · obtain ⟨ht, hn, hw⟩ := h
      refine ⟨⟨⟨ht.unbound, ht.appended, ht.pendingNodup, ht.pendingOut, ht.activeOut, ht.placed,
        ht.timers, ht.tokens, fun o ho => ?_⟩, ⟨hn.current, hn.injective, hn.completed,
        hn.deferred, hn.issued, hn.issuedSorted, hn.pendingSorted, hn.pendingAfter⟩,
        ⟨hw.handles, hw.fresh, hw.inUse, hw.free, hw.handle⟩⟩, ⟨fun _ o ho => ?_, hlast,
        fun _ ho => ?_⟩⟩
      · have hle := ht.retries o ho
        by_cases hoe : o = orb
        · subst hoe
          simp only [Function.update_self]
          omega
        · simpa [hoe] using hle
      · dsimp only at ho
        rw [hact] at ho
        cases ho
        exact List.mem_append_right _ (List.mem_singleton_self _)
      · dsimp only at ho
        rw [hact] at ho
        cases ho
    · apply Inv.reset
      apply Consistent.clear
      apply Consistent.failPendingImmediate
      exact h.failORB (by rw [hout]; nofun) _ _

/-- The write that has completed is taken off the bus. -/
def arrive (s : FetchAgent) (w : PointerWrite) (success : Bool) : FetchAgent :=
  { s with
    writes := s.writes.filter fun v => v.handle ≠ w.handle
    delivered := if success then w.submission :: s.delivered else s.delivered }

lemma live_arrive (s : FetchAgent) (w : PointerWrite) (success : Bool) :
    (s.arrive w success).live = s.live.filter fun v => v.handle ≠ w.handle := by
  unfold FetchAgent.live arrive
  dsimp only
  rw [List.filter_filter, List.filter_filter]
  congr 1
  funext v
  exact Bool.and_comm _ _

lemma Consistent.arrive (h : s.Consistent) {w : PointerWrite} (success : Bool)
    (hin : s.fetchAgentWriteInUse = false ∨ w ∉ s.live) (hmem : w ∈ s.writes) :
    (s.arrive w success).Consistent := by
  obtain ⟨ht, hn, hw⟩ := h
  have hlive := live_arrive s w success
  have hdel : ∀ n ∈ s.delivered, n ∈ (s.arrive w success).delivered := by
    intro n hn
    unfold FetchAgent.arrive
    dsimp only
    split
    · exact List.mem_cons_of_mem _ hn
    · exact hn
  refine ⟨⟨ht.unbound, ht.appended, ht.pendingNodup, ht.pendingOut, ht.activeOut, fun o ho => ?_,
    ht.timers, ht.tokens, ht.retries⟩, ⟨hn.current, hn.injective, hn.completed,
    hn.deferred, hn.issued, hn.issuedSorted, hn.pendingSorted, hn.pendingAfter⟩,
    ⟨hw.handles.sublist (List.filter_sublist.map _),
      fun v hv => hw.fresh v (List.mem_filter.mp hv).1, fun hin' => ?_, fun hin' => ?_,
      hw.handle⟩⟩
  · rcases ht.placed o ho with hact | hpend | hd
    · exact Or.inl hact
    · exact Or.inr (Or.inl hpend)
    · exact Or.inr (Or.inr (hdel _ hd))
  · obtain ⟨v, hv, hrest⟩ := hw.inUse hin'
    refine ⟨v, ?_, hrest⟩
    rw [hlive, hv]
    have hne : v.handle ≠ w.handle := by
      intro heq
      rcases hin with hin | hin
      · rw [show s.fetchAgentWriteInUse = true from hin'] at hin
        cases hin
      · have hvmem : v ∈ s.writes := by
          have hvl : v ∈ s.live := by
            rw [hv]
            exact List.mem_singleton_self v
          exact (List.mem_filter.mp hvl).1
        have hvw := List.inj_on_of_nodup_map hw.handles hvmem hmem heq
        rw [hv, ← hvw] at hin
        exact hin (List.mem_singleton_self v)
    simp [hne]
  · rw [hlive, hw.free hin']
    rfl

/-- The write in use has completed. -/
lemma Consistent.arriveInUse (h : s.Consistent) {w : PointerWrite} (success : Bool)
    (hw : s.live = [w]) : Consistent { s.arrive w success with
      fetchAgentWriteInUse := false, fetchAgentWriteHandle := none } := by
  have hlive := live_arrive s w success
  have hdel : ∀ n ∈ s.delivered, n ∈ (s.arrive w success).delivered := by
    intro n hn
    unfold FetchAgent.arrive
    dsimp only
    split
    · exact List.mem_cons_of_mem _ hn
    · exact hn
  obtain ⟨ht, hn, hwired⟩ := h
  refine ⟨⟨fun hb => ⟨rfl, (ht.unbound hb).2⟩, ht.appended, ht.pendingNodup, ht.pendingOut,
    ht.activeOut, fun o ho => ?_, ht.timers, ht.tokens, ht.retries⟩, ⟨hn.current, hn.injective,
    hn.completed, hn.deferred, hn.issued, hn.issuedSorted, hn.pendingSorted, hn.pendingAfter⟩,
    ⟨hwired.handles.sublist (List.filter_sublist.map _),
      fun v hv => hwired.fresh v (List.mem_filter.mp hv).1, nofun, fun _ => ?_, fun _ => rfl⟩⟩
  · rcases ht.placed o ho with hact | hpend | hd
    · exact Or.inl hact
    · exact Or.inr (Or.inl hpend)
    · exact Or.inr (Or.inr (hdel _ hd))
  · show (s.arrive w success).live = []
    rw [hlive, hw]
    simp

end ASFireWire.SBP2.FetchAgent
