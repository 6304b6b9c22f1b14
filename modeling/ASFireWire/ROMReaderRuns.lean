import ASFireWire.ROMReader

/-! Every chain of quadlet reads ends in one answer, and every read that is refused while the bus
keeps its callback adds another: answers, callbacks the bus holds and queued steps are conserved. -/
namespace ASFireWire.ConfigROM

open Quadlets ASFireWire.Async Runs

namespace RomReadWorld

/-- Answers given, and chains that still have theirs to give. -/
def chains (w : RomReadWorld) : ℕ := w.results.length + w.outstanding.length + w.tasks.length

/-- `w'` is `w` with one chain more, and one more for each read refused on the way. -/
def OneMore (w w' : RomReadWorld) : Prop := w'.chains + w.refused = w.chains + 1 + w'.refused

lemma oneMore_answer (w : RomReadWorld) (r : ReadResult) : OneMore w (w.answer r) := by
  simp only [OneMore, chains, answer, List.length_append, List.length_singleton]
  omega

/-- A read is on the bus, or refused, or dropped. -/
lemma readQuad_chains (w : RomReadWorld) (ctx : QuadletReadContext) (submit : SubmitOutcome) :
    (w.readQuad ctx submit).2.chains + w.refused + (if (w.readQuad ctx submit).1 then 0 else 1) =
      w.chains + 1 + (w.readQuad ctx submit).2.refused := by
  unfold readQuad
  dsimp only
  split_ifs with hgen hvalid hvalid
  · exact absurd hvalid (by simp)
  · simp only [chains, List.length_append, List.length_singleton]
    omega
  · cases submit with
    | accepted =>
      simp only [chains, List.length_append, List.length_singleton]
      omega
    | failed => exact absurd hvalid (by simp)
    | failedRegistered => exact absurd hvalid (by simp)
  · cases submit with
    | accepted => exact absurd rfl hvalid
    | failed =>
      simp only [chains]
      omega
    | failedRegistered =>
      simp only [chains, List.length_append, List.length_singleton]
      omega

lemma oneMore_scheduleQuadletReadStep {callback : RomReadWorld → ReadResult → RomReadWorld}
    (hcallback : ∀ w r, OneMore w (callback w r)) (submit : SubmitOutcome) (w : RomReadWorld)
    (ctx : QuadletReadContext) : OneMore w (scheduleQuadletReadStep callback submit w ctx) := by
  have hread := readQuad_chains w ctx submit
  unfold scheduleQuadletReadStep
  by_cases hend : ctx.quadletCount ≤ ctx.quadletIndex
  · rw [if_pos hend]
    exact hcallback w _
  · rw [if_neg hend]
    dsimp only
    by_cases hvalid : (w.readQuad ctx submit).1 = true
    · rw [if_pos hvalid] at hread ⊢
      exact hread
    · rw [if_neg hvalid] at hread ⊢
      have hcall := hcallback (w.readQuad ctx submit).2
        (quadletReadResult ctx false .hardwareError 0)
      unfold OneMore at hcall ⊢
      omega

lemma oneMore_readQuadletsBEImpl {callback : RomReadWorld → ReadResult → RomReadWorld}
    (hcallback : ∀ w r, OneMore w (callback w r)) (submit : SubmitOutcome) (w : RomReadWorld)
    (userCallback : RomCallback) (target : ReadTarget) (offsetBytes quadletCount : ℕ)
    (policy : QuadletReadPolicy) :
    OneMore w (readQuadletsBEImpl callback submit w userCallback target offsetBytes quadletCount
      policy) := by
  unfold readQuadletsBEImpl
  split_ifs
  · exact hcallback w _
  · exact oneMore_scheduleQuadletReadStep hcallback submit w _

lemma oneMore_callFinal (target : ReadTarget) (callback : FinalCallback) (w : RomReadWorld)
    (r : ReadResult) : OneMore w (callFinal target callback w r) := oneMore_answer w _

lemma oneMore_call (submit : SubmitOutcome) (target : ReadTarget) (callback : RomCallback)
    (w : RomReadWorld) (r : ReadResult) : OneMore w (call submit target callback w r) := by
  cases callback with
  | final callback => exact oneMore_callFinal target callback w r
  | bibHeader =>
    unfold call
    dsimp only
    split_ifs
    · exact oneMore_answer w _
    · exact oneMore_answer w _
    · exact oneMore_readQuadletsBEImpl (oneMore_callFinal target _) submit w _ target _ _ _
  | rootHeader offsetBytes =>
    unfold call
    dsimp only
    split_ifs
    · exact oneMore_answer w _
    · exact oneMore_answer w _
    · exact oneMore_readQuadletsBEImpl (oneMore_callFinal target _) submit w _ target _ _ _

lemma oneMore_scheduleStep (submit : SubmitOutcome) (w : RomReadWorld)
    (ctx : QuadletReadContext) : OneMore w (w.scheduleStep submit ctx) :=
  oneMore_scheduleQuadletReadStep (oneMore_call submit ctx.target ctx.userCallback) submit w ctx

lemma oneMore_handleQuadletReadComplete (submit : SubmitOutcome) (w : RomReadWorld)
    (ctx : QuadletReadContext) (status : AsyncStatus) (payload : List UInt8) :
    OneMore w (w.handleQuadletReadComplete submit ctx status payload) := by
  unfold handleQuadletReadComplete
  dsimp only
  split_ifs
  · exact oneMore_call submit ctx.target ctx.userCallback w _
  · exact oneMore_call submit ctx.target ctx.userCallback w _
  · unfold scheduleNextQuadlet
    split_ifs
    · simp only [OneMore, chains, List.length_append, List.length_singleton]
      omega
    · exact oneMore_scheduleStep submit w _

lemma oneMore_begin (w : RomReadWorld) (target : ReadTarget) (submit : SubmitOutcome)
    (op : RomOperation) : OneMore w (w.begin target submit op) := by
  cases op with
  | quadlets offsetBytes quadletCount policy =>
    exact oneMore_readQuadletsBEImpl (oneMore_callFinal target _) submit w _ target _ _ _
  | bib => exact oneMore_readQuadletsBEImpl (oneMore_call submit target _) submit w _ target _ _ _
  | rootDir offsetBytes count =>
    unfold begin
    dsimp only
    split_ifs
    · exact oneMore_readQuadletsBEImpl (oneMore_callFinal target _) submit w _ target _ _ _
    · exact oneMore_readQuadletsBEImpl (oneMore_call submit target _) submit w _ target _ _ _

/-- The chains of an operation: its own, and one for every refused read. -/
def Conserved (w : RomReadWorld) : Prop := w.chains = 1 + w.refused

theorem conserved_step {w : RomReadWorld} (h : w.Conserved) (e : RomReadEvent) :
    (w.step e).Conserved := by
  cases e with
  | complete i status payload submit =>
    unfold step
    dsimp only
    split
    next => exact h
    next read hread =>
      have hi : i < w.outstanding.length := (List.getElem?_eq_some_iff.mp hread).1
      have herase : ({ w with outstanding := w.outstanding.eraseIdx i } : RomReadWorld).chains + 1 =
          w.chains := by
        simp only [chains, List.length_eraseIdx_of_lt hi]
        omega
      have hone : OneMore { w with outstanding := w.outstanding.eraseIdx i }
          (if read.posted then
            handleQuadletReadComplete submit { w with outstanding := w.outstanding.eraseIdx i }
              read.ctx .staleGeneration []
          else handleQuadletReadComplete submit
            { w with outstanding := w.outstanding.eraseIdx i } read.ctx status payload) := by
        split_ifs
        · exact oneMore_handleQuadletReadComplete submit _ read.ctx _ _
        · exact oneMore_handleQuadletReadComplete submit _ read.ctx _ _
      unfold Conserved OneMore at *
      dsimp only at hone
      omega
  | runTask i submit =>
    unfold step
    dsimp only
    split
    next => exact h
    next ctx hctx =>
      have hi : i < w.tasks.length := (List.getElem?_eq_some_iff.mp hctx).1
      have herase : ({ w with tasks := w.tasks.eraseIdx i } : RomReadWorld).chains + 1 =
          w.chains := by
        simp only [chains, List.length_eraseIdx_of_lt hi]
        omega
      have hone := oneMore_scheduleStep submit { w with tasks := w.tasks.eraseIdx i } ctx
      unfold Conserved OneMore at *
      dsimp only at hone
      omega
  | generationChanged generation16 => exact h

/-- The world an operation is started in, and the operation. -/
def start (generation16 : ℕ) (usesQueue : Bool) (target : ReadTarget) (submit : SubmitOutcome)
    (op : RomOperation) : RomReadWorld :=
  begin { generation16 := generation16, usesQueue := usesQueue } target submit op

lemma conserved_start (generation16 : ℕ) (usesQueue : Bool) (target : ReadTarget)
    (submit : SubmitOutcome) (op : RomOperation) :
    (start generation16 usesQueue target submit op).Conserved := by
  have hone := oneMore_begin { generation16 := generation16, usesQueue := usesQueue } target
    submit op
  unfold OneMore chains at hone
  unfold Conserved start chains
  simp only [List.length_nil] at hone
  omega

/-! ### The reads end -/

/-- What the second half of an operation may cost. -/
def followUp : RomCallback → ℕ
  | .final _ => 0
  | .bibHeader => 509
  | .rootHeader _ => 509

/-- Bounds on the events a chain can still take, from a read on the bus and from a queued step. -/
def readWork (ctx : QuadletReadContext) : ℕ :=
  2 * (ctx.quadletCount - ctx.quadletIndex) + 1 + followUp ctx.userCallback +
    if ctx.quadletCount ≤ ctx.quadletIndex then 3 else 0

def taskWork (ctx : QuadletReadContext) : ℕ :=
  2 * (ctx.quadletCount - ctx.quadletIndex) + 2 + followUp ctx.userCallback

def workLeft (w : RomReadWorld) : ℕ :=
  (w.outstanding.map fun read => readWork read.ctx).sum + (w.tasks.map taskWork).sum

lemma sum_map_eraseIdx {α : Type*} {l : List α} {i : ℕ} {x : α} (f : α → ℕ)
    (h : l[i]? = some x) : ((l.eraseIdx i).map f).sum + f x = (l.map f).sum := by
  induction l generalizing i with
  | nil => exact absurd h (by simp)
  | cons a l ih =>
    cases i with
    | zero =>
      obtain rfl := Option.some.inj h
      simp only [List.eraseIdx_cons_zero, List.map_cons, List.sum_cons]
      omega
    | succ i =>
      have hrest := ih (i := i) (by simpa using h)
      simp only [List.eraseIdx_cons_succ, List.map_cons, List.sum_cons]
      omega

@[simp] lemma workLeft_answer (w : RomReadWorld) (r : ReadResult) :
    (w.answer r).workLeft = w.workLeft := rfl

lemma workLeft_readQuad (w : RomReadWorld) (ctx : QuadletReadContext) (submit : SubmitOutcome) :
    (w.readQuad ctx submit).2.workLeft ≤ w.workLeft + readWork ctx := by
  unfold readQuad
  dsimp only
  split_ifs
  · simp only [workLeft, List.map_append, List.sum_append, List.map_cons, List.map_nil,
      List.sum_cons, List.sum_nil]
    omega
  · cases submit with
    | failed => exact Nat.le_add_right _ _
    | _ =>
      simp only [workLeft, List.map_append, List.sum_append, List.map_cons, List.map_nil,
        List.sum_cons, List.sum_nil]
      omega

/-- A step costs its context's share, when its callback costs no more than the follow-up and
nothing after a failure. -/
lemma workLeft_scheduleQuadletReadStep {callback : RomReadWorld → ReadResult → RomReadWorld}
    {ctx : QuadletReadContext}
    (hcall : ∀ w r, (callback w r).workLeft ≤ w.workLeft + followUp ctx.userCallback)
    (hfail : ∀ (w : RomReadWorld) (r : ReadResult), r.success = false →
      (callback w r).workLeft ≤ w.workLeft)
    (submit : SubmitOutcome) (w : RomReadWorld) :
    (scheduleQuadletReadStep callback submit w ctx).workLeft ≤
      w.workLeft + 2 * (ctx.quadletCount - ctx.quadletIndex) + 1 + followUp ctx.userCallback := by
  unfold scheduleQuadletReadStep
  by_cases hend : ctx.quadletCount ≤ ctx.quadletIndex
  · rw [if_pos hend]
    have h := hcall w (quadletReadResult ctx true .success ctx.quadletCount)
    omega
  · rw [if_neg hend]
    dsimp only
    have hread := workLeft_readQuad w ctx submit
    have hwork : readWork ctx =
        2 * (ctx.quadletCount - ctx.quadletIndex) + 1 + followUp ctx.userCallback := by
      unfold readWork
      rw [if_neg hend, Nat.add_zero]
    by_cases hvalid : (w.readQuad ctx submit).1 = true
    · rw [if_pos hvalid]
      omega
    · rw [if_neg hvalid]
      have h := hfail (w.readQuad ctx submit).2 (quadletReadResult ctx false .hardwareError 0) rfl
      omega

/-- The second half of an operation. -/
lemma workLeft_readFinal (submit : SubmitOutcome) (w : RomReadWorld) (callback : FinalCallback)
    (target : ReadTarget) (offsetBytes quadletCount : ℕ) (policy : QuadletReadPolicy) :
    (readQuadletsBEImpl (callFinal target callback) submit w (.final callback) target offsetBytes
      quadletCount policy).workLeft ≤ w.workLeft + 2 * quadletCount + 1 := by
  unfold readQuadletsBEImpl
  split_ifs
  · simp only [callFinal, workLeft_answer]
    omega
  · apply workLeft_scheduleQuadletReadStep
    · intro w r
      exact Nat.le_refl _
    · intro w r _
      exact Nat.le_refl _

lemma workLeft_call (submit : SubmitOutcome) (target : ReadTarget) (callback : RomCallback)
    (w : RomReadWorld) (r : ReadResult) :
    (call submit target callback w r).workLeft ≤ w.workLeft + followUp callback := by
  cases callback with
  | final callback => exact Nat.le_refl _
  | bibHeader =>
    unfold call
    dsimp only
    split_ifs
    · exact Nat.le_add_right _ _
    · exact Nat.le_add_right _ _
    · apply (workLeft_readFinal submit w _ target _ _ _).trans
      have hlt : swap32 (r.quadletsBE.headD 0) / 2 ^ 24 % 2 ^ 8 < 2 ^ 8 := Nat.mod_lt _ (by simp)
      simp only [followUp]
      omega
  | rootHeader offsetBytes =>
    unfold call
    dsimp only
    split_ifs
    · exact Nat.le_add_right _ _
    · exact Nat.le_add_right _ _
    · apply (workLeft_readFinal submit w _ target _ _ _).trans
      have hle : min (swap32 (r.quadletsBE.headD 0) / 2 ^ 16 % 2 ^ 16) kHeaderFirstMaxEntries ≤ 64 :=
        Nat.min_le_right _ _
      simp only [followUp]
      omega

/-- A failed header starts nothing. -/
lemma workLeft_call_failed (submit : SubmitOutcome) (target : ReadTarget) (callback : RomCallback)
    (w : RomReadWorld) {r : ReadResult} (h : r.success = false) :
    (call submit target callback w r).workLeft ≤ w.workLeft := by
  have hguard : (!r.success) = true ∨ r.quadletsBE.length ≠ 1 := Or.inl (by simp [h])
  cases callback with
  | final callback => exact Nat.le_refl _
  | bibHeader =>
    unfold call
    dsimp only
    rw [if_pos hguard]
    exact Nat.le_refl _
  | rootHeader offsetBytes =>
    unfold call
    dsimp only
    rw [if_pos hguard]
    exact Nat.le_refl _

lemma workLeft_scheduleStep (submit : SubmitOutcome) (w : RomReadWorld)
    (ctx : QuadletReadContext) :
    (w.scheduleStep submit ctx).workLeft < w.workLeft + taskWork ctx := by
  have h : (scheduleQuadletReadStep (call submit ctx.target ctx.userCallback) submit w
      ctx).workLeft ≤
        w.workLeft + 2 * (ctx.quadletCount - ctx.quadletIndex) + 1 + followUp ctx.userCallback :=
    workLeft_scheduleQuadletReadStep (workLeft_call submit ctx.target ctx.userCallback)
      (fun w r hr => workLeft_call_failed submit ctx.target ctx.userCallback w hr) submit w
  unfold scheduleStep taskWork
  omega

lemma workLeft_handleQuadletReadComplete (submit : SubmitOutcome) (w : RomReadWorld)
    (ctx : QuadletReadContext) (status : AsyncStatus) (payload : List UInt8) :
    (w.handleQuadletReadComplete submit ctx status payload).workLeft <
      w.workLeft + readWork ctx := by
  unfold handleQuadletReadComplete
  dsimp only
  split_ifs
  · have h := workLeft_call submit ctx.target ctx.userCallback w
      (quadletReadResult ctx true status ctx.successCount)
    unfold readWork
    omega
  · have h := workLeft_call submit ctx.target ctx.userCallback w
      (quadletReadResult ctx false status 0)
    unfold readWork
    omega
  · generalize hctx : ({ ctx with
      buffer := ctx.buffer.set ctx.quadletIndex (Quadlets.le32At payload 0)
      successCount := ctx.successCount + 1
      quadletIndex := ctx.quadletIndex + 1 } : QuadletReadContext) = next
    have hnext : taskWork next ≤ readWork ctx - 1 := by
      subst hctx
      simp only [taskWork, readWork]
      split_ifs <;> omega
    have hpos : 0 < readWork ctx := by
      unfold readWork
      omega
    unfold scheduleNextQuadlet
    split_ifs
    · simp only [workLeft, List.map_append, List.sum_append, List.map_cons, List.map_nil,
        List.sum_cons, List.sum_nil]
      omega
    · have h := workLeft_scheduleStep submit w next
      omega

/-- The event delivers a callback the bus holds, or runs a queued step. -/
def Delivers (w : RomReadWorld) : RomReadEvent → Prop
  | .complete i _ _ _ => i < w.outstanding.length
  | .runTask i _ => i < w.tasks.length
  | .generationChanged _ => False

theorem workLeft_step {w : RomReadWorld} {e : RomReadEvent} (h : w.Delivers e) :
    (w.step e).workLeft < w.workLeft := by
  cases e with
  | complete i status payload submit =>
    obtain ⟨read, hread⟩ : ∃ read, w.outstanding[i]? = some read :=
      ⟨_, List.getElem?_eq_getElem h⟩
    have hsum := sum_map_eraseIdx (fun read => readWork read.ctx) hread
    simp only [step, hread]
    split_ifs
    · apply (workLeft_handleQuadletReadComplete submit _ read.ctx _ _).trans_le
      unfold workLeft
      dsimp only
      omega
    · apply (workLeft_handleQuadletReadComplete submit _ read.ctx _ _).trans_le
      unfold workLeft
      dsimp only
      omega
  | runTask i submit =>
    obtain ⟨ctx, hctx⟩ : ∃ ctx, w.tasks[i]? = some ctx := ⟨_, List.getElem?_eq_getElem h⟩
    have hsum := sum_map_eraseIdx taskWork hctx
    simp only [step, hctx]
    apply (workLeft_scheduleStep submit _ ctx).trans_le
    unfold workLeft
    dsimp only
    omega
  | generationChanged generation16 => exact h.elim

/-- Nothing is left to deliver or to run. -/
def Settled (w : RomReadWorld) : Prop := w.outstanding = [] ∧ w.tasks = []

instance (w : RomReadWorld) : Decidable w.Settled := inferInstanceAs (Decidable (_ ∧ _))

lemma exists_delivers {w : RomReadWorld} (h : ¬w.Settled) : ∃ e, w.Delivers e := by
  by_cases hout : w.outstanding = []
  · have htasks : w.tasks ≠ [] := fun hnil => h ⟨hout, hnil⟩
    exact ⟨.runTask 0 .accepted, List.length_pos_iff.mpr htasks⟩
  · exact ⟨.complete 0 .success [] .accepted, List.length_pos_iff.mpr hout⟩

/-- Delivering cannot go on for ever. -/
lemma deliveries_bounded {w : RomReadWorld} {events : List RomReadEvent}
    (h : Meets step Delivers w events) : events.length ≤ w.workLeft := by
  induction events generalizing w with
  | nil => exact Nat.zero_le _
  | cons e events ih =>
    have hlt := workLeft_step h.1
    have hle := ih h.2
    simp only [List.length_cons]
    omega

/-- The operation answers exactly once, when every read has been answered and every step has run,
if and only if no read was refused while the bus kept its callback; delivering what is left ends,
and goes on as long as something is left. -/
theorem answered_once_iff (generation16 : ℕ) (usesQueue : Bool) (target : ReadTarget)
    (submit : SubmitOutcome) (op : RomOperation) (events : List RomReadEvent) :
    let w := run step (start generation16 usesQueue target submit op) events
    (w.Settled → (w.results.length = 1 ↔ w.refused = 0)) ∧
      (w.refused = 0 → w.results.length ≤ 1) ∧
      (∀ more, Meets step Delivers w more → more.length ≤ w.workLeft) ∧
      (¬w.Settled → ∃ e, w.Delivers e) := by
  intro w
  have h : w.Conserved :=
    invariant_run (I := Conserved) (fun _ e hw => conserved_step hw e)
      (conserved_start generation16 usesQueue target submit op) events
  unfold Conserved chains at h
  refine ⟨?_, ?_, fun more hmore => deliveries_bounded hmore, exists_delivers⟩
  · rintro ⟨hout, htasks⟩
    rw [hout, htasks, List.length_nil, List.length_nil] at h
    omega
  · intro hrefused
    omega

/-- The bus is in generation 5 when a scan of generation 4 starts to read: the reader answers when
it sees the null handle, and once more when the posted callback arrives. -/
theorem refused_answers_twice :
    let posted := RomReadEvent.complete 0 .success [] .accepted
    let w := run step (start 5 true ⟨2, 4, 0⟩ .accepted .bib) [posted]
    w.Settled ∧ w.results.map ReadResult.status = [.hardwareError, .staleGeneration] ∧
      ¬w.results.length = 1 := by
  decide +kernel

end RomReadWorld

end ASFireWire.ConfigROM
