import ASFireWire.EfcLedger

/-! The attempts of the EFC transport: the serial of an attempt is at one place of its way from
`Send` to the response timer, and the command in flight is never without one unless its write was
refused. -/
namespace ASFireWire.Fireworks

open ASFireWire.Async

namespace EfcTransport

variable (s : EfcTransport)

/-- The attempt a task still has to get out or to watch over. -/
def taskSerial : Task → Option ℕ
  | .send snapshot => some snapshot.serial
  | .armTimeout serial => some serial
  | .recordTimer serial token => if token = 0 then some serial else none
  | _ => none

/-- Places at which something will still come of attempt `n`. -/
def watched (s : EfcTransport) (n : ℕ) : ℕ :=
  (s.tasks.filterMap taskSerial).count n + (s.writes.count n + s.timers.count n)

/-- The same with the timers that were cancelled. -/
def staged (s : EfcTransport) (n : ℕ) : ℕ := s.watched n + s.lateTimers.count n

lemma watched_addTask (t : Task) (n : ℕ) :
    (s.addTask t).watched n = s.watched n + (taskSerial t).toList.count n := by
  cases h : taskSerial t with
  | none => simp [watched, addTask, List.filterMap_append, h]
  | some m =>
    simp only [watched, addTask, List.filterMap_append, List.filterMap_cons, h,
      List.filterMap_nil, List.count_append, Option.toList_some]
    omega

lemma staged_addTask (t : Task) (n : ℕ) :
    (s.addTask t).staged n = s.staged n + (taskSerial t).toList.count n := by
  have h := s.watched_addTask t n
  simp only [staged] at h ⊢
  change (s.addTask t).watched n + s.lateTimers.count n = _
  omega

lemma watched_prepareSend (p : Pending) (n : ℕ) :
    (s.prepareSend p).watched n = s.watched n + one (s.nextSerial + 1) n :=
  s.watched_addTask _ n

lemma staged_prepareSend (p : Pending) (n : ℕ) :
    (s.prepareSend p).staged n = s.staged n + one (s.nextSerial + 1) n := s.staged_addTask _ n

lemma staged_detach (p : Pending) (status : IOReturn) (response : Option Response) (n : ℕ) :
    (s.detach p status response).staged n = s.staged n := s.staged_addTask _ n

lemma watched_cancelTimer {token n : ℕ} (h : token ≠ 0 → n ≠ token) :
    (s.cancelTimer token).watched n = s.watched n := by
  unfold cancelTimer
  split
  · rfl
  · rename_i htoken
    have hkept : (s.timers.filter (· ≠ token)).count n = s.timers.count n :=
      List.count_filter (by simpa using h htoken)
    simp only [watched, hkept]

lemma staged_cancelTimer (token n : ℕ) : (s.cancelTimer token).staged n = s.staged n := by
  unfold cancelTimer
  split
  · rfl
  · have hsplit : (s.timers.filter (· ≠ token)).count n + (s.timers.filter (· = token)).count n =
        s.timers.count n := by
      by_cases hn : n = token
      · have hgone : (s.timers.filter (· ≠ token)).count n = 0 :=
          List.count_eq_zero.mpr (by simp [hn])
        rw [hgone, List.count_filter (by simpa using hn), Nat.zero_add]
      · have hgone : (s.timers.filter (· = token)).count n = 0 :=
          List.count_eq_zero.mpr (by simp [hn])
        rw [hgone, List.count_filter (by simpa using hn), Nat.add_zero]
    simp only [staged, watched, List.count_append]
    omega

lemma watched_perm {tasks : List Task} (h : s.tasks.Perm tasks) (n : ℕ) :
    { s with tasks := tasks }.watched n = s.watched n := by
  have hcount := (h.filterMap taskSerial).count_eq n
  simp only [watched, hcount]

/-- Every attempt is at one place at most, and nothing is known of those to come. -/
structure Staged (s : EfcTransport) : Prop where
  once : ∀ n, s.staged n ≤ 1
  below : ∀ n, n = 0 ∨ s.nextSerial < n → s.staged n = 0
  inflight : ∀ p, s.inflight = some p → p.serial ≤ s.nextSerial ∧ p.timeout ≤ s.nextSerial
  idle : ∀ q ∈ s.queue, q.timeout = 0
  tokens : ∀ serial token, .recordTimer serial token ∈ s.tasks → token = 0 ∨ token = serial
  drained : ∀ ps status, .drain ps status ∈ s.tasks → ∀ p ∈ ps, p.timeout ≤ s.nextSerial ∧
    ∀ q, s.inflight = some q → p.timeout ≠ 0 → q.serial ≠ p.timeout

lemma Staged.mono {s s' : EfcTransport} (h : s.Staged) (hstaged : ∀ n, s'.staged n ≤ s.staged n)
    (hnext : s'.nextSerial = s.nextSerial)
    (hinflight : ∀ p', s'.inflight = some p' →
      ∃ p, s.inflight = some p ∧ p'.serial = p.serial ∧ p'.timeout ≤ s.nextSerial)
    (hqueue : ∀ q ∈ s'.queue, q.timeout = 0)
    (htokens : ∀ serial token, .recordTimer serial token ∈ s'.tasks → token = 0 ∨ token = serial)
    (hdrained : ∀ ps status, .drain ps status ∈ s'.tasks →
      (∃ ps', .drain ps' status ∈ s.tasks ∧ ps ⊆ ps') ∨
        s'.inflight = none ∧ ∀ p ∈ ps, p.timeout ≤ s.nextSerial) : s'.Staged := by
  refine ⟨fun n => (hstaged n).trans (h.once n), fun n hn => ?_, fun p' hp' => ?_, hqueue, htokens,
    fun ps status hdrain p hp => ?_⟩
  · have hzero := h.below n (by omega)
    have hle := hstaged n
    omega
  · obtain ⟨p, hp, hserial, htimeout⟩ := hinflight p' hp'
    have hbound := h.inflight p hp
    omega
  · rcases hdrained ps status hdrain with ⟨ps', hdrain', hsub⟩ | ⟨hnone, htimeout⟩
    · obtain ⟨hbound, hother⟩ := h.drained ps' status hdrain' p (hsub hp)
      refine ⟨by omega, fun q hq => ?_⟩
      obtain ⟨q', hq', hserial, -⟩ := hinflight q hq
      rw [hserial]
      exact hother q' hq'
    · refine ⟨by have := htimeout p hp; omega, fun q hq => ?_⟩
      rw [hnone] at hq
      cases hq

/-- Fewer places, the rest as it is. -/
lemma Staged.shrink {s s' : EfcTransport} (h : s.Staged) (hstaged : ∀ n, s'.staged n ≤ s.staged n)
    (hnext : s'.nextSerial = s.nextSerial) (hinflight : s'.inflight = s.inflight)
    (hqueue : s'.queue = s.queue) (htasks : s'.tasks = s.tasks) : s'.Staged := by
  refine h.mono hstaged hnext (fun p hp => ⟨p, hinflight ▸ hp, rfl, ?_⟩)
    (fun q hq => h.idle q (hqueue ▸ hq)) (fun serial token ht => h.tokens serial token (htasks ▸ ht))
    fun ps status ht => Or.inl ⟨ps, htasks ▸ ht, List.Subset.refl ps⟩
  exact (h.inflight p (hinflight ▸ hp)).2

lemma count_erase_add_one {serials : List ℕ} {serial : ℕ} (h : serial ∈ serials) (n : ℕ) :
    (serials.erase serial).count n + one serial n = serials.count n := by
  have hperm := (List.perm_cons_erase h).count_eq n
  rw [hperm, List.count_cons, one_eq]
  simp only [beq_iff_eq]

/-- The tasks that stay when one is taken out. -/
lemma Staged.tail {s : EfcTransport} (h : s.Staged) {task : Task} {rest : List Task}
    (hperm : s.tasks.Perm (task :: rest)) : Staged { s with tasks := rest } ∧
      ∀ n, { s with tasks := rest }.staged n + (taskSerial task).toList.count n = s.staged n := by
  have hcount : ∀ n,
      { s with tasks := rest }.staged n + (taskSerial task).toList.count n = s.staged n := by
    intro n
    have hperm' := s.watched_perm hperm n
    cases hserial : taskSerial task with
    | none =>
      simp only [staged, watched, List.filterMap_cons, hserial] at hperm' ⊢
      simp only [Option.toList_none, List.count_nil]
      omega
    | some m =>
      simp only [staged, watched, List.filterMap_cons, hserial, Option.toList_some,
        List.count_cons, List.count_nil] at hperm' ⊢
      omega
  have hmem : ∀ t ∈ rest, t ∈ s.tasks := by
    intro t ht
    exact hperm.mem_iff.mpr (List.mem_cons_of_mem task ht)
  refine ⟨h.mono (fun n => ?_) rfl (fun p hp => ⟨p, hp, rfl, (h.inflight p hp).2⟩) h.idle
    (fun serial token ht => h.tokens serial token (hmem _ ht))
    (fun ps status ht => Or.inl ⟨ps, hmem _ ht, List.Subset.refl ps⟩), hcount⟩
  have := hcount n
  omega

lemma Staged.prepareSend {s : EfcTransport} (h : s.Staged) {p : Pending}
    (hp : p.timeout ≤ s.nextSerial) : (s.prepareSend p).Staged := by
  have hnew : s.staged (s.nextSerial + 1) = 0 := h.below _ (Or.inr (Nat.lt_succ_self _))
  refine ⟨fun n => ?_, fun n hn => ?_, fun q hq => ?_, h.idle, fun serial token ht => ?_,
    fun ps status ht q hq => ?_⟩
  · rw [staged_prepareSend, one_eq]
    have := h.once n
    split_ifs with hn
    · subst hn
      omega
    · omega
  · change n = 0 ∨ s.nextSerial + 1 < n at hn
    rw [staged_prepareSend, h.below n (by omega), one_eq, if_neg (by omega)]
  · cases hq
    exact ⟨le_rfl, Nat.le_succ_of_le hp⟩
  · rcases List.mem_append.mp ht with hold | hnew
    · exact h.tokens serial token hold
    · simp at hnew
  · rcases List.mem_append.mp ht with hold | hnew
    · have hbound := (h.drained ps status hold q hq).1
      refine ⟨Nat.le_succ_of_le hbound, fun q' hq' _ => ?_⟩
      cases hq'
      change s.nextSerial + 1 ≠ q.timeout
      omega
    · simp at hnew

lemma Staged.detach {s : EfcTransport} (h : s.Staged) (p : Pending) (status : IOReturn)
    (response : Option Response) : (s.detach p status response).Staged := by
  refine h.mono (fun n => (s.staged_detach p status response n).le) rfl (fun q hq => ?_) h.idle
    (fun serial token ht => ?_) (fun ps status ht => ?_)
  · cases hq
  · rcases List.mem_append.mp ht with hold | hnew
    · exact h.tokens serial token hold
    · simp at hnew
  · rcases List.mem_append.mp ht with hold | hnew
    · exact Or.inl ⟨ps, hold, List.Subset.refl ps⟩
    · simp at hnew

lemma Staged.retry {s : EfcTransport} (h : s.Staged) {p : Pending}
    (hp : p.timeout ≤ s.nextSerial) : (s.retry p).Staged := by
  unfold EfcTransport.retry
  split
  · exact h.prepareSend hp
  · exact h.detach p _ _

lemma Staged.cancelTimer {s : EfcTransport} (h : s.Staged) (token : ℕ) :
    (s.cancelTimer token).Staged := by
  have hstaged := fun n => (s.staged_cancelTimer token n).le
  unfold EfcTransport.cancelTimer at hstaged ⊢
  split
  · exact h
  · rename_i htoken
    rw [if_neg htoken] at hstaged
    exact h.mono hstaged rfl (fun p hp => ⟨p, hp, rfl, (h.inflight p hp).2⟩) h.idle h.tokens
      fun ps status ht => Or.inl ⟨ps, ht, List.Subset.refl ps⟩

/-- Rewriting the command in flight within its attempt. -/
lemma Staged.rewrite {s : EfcTransport} (h : s.Staged) {p q : Pending} (hp : s.inflight = some p)
    (hserial : q.serial = p.serial) (htimeout : q.timeout ≤ s.nextSerial) :
    Staged { s with inflight := some q } := by
  refine h.mono (fun n => le_rfl) rfl (fun q' hq' => ?_) h.idle h.tokens
    fun ps status ht => Or.inl ⟨ps, ht, List.Subset.refl ps⟩
  cases hq'
  exact ⟨p, hp, hserial, htimeout⟩

/-- More tasks, as long as they leave `staged` within its bounds. -/
lemma Staged.addTask {s : EfcTransport} (h : s.Staged) {task : Task}
    (hserial : ∀ n, s.staged n + (taskSerial task).toList.count n ≤ 1)
    (hbelow : ∀ n, n = 0 ∨ s.nextSerial < n → (taskSerial task).toList.count n = 0)
    (htoken : ∀ serial token, task = .recordTimer serial token → token = 0 ∨ token = serial)
    (hdrained : ∀ ps status, task = .drain ps status → ∀ p ∈ ps, p.timeout ≤ s.nextSerial ∧
      ∀ q, s.inflight = some q → p.timeout ≠ 0 → q.serial ≠ p.timeout) :
    (s.addTask task).Staged := by
  refine ⟨fun n => ?_, fun n hn => ?_, h.inflight, h.idle, fun serial token ht => ?_,
    fun ps status ht => ?_⟩
  · rw [staged_addTask]
    exact hserial n
  · rw [staged_addTask, h.below n hn, hbelow n hn]
  · rcases List.mem_append.mp ht with hold | hnew
    · exact h.tokens serial token hold
    · exact htoken serial token (List.mem_singleton.mp hnew).symm
  · rcases List.mem_append.mp ht with hold | hnew
    · exact h.drained ps status hold
    · exact hdrained ps status (List.mem_singleton.mp hnew).symm

/-- A task that watches over no attempt. -/
lemma Staged.addInert {s : EfcTransport} (h : s.Staged) {task : Task}
    (hinert : taskSerial task = none) (hdrain : ∀ ps status, task ≠ .drain ps status)
    (htoken : ∀ serial token, task = .recordTimer serial token → token = serial) :
    (s.addTask task).Staged := by
  refine h.addTask (fun n => ?_) (fun n _ => ?_) (fun serial token ht => Or.inr (htoken _ _ ht))
    fun ps status ht => absurd ht (hdrain ps status)
  · rw [hinert]
    exact h.once n
  · rw [hinert]
    rfl

/-- A place that watched over attempt `serial` hands it to a task. -/
lemma Staged.addWatch {s t : EfcTransport} (h : s.Staged) (ht : t.Staged) {serial : ℕ}
    (hcount : ∀ n, t.staged n + one serial n = s.staged n) (hnext : t.nextSerial = s.nextSerial)
    {task : Task} (htask : taskSerial task = some serial)
    (hdrain : ∀ ps status, task ≠ .drain ps status)
    (htoken : ∀ serial token, task = .recordTimer serial token → token = 0) :
    (t.addTask task).Staged := by
  refine ht.addTask (fun n => ?_) (fun n hn => ?_) (fun _ _ heq => Or.inl (htoken _ _ heq))
    fun ps status heq => absurd heq (hdrain ps status)
  · rw [htask]
    have hc := hcount n
    have ho := h.once n
    simp only [one, Option.toList_some] at hc ⊢
    omega
  · rw [htask]
    have hc := hcount n
    have hb := h.below n (by omega)
    simp only [one, Option.toList_some] at hc ⊢
    omega

lemma Staged.onWriteCompleted {s t : EfcTransport} (h : s.Staged) (ht : t.Staged) {serial : ℕ}
    (hcount : ∀ n, t.staged n + one serial n = s.staged n) (hnext : t.nextSerial = s.nextSerial)
    (status : AsyncStatus) : (t.onWriteCompleted serial status).Staged := by
  unfold EfcTransport.onWriteCompleted
  split
  · exact ht
  · rename_i p hp
    have htimeout := (ht.inflight p hp).2
    split
    · exact ht
    · split
      · have hwatch : (t.addTask (.armTimeout serial)).Staged :=
          h.addWatch ht hcount hnext rfl (by simp) (by simp)
        exact hwatch.rewrite (s := t.addTask (.armTimeout serial)) hp rfl htimeout
      · exact ht.retry htimeout
      · exact ht.retry htimeout
      · exact ht.detach _ _ _
      · exact ht.detach _ _ _
      · exact ht.detach _ _ _

lemma Staged.onTimeout {s : EfcTransport} (h : s.Staged) (serial : ℕ) :
    (s.onTimeout serial).Staged := by
  unfold EfcTransport.onTimeout
  split
  · exact h
  · split
    · exact h
    · exact h.retry (Nat.zero_le _)

lemma Staged.onResponse {s : EfcTransport} (h : s.Staged) (sourceID : ℕ) (payload : List UInt8) :
    (s.onResponse sourceID payload).Staged := by
  unfold EfcTransport.onResponse
  split
  · split
    · exact h
    · exact (h.cancelTimer _).detach _ _ _
  · exact h

lemma Staged.startNext {s : EfcTransport} (h : s.Staged) : s.startNext.Staged := by
  unfold EfcTransport.startNext
  split
  · rename_i p rest hinflight hqueue
    have hidle : p.timeout = 0 := h.idle p (by simp [hqueue])
    have hrest : Staged { s with queue := rest } :=
      h.mono (fun n => le_rfl) rfl (fun q hq => ⟨q, hq, rfl, (h.inflight q hq).2⟩)
        (fun q hq => h.idle q (by rw [hqueue]; exact List.mem_cons_of_mem p hq)) h.tokens
        fun ps status ht => Or.inl ⟨ps, ht, List.Subset.refl ps⟩
    dsimp only
    split
    · exact hrest.detach _ _ _
    · refine hrest.prepareSend ?_
      rw [hidle]
      exact Nat.zero_le _
  · exact h

lemma Staged.recordTimer {s : EfcTransport} (h : s.Staged) {serial token : ℕ}
    (htoken : token = 0 ∨ token = serial) : (s.recordTimer serial token).Staged := by
  unfold EfcTransport.recordTimer
  split
  · exact h.cancelTimer token
  · rename_i p hp
    split
    · rename_i hserial
      have hbound := (h.inflight p hp).1
      split
      · exact h.detach _ _ _
      · exact h.rewrite hp rfl (by
          change token ≤ s.nextSerial
          omega)
    · exact h.cancelTimer token

lemma Staged.drain {s : EfcTransport} (h : s.Staged) {ps : List Pending} (status : IOReturn)
    (hps : ∀ p ∈ ps, p.timeout ≤ s.nextSerial ∧
      ∀ q, s.inflight = some q → p.timeout ≠ 0 → q.serial ≠ p.timeout) :
    (s.drain ps status).Staged := by
  cases ps with
  | nil => exact h
  | cons p rest =>
    have hcancel := h.cancelTimer p.timeout
    have hsame : (s.cancelTimer p.timeout).inflight = s.inflight ∧
        (s.cancelTimer p.timeout).nextSerial = s.nextSerial := by
      unfold EfcTransport.cancelTimer
      split
      · exact ⟨rfl, rfl⟩
      · exact ⟨rfl, rfl⟩
    have hadded : ((s.cancelTimer p.timeout).addTask (.drain rest status)).Staged := by
      refine hcancel.addTask (fun n => by simpa [taskSerial] using hcancel.once n)
        (fun n _ => rfl) (fun serial token ht => by simp at ht) fun ps' status' ht q hq => ?_
      obtain ⟨rfl, -⟩ := Task.drain.inj ht
      rw [hsame.1, hsame.2]
      exact hps q (List.mem_cons_of_mem p hq)
    exact ⟨hadded.once, hadded.below, hadded.inflight, hadded.idle, hadded.tokens, hadded.drained⟩

lemma Staged.runTask {s : EfcTransport} (h : s.Staged) {task : Task} {rest : List Task}
    (hperm : s.tasks.Perm (task :: rest)) (answer : ℕ) :
    (runTask { s with tasks := rest } task answer).Staged := by
  obtain ⟨ht, hcount⟩ := h.tail hperm
  have hmem : task ∈ s.tasks := hperm.mem_iff.mpr List.mem_cons_self
  generalize hrest : { s with tasks := rest } = t at ht hcount ⊢
  have hnext : t.nextSerial = s.nextSerial := by rw [← hrest]
  have hinflight : t.inflight = s.inflight := by rw [← hrest]
  cases task with
  | startNext => exact ht.startNext
  | send snapshot =>
    have hsent : (t.addTask (.recordWrite snapshot.serial snapshot.attempt answer)).Staged :=
      ht.addInert rfl (by simp) (by simp)
    by_cases hanswer : answer = 0
    · have heq : t.runTask (.send snapshot) answer =
          { t.addTask (.recordWrite snapshot.serial snapshot.attempt answer) with
            written := t.written ++ [snapshot] } := by
        simp [EfcTransport.runTask, EfcTransport.send, hanswer, EfcTransport.addTask]
      rw [heq]
      exact ⟨hsent.once, hsent.below, hsent.inflight, hsent.idle, hsent.tokens, hsent.drained⟩
    · have hstaged : ∀ n, (t.runTask (.send snapshot) answer).staged n = s.staged n := by
        intro n
        have hc := hcount n
        simp only [EfcTransport.runTask, EfcTransport.send, if_neg hanswer, staged, watched,
          EfcTransport.addTask, List.filterMap_append, List.filterMap_cons, List.filterMap_nil,
          taskSerial, List.append_nil, List.count_append, Option.toList_some] at hc ⊢
        omega
      refine ⟨fun n => ?_, fun n hn => ?_, hsent.inflight, hsent.idle, hsent.tokens,
        hsent.drained⟩
      · rw [hstaged]
        exact h.once n
      · rw [hstaged]
        exact h.below n (by
          change n = 0 ∨ t.nextSerial < n at hn
          omega)
  | recordWrite serial attempt handle =>
    change (t.recordWrite serial attempt handle).Staged
    unfold EfcTransport.recordWrite
    split
    · exact ht
    · rename_i p hp
      split
      · exact ht.rewrite hp rfl (ht.inflight p hp).2
      · exact ht
  | armTimeout serial =>
    have hone : ∀ n, t.staged n + one serial n = s.staged n := hcount
    change (t.armTimeout serial _).Staged
    unfold EfcTransport.armTimeout
    split
    · have hserial : serial ≠ 0 := by
        rintro rfl
        have hc := hone 0
        rw [h.below 0 (Or.inl rfl), one_eq, if_pos rfl] at hc
        omega
      have hadded : (t.addTask (.recordTimer serial serial)).Staged :=
        ht.addInert (by simp [taskSerial, hserial]) (by simp) (by simp)
      have hstaged : ∀ n, staged { t.addTask (.recordTimer serial serial) with
          timers := t.timers ++ [serial] } n = s.staged n := by
        intro n
        have hc := hone n
        simp only [one, staged, watched, EfcTransport.addTask, List.filterMap_append,
          List.filterMap_cons, List.filterMap_nil, taskSerial, if_neg hserial, List.append_nil,
          List.count_append] at hc ⊢
        omega
      refine ⟨fun n => ?_, fun n hn => ?_, hadded.inflight, hadded.idle, hadded.tokens,
        hadded.drained⟩
      · rw [hstaged]
        exact h.once n
      · rw [hstaged]
        exact h.below n (by
          change n = 0 ∨ t.nextSerial < n at hn
          omega)
    · exact h.addWatch ht hone hnext rfl (by simp) (by simp)
  | recordTimer serial token => exact ht.recordTimer (h.tokens serial token hmem)
  | complete done status response =>
    have hadded : (t.addTask .startNext).Staged := ht.addInert rfl (by simp) (by simp)
    exact ⟨hadded.once, hadded.below, hadded.inflight, hadded.idle, hadded.tokens, hadded.drained⟩
  | drain ps status =>
    refine ht.drain status fun p hp => ?_
    rw [hnext, hinflight]
    exact h.drained ps status hmem p hp

lemma Staged.stepped {s s' : EfcTransport} (h : s.Staged) {e : EfcEvent} (hstep : Stepped s e s') :
    s'.Staged := by
  cases hstep with
  | same => exact h
  | submit category command params =>
    have hadded : (s.addTask .startNext).Staged := h.addInert rfl (by simp) (by simp)
    refine ⟨hadded.once, hadded.below, hadded.inflight, fun q hq => ?_, hadded.tokens,
      hadded.drained⟩
    rcases List.mem_append.mp hq with hold | hnew
    · exact h.idle q hold
    · rw [List.mem_singleton.mp hnew]
  | setRoute route =>
    exact ⟨h.once, h.below, h.inflight, h.idle, h.tokens, h.drained⟩
  | cancelAll status =>
    refine h.mono (fun n => (s.staged_addTask _ n).le) rfl (fun p hp => ?_) (fun q hq => ?_)
      (fun serial token ht => ?_) (fun ps status' ht => ?_)
    · cases hp
    · cases hq
    · rcases List.mem_append.mp ht with hold | hnew
      · exact h.tokens serial token hold
      · simp at hnew
    · rcases List.mem_append.mp ht with hold | hnew
      · exact Or.inl ⟨ps, hold, List.Subset.refl ps⟩
      · obtain ⟨rfl, -⟩ := Task.drain.inj (List.mem_singleton.mp hnew)
        refine Or.inr ⟨rfl, fun p hp => ?_⟩
        rcases List.mem_append.mp hp with hinflight | hqueue
        · exact (h.inflight p (by simpa using hinflight)).2
        · rw [h.idle p hqueue]
          exact Nat.zero_le _
  | response sourceID payload =>
    have hresponse := h.onResponse sourceID payload
    exact ⟨hresponse.once, hresponse.below, hresponse.inflight, hresponse.idle, hresponse.tokens,
      hresponse.drained⟩
  | writeCompleted serial status hmem =>
    have hcount : ∀ n, { s with writes := s.writes.erase serial }.staged n + one serial n =
        s.staged n := by
      intro n
      have herase := count_erase_add_one hmem n
      simp only [staged, watched]
      omega
    have hleft : Staged { s with writes := s.writes.erase serial } := by
      refine h.shrink (fun n => ?_) rfl rfl rfl rfl
      have := hcount n
      omega
    exact h.onWriteCompleted hleft hcount rfl status
  | timerExpired serial hmem =>
    have hleft : Staged { s with timers := s.timers.erase serial } := by
      refine h.shrink (fun n => ?_) rfl rfl rfl rfl
      have herase := count_erase_add_one hmem n
      simp only [staged, watched]
      omega
    exact hleft.onTimeout serial
  | lateTimer serial hmem =>
    have hleft : Staged { s with lateTimers := s.lateTimers.erase serial } := by
      refine h.shrink (fun n => ?_) rfl rfl rfl rfl
      have herase := count_erase_add_one hmem n
      simp only [staged, watched]
      omega
    exact hleft.onTimeout serial
  | run index answer task rest htask hperm => exact h.runTask hperm answer

/-! ### The command in flight -/

/-- The task that sends the first attempt of a command. -/
def isFirst : Task → Bool
  | .send snapshot => snapshot.attempt = 1
  | _ => false

/-- `WriteBlock` does not refuse the attempt in flight, and `StartNext` takes up no command while
the first write of an earlier one is still to be made. -/
def TaskKept (s : EfcTransport) (task : Task) (answer : ℕ) : Prop :=
  match task with
  | .send snapshot => answer = 0 → s.inflight.map (·.serial) ≠ some snapshot.serial
  | .startNext => s.inflight = none → s.queue = [] ∨ s.tasks.all (!isFirst ·)
  | _ => True

/-- In addition, `CancelAll` is called with the status of a failure. -/
def Kept (s : EfcTransport) : EfcEvent → Prop
  | .cancelAll status => status ≠ .success
  | .run index answer => ∀ task ∈ s.tasks[index]?, s.TaskKept task answer
  | _ => True

instance (s : EfcTransport) (task : Task) (answer : ℕ) : Decidable (s.TaskKept task answer) := by
  unfold TaskKept
  split
  · infer_instance
  · infer_instance
  · infer_instance

instance (s : EfcTransport) (e : EfcEvent) : Decidable (s.Kept e) := by
  unfold Kept
  split
  · infer_instance
  · infer_instance
  · infer_instance

/-- Something will still come of the attempt in flight. -/
def Live (s : EfcTransport) : Prop := ∀ p, s.inflight = some p → 0 < s.watched p.serial

lemma Live.mono {s s' : EfcTransport} (h : s.Live) (hinflight : ∀ p', s'.inflight = some p' →
    ∃ p, s.inflight = some p ∧ p'.serial = p.serial ∧ s.watched p.serial ≤ s'.watched p.serial) :
    s'.Live := by
  intro p' hp'
  obtain ⟨p, hp, hserial, hle⟩ := hinflight p' hp'
  rw [hserial]
  exact (h p hp).trans_le hle

lemma live_of_none {s : EfcTransport} (h : s.inflight = none) : s.Live := by
  intro p hp
  rw [h] at hp
  cases hp

lemma live_prepareSend (p : Pending) : (s.prepareSend p).Live := by
  intro q hq
  cases hq
  change 0 < (s.prepareSend p).watched (s.nextSerial + 1)
  rw [watched_prepareSend, one_eq, if_pos rfl]
  exact Nat.succ_pos _

lemma live_retry (p : Pending) : (s.retry p).Live := by
  unfold retry
  split
  · exact s.live_prepareSend p
  · exact live_of_none rfl

/-- Threads, writes and timers whose serial is not in flight come and go. -/
lemma Live.frame {s s' : EfcTransport} (h : s.Live) (hinflight : s'.inflight = s.inflight)
    (hwatched : ∀ p, s.inflight = some p → s.watched p.serial ≤ s'.watched p.serial) : s'.Live := by
  refine h.mono fun p hp => ?_
  rw [hinflight] at hp
  exact ⟨p, hp, rfl, hwatched p hp⟩

lemma Live.onWriteCompleted {s t : EfcTransport} (h : s.Live) {serial : ℕ}
    (hcount : ∀ n, t.watched n + one serial n = s.watched n) (hinflight : t.inflight = s.inflight)
    (status : AsyncStatus) : (t.onWriteCompleted serial status).Live := by
  unfold EfcTransport.onWriteCompleted
  split
  · rename_i hnone
    exact live_of_none hnone
  · rename_i p hp
    split
    · rename_i hserial
      refine h.frame hinflight fun q hq => ?_
      obtain rfl : p = q := Option.some.inj (hp.symm.trans (hinflight.trans hq))
      rw [← hcount, one_eq, if_neg (Ne.symm hserial)]
      exact le_rfl
    · rename_i hserial
      split
      · intro q hq
        cases hq
        change 0 < (t.addTask (.armTimeout serial)).watched p.serial
        rw [watched_addTask, not_not.mp hserial]
        simp [taskSerial]
      · exact t.live_retry _
      · exact t.live_retry _
      · exact live_of_none rfl
      · exact live_of_none rfl
      · exact live_of_none rfl

lemma Live.onTimeout {s t : EfcTransport} (h : s.Live) {serial : ℕ}
    (hwatched : ∀ n, n ≠ serial → t.watched n = s.watched n) (hinflight : t.inflight = s.inflight) :
    (t.onTimeout serial).Live := by
  unfold EfcTransport.onTimeout
  split
  · rename_i hnone
    exact live_of_none hnone
  · rename_i p hp
    split
    · rename_i hserial
      refine h.frame hinflight fun q hq => ?_
      obtain rfl : p = q := Option.some.inj (hp.symm.trans (hinflight.trans hq))
      exact (hwatched _ hserial).ge
    · exact t.live_retry _

lemma Live.onResponse {s : EfcTransport} (h : s.Live) (sourceID : ℕ) (payload : List UInt8) :
    (s.onResponse sourceID payload).Live := by
  unfold EfcTransport.onResponse
  split
  · split
    · exact h
    · exact live_of_none rfl
  · exact h

lemma Live.startNext {s : EfcTransport} (h : s.Live) : s.startNext.Live := by
  unfold EfcTransport.startNext
  split
  · dsimp only
    split
    · exact live_of_none rfl
    · exact live_prepareSend _ _
  · exact h

/-- Cancelling a timer of another attempt. -/
lemma Live.cancelTimer {s : EfcTransport} (h : s.Live) {token : ℕ}
    (htoken : ∀ p, s.inflight = some p → token ≠ 0 → p.serial ≠ token) :
    (s.cancelTimer token).Live :=
  h.frame (s.cancelTimer_inflight token) fun p hp => (s.watched_cancelTimer (htoken p hp)).ge

lemma Live.recordTimer {s t : EfcTransport} (h : s.Live) {serial token : ℕ}
    (hcount : ∀ n, t.watched n + (if token = 0 then one serial n else 0) = s.watched n)
    (hinflight : t.inflight = s.inflight) (htoken : token = 0 ∨ token = serial) :
    (t.recordTimer serial token).Live := by
  unfold EfcTransport.recordTimer
  split
  · rename_i hnone
    exact live_of_none ((t.cancelTimer_inflight token).trans hnone)
  · rename_i p hp
    have hsame : ∀ n, token ≠ 0 → t.watched n = s.watched n := by
      intro n hne
      rw [← hcount n, if_neg hne, Nat.add_zero]
    split
    · split
      · exact live_of_none rfl
      · rename_i hne
        intro q hq
        cases hq
        change 0 < t.watched p.serial
        rw [hsame _ hne]
        exact h p (hinflight ▸ hp)
    · rename_i hserial
      have hother : t.watched p.serial = s.watched p.serial := by
        rw [← hcount, one_eq, if_neg (Ne.symm hserial)]
        split_ifs <;> rfl
      have ht : t.Live := by
        refine h.frame hinflight fun q hq => ?_
        obtain rfl : p = q := Option.some.inj (hp.symm.trans (hinflight.trans hq))
        exact hother.ge
      refine ht.cancelTimer fun q hq hne => ?_
      obtain rfl : p = q := Option.some.inj (hp.symm.trans hq)
      rcases htoken with hzero | hsame
      · exact absurd hzero hne
      · rw [hsame]
        exact hserial

lemma Live.runTask {s : EfcTransport} (h : s.Live) (hs : s.Staged) {task : Task} {rest : List Task}
    (hperm : s.tasks.Perm (task :: rest)) {answer : ℕ} (hkept : s.TaskKept task answer) :
    (runTask { s with tasks := rest } task answer).Live := by
  have hcount : ∀ n,
      { s with tasks := rest }.watched n + (taskSerial task).toList.count n = s.watched n := by
    intro n
    have hstaged := (hs.tail hperm).2 n
    simp only [staged] at hstaged
    omega
  have hmem : task ∈ s.tasks := hperm.mem_iff.mpr List.mem_cons_self
  generalize hrest : { s with tasks := rest } = t at hcount ⊢
  have hinflight : t.inflight = s.inflight := by rw [← hrest]
  have hinert : taskSerial task = none → t.Live := by
    intro hnone
    refine h.frame hinflight fun p _ => ?_
    rw [← hcount, hnone]
    exact le_rfl
  cases task with
  | startNext => exact (hinert rfl).startNext
  | send snapshot =>
    refine h.frame hinflight fun p hp => ?_
    have hc := hcount p.serial
    by_cases hanswer : answer = 0
    · have hserial : snapshot.serial ≠ p.serial := by
        intro heq
        exact hkept hanswer (by simp [hp, heq])
      change _ ≤ (t.send snapshot answer).watched p.serial
      simp only [taskSerial, Option.toList_some, List.count_singleton, beq_iff_eq, hserial,
        if_false, Nat.add_zero] at hc
      rw [← hc, hanswer]
      simp [EfcTransport.send, watched, EfcTransport.addTask, List.filterMap_append, taskSerial]
    · change _ ≤ (t.send snapshot answer).watched p.serial
      simp only [EfcTransport.send, if_neg hanswer, watched, EfcTransport.addTask,
        List.filterMap_append, List.filterMap_cons, List.filterMap_nil, taskSerial,
        List.append_nil, List.count_append, Option.toList_some] at hc ⊢
      omega
  | recordWrite serial attempt handle =>
    have ht := hinert rfl
    change (t.recordWrite serial attempt handle).Live
    unfold EfcTransport.recordWrite
    split
    · exact ht
    · rename_i p hp
      split
      · exact ht.mono fun q hq => ⟨p, hp, by cases hq; rfl, le_rfl⟩
      · exact ht
  | armTimeout serial =>
    refine h.frame ?_ fun p _ => ?_
    · change (t.armTimeout serial _).inflight = s.inflight
      unfold EfcTransport.armTimeout
      split
      · exact hinflight
      · exact hinflight
    · have hc := hcount p.serial
      change _ ≤ (t.armTimeout serial _).watched p.serial
      unfold EfcTransport.armTimeout
      split
      · by_cases hserial : serial = 0
        · simp only [watched, EfcTransport.addTask, List.filterMap_append, List.filterMap_cons,
            List.filterMap_nil, taskSerial, if_pos hserial, List.count_append,
            Option.toList_some] at hc ⊢
          omega
        · simp only [watched, EfcTransport.addTask, List.filterMap_append, List.filterMap_cons,
            List.filterMap_nil, taskSerial, if_neg hserial, List.append_nil, List.count_append,
            Option.toList_some] at hc ⊢
          omega
      · rw [watched_addTask, ← hc]
        exact le_rfl
  | recordTimer serial token =>
    refine h.recordTimer (fun n => ?_) hinflight (hs.tokens serial token hmem)
    rw [← hcount]
    by_cases htoken : token = 0
    · simp [taskSerial, htoken, one]
    · simp [taskSerial, htoken]
  | complete done status response =>
    refine (hinert rfl).frame rfl fun p _ => ?_
    change t.watched _ ≤ (t.addTask .startNext).watched _
    rw [watched_addTask]
    exact le_rfl
  | drain ps status =>
    have ht := hinert rfl
    cases ps with
    | nil => exact ht
    | cons p ps =>
      have hcancel : (t.cancelTimer p.timeout).Live := ht.cancelTimer fun q hq hne =>
        (hs.drained _ _ hmem p List.mem_cons_self).2 q (hinflight ▸ hq) hne
      refine hcancel.frame rfl fun q _ => ?_
      change _ ≤ ((t.cancelTimer p.timeout).addTask (.drain ps status)).watched _
      rw [watched_addTask]
      exact le_rfl

lemma Live.stepped {s s' : EfcTransport} (h : s.Live) (hs : s.Staged) {e : EfcEvent}
    (hkept : s.Kept e) (hstep : Stepped s e s') : s'.Live := by
  cases hstep with
  | same => exact h
  | submit category command params =>
    refine h.frame rfl fun p _ => ?_
    change _ ≤ (s.addTask .startNext).watched _
    rw [watched_addTask]
    exact le_rfl
  | setRoute route => exact h
  | cancelAll status => exact live_of_none rfl
  | response sourceID payload => exact h.onResponse sourceID payload
  | writeCompleted serial status hmem =>
    have hcount : ∀ n, { s with writes := s.writes.erase serial }.watched n + one serial n =
        s.watched n := by
      intro n
      have herase := count_erase_add_one hmem n
      simp only [watched]
      omega
    exact h.onWriteCompleted hcount rfl status
  | timerExpired serial hmem =>
    refine h.onTimeout (fun n hn => ?_) rfl
    simp only [watched, List.count_erase_of_ne hn]
  | lateTimer serial hmem => exact h.onTimeout (fun n _ => rfl) rfl
  | run index answer task rest htask hperm => exact h.runTask hs hperm (hkept task htask)

/-! ### The queue -/

/-- After this task a thread looks at the queue. -/
def leadsOn : Task → Bool
  | .startNext => true
  | .complete .. => true
  | _ => false

/-- While commands are queued one is in flight or a thread is on its way to the queue. -/
def Queued (s : EfcTransport) : Prop :=
  s.queue = [] ∨ s.inflight.isSome ∨ s.tasks.any leadsOn

lemma Queued.frame {s s' : EfcTransport} (h : s.Queued) (hqueue : s'.queue = s.queue)
    (hinflight : s'.inflight.isSome = s.inflight.isSome)
    (htasks : s.tasks.any leadsOn → s'.tasks.any leadsOn) : s'.Queued := by
  rcases h with hempty | hsome | hany
  · exact Or.inl (hqueue.trans hempty)
  · exact Or.inr (Or.inl (hinflight.trans hsome))
  · exact Or.inr (Or.inr (htasks hany))

lemma queued_detach (p : Pending) (status : IOReturn) (response : Option Response) :
    (s.detach p status response).Queued := by
  refine Or.inr (Or.inr ?_)
  simp [detach, addTask, leadsOn]

lemma queued_retry (p : Pending) : (s.retry p).Queued := by
  unfold retry
  split
  · exact Or.inr (Or.inl rfl)
  · exact s.queued_detach p _ _

lemma any_addTask {s : EfcTransport} {task : Task} (h : s.tasks.any leadsOn) :
    (s.addTask task).tasks.any leadsOn := by
  rw [addTask, List.any_append, h]
  rfl

lemma Queued.cancelTimer {s : EfcTransport} (h : s.Queued) (token : ℕ) :
    (s.cancelTimer token).Queued := by
  unfold EfcTransport.cancelTimer
  split
  · exact h
  · exact h

lemma Queued.onWriteCompleted {s : EfcTransport} (h : s.Queued) (serial : ℕ)
    (status : AsyncStatus) : (s.onWriteCompleted serial status).Queued := by
  unfold EfcTransport.onWriteCompleted
  split
  · exact h
  · split
    · exact h
    · split
      · exact Or.inr (Or.inl rfl)
      · exact s.queued_retry _
      · exact s.queued_retry _
      · exact s.queued_detach _ _ _
      · exact s.queued_detach _ _ _
      · exact s.queued_detach _ _ _

lemma Queued.onTimeout {s : EfcTransport} (h : s.Queued) (serial : ℕ) :
    (s.onTimeout serial).Queued := by
  unfold EfcTransport.onTimeout
  split
  · exact h
  · split
    · exact h
    · exact s.queued_retry _

lemma Queued.onResponse {s : EfcTransport} (h : s.Queued) (sourceID : ℕ) (payload : List UInt8) :
    (s.onResponse sourceID payload).Queued := by
  unfold EfcTransport.onResponse
  split
  · split
    · exact h
    · exact queued_detach _ _ _ _
  · exact h

lemma Queued.recordTimer {s : EfcTransport} (h : s.Queued) (serial token : ℕ) :
    (s.recordTimer serial token).Queued := by
  unfold EfcTransport.recordTimer
  split
  · exact h.cancelTimer token
  · split
    · split
      · exact s.queued_detach _ _ _
      · exact Or.inr (Or.inl rfl)
    · exact h.cancelTimer token

/-- `StartNext` leaves no queue behind that nothing leads on to. -/
lemma queued_startNext : s.startNext.Queued := by
  unfold startNext
  split
  · dsimp only
    split
    · exact queued_detach _ _ _ _
    · exact Or.inr (Or.inl rfl)
  · rename_i hother
    cases hinflight : s.inflight with
    | some p => exact Or.inr (Or.inl (by rw [hinflight]; rfl))
    | none =>
      cases hqueue : s.queue with
      | nil => exact Or.inl hqueue
      | cons p rest => exact absurd hqueue (hother p rest hinflight)

lemma Queued.runTask {s : EfcTransport} (h : s.Queued) {task : Task} {rest : List Task}
    (hperm : s.tasks.Perm (task :: rest)) (answer : ℕ) :
    (runTask { s with tasks := rest } task answer).Queued := by
  have hrest : leadsOn task = false → Queued { s with tasks := rest } := by
    intro hfalse
    refine h.frame rfl rfl fun hany => ?_
    rw [hperm.any_eq, List.any_cons, hfalse, Bool.false_or] at hany
    exact hany
  generalize { s with tasks := rest } = t at hrest ⊢
  cases task with
  | startNext => exact t.queued_startNext
  | send snapshot => exact (hrest rfl).frame rfl rfl any_addTask
  | recordWrite serial attempt handle =>
    have ht := hrest rfl
    change (t.recordWrite serial attempt handle).Queued
    unfold EfcTransport.recordWrite
    split
    · exact ht
    · split
      · exact Or.inr (Or.inl rfl)
      · exact ht
  | armTimeout serial =>
    change (t.armTimeout serial _).Queued
    unfold EfcTransport.armTimeout
    split
    · exact (hrest rfl).frame rfl rfl any_addTask
    · exact (hrest rfl).frame rfl rfl any_addTask
  | recordTimer serial token => exact (hrest rfl).recordTimer serial token
  | complete done status response =>
    refine Or.inr (Or.inr ?_)
    simp [EfcTransport.runTask, EfcTransport.complete, EfcTransport.addTask, leadsOn]
  | drain ps status =>
    have ht := hrest rfl
    cases ps with
    | nil => exact ht
    | cons p ps => exact (ht.cancelTimer p.timeout).frame rfl rfl any_addTask

lemma Queued.stepped {s s' : EfcTransport} (h : s.Queued) {e : EfcEvent}
    (hstep : Stepped s e s') : s'.Queued := by
  cases hstep with
  | same => exact h
  | submit category command params =>
    refine Or.inr (Or.inr ?_)
    simp [EfcTransport.submit, EfcTransport.addTask, leadsOn]
  | setRoute route => exact h
  | cancelAll status => exact Or.inl rfl
  | response sourceID payload => exact h.onResponse sourceID payload
  | writeCompleted serial status hmem =>
    have hleft : Queued { s with writes := s.writes.erase serial } := h
    exact hleft.onWriteCompleted serial status
  | timerExpired serial hmem =>
    have hleft : Queued { s with timers := s.timers.erase serial } := h
    exact hleft.onTimeout serial
  | lateTimer serial hmem =>
    have hleft : Queued { s with lateTimers := s.lateTimers.erase serial } := h
    exact hleft.onTimeout serial
  | run index answer task rest htask hperm => exact h.runTask hperm answer

end EfcTransport

end ASFireWire.Fireworks
