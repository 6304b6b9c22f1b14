import ASFireWire.CommandQueue
import ASFireWire.Widths

/-! Runs of the retrying queue while every underlying `Read` is accepted: no command is lost or
reported twice, commands start in order and one at a time, and the queue never stalls. -/
namespace ASFireWire.Async.CommandQueue

/-- How often a command occurs among queue, transactions, posted blocks and callbacks. -/
def tally (s : CommandQueue) (id : ℕ) : ℕ :=
  s.commandQueue.count id + (s.outstanding.map Prod.snd).count id +
    (s.posted.map PostedWork.command).count id + (s.completions.map Completion.command).count id

/-- Commands with a transaction outstanding or its abort scheduled. -/
def active (s : CommandQueue) : List ℕ :=
  s.outstanding.map Prod.snd ++ s.posted.filterMap PostedWork.aborting?

/-- Every issued command is in exactly one place, and starts follow the issue order. -/
structure Accounted (s : CommandQueue) : Prop where
  once : ∀ id, s.tally id = if id < s.nextCommand then 1 else 0
  ordered : (s.started ++ s.commandQueue).Pairwise (· < ·)
  issued : ∀ id ∈ s.started ++ s.commandQueue, id < s.nextCommand

/-- Between operations: either one command is active, or the queue is idle and empty. -/
structure Settled (s : CommandQueue) : Prop extends Accounted s where
  busy : s.commandInFlight = true → ∃ id, s.active = [id]
  idle : s.commandInFlight = false → s.active = [] ∧ s.commandQueue = []

/-- Inside `HandleCompletion`, after the command left its transaction and before the queue
advances. -/
structure Advancing (s : CommandQueue) : Prop extends Accounted s where
  inFlight : s.commandInFlight = true
  noActive : s.active = []

/-! ### What each operation does -/

lemma read_spec {env : QueueEnv} (henv : ∀ n, env.read n ≠ none) (s : CommandQueue) (id : ℕ) :
    ∃ handle commands,
      (∀ x, (commands x).retriesRemaining = (s.commands x).retriesRemaining) ∧ s.read env id =
      { s with reads := s.reads + 1, commands := commands,
               outstanding := s.outstanding ++ [(handle, id)] } := by
  unfold read
  cases h : env.read s.reads with
  | none => exact absurd h (henv _)
  | some label =>
    refine ⟨label.val + 1, _, fun x => ?_, rfl⟩
    by_cases hx : x = id
    · subst hx
      simp
    · simp [Function.update_of_ne hx]

/-- A cancellation in the dequeue window only marks the command. -/
lemma cancelInWindow_spec (b : Bool) (s : CommandQueue) (id : ℕ) : ∃ commands,
    (∀ x, (commands x).retriesRemaining = (s.commands x).retriesRemaining) ∧
    (if b then s.modifyCommand id ({ · with cancelRequested := true }) else s) =
      { s with commands := commands } := by
  cases b with
  | false => exact ⟨s.commands, fun _ => rfl, rfl⟩
  | true =>
    refine ⟨_, fun x => ?_, rfl⟩
    by_cases hx : x = id
    · subst hx
      simp
    · simp [Function.update_of_ne hx]

lemma cancelTransactionHandle_cases (s : CommandQueue) (handle : ℕ) :
    s.cancelTransactionHandle handle = s ∨
    ∃ txn ∈ s.outstanding, s.cancelTransactionHandle handle =
      { s with outstanding := s.outstanding.erase txn,
               posted := s.posted ++ [.transactionAborted txn.2] } := by
  unfold cancelTransactionHandle
  cases h : s.outstanding.find? (·.1 = handle) with
  | none => exact Or.inl rfl
  | some txn => exact Or.inr ⟨txn, List.mem_of_find?_eq_some h, rfl⟩

/-- A cancellation marks a command, drops a queued one, or aborts a transaction. -/
lemma cancel_cases (s : CommandQueue) (handle : ℕ) :
    (∃ commands, s.cancel handle = { s with commands := commands }) ∨
    (∃ id ∈ s.commandQueue, s.cancel handle =
      { s with commandQueue := s.commandQueue.erase id,
               posted := s.posted ++ [.queuedCancellation id] }) ∨
    ∃ commands, ∃ txn ∈ s.outstanding, s.cancel handle =
      { s with commands := commands, outstanding := s.outstanding.erase txn,
               posted := s.posted ++ [.transactionAborted txn.2] } := by
  have hself : ∃ commands, s = { s with commands := commands } := ⟨s.commands, rfl⟩
  unfold cancel
  split_ifs
  · exact Or.inl hself
  · unfold cancelQueuedCommand
    cases hfind : s.commandQueue.find? fun id => (s.commands id).publicHandle = handle with
    | some id => exact Or.inr (Or.inl ⟨id, List.mem_of_find?_eq_some hfind, rfl⟩)
    | none =>
      dsimp only
      unfold cancelQueuedCommandInFlight
      split
      · exact Or.inl hself
      · rename_i id _
        dsimp only
        split_ifs
        · exact Or.inl hself
        · rcases cancelTransactionHandle_cases
            (s.modifyCommand id ({ · with cancelRequested := true }))
            ((s.modifyCommand id ({ · with cancelRequested := true })).commands id).currentHandle
            with h | ⟨txn, hmem, h⟩
          · exact Or.inl ⟨_, h⟩
          · exact Or.inr (Or.inr ⟨_, txn, hmem, h⟩)
        · exact Or.inl ⟨_, rfl⟩
  · rcases s.cancelTransactionHandle_cases handle with h | ⟨txn, hmem, h⟩
    · rw [h]
      exact Or.inl hself
    · exact Or.inr (Or.inr ⟨s.commands, txn, hmem, h⟩)
  · exact Or.inl hself

/-! ### Accounting of the moves -/

lemma count_erase_add {α : Type} [DecidableEq α] {l : List α} {a : α} (h : a ∈ l) (b : α) :
    (l.erase a).count b + (if b = a then 1 else 0) = l.count b := by
  rw [List.count_erase]
  have hpos := List.count_pos_iff.mpr h
  by_cases hb : b = a
  · subst hb
    simp
    omega
  · simp [hb, Ne.symm hb]

lemma count_map_erase_add {l : List (ℕ × ℕ)} {txn : ℕ × ℕ} (h : txn ∈ l) (b : ℕ) :
    ((l.erase txn).map Prod.snd).count b + (if b = txn.2 then 1 else 0) =
      (l.map Prod.snd).count b := by
  have hperm := (List.perm_cons_erase h).map Prod.snd
  rw [hperm.count_eq b, List.map_cons, List.count_cons]
  simp only [beq_iff_eq, @eq_comm _ txn.2 b]

lemma count_concat (l : List ℕ) (a b : ℕ) :
    (l ++ [a]).count b = l.count b + if b = a then 1 else 0 := by
  rw [List.count_append, List.count_singleton]
  simp only [beq_iff_eq, @eq_comm _ a b]

lemma Accounted.cancel {s : CommandQueue} (h : s.Accounted) (handle : ℕ) :
    (s.cancel handle).Accounted := by
  rcases s.cancel_cases handle with ⟨commands, hs⟩ | ⟨id, hid, hs⟩ | ⟨commands, txn, htxn, hs⟩
  · rw [hs]
    exact ⟨h.once, h.ordered, h.issued⟩
  · rw [hs]
    have hsub : (s.started ++ s.commandQueue.erase id).Sublist (s.started ++ s.commandQueue) :=
      (List.Sublist.refl _).append (List.erase_sublist)
    refine ⟨fun x => ?_, h.ordered.sublist hsub, fun x hx => h.issued x (hsub.subset hx)⟩
    have honce := h.once x
    have hq := count_erase_add hid x
    simp only [tally, List.map_append, List.map_cons, List.map_nil, PostedWork.command,
      count_concat] at honce ⊢
    omega
  · rw [hs]
    refine ⟨fun x => ?_, h.ordered, h.issued⟩
    have honce := h.once x
    have hq := count_map_erase_add htxn x
    simp only [tally, List.map_append, List.map_cons, List.map_nil, PostedWork.command,
      count_concat] at honce ⊢
    omega

lemma active_queuedCancellation (s : CommandQueue) (q : List ℕ) (id : ℕ) :
    active { s with commandQueue := q, posted := s.posted ++ [.queuedCancellation id] } =
      s.active := by
  have hnone : [PostedWork.queuedCancellation id].filterMap PostedWork.aborting? = [] := rfl
  simp only [active, List.filterMap_append, hnone, List.append_nil]

lemma active_cancel_nil {s : CommandQueue} (h : s.active = []) (handle : ℕ) :
    (s.cancel handle).active = [] ∧ (s.cancel handle).commandInFlight = s.commandInFlight := by
  have hout : s.outstanding = [] := by
    simpa using (List.append_eq_nil_iff.mp h).1
  rcases s.cancel_cases handle with ⟨commands, hs⟩ | ⟨id, hid, hs⟩ | ⟨commands, txn, htxn, hs⟩
  · rw [hs]
    exact ⟨h, rfl⟩
  · rw [hs]
    refine ⟨?_, rfl⟩
    rw [active_queuedCancellation]
    exact h
  · simp [hout] at htxn

/-- The active command's transaction is the only one of the queue. -/
lemma outstanding_of_active {s : CommandQueue} {id : ℕ} (h : s.active = [id]) {txn : ℕ × ℕ}
    (htxn : txn ∈ s.outstanding) :
    s.outstanding = [txn] ∧ s.posted.filterMap PostedWork.aborting? = [] ∧ txn.2 = id := by
  rcases List.append_eq_singleton_iff.mp h with ⟨hout, -⟩ | ⟨hout, hposted⟩
  · have hnil : s.outstanding = [] := by simpa using hout
    simp [hnil] at htxn
  · have hlen : s.outstanding.length = 1 := by simpa using congrArg List.length hout
    obtain ⟨t, ht⟩ := List.length_eq_one_iff.mp hlen
    have hid : t.2 = id := by simpa [ht] using hout
    have htt : txn = t := by simpa [ht] using htxn
    subst htt
    exact ⟨ht, hposted, hid⟩

lemma active_cancel_singleton {s : CommandQueue} {id : ℕ} (h : s.active = [id]) (handle : ℕ) :
    (s.cancel handle).active = [id] ∧ (s.cancel handle).commandInFlight = s.commandInFlight := by
  rcases s.cancel_cases handle with ⟨commands, hs⟩ | ⟨id', hid, hs⟩ | ⟨commands, txn, htxn, hs⟩
  · rw [hs]
    exact ⟨h, rfl⟩
  · rw [hs]
    refine ⟨?_, rfl⟩
    rw [active_queuedCancellation]
    exact h
  · rw [hs]
    refine ⟨?_, rfl⟩
    obtain ⟨hout, hposted, rfl⟩ := outstanding_of_active h htxn
    simp [active, hout, hposted, PostedWork.aborting?]

/-! ### Advancing the queue -/

lemma Accounted.executeFrom_settled {env : QueueEnv} (henv : ∀ n, env.read n ≠ none) (q : List ℕ)
    {s : CommandQueue} (h : s.Accounted) (hq : s.commandQueue = q) (hactive : s.active = []) :
    (executeFrom env q s).Settled := by
  induction q generalizing s with
  | nil =>
    refine ⟨⟨fun x => ?_, ?_, ?_⟩, by simp [executeFrom], fun _ => ⟨hactive, rfl⟩⟩
    · have honce := h.once x
      rw [tally, hq] at honce
      exact honce
    · simpa [executeFrom, hq] using h.ordered
    · simpa [executeFrom, hq] using h.issued
  | cons id rest ih =>
    have hord := h.ordered
    have hiss := h.issued
    have honce := h.once
    simp only [tally, hq, List.count_cons, beq_iff_eq] at honce
    rw [hq] at hord hiss
    have hsub : (s.started ++ rest).Sublist (s.started ++ id :: rest) :=
      (List.Sublist.refl _).append (List.sublist_cons_self _ _)
    obtain ⟨commands, -, hs⟩ := cancelInWindow_spec (env.cancelInWindow (s.dequeues + 1))
      { s with commandQueue := rest, commandInFlight := true, inFlightCommand := some id,
               dequeues := s.dequeues + 1 } id
    unfold executeFrom
    dsimp only
    rw [hs]
    split_ifs
    · refine ih ⟨fun x => ?_, hord.sublist hsub, fun x hx => hiss x (hsub.subset hx)⟩ rfl ?_
      · refine Eq.trans ?_ (honce x)
        simp only [tally, post, List.map_append, List.map_cons, List.map_nil,
          PostedWork.command, count_concat, @eq_comm _ x id]
        omega
      · exact (active_queuedCancellation s rest id).trans hactive
    · obtain ⟨handle, commands', -, hread⟩ := read_spec henv
        { s with commands := commands, commandQueue := rest, commandInFlight := true,
                 inFlightCommand := some id, dequeues := s.dequeues + 1,
                 started := s.started ++ [id] } id
      rw [hread]
      refine ⟨⟨fun x => ?_, ?_, ?_⟩, fun _ => ⟨id, ?_⟩, by simp⟩
      · refine Eq.trans ?_ (honce x)
        simp only [tally, List.map_append, List.map_cons, List.map_nil, count_concat,
          @eq_comm _ x id]
        omega
      · simpa using hord
      · simpa using hiss
      · obtain ⟨hout, hposted⟩ := List.append_eq_nil_iff.mp hactive
        simp only [active, List.map_append, hout, hposted]
        rfl

lemma Accounted.executeNextCommand_settled {env : QueueEnv} (henv : ∀ n, env.read n ≠ none)
    {s : CommandQueue} (h : s.Accounted) (hactive : s.active = []) :
    (s.executeNextCommand env).Settled :=
  h.executeFrom_settled henv s.commandQueue rfl hactive

lemma Advancing.finishAndAdvance_settled {env : QueueEnv} (henv : ∀ n, env.read n ≠ none)
    {s : CommandQueue} (h : s.Advancing) (id : ℕ) : (s.finishAndAdvance env id).Settled := by
  unfold finishAndAdvance
  split_ifs
  · exact Accounted.executeNextCommand_settled henv ⟨h.once, h.ordered, h.issued⟩ h.noActive
  · exact h.toAccounted.executeNextCommand_settled henv h.noActive

/-! ### Client calls -/

/-- The queue with a new command appended. -/
lemma Accounted.enqueue {s : CommandQueue} (h : s.Accounted) (commands) :
    Accounted { s with commands := commands, nextCommand := s.nextCommand + 1,
                       commandQueue := s.commandQueue ++ [s.nextCommand] } := by
  refine ⟨fun x => ?_, ?_, ?_⟩
  · have hx := h.once x
    simp only [tally, count_concat] at hx ⊢
    split_ifs at hx ⊢ <;> omega
  · have hap : (s.started ++ s.commandQueue ++ [s.nextCommand]).Pairwise (· < ·) :=
      List.pairwise_append.mpr ⟨h.ordered, List.pairwise_singleton _ _, fun a ha b hb => by
        rw [List.mem_singleton.mp hb]
        exact h.issued a ha⟩
    simpa using hap
  · intro x hx
    rw [← List.append_assoc, List.mem_append, List.mem_singleton] at hx
    rcases hx with hx | rfl
    · exact Nat.lt_succ_of_lt (h.issued x hx)
    · exact Nat.lt_succ_self _

lemma Settled.call {env : QueueEnv} (henv : ∀ n, env.read n ≠ none) {s : CommandQueue}
    (h : s.Settled) (c : QueueCall) : (s.call env c).Settled := by
  cases c with
  | readWithRetry params retryPolicy =>
    unfold CommandQueue.call readWithRetry
    dsimp only
    split_ifs with hflight
    · exact ⟨h.toAccounted.enqueue _, h.busy, fun hidle => by simp [hflight] at hidle⟩
    · exact (h.toAccounted.enqueue _).executeNextCommand_settled henv
        (h.idle (by simpa using hflight)).1
  | cancel handle =>
    change (s.cancel handle).Settled
    cases hflight : s.commandInFlight with
    | true =>
      obtain ⟨id, hid⟩ := h.busy hflight
      obtain ⟨hactive, hsame⟩ := active_cancel_singleton hid handle
      exact ⟨h.toAccounted.cancel handle, fun _ => ⟨id, hactive⟩,
        fun hidle => by simp [hsame, hflight] at hidle⟩
    | false =>
      obtain ⟨hnil, hqueue⟩ := h.idle hflight
      obtain ⟨hactive, hsame⟩ := active_cancel_nil hnil handle
      refine ⟨h.toAccounted.cancel handle, fun hbusy => by simp [hsame, hflight] at hbusy,
        fun _ => ⟨hactive, ?_⟩⟩
      rcases s.cancel_cases handle with ⟨_, hs⟩ | ⟨id, hid, hs⟩ | ⟨_, txn, htxn, hs⟩
      · rw [hs]
        exact hqueue
      · simp [hqueue] at hid
      · rw [hs]
        exact hqueue

lemma Advancing.call {s : CommandQueue} (env : QueueEnv) (h : s.Advancing) (c : QueueCall) :
    (s.call env c).Advancing := by
  cases c with
  | readWithRetry params retryPolicy =>
    unfold CommandQueue.call readWithRetry
    dsimp only
    rw [if_pos h.inFlight]
    exact ⟨h.toAccounted.enqueue _, h.inFlight, h.noActive⟩
  | cancel handle =>
    obtain ⟨hactive, hsame⟩ := active_cancel_nil h.noActive handle
    exact ⟨h.toAccounted.cancel handle, hsame.trans h.inFlight, hactive⟩

lemma Settled.calls {env : QueueEnv} (henv : ∀ n, env.read n ≠ none) {s : CommandQueue}
    (h : s.Settled) (calls : List QueueCall) : (Runs.run (CommandQueue.call env) s calls).Settled :=
  Runs.invariant_run (I := Settled) (fun _ c hs => hs.call henv c) h calls

lemma Advancing.calls (env : QueueEnv) {s : CommandQueue} (h : s.Advancing)
    (calls : List QueueCall) : (Runs.run (CommandQueue.call env) s calls).Advancing :=
  Runs.invariant_run (I := Advancing) (fun _ c hs => hs.call env c) h calls

/-! ### Completions -/

/-- A command leaves the posted work or its transaction and its callback is invoked. -/
lemma tally_complete {s s' : CommandQueue} (c : Completion)
    (hs : ∀ x, s'.tally x + (if x = c.command then 1 else 0) = s.tally x) (x : ℕ) :
    tally { s' with completions := s'.completions ++ [c] } x = s.tally x := by
  have hx := hs x
  simp only [tally, List.map_append, List.map_cons, List.map_nil, count_concat] at hx ⊢
  omega

/-- `s'` is `s` with the active command `id` detached from its transaction or posted abort. -/
structure Detached (s s' : CommandQueue) (id : ℕ) : Prop where
  taken : ∀ x, s'.tally x + (if x = id then 1 else 0) = s.tally x
  noActive : s'.active = []
  inFlight : s'.commandInFlight = true
  started : s'.started = s.started
  queue : s'.commandQueue = s.commandQueue
  next : s'.nextCommand = s.nextCommand

lemma Detached.invokeCallback_advancing {s s' : CommandQueue} {env : QueueEnv} {c : Completion}
    (h : s.Settled) (hd : Detached s s' c.command) : (s'.invokeCallback env c).Advancing := by
  apply Advancing.calls
  refine ⟨⟨fun x => ?_, ?_, ?_⟩, hd.inFlight, hd.noActive⟩
  · rw [tally_complete c hd.taken x, hd.next]
    exact h.once x
  · rw [hd.started, hd.queue]
    exact h.ordered
  · rw [hd.started, hd.queue, hd.next]
    exact h.issued

lemma Detached.handleCompletion_settled {s s' : CommandQueue} {env : QueueEnv}
    (henv : ∀ n, env.read n ≠ none) {id : ℕ} (h : s.Settled) (hd : Detached s s' id)
    (status : AsyncStatus) (responseCode : ℕ) (payload : List UInt8) :
    (s'.handleCompletion env id status responseCode payload).Settled := by
  unfold handleCompletion
  dsimp only
  split_ifs
  · exact (hd.invokeCallback_advancing h).finishAndAdvance_settled henv id
  · obtain ⟨handle, commands, -, hread⟩ := read_spec henv
      (s'.modifyCommand id fun c => { c with retriesRemaining := c.retriesRemaining - 1 }) id
    rw [hread]
    refine ⟨⟨fun x => ?_, ?_, ?_⟩, fun _ => ⟨id, ?_⟩, fun hidle => ?_⟩
    · refine Eq.trans ?_ ((h.once x).trans (by rw [← hd.next]; rfl))
      have hx := hd.taken x
      simp only [tally, modifyCommand, List.map_append, List.map_cons, List.map_nil,
        count_concat] at hx ⊢
      omega
    · change (s'.started ++ s'.commandQueue).Pairwise (· < ·)
      rw [hd.started, hd.queue]
      exact h.ordered
    · change ∀ x ∈ s'.started ++ s'.commandQueue, x < s'.nextCommand
      rw [hd.started, hd.queue, hd.next]
      exact h.issued
    · obtain ⟨hout, hposted⟩ := List.append_eq_nil_iff.mp hd.noActive
      simp only [active, modifyCommand, List.map_append, hout, hposted]
      rfl
    · exact absurd (hd.inFlight.symm.trans hidle) (by simp)
  · exact (hd.invokeCallback_advancing h).finishAndAdvance_settled henv id

lemma Settled.inFlight_of_active {s : CommandQueue} (h : s.Settled) (hactive : s.active ≠ []) :
    s.commandInFlight = true := by
  cases hflight : s.commandInFlight with
  | true => rfl
  | false => exact absurd (h.idle hflight).1 hactive

lemma Settled.detach_outstanding {s : CommandQueue} (h : s.Settled) {txn : ℕ × ℕ}
    (htxn : txn ∈ s.outstanding) :
    Detached s { s with outstanding := s.outstanding.erase txn } txn.2 := by
  have hflight : s.commandInFlight = true := h.inFlight_of_active fun hnil => by
    have hout : s.outstanding = [] := by simpa using (List.append_eq_nil_iff.mp hnil).1
    simp [hout] at htxn
  obtain ⟨id, hid⟩ := h.busy hflight
  obtain ⟨hout, hposted, -⟩ := outstanding_of_active hid htxn
  refine ⟨fun x => ?_, ?_, hflight, rfl, rfl, rfl⟩
  · have := count_map_erase_add htxn x
    simp only [tally]
    omega
  · simp [active, hout, hposted]

lemma Settled.detach_posted {s : CommandQueue} (h : s.Settled) {id : ℕ} {rest : List PostedWork}
    (hposted : s.posted = .transactionAborted id :: rest) :
    Detached s { s with posted := rest } id := by
  have hcons : s.active = s.outstanding.map Prod.snd ++ id ::
      rest.filterMap PostedWork.aborting? := by
    rw [active, hposted]
    rfl
  have hflight : s.commandInFlight = true := h.inFlight_of_active (by simp [hcons])
  obtain ⟨id', hid⟩ := h.busy hflight
  rw [hcons] at hid
  have hout : s.outstanding.map Prod.snd = [] ∧ rest.filterMap PostedWork.aborting? = [] := by
    have hlen := congrArg List.length hid
    simp only [List.length_append, List.length_cons, List.length_nil] at hlen
    exact ⟨List.eq_nil_of_length_eq_zero (by omega), List.eq_nil_of_length_eq_zero (by omega)⟩
  refine ⟨fun x => ?_, ?_, hflight, rfl, rfl, rfl⟩
  · simp only [tally, hposted, List.map_cons, PostedWork.command, List.count_cons, beq_iff_eq,
      @eq_comm _ id x]
    omega
  · simp [active, hout]

/-- One event of the system. -/
lemma Settled.step {env : QueueEnv} (henv : ∀ n, env.read n ≠ none) {s : CommandQueue}
    (h : s.Settled) (e : QueueEvent) : (s.step env e).Settled := by
  cases e with
  | call c => exact h.call henv c
  | complete handle status responseCode payload =>
    unfold CommandQueue.step
    dsimp only
    cases hfind : s.outstanding.find? (·.1 = handle) with
    | none => exact h
    | some txn =>
      exact (h.detach_outstanding (List.mem_of_find?_eq_some hfind)).handleCompletion_settled
        henv h status responseCode payload
  | runPosted =>
    unfold CommandQueue.step
    dsimp only
    split
    · exact h
    · rename_i id rest hposted
      have hactive : active { s with posted := rest } = s.active := by
        simp only [active, hposted]
        rfl
      apply Settled.calls henv
      refine ⟨⟨fun x => ?_, h.ordered, h.issued⟩, fun hb => ?_, fun hi => ?_⟩
      · refine Eq.trans (tally_complete ⟨id, .aborted, 0xFF, []⟩ (fun y => ?_) x) (h.once x)
        simp only [tally, hposted, List.map_cons, PostedWork.command, List.count_cons, beq_iff_eq,
          @eq_comm _ id y]
        omega
      · obtain ⟨id', hid'⟩ := h.busy hb
        exact ⟨id', hactive.trans hid'⟩
      · exact ⟨hactive.trans (h.idle hi).1, (h.idle hi).2⟩
    · rename_i id rest hposted
      exact (h.detach_posted hposted).handleCompletion_settled henv h .aborted 0xFF []

lemma settled_initial : Settled {} :=
  ⟨⟨fun _ => rfl, List.Pairwise.nil, by simp⟩, by simp, fun _ => ⟨rfl, rfl⟩⟩

lemma settled_run {env : QueueEnv} (henv : ∀ n, env.read n ≠ none) (events : List QueueEvent) :
    (Runs.run (CommandQueue.step env) {} events).Settled :=
  Runs.invariant_run (I := Settled) (fun _ e hs => hs.step henv e) settled_initial events

/-! ### Draining -/

/-- Deliveries still owed: one for a posted block, and for a command one per retry left and one
for each stage before it. -/
def weightOf (retries : ℕ → ℕ) (queue : List ℕ) (outstanding : List (ℕ × ℕ))
    (posted : List PostedWork) : ℕ :=
  (queue.map fun id => retries id + 3).sum + (outstanding.map fun t => retries t.2 + 2).sum +
    posted.length

def retries (s : CommandQueue) (id : ℕ) : ℕ := (s.commands id).retriesRemaining

def weight (s : CommandQueue) : ℕ :=
  weightOf s.retries s.commandQueue s.outstanding s.posted

/-- The event delivers something the queue waits for. -/
def Delivers (s : CommandQueue) : QueueEvent → Prop
  | .call _ => False
  | .complete handle _ _ _ => ∃ txn ∈ s.outstanding, txn.1 = handle
  | .runPosted => s.posted ≠ []

lemma executeFrom_weight {env : QueueEnv} (henv : ∀ n, env.read n ≠ none) (q : List ℕ)
    (s : CommandQueue) :
    (executeFrom env q s).weight ≤ weightOf s.retries q s.outstanding s.posted ∧
      (executeFrom env q s).nextCommand = s.nextCommand := by
  induction q generalizing s with
  | nil => exact ⟨le_rfl, rfl⟩
  | cons id rest ih =>
    obtain ⟨commands, hretries, hs⟩ := cancelInWindow_spec (env.cancelInWindow (s.dequeues + 1))
      { s with commandQueue := rest, commandInFlight := true, inFlightCommand := some id,
               dequeues := s.dequeues + 1 } id
    unfold executeFrom
    dsimp only
    rw [hs]
    split_ifs
    · obtain ⟨hle, hnext⟩ := ih _
      refine ⟨hle.trans ?_, hnext⟩
      have hr : retries { s with commands := commands } = s.retries := funext hretries
      change weightOf (retries { s with commands := commands }) _ _ _ ≤ _
      rw [hr]
      simp only [weightOf, post, List.map_cons, List.sum_cons, List.length_append,
        List.length_cons, List.length_nil]
      omega
    · obtain ⟨handle, commands', hretries', hread⟩ := read_spec henv
        { s with commands := commands, commandQueue := rest, commandInFlight := true,
                 inFlightCommand := some id, dequeues := s.dequeues + 1,
                 started := s.started ++ [id] } id
      rw [hread]
      refine ⟨?_, rfl⟩
      have hr : retries { s with commands := commands' } = s.retries :=
        funext fun x => (hretries' x).trans (hretries x)
      change weightOf (retries { s with commands := commands' }) _ _ _ ≤ _
      rw [hr]
      simp only [weightOf, List.map_cons, List.sum_cons, List.map_append, List.sum_append,
        List.map_nil, List.sum_nil]
      omega

lemma finishAndAdvance_weight {env : QueueEnv} (henv : ∀ n, env.read n ≠ none)
    (s : CommandQueue) (id : ℕ) :
    (s.finishAndAdvance env id).weight ≤ s.weight ∧
      (s.finishAndAdvance env id).nextCommand = s.nextCommand := by
  unfold finishAndAdvance executeNextCommand
  split_ifs
  · exact executeFrom_weight henv s.commandQueue { s with inFlightCommand := none }
  · exact executeFrom_weight henv s.commandQueue s

lemma invokeCallback_silent {env : QueueEnv} (hsilent : ∀ id, env.callback id = [])
    (s : CommandQueue) (c : Completion) :
    s.invokeCallback env c = { s with completions := s.completions ++ [c] } := by
  rw [invokeCallback, hsilent]
  rfl

/-- A detached command either ends, or spends a retry on a new transaction. -/
lemma handleCompletion_weight {env : QueueEnv} (henv : ∀ n, env.read n ≠ none)
    (hsilent : ∀ id, env.callback id = []) {s : CommandQueue} {id : ℕ}
    (hqueue : id ∉ s.commandQueue) (hout : s.outstanding = []) (status : AsyncStatus)
    (responseCode : ℕ) (payload : List UInt8) :
    ((s.handleCompletion env id status responseCode payload).weight ≤ s.weight ∨
      status ≠ .aborted ∧
      (s.handleCompletion env id status responseCode payload).weight < s.weight + s.retries id + 2) ∧
    (s.handleCompletion env id status responseCode payload).nextCommand = s.nextCommand := by
  unfold handleCompletion
  dsimp only
  split_ifs with habort hretry
  · rw [invokeCallback_silent hsilent]
    obtain ⟨hle, hnext⟩ := finishAndAdvance_weight henv
      { s with completions := s.completions ++ [⟨id, .aborted, 0xFF, []⟩] } id
    exact ⟨Or.inl hle, hnext⟩
  · obtain ⟨handle, commands, hretries, hread⟩ := read_spec henv
      (s.modifyCommand id fun c => { c with retriesRemaining := c.retriesRemaining - 1 }) id
    rw [hread]
    refine ⟨Or.inr ⟨by simp_all, ?_⟩, rfl⟩
    have hpos : 0 < s.retries id := by
      simp only [Bool.and_eq_true, decide_eq_true_eq] at hretry
      exact hretry.1.2
    have hself : (commands id).retriesRemaining = s.retries id - 1 := by
      rw [hretries]
      simp [modifyCommand, retries]
    have hother : s.commandQueue.map (fun x => (commands x).retriesRemaining + 3) =
        s.commandQueue.map (fun x => s.retries x + 3) := by
      refine List.map_congr_left fun x hx => ?_
      have hne : x ≠ id := fun h => hqueue (h ▸ hx)
      rw [hretries]
      simp [modifyCommand, Function.update_of_ne hne, retries]
    simp only [weight, weightOf, retries, modifyCommand, hout, List.nil_append, List.map_cons,
      List.map_nil, List.sum_cons, List.sum_nil, hother, hself]
    simp only [retries] at hpos ⊢
    omega
  · rw [invokeCallback_silent hsilent]
    obtain ⟨hle, hnext⟩ := finishAndAdvance_weight henv
      { s with completions := s.completions ++ [⟨id, status, responseCode, payload⟩] } id
    exact ⟨Or.inl hle, hnext⟩

lemma Detached.not_mem_queue {s s' : CommandQueue} {id : ℕ} (h : s.Settled)
    (hd : Detached s s' id) : id ∉ s'.commandQueue ∧ s'.outstanding = [] := by
  constructor
  · intro hmem
    have hpos := List.count_pos_iff.mpr hmem
    have htaken := hd.taken id
    have honce := h.once id
    rw [if_pos rfl] at htaken
    simp only [tally] at htaken honce
    split_ifs at honce <;> omega
  · simpa using (List.append_eq_nil_iff.mp hd.noActive).1

/-- Once callbacks make no further calls, every delivery brings the queue closer to the end. -/
lemma Settled.step_weight_lt {env : QueueEnv} (henv : ∀ n, env.read n ≠ none)
    (hsilent : ∀ id, env.callback id = []) {s : CommandQueue} (h : s.Settled) {e : QueueEvent}
    (he : s.Delivers e) :
    (s.step env e).weight < s.weight ∧ (s.step env e).nextCommand = s.nextCommand := by
  cases e with
  | call c => exact he.elim
  | complete handle status responseCode payload =>
    unfold CommandQueue.step
    dsimp only
    cases hfind : s.outstanding.find? (·.1 = handle) with
    | none =>
      obtain ⟨txn, htxn, hhandle⟩ := he
      exact absurd (List.find?_eq_none.mp hfind txn htxn) (by simp [hhandle])
    | some txn =>
      have htxn := List.mem_of_find?_eq_some hfind
      have hd := h.detach_outstanding htxn
      obtain ⟨hqueue, hout⟩ := hd.not_mem_queue h
      obtain ⟨hle, hnext⟩ := handleCompletion_weight henv hsilent hqueue hout status
        responseCode payload
      refine ⟨?_, hnext⟩
      have hone : s.outstanding = [txn] := by
        obtain ⟨id, hid⟩ := h.busy hd.inFlight
        exact (outstanding_of_active hid htxn).1
      have hweight : s.weight = weight { s with outstanding := s.outstanding.erase txn } +
          s.retries txn.2 + 2 := by
        simp only [weight, weightOf, retries, hone, List.map_cons, List.map_nil, List.sum_cons,
          List.sum_nil, List.erase_cons_head]
        omega
      have hsame : retries { s with outstanding := s.outstanding.erase txn } txn.2 =
        s.retries txn.2 := rfl
      dsimp only
      omega
  | runPosted =>
    unfold CommandQueue.step
    dsimp only
    split
    · exact absurd ‹_› he
    · rename_i id rest hposted
      rw [invokeCallback_silent hsilent]
      refine ⟨?_, rfl⟩
      simp only [weight, weightOf, retries, hposted, List.length_cons]
      omega
    · rename_i id rest hposted
      have hd := h.detach_posted hposted
      obtain ⟨hqueue, hout⟩ := hd.not_mem_queue h
      obtain ⟨hle, hnext⟩ := handleCompletion_weight henv hsilent hqueue hout .aborted 0xFF []
      refine ⟨?_, hnext⟩
      have hweight : s.weight = weight { s with posted := rest } + 1 := by
        simp only [weight, weightOf, retries, hposted, List.length_cons]
        omega
      rcases hle with hle | ⟨hne, -⟩
      · omega
      · exact absurd rfl hne

lemma Settled.deliveries {env : QueueEnv} (henv : ∀ n, env.read n ≠ none)
    (hsilent : ∀ id, env.callback id = []) {s : CommandQueue} (h : s.Settled)
    {events : List QueueEvent} (hmeets : Runs.Meets (CommandQueue.step env) Delivers s events) :
    (Runs.run (CommandQueue.step env) s events).Settled ∧
      (Runs.run (CommandQueue.step env) s events).nextCommand = s.nextCommand ∧
      events.length + (Runs.run (CommandQueue.step env) s events).weight ≤ s.weight := by
  induction events generalizing s with
  | nil => exact ⟨h, rfl, by simp⟩
  | cons e events ih =>
    obtain ⟨hlt, hnext⟩ := h.step_weight_lt henv hsilent hmeets.1
    obtain ⟨hsettled, hnext', hle⟩ := ih (h.step henv e) hmeets.2
    refine ⟨hsettled, hnext'.trans hnext, ?_⟩
    rw [Runs.run_cons, List.length_cons]
    omega

lemma count_range_eq (n id : ℕ) : (List.range n).count id = if id < n then 1 else 0 := by
  split_ifs with h
  · exact List.nodup_iff_count_eq_one.mp List.nodup_range id (List.mem_range.mpr h)
  · exact List.count_eq_zero.mpr (by simpa using h)

/-- Each issued command is in exactly one place. -/
lemma Accounted.places_perm {s : CommandQueue} (h : s.Accounted) :
    (s.commandQueue ++ s.outstanding.map Prod.snd ++ s.posted.map PostedWork.command ++
      s.completions.map Completion.command).Perm (List.range s.nextCommand) := by
  rw [List.perm_iff_count]
  intro id
  rw [count_range_eq, ← h.once id]
  simp only [List.count_append, tally]

/-- With nothing outstanding and nothing posted, every callback has been invoked once. -/
lemma Settled.completions_perm {s : CommandQueue} (h : s.Settled) (hout : s.outstanding = [])
    (hposted : s.posted = []) :
    (s.completions.map Completion.command).Perm (List.range s.nextCommand) := by
  have hidle : s.commandInFlight = false := by
    cases hflight : s.commandInFlight with
    | false => rfl
    | true =>
      obtain ⟨id, hid⟩ := h.busy hflight
      simp [active, hout, hposted] at hid
  have hperm := h.places_perm
  rw [(h.idle hidle).2, hout, hposted] at hperm
  simpa using hperm

/-- While every `Read` of the queue is accepted: commands start in the order they were issued,
at most one is active, each issued command is in exactly one place, and a command in flight has
a transaction outstanding or its abort scheduled. Once clients make no further calls, at most
`weight` deliveries remain, after which every command has had exactly one callback. -/
theorem commandQueue_accepted_run {env : QueueEnv} (henv : ∀ n, env.read n ≠ none)
    (events : List QueueEvent) :
    let s := Runs.run (CommandQueue.step env) {} events
    (s.started ++ s.commandQueue).Pairwise (· < ·) ∧ s.active.length ≤ 1 ∧
    (s.commandQueue ++ s.outstanding.map Prod.snd ++ s.posted.map PostedWork.command ++
      s.completions.map Completion.command).Perm (List.range s.nextCommand) ∧
    (s.commandInFlight = true → s.active ≠ []) ∧
    (s.commandInFlight = false → s.commandQueue = []) ∧
    ∀ env' : QueueEnv, (∀ n, env'.read n ≠ none) → (∀ id, env'.callback id = []) →
      ∀ deliveries, Runs.Meets (CommandQueue.step env') Delivers s deliveries →
        deliveries.length ≤ s.weight ∧
        ((∃ e, (Runs.run (CommandQueue.step env') s deliveries).Delivers e) ∨
          ((Runs.run (CommandQueue.step env') s deliveries).completions.map
            Completion.command).Perm (List.range s.nextCommand)) := by
  intro s
  have h : s.Settled := settled_run henv events
  refine ⟨h.ordered, ?_, h.places_perm, ?_, fun hidle => (h.idle hidle).2, ?_⟩
  · cases hflight : s.commandInFlight with
    | true =>
      obtain ⟨id, hid⟩ := h.busy hflight
      simp [hid]
    | false => simp [(h.idle hflight).1]
  · intro hbusy
    obtain ⟨id, hid⟩ := h.busy hbusy
    simp [hid]
  · intro env' henv' hsilent deliveries hmeets
    obtain ⟨hsettled, hnext, hle⟩ := h.deliveries henv' hsilent hmeets
    refine ⟨by omega, ?_⟩
    generalize Runs.run (CommandQueue.step env') s deliveries = s' at hsettled hnext ⊢
    cases hout : s'.outstanding with
    | cons txn rest =>
      exact Or.inl ⟨.complete txn.1 .success 0 [], txn, by simp [hout], rfl⟩
    | nil =>
      cases hposted : s'.posted with
      | cons work rest => exact Or.inl ⟨.runPosted, by simp [Delivers, hposted]⟩
      | nil =>
        rw [← hnext]
        exact Or.inr (hsettled.completions_perm hout hposted)

/-- Labels rotate, nothing is cancelled in the window, callbacks make no calls. -/
def acceptingEnv : QueueEnv := ⟨fun n => some (Fin.ofNat 64 n), fun _ => false, fun _ => []⟩

theorem commandQueue_two_reads :
    (∀ n, acceptingEnv.read n ≠ none) ∧
    (Runs.run (CommandQueue.step acceptingEnv) {} [.call (.readWithRetry {} {}),
      .call (.readWithRetry {} {})]).commandInFlight = true ∧
    (Runs.run (CommandQueue.step acceptingEnv) {} [.call (.readWithRetry {} {}),
      .call (.readWithRetry {} {})]).active ≠ [] :=
  ⟨fun n => by simp [acceptingEnv], rfl,
    (commandQueue_accepted_run (fun n => by simp [acceptingEnv])
      [.call (.readWithRetry {} {}), .call (.readWithRetry {} {})]).2.2.2.1 rfl⟩

/-- Every `Read` is refused. -/
def refusingEnv : QueueEnv := ⟨fun _ => none, fun _ => false, fun _ => []⟩

/-- A refused `Read` leaves the queue in flight with nothing outstanding and nothing scheduled;
later commands stay queued and cancelling the command does not help. -/
theorem commandQueue_refused_read_stalls :
    let s := Runs.run (CommandQueue.step refusingEnv) {} [.call (.readWithRetry {} {}),
      .call (.readWithRetry {} {}), .call (.cancel kQueuedHandleBase)]
    s.commandInFlight = true ∧ s.outstanding = [] ∧ s.posted = [] ∧ s.completions = [] ∧
      s.commandQueue = [1] ∧ s.nextCommand = 2 := by
  exact ⟨rfl, rfl, rfl, rfl, rfl, rfl⟩

end ASFireWire.Async.CommandQueue
