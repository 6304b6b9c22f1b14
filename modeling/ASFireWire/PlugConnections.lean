import ASFireWire.CMPOperations

/-! Whose connections are in the plugs. As long as a swap that was made is also answered, the
connection manager never touches a connection of another host. -/
namespace ASFireWire.CMP

open Async (AsyncStatus)
open Discovery (DeviceRouteToken)
open IRM (AllocationStatus)
open Runs

/-- What a swap that was asked for reads and writes. -/
def Operation.Swaps (op : Operation) : Prop :=
  match op.request, op.kind with
  | .compareSwap expected desired, .connect =>
    PCRBits.isInUse expected = false ∧ PCRBits.getP2P desired = 1 ∧
      PCRBits.getChannel desired = op.channel
  | .compareSwap expected desired, .disconnect =>
    PCRBits.getP2P expected = 1 ∧ PCRBits.getP2P desired = 0
  | _, _ => True

lemma getP2P_desiredPCR (op : Operation) (current : BitVec 32) (gapCount : ℕ) :
    PCRBits.getP2P (CMPBus.desiredPCR op current gapCount) = 1 := by
  unfold CMPBus.desiredPCR
  dsimp only
  split_ifs <;> simp

lemma getChannel_desiredPCR {op : Operation} (h : op.channel.toNat ≤ 63) (current : BitVec 32)
    (gapCount : ℕ) : PCRBits.getChannel (CMPBus.desiredPCR op current gapCount) = op.channel := by
  unfold CMPBus.desiredPCR
  dsimp only
  split_ifs <;> simp [PCRBits.getChannel_setChannel _ h]

lemma getP2P_of_not_isInUse {pcr : BitVec 32} (h : PCRBits.isInUse pcr = false) :
    PCRBits.getP2P pcr = 0 := by
  unfold PCRBits.isInUse at h
  rw [Bool.or_eq_false_iff] at h
  simpa using h.2

lemma Operation.Next.same {op op' : Operation} (h : op.Next op') :
    op'.key = op.key ∧ op'.kind = op.kind ∧ op'.channel = op.channel ∧ op.effective = false ∧
      op'.effective = false := by
  cases h with
  | readPCR speed hrequest => simp [Operation.asks, Operation.effective, hrequest]
  | connect current gapCount hrequest hkind hfree =>
    simp [Operation.asks, Operation.effective, hrequest]
  | disconnect current hrequest hkind hp2p hchannel =>
    simp [Operation.asks, Operation.effective, hrequest]
  | retry expected desired hrequest hlost hlt =>
    simp [Operation.asks, Operation.effective, hrequest, hlost]

lemma Operation.Next.swaps {op op' : Operation} (h : op.Next op')
    (hchannel : op.kind = .connect → op.channel.toNat ≤ 63) : op'.Swaps := by
  cases h with
  | readPCR speed hrequest => simp [Operation.asks, Operation.Swaps]
  | connect current gapCount hrequest hkind hfree =>
    simp [Operation.asks, Operation.Swaps, hkind, hfree, getP2P_desiredPCR,
      getChannel_desiredPCR (hchannel hkind)]
  | disconnect current hrequest hkind hp2p hchannel =>
    simp [Operation.asks, Operation.Swaps, hkind, hp2p]
  | retry expected desired hrequest hlost hlt => simp [Operation.asks, Operation.Swaps]

namespace CMPBus

variable {w : CMPBus}

/-- Every connection in a register is this client's or one that another host counts. -/
def Shares (w : CMPBus) : Prop :=
  ∀ key, (PCRBits.getP2P (w.registers key)).toNat =
    (if w.connected key then 1 else 0) + w.others key

/-- A swap that was made over a current route is answered; other hosts leave this client's
connection and its channel alone; a route is not given up while an operation is under way on it;
leases are dropped after the routes were; and a route that is not current any more stays so. -/
def Orderly (w : CMPBus) : Event → Prop
  | .requestDone id status sized _ => ∀ op, w.operations id = some op → op.effective = true →
      w.isCurrent op.key.route = true → status = .success ∧ sized = true
  | .otherHost key pcr others =>
      (PCRBits.getP2P pcr).toNat = (if w.connected key then 1 else 0) + others ∧
        (w.connected key = true → PCRBits.getChannel pcr = PCRBits.getChannel (w.registers key))
  | .invalidateRoute route => w.isCurrent route = false ∨
      ∀ id op, w.operations id = some op → op.key.route ≠ route
  | .invalidateAllLeasesForBusReset => ∀ key, w.isCurrent key.route = true → w.leases key = none
  | .routesChange isCurrent =>
      ∀ route, isCurrent route = true → w.isCurrent route = true ∨ w.wasCurrent route = false
  | _ => True

/-- How the operation under way on a plug stands to the connection in its register. -/
structure Stands (w : CMPBus) (op : Operation) : Prop where
  channel : op.kind = .connect → op.channel.toNat ≤ 63
  swaps : op.Swaps
  busy : w.isCurrent op.key.route = true → w.leases op.key = some ⟨op.channel, op.kind.busy⟩
  known : w.wasCurrent op.key.route = true
  made : op.kind = .connect → op.effective = true →
    w.connected op.key = true ∧ PCRBits.getChannel (w.registers op.key) = op.channel
  broken : op.kind = .disconnect → op.effective = true → w.connected op.key = false
  held : op.kind = .disconnect → op.effective = false →
    w.connected op.key = true ∧ PCRBits.getChannel (w.registers op.key) = op.channel

/-- What holds between leases, operations and registers. -/
structure Holds (w : CMPBus) : Prop where
  shares : w.Shares
  known : ∀ route, w.isCurrent route = true → w.wasCurrent route = true
  unknown : ∀ key, w.wasCurrent key.route = false → w.leases key = none ∧ w.connected key = false
  calls : ∀ id op, w.operations id = some op → id < w.calls
  one : ∀ id id' op op', w.operations id = some op → w.operations id' = some op' →
    op.key = op'.key → id = id'
  stands : ∀ id op, w.operations id = some op → w.Stands op
  lease : ∀ key channel, w.isCurrent key.route = true →
    w.leases key = some ⟨channel, .connected⟩ →
      w.connected key = true ∧ PCRBits.getChannel (w.registers key) = channel

/-- Nothing an operation stands on has changed. -/
lemma Stands.congr {w' : CMPBus} {op : Operation} (h : w.Stands op)
    (hcurrent : w'.isCurrent = w.isCurrent) (hwas : w'.wasCurrent = w.wasCurrent)
    (hlease : w'.leases op.key = w.leases op.key)
    (hconnected : w'.connected op.key = w.connected op.key)
    (hregister : w'.registers op.key = w.registers op.key) : w'.Stands op where
  channel := h.channel
  swaps := h.swaps
  busy := by simpa [hcurrent, hlease] using h.busy
  known := by simpa [hwas] using h.known
  made := by simpa [hconnected, hregister] using h.made
  broken := by simpa [hconnected] using h.broken
  held := by simpa [hconnected, hregister] using h.held

/-- A plug with a lease that is free to be taken has no operation under way. -/
lemma Holds.idle (h : w.Holds) {key : LeaseKey} (hcurrent : w.isCurrent key.route = true)
    (hlease : ∀ channel kind, w.leases key ≠ some ⟨channel, OperationKind.busy kind⟩) {id : ℕ}
    {op : Operation} (hop : w.operations id = some op) : op.key ≠ key := by
  intro heq
  subst heq
  exact hlease _ _ ((h.stands id op hop).busy hcurrent)

/-- A new operation on a plug where none is under way. -/
lemma Holds.begin (h : w.Holds) (op : Operation) {lease : Lease}
    (hcurrent : w.isCurrent op.key.route = true)
    (hidle : ∀ id op', w.operations id = some op' → op'.key ≠ op.key)
    (hbusy : lease = ⟨op.channel, op.kind.busy⟩)
    (hstands : ∀ w' : CMPBus, w'.isCurrent = w.isCurrent → w'.wasCurrent = w.wasCurrent →
      w'.leases op.key = some lease → w'.connected = w.connected → w'.registers = w.registers →
      w'.Stands op) :
    Holds { w with
      calls := w.calls + 1
      leases := Function.update w.leases op.key (some lease)
      operations := Function.update w.operations w.calls (some op) } where
  shares := h.shares
  known := h.known
  unknown key hunknown := by
    have hne : key ≠ op.key := fun heq => by
      rw [heq] at hunknown
      exact absurd (h.known _ hcurrent) (by simpa using hunknown)
    simpa [hne] using h.unknown key hunknown
  calls id op' hop := by
    rcases update_some_cases hop with ⟨rfl, -⟩ | ⟨-, hbefore⟩
    · exact Nat.lt_succ_self _
    · exact (h.calls id op' hbefore).trans (Nat.lt_succ_self _)
  one id id' op₁ op₂ hop₁ hop₂ hkey := by
    rcases update_some_cases hop₁ with ⟨rfl, rfl⟩ | ⟨-, hold₁⟩ <;>
      rcases update_some_cases hop₂ with ⟨rfl, rfl⟩ | ⟨-, hold₂⟩
    · rfl
    · exact absurd hkey.symm (hidle id' op₂ hold₂)
    · exact absurd hkey (hidle id op₁ hold₁)
    · exact h.one id id' op₁ op₂ hold₁ hold₂ hkey
  stands id op' hop := by
    rcases update_some_cases hop with ⟨-, rfl⟩ | ⟨-, hbefore⟩
    · exact hstands _ rfl rfl (Function.update_self _ _ _) rfl rfl
    · exact (h.stands id op' hbefore).congr rfl rfl
        (Function.update_of_ne (hidle id op' hbefore) _ _) rfl rfl
  lease key channel hcur hlease := by
    by_cases heq : key = op.key
    · simp only [heq, Function.update_self, Option.some.injEq, hbusy, Lease.mk.injEq] at hlease
      cases hkind : op.kind <;> rw [hkind] at hlease <;> simp [OperationKind.busy] at hlease
    · simp only [Function.update_of_ne heq] at hlease
      exact h.lease key channel hcur hlease

/-- One operation in another's place, on the same plug. -/
lemma Holds.calls_update (h : w.Holds) {id : ℕ} {op op' : Operation} (hop : w.operations id = some op)
    (id₁ : ℕ) (op₁ : Operation) (hop₁ : Function.update w.operations id (some op') id₁ = some op₁) :
    id₁ < w.calls := by
  rcases update_some_cases hop₁ with ⟨rfl, -⟩ | ⟨-, hbefore⟩
  · exact h.calls id₁ op hop
  · exact h.calls id₁ op₁ hbefore

lemma Holds.one_update (h : w.Holds) {id : ℕ} {op op' : Operation} (hop : w.operations id = some op)
    (hkey : op'.key = op.key) (id₁ id₂ : ℕ) (op₁ op₂ : Operation)
    (hop₁ : Function.update w.operations id (some op') id₁ = some op₁)
    (hop₂ : Function.update w.operations id (some op') id₂ = some op₂) (hkeys : op₁.key = op₂.key) :
    id₁ = id₂ := by
  have hbefore (id' : ℕ) (op'' : Operation)
      (hop' : Function.update w.operations id (some op') id' = some op'') :
      ∃ old, w.operations id' = some old ∧ old.key = op''.key := by
    rcases update_some_cases hop' with ⟨rfl, rfl⟩ | ⟨-, hold⟩
    · exact ⟨op, hop, hkey.symm⟩
    · exact ⟨op'', hold, rfl⟩
  obtain ⟨old₁, hold₁, hkey₁⟩ := hbefore id₁ op₁ hop₁
  obtain ⟨old₂, hold₂, hkey₂⟩ := hbefore id₂ op₂ hop₂
  exact h.one id₁ id₂ old₁ old₂ hold₁ hold₂ (hkey₁.trans (hkeys.trans hkey₂.symm))

/-- An operation that goes on with nothing changed on its plug. -/
lemma Holds.update (h : w.Holds) {id : ℕ} {op op' : Operation} (hop : w.operations id = some op)
    (hkey : op'.key = op.key) (hstands : w.Stands op') :
    Holds { w with operations := Function.update w.operations id (some op') } where
  shares := h.shares
  known := h.known
  unknown := h.unknown
  calls := h.calls_update hop
  one := h.one_update hop hkey
  stands id' op'' hop' := by
    rcases update_some_cases hop' with ⟨-, rfl⟩ | ⟨-, hbefore⟩
    · exact hstands.congr rfl rfl rfl rfl rfl
    · exact (h.stands id' op'' hbefore).congr rfl rfl rfl rfl rfl
  lease := h.lease

/-- An operation that ends, with what is left of the lease of its plug. -/
lemma Holds.finish (h : w.Holds) {id : ℕ} {op : Operation} (hop : w.operations id = some op)
    (lease : Option Lease) (callbacks : List (ℕ × AllocationStatus))
    (hlease : ∀ channel, w.isCurrent op.key.route = true → lease = some ⟨channel, .connected⟩ →
      w.connected op.key = true ∧ PCRBits.getChannel (w.registers op.key) = channel) :
    Holds { w with
      leases := Function.update w.leases op.key lease
      operations := Function.update w.operations id none
      callbacks } where
  shares := h.shares
  known := h.known
  unknown key hunknown := by
    have hne : key ≠ op.key := fun heq => by
      have hknown := (h.stands id op hop).known
      rw [heq] at hunknown
      exact absurd hknown (by simpa using hunknown)
    simpa [hne] using h.unknown key hunknown
  calls id' op' hop' := h.calls id' op' (update_none_cases hop').2
  one id₁ id₂ op₁ op₂ hop₁ hop₂ :=
    h.one id₁ id₂ op₁ op₂ (update_none_cases hop₁).2 (update_none_cases hop₂).2
  stands id' op' hop' := by
    obtain ⟨hid, hbefore⟩ := update_none_cases hop'
    have hne : op'.key ≠ op.key := fun hkey => hid (h.one id' id op' op hbefore hop hkey)
    exact (h.stands id' op' hbefore).congr rfl rfl (Function.update_of_ne hne _ _) rfl rfl
  lease key channel hcurrent hkept := by
    by_cases heq : key = op.key
    · subst heq
      simp only [Function.update_self] at hkept
      exact hlease channel hcurrent hkept
    · simp only [Function.update_of_ne heq] at hkept
      exact h.lease key channel hcurrent hkept

lemma Holds.none_calls (h : w.Holds) : Function.update w.operations w.calls none = w.operations := by
  refine Function.update_eq_self_iff.mpr ?_
  cases hop : w.operations w.calls with
  | none => rfl
  | some op => exact absurd (h.calls _ op hop) (lt_irrefl _)

/-- A call that is refused. -/
lemma Holds.refuse (h : w.Holds) (status : AllocationStatus) :
    Holds ({ w with calls := w.calls + 1 }.callback w.calls status) := by
  unfold callback
  dsimp only
  rw [h.none_calls]
  exact ⟨h.shares, h.known, h.unknown,
    fun id op hop => (h.calls id op hop).trans (Nat.lt_succ_self _), h.one,
    fun id op hop => (h.stands id op hop).congr rfl rfl rfl rfl rfl, h.lease⟩

lemma Holds.connect (h : w.Holds) (key : LeaseKey) (channel : BitVec 8) (routeSpeed : BitVec 32) :
    (w.connect key channel routeSpeed).Holds := by
  rcases w.connect_cases key channel routeSpeed with heq | ⟨hcurrent, hchannel, hfree, heq⟩
  · rw [heq]
    exact h.refuse .failed
  · rw [heq]
    refine h.begin
      { kind := .connect, key, channel, speed := routeSpeed, request := .readMPR, requests := 1 }
      hcurrent (fun id op hop => h.idle hcurrent (by simp [hfree]) hop) rfl
      fun w' hcur hwas hlease hconnected hregisters => ?_
    constructor
    · exact fun _ => hchannel
    · trivial
    · exact fun _ => hlease
    · rw [hwas]
      exact h.known _ hcurrent
    · simp [Operation.effective]
    · simp
    · simp

lemma Holds.disconnect (h : w.Holds) (key : LeaseKey) : (w.disconnect key).Holds := by
  rcases w.disconnect_cases key with heq | ⟨channel, hcurrent, hlease, heq⟩
  · rw [heq]
    exact h.refuse .success
  · rw [heq]
    refine h.begin { kind := .disconnect, key, channel, request := .readPCR, requests := 1 }
      hcurrent (fun id op hop => h.idle hcurrent (fun channel' kind => ?_) hop) rfl
      fun w' hcur hwas hbusy hconnected hregisters => ?_
    · rw [hlease]
      cases kind <;> simp [OperationKind.busy]
    constructor
    · simp
    · trivial
    · exact fun _ => hbusy
    · rw [hwas]
      exact h.known _ hcurrent
    · simp
    · simp [Operation.effective]
    · intro _ _
      rw [hconnected, hregisters]
      exact h.lease key channel hcurrent hlease

/-- A swap that the device makes: it found no connection, or this client's own. -/
lemma Holds.swap (h : w.Holds) {id : ℕ} {op : Operation} {expected desired : BitVec 32}
    (hop : w.operations id = some op) (hreply : op.reply = none)
    (hrequest : op.request = .compareSwap expected desired)
    (hmatch : w.registers op.key = expected) :
    ((w.swapRegister op desired).withReply id op expected).Holds := by
  have hstands := h.stands id op hop
  have hnot : op.effective = false := by simp [Operation.effective, hrequest, hreply]
  have hdone : ({ op with reply := some expected } : Operation).effective = true := by
    simp [Operation.effective, hrequest]
  have hcount := h.shares op.key
  have hswaps := hstands.swaps
  unfold Operation.Swaps at hswaps
  rw [hrequest] at hswaps
  have hother (key : LeaseKey) (hne : key ≠ op.key) :
      (w.swapRegister op desired).registers key = w.registers key ∧
        (w.swapRegister op desired).connected key = w.connected key :=
    ⟨Function.update_of_ne hne _ _, Function.update_of_ne hne _ _⟩
  have hregister : (w.swapRegister op desired).registers op.key = desired := Function.update_self _ _ _
  have hconnected : (w.swapRegister op desired).connected op.key = decide (op.kind = .connect) :=
    Function.update_self _ _ _
  -- the two kinds of swap: a free register, or one that holds the lease's connection alone
  have hkinds : (op.kind = .connect ∧ PCRBits.getP2P desired = 1 ∧
        PCRBits.getChannel desired = op.channel ∧ w.others op.key = 0) ∨
      (op.kind = .disconnect ∧ PCRBits.getP2P desired = 0 ∧ w.others op.key = 0) := by
    rw [hmatch] at hcount
    cases hkind : op.kind with
    | connect =>
      rw [hkind] at hswaps
      obtain ⟨hfree, hp2p, hchannel⟩ := hswaps
      rw [getP2P_of_not_isInUse hfree] at hcount
      have hzero : (0 : BitVec 8).toNat = 0 := rfl
      exact Or.inl ⟨rfl, hp2p, hchannel, by omega⟩
    | disconnect =>
      rw [hkind] at hswaps
      obtain ⟨hone, hp2p⟩ := hswaps
      rw [hone, (hstands.held hkind hnot).1] at hcount
      refine Or.inr ⟨rfl, hp2p, ?_⟩
      simpa using hcount
  constructor
  · intro key
    show (PCRBits.getP2P ((w.swapRegister op desired).registers key)).toNat =
      (if (w.swapRegister op desired).connected key then 1 else 0) + w.others key
    by_cases hkey : key = op.key
    · rw [hkey, hregister, hconnected]
      rcases hkinds with ⟨hkind, hp2p, -, hnone⟩ | ⟨hkind, hp2p, hnone⟩
      · simp [hkind, hp2p, hnone]
      · simp [hkind, hp2p, hnone]
    · rw [(hother key hkey).1, (hother key hkey).2]
      exact h.shares key
  · exact h.known
  · intro key hunknown
    replace hunknown : w.wasCurrent key.route = false := hunknown
    have hne : key ≠ op.key := fun heq => by
      rw [heq, hstands.known] at hunknown
      cases hunknown
    exact ⟨(h.unknown key hunknown).1, (hother key hne).2.trans (h.unknown key hunknown).2⟩
  · exact h.calls_update hop
  · exact h.one_update hop rfl
  · intro id' op' hop'
    rcases update_some_cases hop' with ⟨-, rfl⟩ | ⟨hid, hbefore⟩
    · refine ⟨hstands.channel, hstands.swaps, hstands.busy, hstands.known, fun hkind _ => ?_,
        fun hkind _ => ?_, fun _ hundone => ?_⟩
      · rcases hkinds with ⟨-, -, hchannel, -⟩ | ⟨hkind', -, -⟩
        · exact ⟨hconnected.trans (decide_eq_true hkind), (congrArg _ hregister).trans hchannel⟩
        · exact absurd (hkind.symm.trans hkind') (by simp)
      · refine hconnected.trans (decide_eq_false ?_)
        rw [show op.kind = .disconnect from hkind]
        simp
      · rw [hdone] at hundone
        cases hundone
    · have hne : op'.key ≠ op.key := fun hkey => hid (h.one id' id op' op hbefore hop hkey)
      exact (h.stands id' op' hbefore).congr rfl rfl rfl (hother op'.key hne).2 (hother op'.key hne).1
  · intro key channel hcurrent hlease
    have hne : key ≠ op.key := fun heq => by
      have hbusy := hstands.busy (by rw [← heq]; exact hcurrent)
      rw [← heq, show w.leases key = some ⟨channel, .connected⟩ from hlease] at hbusy
      cases hkind : op.kind <;> rw [hkind] at hbusy <;> simp [OperationKind.busy] at hbusy
    show (w.swapRegister op desired).connected key = true ∧
      PCRBits.getChannel ((w.swapRegister op desired).registers key) = channel
    rw [(hother key hne).1, (hother key hne).2]
    exact h.lease key channel hcurrent hlease

/-- A reply that swaps nothing. -/
lemma Stands.reply {op : Operation} (h : w.Stands op) (hreply : op.reply = none) {value : BitVec 32}
    (hnot : ({ op with reply := some value } : Operation).effective = false) :
    w.Stands { op with reply := some value } := by
  have hbefore : op.effective = false := by
    unfold Operation.effective
    rw [hreply]
    cases op.request <;> simp
  exact ⟨h.channel, h.swaps, h.busy, h.known, fun _ hdone => absurd hdone (by simp [hnot]),
    fun _ hdone => absurd hdone (by simp [hnot]), fun hkind _ => h.held hkind hbefore⟩

lemma Stands.next {op op' : Operation} (h : w.Stands op) (hnext : op.Next op') : w.Stands op' := by
  obtain ⟨hkey, hkind, hchannel, hbefore, hafter⟩ := hnext.same
  constructor
  · rw [hkind, hchannel]
    exact h.channel
  · exact hnext.swaps h.channel
  · rw [hkey, hchannel, hkind]
    exact h.busy
  · rw [hkey]
    exact h.known
  · simp [hafter]
  · simp [hafter]
  · rw [hkind, hkey, hchannel]
    exact fun hdisconnect _ => h.held hdisconnect hbefore

lemma Holds.execute (h : w.Holds) (id : ℕ) (mpr : BitVec 32) : (w.execute id mpr).Holds := by
  rcases w.execute_cases id mpr with heq | ⟨op, value, hop, hreply, ⟨hnot, heq⟩ | ⟨desired, hrequest,
    hmatch, heq⟩⟩
  · rw [heq]
    exact h
  · rw [heq]
    exact h.update hop rfl ((h.stands id op hop).reply hreply hnot)
  · rw [heq]
    exact h.swap hop hreply hrequest hmatch

/-- A lease that an ending operation leaves connected has its connection. -/
lemma Holds.leaseAfter (h : w.Holds) {id : ℕ} {op : Operation} {result : AllocationStatus}
    (hop : w.operations id = some op) (hsuccess : result = .success → op.effective = true)
    (hfailed : result ≠ .success → w.isCurrent op.key.route = true → op.effective = false)
    (channel : BitVec 8) (hcurrent : w.isCurrent op.key.route = true)
    (hlease : op.leaseAfter result (w.leases op.key) = some ⟨channel, .connected⟩) :
    w.connected op.key = true ∧ PCRBits.getChannel (w.registers op.key) = channel := by
  have hstands := h.stands id op hop
  rw [hstands.busy hcurrent, op.leaseAfter_busy] at hlease
  split_ifs at hlease with hkept
  cases hlease
  cases hkind : op.kind with
  | connect => exact hstands.made hkind (hsuccess (hkept.mp hkind))
  | disconnect =>
    have hresult : result ≠ .success := fun hresult => by simp [hkind, hresult] at hkept
    exact hstands.held hkind (hfailed hresult hcurrent)

lemma Holds.requestDone (h : w.Holds) {id : ℕ} {status : AsyncStatus} {sized : Bool} {gapCount : ℕ}
    (horderly : w.Orderly (.requestDone id status sized gapCount)) :
    (w.requestDone id status sized gapCount).Holds := by
  have hends := w.requestEnds id status sized gapCount
  generalize w.requestDone id status sized gapCount = w' at hends
  cases hends with
  | none => exact h
  | ends op result hop hsuccess hfailed =>
    rw [complete_eq]
    refine h.finish hop _ _ fun channel hcurrent hlease => ?_
    refine h.leaseAfter hop (fun hresult => (hsuccess hresult).1) (fun hresult hcur => ?_) channel
      hcurrent hlease
    cases hdone : op.effective with
    | false => rfl
    | true => exact absurd (horderly op hop hdone hcur) (hfailed hresult hdone hcur)
  | next op op' hop hnext => exact h.update hop hnext.same.1 ((h.stands id op hop).next hnext)

lemma Holds.otherHost (h : w.Holds) {key : LeaseKey} {pcr : BitVec 32} {others : ℕ}
    (horderly : w.Orderly (.otherHost key pcr others)) :
    (CMPBus.step w (.otherHost key pcr others)).Holds := by
  obtain ⟨hcount, hchannel⟩ := horderly
  have hkept (key' : LeaseKey) (channel : BitVec 8) (hconnected : w.connected key' = true)
      (hbefore : PCRBits.getChannel (w.registers key') = channel) :
      PCRBits.getChannel (Function.update w.registers key pcr key') = channel := by
    by_cases heq : key' = key
    · subst heq
      rw [Function.update_self, hchannel hconnected, hbefore]
    · rw [Function.update_of_ne heq, hbefore]
  refine ⟨fun key' => ?_, h.known, h.unknown, h.calls, h.one, fun id op hop => ?_,
    fun key' channel hcurrent hlease => ?_⟩
  · show (PCRBits.getP2P (Function.update w.registers key pcr key')).toNat =
      (if w.connected key' then 1 else 0) + Function.update w.others key others key'
    by_cases heq : key' = key
    · rw [heq, Function.update_self, Function.update_self, hcount]
    · rw [Function.update_of_ne heq, Function.update_of_ne heq, h.shares key']
  · have hstands := h.stands id op hop
    refine ⟨hstands.channel, hstands.swaps, hstands.busy, hstands.known, fun hkind hdone => ?_,
      hstands.broken, fun hkind hdone => ?_⟩
    · obtain ⟨hconnected, hbefore⟩ := hstands.made hkind hdone
      exact ⟨hconnected, hkept op.key op.channel hconnected hbefore⟩
    · obtain ⟨hconnected, hbefore⟩ := hstands.held hkind hdone
      exact ⟨hconnected, hkept op.key op.channel hconnected hbefore⟩
  · obtain ⟨hconnected, hbefore⟩ := h.lease key' channel hcurrent hlease
    exact ⟨hconnected, hkept key' channel hconnected hbefore⟩

/-- Leases that are dropped. -/
lemma Holds.drop (h : w.Holds) {leases : LeaseKey → Option Lease}
    (hdropped : ∀ key, leases key = none ∨ leases key = w.leases key)
    (hbusy : ∀ id op, w.operations id = some op → w.isCurrent op.key.route = true →
      leases op.key = w.leases op.key) : Holds { w with leases } := by
  refine ⟨h.shares, h.known, fun key hunknown => ?_, h.calls, h.one, fun id op hop => ?_,
    fun key channel hcurrent hlease => ?_⟩
  · obtain ⟨hlease, hconnected⟩ := h.unknown key hunknown
    refine ⟨?_, hconnected⟩
    rcases hdropped key with hnone | hsame
    · exact hnone
    · exact hsame.trans hlease
  · have hstands := h.stands id op hop
    exact ⟨hstands.channel, hstands.swaps, fun hcurrent => (hbusy id op hop hcurrent).trans
      (hstands.busy hcurrent), hstands.known, hstands.made, hstands.broken, hstands.held⟩
  · rcases hdropped key with hnone | hsame
    · rw [show leases key = some ⟨channel, .connected⟩ from hlease] at hnone
      cases hnone
    · exact h.lease key channel hcurrent (hsame.symm.trans hlease)

lemma Holds.routesChange (h : w.Holds) {isCurrent : DeviceRouteToken → Bool}
    (horderly : w.Orderly (.routesChange isCurrent)) :
    (CMPBus.step w (.routesChange isCurrent)).Holds := by
  refine ⟨h.shares, fun route hcurrent => ?_, fun key hunknown => ?_, h.calls, h.one,
    fun id op hop => ?_, fun key channel hcurrent hlease => ?_⟩
  · show (w.wasCurrent route || isCurrent route) = true
    rw [show isCurrent route = true from hcurrent, Bool.or_true]
  · have hboth : (w.wasCurrent key.route || isCurrent key.route) = false := hunknown
    exact h.unknown key (Bool.or_eq_false_iff.mp hboth).1
  · have hstands := h.stands id op hop
    refine ⟨hstands.channel, hstands.swaps, fun hcurrent => ?_, ?_, hstands.made, hstands.broken,
      hstands.held⟩
    · rcases horderly op.key.route hcurrent with hbefore | hnew
      · exact hstands.busy hbefore
      · rw [hstands.known] at hnew
        cases hnew
    · show (w.wasCurrent op.key.route || isCurrent op.key.route) = true
      rw [hstands.known, Bool.true_or]
  · rcases horderly key.route hcurrent with hbefore | hnew
    · exact h.lease key channel hbefore hlease
    · have hnone := (h.unknown key hnew).1
      rw [show w.leases key = some ⟨channel, .connected⟩ from hlease] at hnone
      cases hnone

lemma Holds.step (h : w.Holds) (e : Event) (horderly : w.Orderly e) : (CMPBus.step w e).Holds := by
  cases e with
  | connect key channel routeSpeed => exact h.connect key channel routeSpeed
  | disconnect key => exact h.disconnect key
  | execute id mpr => exact h.execute id mpr
  | requestDone id status sized gapCount => exact h.requestDone horderly
  | otherHost key pcr others => exact h.otherHost horderly
  | invalidateRoute route =>
    refine h.drop (fun key => ?_) fun id op hop hcurrent => ?_
    · by_cases hroute : key.route = route ∧ route.valid = true
      · exact Or.inl (if_pos hroute)
      · exact Or.inr (if_neg hroute)
    · refine if_neg fun hroute => ?_
      rcases horderly with hstale | hidle
      · rw [hroute.1, hstale] at hcurrent
        cases hcurrent
      · exact hidle id op hop hroute.1
  | invalidateAllLeasesForBusReset =>
    refine h.drop (fun key => Or.inl rfl) fun id op hop hcurrent => ?_
    exact (horderly op.key hcurrent).symm
  | routesChange isCurrent => exact h.routesChange horderly

/-- A client no call was made to yet, on registers that hold only connections of other hosts. -/
lemma Fresh.holds (h : w.Fresh)
    (hothers : ∀ key, (PCRBits.getP2P (w.registers key)).toNat = w.others key) : w.Holds where
  shares key := by simp [h.connected key, hothers key]
  known := h.wasCurrent
  unknown key _ := ⟨h.leases key, h.connected key⟩
  calls id op hop := by simp [h.operations id] at hop
  one id _ op _ hop := by simp [h.operations id] at hop
  stands id op hop := by simp [h.operations id] at hop
  lease key channel _ hlease := by simp [h.leases key] at hlease

/-- In every orderly run, whatever the interleaving of calls, requests, other hosts and resets, a
register's connections are those of other hosts and at most one of this client. -/
theorem shares_of_orderly (h : w.Fresh)
    (hothers : ∀ key, (PCRBits.getP2P (w.registers key)).toNat = w.others key) {events : List Event}
    (horderly : Meets CMPBus.step Orderly w events) : (run CMPBus.step w events).Shares :=
  (invariant_run_of_meets (I := Holds) (C := Orderly) (fun _ e hs hc => hs.step e hc)
    (h.holds hothers) horderly).shares

lemma others_oneDevice (key : LeaseKey) :
    (PCRBits.getP2P (oneDevice.registers key)).toNat = oneDevice.others key := by
  have hfree : (PCRBits.getP2P 0x80000000).toNat = 0 := by decide
  exact hfree

lemma orderly_connection : Meets CMPBus.step Orderly oneDevice connection :=
  ⟨trivial, trivial, fun _ _ _ _ => ⟨rfl, rfl⟩, trivial, fun _ _ _ _ => ⟨rfl, rfl⟩, trivial,
    fun _ _ _ _ => ⟨rfl, rfl⟩, trivial⟩

theorem shares_of_orderly_oneDevice : (run CMPBus.step oneDevice connection).Shares :=
  shares_of_orderly fresh_oneDevice others_oneDevice orderly_connection

end CMPBus

end ASFireWire.CMP
