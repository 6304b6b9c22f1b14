import ASFireWire.ConfigROMStore
import ASFireWire.KeyedLists

/-! The registry of remote devices (`Discovery/DeviceRegistry.cpp`) and its route tokens
(`Discovery/DeviceRouteToken.hpp`). A record has here what decides its route; what the catalog makes
of a ROM is part of the call. -/
namespace ASFireWire.Discovery

open Runs KeyedLists

inductive LifeState
  | discovered | identified | ready | quarantined | lost
  deriving DecidableEq, Repr

inductive QuarantineReason
  | none | hazardousNoProbe | ambiguousIdentity
  deriving DecidableEq, Repr

structure DeviceRecord where
  instanceId : ℕ
  quarantineReason : QuarantineReason := .none
  guid : ℕ
  deviceIncarnation : ℕ
  routeEpoch : ℕ
  gen : ℕ := 0
  nodeId : ℕ := kInvalidNodeId
  state : LifeState := .discovered
  deriving DecidableEq, Repr

structure DeviceRouteToken where
  guid : ℕ
  deviceIncarnation : ℕ
  routeEpoch : ℕ
  generation : ℕ
  nodeId : ℕ
  deriving DecidableEq, Repr

/-- `operator bool`. -/
def DeviceRouteToken.valid (t : DeviceRouteToken) : Bool :=
  t.guid ≠ 0 && t.deviceIncarnation ≠ 0 && t.routeEpoch ≠ 0 && (tryOperationalNodeId t.nodeId).isSome

/-- A parsed ROM with where it was read, and what `AudioDeviceCatalog::Resolve` says of it. -/
structure IdentifiedROM where
  guid : ℕ
  gen : ℕ
  nodeId : ℕ
  verdict : QuarantineReason := .none
  deriving DecidableEq, Repr

namespace DeviceRecord

def hasLiveRoute (d : DeviceRecord) : Bool :=
  d.state ≠ .lost && d.state ≠ .quarantined && d.quarantineReason = .none &&
    (tryOperationalNodeId d.nodeId).isSome

def makeRouteToken (d : DeviceRecord) : DeviceRouteToken where
  guid := d.guid
  deviceIncarnation := d.deviceIncarnation
  routeEpoch := d.routeEpoch
  generation := d.gen
  nodeId := d.nodeId

/-- What a ROM does to a record besides its epoch. -/
def identify (d : DeviceRecord) (rom : IdentifiedROM) : DeviceRecord :=
  { d with
    guid := rom.guid
    quarantineReason := rom.verdict
    gen := rom.gen
    nodeId := rom.nodeId
    state := if rom.verdict ≠ .none then .quarantined else .identified }

end DeviceRecord

/-- The records are in the order of their GUIDs. -/
structure DeviceRegistry where
  devicesByGuid : List DeviceRecord := []
  lastDeviceIncarnationByGuid : ℕ → ℕ := fun _ => 0
  nextRouteEpoch : ℕ := 0
  nextDeviceInstanceId : ℕ := 0
  genNodeToGuid : ℕ → Option ℕ := fun _ => none

namespace DeviceRegistry

def find (r : DeviceRegistry) (guid : ℕ) : Option DeviceRecord :=
  lookup DeviceRecord.guid r.devicesByGuid guid

def modify (r : DeviceRegistry) (guid : ℕ) (f : DeviceRecord → DeviceRecord) : DeviceRegistry :=
  { r with devicesByGuid := KeyedLists.modify DeviceRecord.guid guid f r.devicesByGuid }

/-- A new record: its incarnation goes on from the last one of the GUID. -/
def newDevice (r : DeviceRegistry) (rom : IdentifiedROM) : DeviceRecord :=
  ({ instanceId := r.nextDeviceInstanceId + 1
     guid := rom.guid
     deviceIncarnation := r.lastDeviceIncarnationByGuid rom.guid + 1
     routeEpoch := r.nextRouteEpoch + 1 } : DeviceRecord).identify rom

def insertDevice (r : DeviceRegistry) (rom : IdentifiedROM) : DeviceRegistry :=
  { r with
    devicesByGuid := r.devicesByGuid.orderedInsert (fun d d' => d.guid ≤ d'.guid) (r.newDevice rom)
    lastDeviceIncarnationByGuid := Function.update r.lastDeviceIncarnationByGuid rom.guid
      (r.lastDeviceIncarnationByGuid rom.guid + 1)
    nextRouteEpoch := r.nextRouteEpoch + 1
    nextDeviceInstanceId := r.nextDeviceInstanceId + 1 }

/-- A known record: a new binding gets a new epoch. -/
def rebindDevice (r : DeviceRegistry) (rom : IdentifiedROM) (device : DeviceRecord) :
    DeviceRegistry :=
  if device.gen ≠ rom.gen ∨ device.nodeId ≠ rom.nodeId ∨ device.hasLiveRoute = false then
    { r.modify rom.guid fun d => { d with routeEpoch := r.nextRouteEpoch + 1 }.identify rom with
      nextRouteEpoch := r.nextRouteEpoch + 1 }
  else r.modify rom.guid fun d => d.identify rom

/-- The secondary index gets an entry for every operational node. -/
def indexNode (r : DeviceRegistry) (rom : IdentifiedROM) : DeviceRegistry :=
  match tryOperationalNodeId rom.nodeId with
  | none => r
  | some nodeId =>
    { r with genNodeToGuid := Function.update r.genNodeToGuid (makeKey rom.gen nodeId) (some rom.guid) }

def upsertFromROM (r : DeviceRegistry) (rom : IdentifiedROM) : DeviceRegistry :=
  (match r.find rom.guid with
    | none => r.insertDevice rom
    | some device => r.rebindDevice rom device).indexNode rom

def markDiscovered (r : DeviceRegistry) (gen nodeId : ℕ) : DeviceRegistry :=
  match r.genNodeToGuid (makeKey gen nodeId) with
  | none => r
  | some guid =>
    r.modify guid fun d => { d with state := .discovered, gen := gen, nodeId := nodeId }

def markDuplicateGuid (r : DeviceRegistry) (guid : ℕ) : DeviceRegistry :=
  r.modify guid fun d => { d with state := .quarantined }

/-- The record a mapping leads to loses its node. -/
def loseDevice (r : DeviceRegistry) (guid : ℕ) : DeviceRegistry :=
  match r.find guid with
  | none => r
  | some _ =>
    { r.modify guid fun d =>
        { d with state := .lost, nodeId := kInvalidNodeId, routeEpoch := r.nextRouteEpoch + 1 } with
      nextRouteEpoch := r.nextRouteEpoch + 1 }

def markLost (r : DeviceRegistry) (gen nodeId : ℕ) : DeviceRegistry :=
  match r.genNodeToGuid (makeKey gen nodeId) with
  | none => r
  | some guid =>
    { r.loseDevice guid with
      genNodeToGuid := Function.update r.genNodeToGuid (makeKey gen nodeId) none }

def retireDevice (r : DeviceRegistry) (guid : ℕ) : DeviceRegistry :=
  { r with
    devicesByGuid := KeyedLists.erase DeviceRecord.guid guid r.devicesByGuid
    lastDeviceIncarnationByGuid :=
      match r.find guid with
      | none => r.lastDeviceIncarnationByGuid
      | some d => Function.update r.lastDeviceIncarnationByGuid guid d.deviceIncarnation
    genNodeToGuid := fun key =>
      if r.genNodeToGuid key = some guid then none else r.genNodeToGuid key }

/-- Records with a node lose it, each with a new epoch. -/
def invalidateRoutes : ℕ → List DeviceRecord → List DeviceRecord × ℕ
  | epoch, [] => ([], epoch)
  | epoch, d :: devices =>
    match tryOperationalNodeId d.nodeId with
    | none => (d :: (invalidateRoutes epoch devices).1, (invalidateRoutes epoch devices).2)
    | some _ =>
      ({ d with nodeId := kInvalidNodeId, routeEpoch := epoch + 1 } ::
        (invalidateRoutes (epoch + 1) devices).1, (invalidateRoutes (epoch + 1) devices).2)

def invalidateLiveMappingsForBusReset (r : DeviceRegistry) : DeviceRegistry :=
  { r with
    devicesByGuid := (invalidateRoutes r.nextRouteEpoch r.devicesByGuid).1
    nextRouteEpoch := (invalidateRoutes r.nextRouteEpoch r.devicesByGuid).2
    genNodeToGuid := fun _ => none }

/-- The counter of instances goes on. -/
def clear (r : DeviceRegistry) : DeviceRegistry :=
  { nextDeviceInstanceId := r.nextDeviceInstanceId }

inductive RegistryOp
  | upsertFromROM (rom : IdentifiedROM)
  | markDiscovered (gen : ℕ) (nodeId : UInt8)
  | markDuplicateGuid (guid : ℕ)
  | markLost (gen : ℕ) (nodeId : UInt8)
  | retireDevice (guid : ℕ)
  | invalidateLiveMappingsForBusReset
  | clear
  deriving DecidableEq, Repr

def step (r : DeviceRegistry) : RegistryOp → DeviceRegistry
  | .upsertFromROM rom => r.upsertFromROM rom
  | .markDiscovered gen nodeId => r.markDiscovered gen nodeId.toNat
  | .markDuplicateGuid guid => r.markDuplicateGuid guid
  | .markLost gen nodeId => r.markLost gen nodeId.toNat
  | .retireDevice guid => r.retireDevice guid
  | .invalidateLiveMappingsForBusReset => r.invalidateLiveMappingsForBusReset
  | .clear => r.clear

def currentRoute (r : DeviceRegistry) (guid : ℕ) : Option DeviceRouteToken :=
  match r.find guid with
  | none => none
  | some d => if d.hasLiveRoute then some d.makeRouteToken else none

def isCurrent (r : DeviceRegistry) (t : DeviceRouteToken) : Bool :=
  if t.valid = false then false
  else
    match r.find t.guid with
    | none => false
    | some d =>
      d.hasLiveRoute && d.deviceIncarnation = t.deviceIncarnation && d.routeEpoch = t.routeEpoch &&
        d.gen = t.generation && d.nodeId = t.nodeId

/-! ### What every operation does to the record of a GUID -/

variable {r : DeviceRegistry} {guid g : ℕ}

lemma guid_of_find {d : DeviceRecord} (h : r.find g = some d) : d.guid = g := key_of_lookup h

lemma find_modify {f : DeviceRecord → DeviceRecord} (hf : ∀ d, d.guid = guid → (f d).guid = guid)
    (g : ℕ) :
    (r.modify guid f).find g = if g = guid then (r.find g).map f else r.find g :=
  lookup_modify hf g

lemma find_modify_of_find {f : DeviceRecord → DeviceRecord} (hf : ∀ d, (f d).guid = guid)
    {d : DeviceRecord} (hfind : r.find guid = some d) (g : ℕ) :
    (r.modify guid f).find g = if g = guid then some (f d) else r.find g := by
  rw [find_modify fun d _ => hf d]
  apply ite_congr rfl
  · intro hg
    rw [hg, hfind, Option.map_some]
  · exact fun _ => rfl

/-- The record a ROM leaves. -/
def boundRecord (r : DeviceRegistry) (rom : IdentifiedROM) : DeviceRecord :=
  match r.find rom.guid with
  | none => r.newDevice rom
  | some d =>
    if d.gen ≠ rom.gen ∨ d.nodeId ≠ rom.nodeId ∨ d.hasLiveRoute = false then
      { d with routeEpoch := r.nextRouteEpoch + 1 }.identify rom
    else d.identify rom

lemma find_indexNode (r : DeviceRegistry) (rom : IdentifiedROM) (g : ℕ) :
    (r.indexNode rom).find g = r.find g := by
  unfold indexNode
  cases tryOperationalNodeId rom.nodeId <;> rfl

lemma find_upsertFromROM (r : DeviceRegistry) (rom : IdentifiedROM) (g : ℕ) :
    (r.upsertFromROM rom).find g = if g = rom.guid then some (r.boundRecord rom) else r.find g := by
  unfold upsertFromROM boundRecord
  rw [find_indexNode]
  cases hfind : r.find rom.guid with
  | none =>
    have hinsert : (r.insertDevice rom).find g =
        if rom.guid = g then some (r.newDevice rom) else r.find g :=
      @lookup_orderedInsert _ _ _ DeviceRecord.guid r.devicesByGuid (r.newDevice rom) _ _ hfind g
    refine hinsert.trans ?_
    exact if_congr eq_comm rfl rfl
  | some d =>
    dsimp only
    unfold rebindDevice
    by_cases hnew : d.gen ≠ rom.gen ∨ d.nodeId ≠ rom.nodeId ∨ d.hasLiveRoute = false
    · rw [if_pos hnew, if_pos hnew]
      exact find_modify_of_find
        (f := fun d => { d with routeEpoch := r.nextRouteEpoch + 1 }.identify rom)
        (fun _ => rfl) hfind g
    · rw [if_neg hnew, if_neg hnew]
      exact find_modify_of_find (f := fun d => d.identify rom) (fun _ => rfl) hfind g

lemma find_markLost_of_indexed {gen nodeId : ℕ} (h : r.genNodeToGuid (makeKey gen nodeId) = some guid)
    (g : ℕ) :
    (r.markLost gen nodeId).find g =
      if g = guid then (r.find g).map fun d =>
        { d with state := .lost, nodeId := kInvalidNodeId, routeEpoch := r.nextRouteEpoch + 1 }
      else r.find g := by
  unfold markLost
  rw [h]
  show (r.loseDevice guid).find g = _
  unfold loseDevice
  cases hfind : r.find guid with
  | none =>
    dsimp only
    split_ifs with hg
    · rw [hg, hfind]
      rfl
    · rfl
  | some d =>
    exact find_modify (f := fun d =>
        { d with state := .lost, nodeId := kInvalidNodeId, routeEpoch := r.nextRouteEpoch + 1 })
      (fun _ hd => hd) g

lemma find_retireDevice (r : DeviceRegistry) (guid g : ℕ) :
    (r.retireDevice guid).find g = if g = guid then none else r.find g :=
  lookup_erase g

lemma le_invalidateRoutes (epoch : ℕ) (devices : List DeviceRecord) :
    epoch ≤ (invalidateRoutes epoch devices).2 := by
  induction devices generalizing epoch with
  | nil => exact le_rfl
  | cons d devices ih =>
    unfold invalidateRoutes
    cases tryOperationalNodeId d.nodeId with
    | none => exact ih epoch
    | some nodeId => exact (Nat.le_succ epoch).trans (ih (epoch + 1))

/-- A record without a node stays; the others lose it and get an epoch of their own. -/
lemma lookup_invalidateRoutes (epoch : ℕ) (devices : List DeviceRecord) (g : ℕ) :
    (lookup DeviceRecord.guid devices g = none →
      lookup DeviceRecord.guid (invalidateRoutes epoch devices).1 g = none) ∧
    ∀ d, lookup DeviceRecord.guid devices g = some d →
      (tryOperationalNodeId d.nodeId = none ∧
        lookup DeviceRecord.guid (invalidateRoutes epoch devices).1 g = some d) ∨
      ∃ e, epoch < e ∧ e ≤ (invalidateRoutes epoch devices).2 ∧
        lookup DeviceRecord.guid (invalidateRoutes epoch devices).1 g =
          some { d with nodeId := kInvalidNodeId, routeEpoch := e } := by
  induction devices generalizing epoch with
  | nil => exact ⟨fun _ => rfl, fun d h => by simp at h⟩
  | cons x devices ih =>
    rw [lookup_cons]
    unfold invalidateRoutes
    cases hnode : tryOperationalNodeId x.nodeId with
    | none =>
      obtain ⟨hnone, hsome⟩ := ih epoch
      dsimp only
      rw [lookup_cons]
      split_ifs with hx
      · refine ⟨False.elim, fun d hd => Or.inl ?_⟩
        rw [← Option.some.inj hd]
        exact ⟨hnode, rfl⟩
      · exact ⟨hnone, hsome⟩
    | some nodeId =>
      obtain ⟨hnone, hsome⟩ := ih (epoch + 1)
      dsimp only
      rw [lookup_cons]
      split_ifs with hx
      · refine ⟨False.elim, fun d hd => Or.inr ?_⟩
        rw [← Option.some.inj hd]
        exact ⟨epoch + 1, Nat.lt_succ_self _, le_invalidateRoutes _ _, rfl⟩
      · refine ⟨hnone, fun d hd => ?_⟩
        rcases hsome d hd with hkept | ⟨e, hlow, hhigh, hlookup⟩
        · exact Or.inl hkept
        · exact Or.inr ⟨e, (Nat.lt_succ_self _).trans hlow, hhigh, hlookup⟩

/-! ### Live bindings -/

/-- The generation and node of a live route. -/
def bindingOf (device : Option DeviceRecord) : Option (ℕ × ℕ) :=
  match device with
  | none => none
  | some d => if d.hasLiveRoute then some (d.gen, d.nodeId) else none

def liveBinding (r : DeviceRegistry) (guid : ℕ) : Option (ℕ × ℕ) := bindingOf (r.find guid)

lemma bindingOf_eq_some {device : Option DeviceRecord} {b : ℕ × ℕ} :
    bindingOf device = some b ↔
      ∃ d, device = some d ∧ d.hasLiveRoute = true ∧ d.gen = b.1 ∧ d.nodeId = b.2 := by
  cases device with
  | none => simp [bindingOf]
  | some d =>
    unfold bindingOf
    cases hlive : d.hasLiveRoute with
    | false => simp [hlive]
    | true => simp [hlive, Prod.ext_iff]

lemma bindingOf_of_live {d : DeviceRecord} (h : d.hasLiveRoute = true) :
    bindingOf (some d) = some (d.gen, d.nodeId) := if_pos h

lemma bindingOf_of_not_live {d : DeviceRecord} (h : d.hasLiveRoute = false) :
    bindingOf (some d) = none := if_neg (by simp [h])

/-- A live route is to an operational node. -/
lemma operational_of_live {d : DeviceRecord} (h : d.hasLiveRoute = true) :
    tryOperationalNodeId d.nodeId = some d.nodeId ∧ d.nodeId < 2 ^ 8 := by
  unfold DeviceRecord.hasLiveRoute at h
  rw [Bool.and_eq_true] at h
  unfold tryOperationalNodeId at h ⊢
  split_ifs at h ⊢ with hlarge
  · exact absurd h.2 (by simp)
  · exact ⟨rfl, by omega⟩

lemma liveBinding_lt {b : ℕ × ℕ} (h : r.liveBinding g = some b) : b.2 < 2 ^ 8 := by
  obtain ⟨d, _, hlive, _, hnode⟩ := bindingOf_eq_some.mp h
  exact hnode ▸ (operational_of_live hlive).2

lemma nodeId_of_makeKey {gen gen' nodeId nodeId' : ℕ} (h : makeKey gen nodeId = makeKey gen' nodeId')
    (hnode : nodeId < 2 ^ 8) (hnode' : nodeId' < 2 ^ 8) : nodeId = nodeId' := by
  unfold makeKey at h
  omega

/-! ### Operations that keep the registry sound -/

/-- `device` is live under this key of the index. -/
def LiveUnder (r : DeviceRegistry) (guid key : ℕ) : Prop :=
  ∃ gen nodeId, r.liveBinding guid = some (gen, nodeId) ∧ makeKey gen nodeId = key

/-- A ROM that gives its GUID a route comes from a node under whose key no other device is live, for
a known identity; a device that is live is upserted where it is; generations that share a key are not
mixed up; a duplicate is reported for a device that has no live route; and nothing is cleared after
an epoch was given out. -/
def Allowed (r : DeviceRegistry) : RegistryOp → Prop
  | .upsertFromROM rom =>
    (∀ nodeId, tryOperationalNodeId rom.nodeId = some nodeId →
      rom.guid ≠ 0 ∧ rom.verdict = .none ∧
        ∀ guid, guid ≠ rom.guid → ¬ r.LiveUnder guid (makeKey rom.gen nodeId)) ∧
    (∀ b, r.liveBinding rom.guid = some b → b = (rom.gen, rom.nodeId))
  | .markDiscovered gen nodeId =>
    ∀ guid gen' nodeId', r.liveBinding guid = some (gen', nodeId') →
      makeKey gen' nodeId' = makeKey gen nodeId.toNat → gen' = gen
  | .markDuplicateGuid guid => r.liveBinding guid = none
  | .clear => r.nextRouteEpoch = 0
  | _ => True

structure Sound (r : DeviceRegistry) : Prop where
  epochs : ∀ g d, r.find g = some d →
    0 < d.routeEpoch ∧ d.routeEpoch ≤ r.nextRouteEpoch ∧ 0 < d.deviceIncarnation
  index : ∀ key g, r.genNodeToGuid key = some g ↔ r.LiveUnder g key
  known : r.liveBinding 0 = none

/-- What an operation may do to the record of a GUID: keep its route, remove the record, or give it
an epoch that no record has had. -/
inductive Moved (epoch epoch' : ℕ) : Option DeviceRecord → Option DeviceRecord → Prop
  | kept {d d'} (hepoch : d'.routeEpoch = d.routeEpoch)
      (hincarnation : d'.deviceIncarnation = d.deviceIncarnation)
      (hbinding : bindingOf (some d') = bindingOf (some d)) : Moved epoch epoch' (some d) (some d')
  | absent (o) : Moved epoch epoch' o none
  | fresh {o d'} (hlow : epoch < d'.routeEpoch) (hhigh : d'.routeEpoch ≤ epoch')
      (hincarnation : 0 < d'.deviceIncarnation)
      (hbinding : bindingOf o = none ∨ bindingOf (some d') = none) : Moved epoch epoch' o (some d')

lemma Moved.refl (epoch epoch' : ℕ) (o : Option DeviceRecord) : Moved epoch epoch' o o := by
  cases o with
  | none => exact .absent _
  | some d => exact .kept rfl rfl rfl

structure StepMoves (r r' : DeviceRegistry) : Prop where
  nextRouteEpoch : r.nextRouteEpoch ≤ r'.nextRouteEpoch
  moved : ∀ g, Moved r.nextRouteEpoch r'.nextRouteEpoch (r.find g) (r'.find g)

/-! Each operation moves the records and keeps the index. -/

lemma bindingOf_identify (d : DeviceRecord) (rom : IdentifiedROM) :
    bindingOf (some (d.identify rom)) =
      if rom.verdict = .none ∧ (tryOperationalNodeId rom.nodeId).isSome then
        some (rom.gen, rom.nodeId)
      else none := by
  unfold bindingOf DeviceRecord.hasLiveRoute DeviceRecord.identify
  by_cases hverdict : rom.verdict = .none
  · simp [hverdict]
  · simp [hverdict]

lemma liveBinding_upsertFromROM {rom : IdentifiedROM} (h : r.Allowed (.upsertFromROM rom)) (g : ℕ) :
    (r.upsertFromROM rom).liveBinding g =
      if g = rom.guid ∧ (tryOperationalNodeId rom.nodeId).isSome then some (rom.gen, rom.nodeId)
      else r.liveBinding g := by
  have hbound : ∃ d : DeviceRecord, r.boundRecord rom = d.identify rom := by
    unfold boundRecord
    cases r.find rom.guid with
    | none => exact ⟨_, rfl⟩
    | some d =>
      dsimp only
      split_ifs <;> exact ⟨_, rfl⟩
  obtain ⟨d, hd⟩ := hbound
  unfold liveBinding
  rw [find_upsertFromROM, hd]
  by_cases hg : g = rom.guid
  · rw [if_pos hg, bindingOf_identify]
    cases hnode : tryOperationalNodeId rom.nodeId with
    | some nodeId =>
      have hverdict := (h.1 nodeId hnode).2.1
      simp [hg, hverdict]
    | none =>
      have hdead : bindingOf (r.find g) = none := by
        rw [hg]
        by_contra hne
        obtain ⟨b, hb⟩ := Option.ne_none_iff_exists'.mp hne
        obtain ⟨d, _, hlive, _, hnode'⟩ := bindingOf_eq_some.mp hb
        have := (operational_of_live hlive).1
        rw [hnode', h.2 b hb, hnode] at this
        exact absurd this nofun
      simp [hdead]
  · simp [hg]

lemma nextRouteEpoch_indexNode (r : DeviceRegistry) (rom : IdentifiedROM) :
    (r.indexNode rom).nextRouteEpoch = r.nextRouteEpoch := by
  unfold indexNode
  cases tryOperationalNodeId rom.nodeId <;> rfl

lemma moves_upsertFromROM {rom : IdentifiedROM} (hs : r.Sound) (h : r.Allowed (.upsertFromROM rom)) :
    StepMoves r (r.upsertFromROM rom) := by
  have hfind := find_upsertFromROM r rom
  have hothers : ∀ next, Moved r.nextRouteEpoch next (r.find rom.guid) (some (r.boundRecord rom)) →
      ∀ g, Moved r.nextRouteEpoch next (r.find g) ((r.upsertFromROM rom).find g) := by
    intro next hmoved g
    rw [hfind]
    split_ifs with hg
    · rw [hg]
      exact hmoved
    · exact Moved.refl _ _ _
  unfold upsertFromROM at hothers ⊢
  cases hknown : r.find rom.guid with
  | none =>
    rw [hknown] at hothers
    refine ⟨?_, hothers _ ?_⟩
    · rw [nextRouteEpoch_indexNode]
      exact Nat.le_succ _
    · rw [nextRouteEpoch_indexNode]
      unfold boundRecord
      rw [hknown]
      exact .fresh (Nat.lt_succ_self _) le_rfl (Nat.succ_pos _) (Or.inl rfl)
  | some d =>
    rw [hknown] at hothers
    dsimp only at hothers ⊢
    unfold rebindDevice at hothers ⊢
    unfold boundRecord at hothers
    rw [hknown] at hothers
    dsimp only at hothers
    obtain ⟨_, _, hincarnation⟩ := hs.epochs rom.guid d hknown
    by_cases hnew : d.gen ≠ rom.gen ∨ d.nodeId ≠ rom.nodeId ∨ d.hasLiveRoute = false
    · simp only [if_pos hnew] at hothers ⊢
      refine ⟨?_, hothers _ ?_⟩
      · rw [nextRouteEpoch_indexNode]
        exact Nat.le_succ _
      · rw [nextRouteEpoch_indexNode]
        refine .fresh (Nat.lt_succ_self _) le_rfl hincarnation (Or.inl ?_)
        cases hlive : d.hasLiveRoute with
        | false => exact bindingOf_of_not_live hlive
        | true =>
          have hb := bindingOf_of_live hlive
          rw [← hknown] at hb
          obtain ⟨hgen, hnode⟩ := Prod.mk.inj (h.2 _ hb)
          rcases hnew with hne | hne | hne
          · exact absurd hgen hne
          · exact absurd hnode hne
          · exact absurd hlive (by simp [hne])
    · simp only [if_neg hnew] at hothers ⊢
      refine ⟨?_, hothers _ ?_⟩
      · rw [nextRouteEpoch_indexNode]
        exact le_rfl
      · simp only [not_or, ne_eq, not_not, Bool.not_eq_false] at hnew
        obtain ⟨hgen, hnode, hlive⟩ := hnew
        have hoperational := (operational_of_live hlive).1
        rw [hnode] at hoperational
        refine .kept rfl rfl ?_
        rw [bindingOf_identify, bindingOf_of_live hlive, hgen, hnode,
          if_pos ⟨(h.1 _ hoperational).2.1, by simp [hoperational]⟩]

lemma index_upsertFromROM {rom : IdentifiedROM} (hs : r.Sound)
    (h : r.Allowed (.upsertFromROM rom)) (key g : ℕ) :
    (r.upsertFromROM rom).genNodeToGuid key = some g ↔ (r.upsertFromROM rom).LiveUnder g key := by
  have hsame : (match r.find rom.guid with
      | none => r.insertDevice rom
      | some device => r.rebindDevice rom device).genNodeToGuid = r.genNodeToGuid := by
    cases r.find rom.guid with
    | none => rfl
    | some d =>
      unfold rebindDevice
      dsimp only
      split_ifs <;> rfl
  unfold LiveUnder
  simp only [liveBinding_upsertFromROM h]
  unfold upsertFromROM indexNode
  cases hnode : tryOperationalNodeId rom.nodeId with
  | none => simpa [hsame, LiveUnder] using hs.index key g
  | some nodeId =>
    obtain ⟨_, _, hfree⟩ := h.1 nodeId hnode
    have heq : nodeId = rom.nodeId := by
      unfold tryOperationalNodeId at hnode
      split_ifs at hnode
      exact (Option.some.inj hnode).symm
    subst heq
    simp only [Function.update_apply, hsame, Option.isSome_some, and_true]
    by_cases hkey : key = makeKey rom.gen rom.nodeId
    · rw [if_pos hkey, Option.some.injEq, eq_comm]
      constructor
      · rintro rfl
        exact ⟨rom.gen, rom.nodeId, if_pos rfl, hkey.symm⟩
      · rintro ⟨gen, nodeId, hlive, hunder⟩
        by_contra hg
        rw [if_neg hg] at hlive
        exact hfree g hg ⟨gen, nodeId, hlive, hunder.trans hkey⟩
    · rw [if_neg hkey, hs.index]
      constructor
      · rintro ⟨gen, nodeId, hlive, hunder⟩
        have hg : g ≠ rom.guid := by
          rintro rfl
          obtain ⟨rfl, rfl⟩ := Prod.mk.inj (h.2 _ hlive)
          exact hkey hunder.symm
        exact ⟨gen, nodeId, (if_neg hg).trans hlive, hunder⟩
      · rintro ⟨gen, nodeId, hlive, hunder⟩
        by_cases hg : g = rom.guid
        · rw [if_pos hg] at hlive
          obtain ⟨rfl, rfl⟩ := Prod.mk.inj (Option.some.inj hlive)
          exact absurd hunder.symm hkey
        · rw [if_neg hg] at hlive
          exact ⟨gen, nodeId, hlive, hunder⟩

/-- The index leads to the record that is live under its key. -/
lemma Sound.indexed (hs : r.Sound) {gen nodeId : ℕ} (hnode : nodeId < 2 ^ 8)
    (h : r.genNodeToGuid (makeKey gen nodeId) = some guid) :
    ∃ gen', r.liveBinding guid = some (gen', nodeId) ∧ makeKey gen' nodeId = makeKey gen nodeId := by
  obtain ⟨gen', nodeId', hlive, hkey⟩ := (hs.index _ _).mp h
  obtain rfl := nodeId_of_makeKey hkey (liveBinding_lt hlive) hnode
  exact ⟨gen', hlive, hkey⟩

lemma index_of_same {r' : DeviceRegistry} (hs : r.Sound)
    (hindex : r'.genNodeToGuid = r.genNodeToGuid) (hlive : r'.liveBinding = r.liveBinding) (key g : ℕ) :
    r'.genNodeToGuid key = some g ↔ r'.LiveUnder g key := by
  unfold LiveUnder
  rw [hindex, hlive]
  exact hs.index key g

lemma liveBinding_of_kept {r' : DeviceRegistry}
    (hmoves : ∀ g, r'.find g = r.find g ∨
      ∃ d d', r.find g = some d ∧ r'.find g = some d' ∧ bindingOf (some d') = bindingOf (some d)) :
    r'.liveBinding = r.liveBinding := by
  funext g
  unfold liveBinding
  rcases hmoves g with hsame | ⟨d, d', hd, hd', hbinding⟩
  · rw [hsame]
  · rw [hd, hd', hbinding]

lemma find_markDiscovered (hs : r.Sound) {gen : ℕ} {nodeId : UInt8}
    (h : r.Allowed (.markDiscovered gen nodeId)) (g : ℕ) :
    (r.markDiscovered gen nodeId.toNat).find g = r.find g ∨
      ∃ d d', r.find g = some d ∧ (r.markDiscovered gen nodeId.toNat).find g = some d' ∧
        d'.routeEpoch = d.routeEpoch ∧ d'.deviceIncarnation = d.deviceIncarnation ∧
        bindingOf (some d') = bindingOf (some d) := by
  unfold markDiscovered
  cases hindex : r.genNodeToGuid (makeKey gen nodeId.toNat) with
  | none => exact Or.inl rfl
  | some guid =>
    obtain ⟨gen', hlive, hkey⟩ := hs.indexed nodeId.toNat_lt hindex
    obtain rfl := h guid gen' _ hlive hkey
    obtain ⟨d, hd, hroute, hgen, hnode⟩ := bindingOf_eq_some.mp hlive
    dsimp only
    rw [find_modify (by intro _ hd; exact hd)]
    by_cases hg : g = guid
    · subst hg
      rw [if_pos rfl, hd]
      refine Or.inr ⟨d, _, rfl, rfl, rfl, rfl, ?_⟩
      rw [bindingOf_of_live hroute, hgen, hnode]
      apply bindingOf_of_live
      unfold DeviceRecord.hasLiveRoute at hroute ⊢
      rw [hnode] at hroute
      simp only [Bool.and_eq_true] at hroute ⊢
      exact ⟨⟨⟨rfl, rfl⟩, hroute.1.2⟩, hroute.2⟩
    · rw [if_neg hg]
      exact Or.inl rfl

lemma find_markDuplicateGuid (h : r.Allowed (.markDuplicateGuid guid)) (g : ℕ) :
    (r.markDuplicateGuid guid).find g = r.find g ∨
      ∃ d d', r.find g = some d ∧ (r.markDuplicateGuid guid).find g = some d' ∧
        d'.routeEpoch = d.routeEpoch ∧ d'.deviceIncarnation = d.deviceIncarnation ∧
        bindingOf (some d') = bindingOf (some d) := by
  unfold markDuplicateGuid
  rw [find_modify (by intro _ hd; exact hd)]
  by_cases hg : g = guid
  · subst hg
    rw [if_pos rfl]
    cases hd : r.find g with
    | none => exact Or.inl rfl
    | some d =>
      refine Or.inr ⟨d, _, rfl, rfl, rfl, rfl, ?_⟩
      have hdead : bindingOf (some d) = none := by
        rw [← hd]
        exact h
      rw [hdead]
      exact bindingOf_of_not_live rfl
  · rw [if_neg hg]
    exact Or.inl rfl

/-- An operation that keeps every route. -/
lemma sound_of_kept {r' : DeviceRegistry} (hs : r.Sound) (hindex : r'.genNodeToGuid = r.genNodeToGuid)
    (hnext : r'.nextRouteEpoch = r.nextRouteEpoch)
    (hfind : ∀ g, r'.find g = r.find g ∨
      ∃ d d', r.find g = some d ∧ r'.find g = some d' ∧ d'.routeEpoch = d.routeEpoch ∧
        d'.deviceIncarnation = d.deviceIncarnation ∧ bindingOf (some d') = bindingOf (some d)) :
    StepMoves r r' ∧ (∀ key g, r'.genNodeToGuid key = some g ↔ r'.LiveUnder g key) ∧
      r'.liveBinding 0 = none := by
  have hlive : r'.liveBinding = r.liveBinding := by
    apply liveBinding_of_kept
    intro g
    rcases hfind g with hsame | ⟨d, d', hd, hd', _, _, hbinding⟩
    · exact Or.inl hsame
    · exact Or.inr ⟨d, d', hd, hd', hbinding⟩
  refine ⟨⟨hnext.ge, fun g => ?_⟩, index_of_same hs hindex hlive, ?_⟩
  · rcases hfind g with hsame | ⟨d, d', hd, hd', hepoch, hincarnation, hbinding⟩
    · rw [hsame]
      exact Moved.refl _ _ _
    · rw [hd, hd']
      exact .kept hepoch hincarnation hbinding
  · rw [hlive]
    exact hs.known

lemma kInvalidNodeId_not_live {d : DeviceRecord} (h : d.nodeId = kInvalidNodeId) :
    d.hasLiveRoute = false := by
  unfold DeviceRecord.hasLiveRoute
  rw [h]
  exact Bool.and_false _

/-- Operations after which a GUID has no route while the others keep theirs. -/
lemma index_of_dropped {r' : DeviceRegistry} (hs : r.Sound) (guid : ℕ) (hnone : r'.liveBinding guid = none)
    (hothers : ∀ g, g ≠ guid → r'.liveBinding g = r.liveBinding g)
    (hindex : ∀ key g, r'.genNodeToGuid key = some g ↔ g ≠ guid ∧ r.genNodeToGuid key = some g) :
    (∀ key g, r'.genNodeToGuid key = some g ↔ r'.LiveUnder g key) ∧ r'.liveBinding 0 = none := by
  constructor
  · intro key g
    rw [hindex, hs.index]
    unfold LiveUnder
    by_cases hg : g = guid
    · subst hg
      rw [hnone]
      simp
    · rw [hothers g hg]
      simp [hg]
  · by_cases hg : 0 = guid
    · rw [hg]
      exact hnone
    · rw [hothers 0 hg]
      exact hs.known

lemma sound_markLost (hs : r.Sound) (gen : ℕ) {nodeId : ℕ} (hnode : nodeId < 2 ^ 8) :
    StepMoves r (r.markLost gen nodeId) ∧
      (∀ key g, (r.markLost gen nodeId).genNodeToGuid key = some g ↔
        (r.markLost gen nodeId).LiveUnder g key) ∧
      (r.markLost gen nodeId).liveBinding 0 = none := by
  cases hindex : r.genNodeToGuid (makeKey gen nodeId) with
  | none =>
    have hsame : r.markLost gen nodeId = r := by
      unfold markLost
      rw [hindex]
    rw [hsame]
    exact ⟨⟨le_rfl, fun _ => Moved.refl _ _ _⟩, hs.index, hs.known⟩
  | some guid =>
    have hfind := find_markLost_of_indexed hindex
    obtain ⟨gen', hlive, hkey⟩ := hs.indexed hnode hindex
    obtain ⟨d, hd, hroute, _⟩ := bindingOf_eq_some.mp hlive
    have hepoch : (r.markLost gen nodeId).nextRouteEpoch = r.nextRouteEpoch + 1 := by
      unfold markLost loseDevice
      rw [hindex]
      dsimp only
      rw [hd]
    have hkeys : (r.markLost gen nodeId).genNodeToGuid =
        Function.update r.genNodeToGuid (makeKey gen nodeId) none := by
      unfold markLost
      rw [hindex]
    refine ⟨⟨hepoch ▸ Nat.le_succ _, fun g => ?_⟩, index_of_dropped hs guid ?_ ?_ ?_⟩
    · rw [hfind]
      by_cases hg : g = guid
      · rw [if_pos hg, hg, hd]
        refine .fresh (Nat.lt_succ_self _) hepoch.ge (hs.epochs guid d hd).2.2 (Or.inr ?_)
        exact bindingOf_of_not_live rfl
      · rw [if_neg hg]
        exact Moved.refl _ _ _
    · unfold liveBinding
      rw [hfind, if_pos rfl, hd]
      exact bindingOf_of_not_live rfl
    · intro g hg
      unfold liveBinding
      rw [hfind, if_neg hg]
    · intro key g
      rw [hkeys, Function.update_apply]
      by_cases hk : key = makeKey gen nodeId
      · rw [if_pos hk, hk, hindex]
        simp [eq_comm]
      · rw [if_neg hk]
        refine (and_iff_right_of_imp fun hg heq => ?_).symm
        subst heq
        obtain ⟨gen2, nodeId2, hlive2, hunder⟩ := (hs.index _ _).mp hg
        rw [hlive] at hlive2
        obtain ⟨rfl, rfl⟩ := Prod.mk.inj (Option.some.inj hlive2)
        exact hk (hunder.symm.trans hkey)

lemma sound_retireDevice (hs : r.Sound) (guid : ℕ) :
    StepMoves r (r.retireDevice guid) ∧
      (∀ key g, (r.retireDevice guid).genNodeToGuid key = some g ↔
        (r.retireDevice guid).LiveUnder g key) ∧
      (r.retireDevice guid).liveBinding 0 = none := by
  have hfind := find_retireDevice r guid
  refine ⟨⟨le_rfl, fun g => ?_⟩, index_of_dropped hs guid ?_ ?_ ?_⟩
  · rw [hfind]
    split_ifs
    · exact .absent _
    · exact Moved.refl _ _ _
  · unfold liveBinding
    rw [hfind, if_pos rfl]
    rfl
  · intro g hg
    unfold liveBinding
    rw [hfind, if_neg hg]
  · intro key g
    show (if r.genNodeToGuid key = some guid then none else r.genNodeToGuid key) = some g ↔ _
    by_cases hkey : r.genNodeToGuid key = some guid
    · rw [if_pos hkey, hkey]
      simp [eq_comm]
    · rw [if_neg hkey]
      refine (and_iff_right_of_imp fun hg heq => hkey ?_).symm
      rw [hg, heq]

lemma moves_invalidate (hs : r.Sound) (g : ℕ) :
    Moved r.nextRouteEpoch r.invalidateLiveMappingsForBusReset.nextRouteEpoch (r.find g)
        (r.invalidateLiveMappingsForBusReset.find g) ∧
      r.invalidateLiveMappingsForBusReset.liveBinding g = none := by
  obtain ⟨hnone, hsome⟩ := lookup_invalidateRoutes r.nextRouteEpoch r.devicesByGuid g
  unfold liveBinding
  cases hd : r.find g with
  | none =>
    have hgone : r.invalidateLiveMappingsForBusReset.find g = none := hnone hd
    rw [hgone]
    exact ⟨.absent _, rfl⟩
  | some d =>
    rcases hsome d hd with ⟨hnode, hkept⟩ | ⟨e, hlow, hhigh, hfresh⟩
    · have hfind : r.invalidateLiveMappingsForBusReset.find g = some d := hkept
      rw [hfind]
      refine ⟨Moved.refl _ _ _, bindingOf_of_not_live ?_⟩
      unfold DeviceRecord.hasLiveRoute
      rw [hnode]
      exact Bool.and_false _
    · have hfind : r.invalidateLiveMappingsForBusReset.find g =
          some { d with nodeId := kInvalidNodeId, routeEpoch := e } := hfresh
      rw [hfind]
      have hdead := bindingOf_of_not_live
        (d := { d with nodeId := kInvalidNodeId, routeEpoch := e }) (kInvalidNodeId_not_live rfl)
      exact ⟨.fresh hlow hhigh (hs.epochs g d hd).2.2 (Or.inr hdead), hdead⟩

/-- Every allowed operation. -/
lemma sound_step {op : RegistryOp} (hs : r.Sound) (h : r.Allowed op) :
    StepMoves r (r.step op) ∧
      (∀ key g, (r.step op).genNodeToGuid key = some g ↔ (r.step op).LiveUnder g key) ∧
      (r.step op).liveBinding 0 = none := by
  cases op with
  | upsertFromROM rom =>
    refine ⟨moves_upsertFromROM hs h, index_upsertFromROM hs h, ?_⟩
    show (r.upsertFromROM rom).liveBinding 0 = none
    rw [liveBinding_upsertFromROM h, if_neg]
    · exact hs.known
    · rintro ⟨hzero, hnode⟩
      obtain ⟨nodeId, hnode⟩ := Option.isSome_iff_exists.mp hnode
      exact (h.1 nodeId hnode).1 hzero.symm
  | markDiscovered gen nodeId =>
    apply sound_of_kept hs _ _ (find_markDiscovered hs h)
    · unfold markDiscovered
      cases r.genNodeToGuid (makeKey gen nodeId.toNat) <;> rfl
    · unfold markDiscovered
      cases r.genNodeToGuid (makeKey gen nodeId.toNat) <;> rfl
  | markDuplicateGuid guid => exact sound_of_kept hs rfl rfl (find_markDuplicateGuid h)
  | markLost gen nodeId => exact sound_markLost hs gen nodeId.toNat_lt
  | retireDevice guid => exact sound_retireDevice hs guid
  | invalidateLiveMappingsForBusReset =>
    refine ⟨⟨le_invalidateRoutes _ _, fun g => (moves_invalidate hs g).1⟩, fun key g => ?_,
      (moves_invalidate hs 0).2⟩
    refine iff_of_false nofun ?_
    rintro ⟨gen, nodeId, hlive, _⟩
    exact absurd ((moves_invalidate hs g).2.symm.trans hlive) nofun
  | clear =>
    have hzero : r.nextRouteEpoch = 0 := h
    refine ⟨⟨hzero.le, fun g => .absent _⟩, fun key g => ?_, rfl⟩
    refine iff_of_false nofun ?_
    rintro ⟨gen, nodeId, hlive, _⟩
    exact absurd hlive nofun

lemma Sound.step {op : RegistryOp} (hs : r.Sound) (h : r.Allowed op) : (r.step op).Sound := by
  obtain ⟨hmoves, hindex, hknown⟩ := sound_step hs h
  refine ⟨fun g d hd => ?_, hindex, hknown⟩
  have hmoved := hmoves.moved g
  rw [hd] at hmoved
  cases hold : r.find g with
  | none =>
    rw [hold] at hmoved
    cases hmoved with
    | fresh hlow hhigh hincarnation _ => exact ⟨by omega, hhigh, hincarnation⟩
  | some old =>
    rw [hold] at hmoved
    obtain ⟨hpos, hle, hincarnation⟩ := hs.epochs g old hold
    cases hmoved with
    | kept hepoch hincarnation' _ =>
      exact ⟨hepoch ▸ hpos, hepoch ▸ hle.trans hmoves.nextRouteEpoch, hincarnation' ▸ hincarnation⟩
    | fresh hlow hhigh hincarnation' _ => exact ⟨by omega, hhigh, hincarnation'⟩

lemma sound_initial : ({} : DeviceRegistry).Sound :=
  ⟨nofun, fun _ _ => iff_of_false nofun fun ⟨_, _, hlive, _⟩ => absurd hlive nofun, rfl⟩

lemma sound_run {ops : List RegistryOp} (hs : r.Sound) (hmeets : Meets step Allowed r ops) :
    (run step r ops).Sound :=
  invariant_run_of_meets (fun _ _ hs h => hs.step h) hs hmeets

/-! ### Tokens -/

lemma currentRoute_eq_some {t : DeviceRouteToken} :
    r.currentRoute g = some t ↔
      ∃ d, r.find g = some d ∧ d.hasLiveRoute = true ∧ d.makeRouteToken = t := by
  unfold currentRoute
  cases r.find g with
  | none => simp
  | some d =>
    cases hlive : d.hasLiveRoute with
    | false => simp [hlive]
    | true => simp [hlive]

lemma isCurrent_iff {t : DeviceRouteToken} :
    r.isCurrent t = true ↔ t.valid = true ∧ r.currentRoute t.guid = some t := by
  rw [currentRoute_eq_some]
  unfold isCurrent
  cases hvalid : t.valid with
  | false => simp
  | true =>
    rw [if_neg (by simp)]
    cases hd : r.find t.guid with
    | none => simp
    | some d =>
      have hguid := guid_of_find hd
      simp only [Bool.and_eq_true, decide_eq_true_eq, true_and, Option.some.injEq, exists_eq_left']
      constructor
      · rintro ⟨⟨⟨⟨hlive, hincarnation⟩, hepoch⟩, hgen⟩, hnode⟩
        refine ⟨hlive, ?_⟩
        unfold DeviceRecord.makeRouteToken
        rw [hguid, hincarnation, hepoch, hgen, hnode]
      · rintro ⟨hlive, rfl⟩
        exact ⟨⟨⟨⟨hlive, rfl⟩, rfl⟩, rfl⟩, rfl⟩

/-- A token that is given out is accepted at once. -/
lemma Sound.valid_of_currentRoute (hs : r.Sound) {t : DeviceRouteToken}
    (h : r.currentRoute g = some t) : t.guid = g ∧ t.valid = true := by
  obtain ⟨d, hd, hlive, rfl⟩ := currentRoute_eq_some.mp h
  have hguid := guid_of_find hd
  obtain ⟨hepoch, _, hincarnation⟩ := hs.epochs g d hd
  have hnode := (operational_of_live hlive).1
  refine ⟨hguid, ?_⟩
  have hg : g ≠ 0 := by
    rintro rfl
    have hbinding := bindingOf_of_live hlive
    rw [← hd] at hbinding
    exact absurd (hs.known.symm.trans hbinding) nofun
  unfold DeviceRouteToken.valid DeviceRecord.makeRouteToken
  simp only [hguid, hnode, Option.isSome_some, Bool.and_true, Bool.and_eq_true, decide_eq_true_eq]
  exact ⟨⟨hg, hincarnation.ne'⟩, hepoch.ne'⟩

/-- The operation leaves the device where it is. -/
def KeepsBinding (guid : ℕ) (r : DeviceRegistry) (op : RegistryOp) : Prop :=
  (r.step op).liveBinding guid = r.liveBinding guid

/-- No record has the token's epoch, and none will get it. -/
structure Gone (t : DeviceRouteToken) (r : DeviceRegistry) : Prop where
  issued : t.routeEpoch ≤ r.nextRouteEpoch
  epoch : ∀ d, r.find t.guid = some d → d.routeEpoch ≠ t.routeEpoch

lemma Gone.step {t : DeviceRouteToken} (h : Gone t r) {op : RegistryOp} (hs : r.Sound)
    (hallowed : r.Allowed op) : Gone t (r.step op) := by
  have hmoves := (sound_step hs hallowed).1
  refine ⟨h.issued.trans hmoves.nextRouteEpoch, fun d hd => ?_⟩
  have hmoved := hmoves.moved t.guid
  have hissued := h.issued
  rw [hd] at hmoved
  cases hold : r.find t.guid with
  | none =>
    rw [hold] at hmoved
    cases hmoved with
    | fresh hlow _ _ _ => omega
  | some old =>
    rw [hold] at hmoved
    cases hmoved with
    | kept hepoch _ _ => exact hepoch ▸ h.epoch old hold
    | fresh hlow _ _ _ => omega

lemma Gone.not_current {t : DeviceRouteToken} (h : Gone t r) : r.isCurrent t = false := by
  rw [Bool.eq_false_iff]
  intro hcurrent
  obtain ⟨d, hd, _, htoken⟩ := currentRoute_eq_some.mp (isCurrent_iff.mp hcurrent).2
  apply h.epoch d hd
  rw [← htoken]
  rfl

lemma gone_run {t : DeviceRouteToken} (h : Gone t r) {ops : List RegistryOp} (hs : r.Sound)
    (hmeets : Meets step Allowed r ops) : Gone t (run step r ops) := by
  have hboth : (run step r ops).Sound ∧ Gone t (run step r ops) :=
    invariant_run_of_meets (I := fun r : DeviceRegistry => r.Sound ∧ Gone t r)
      (fun _ _ h hallowed => ⟨h.1.step hallowed, h.2.step h.1 hallowed⟩) ⟨hs, h⟩ hmeets
  exact hboth.2

/-- While the binding is kept the token stays; the operation that ends the binding ends its epoch. -/
lemma current_step {t : DeviceRouteToken} (hs : r.Sound) {op : RegistryOp} (h : r.Allowed op)
    (ht : r.currentRoute t.guid = some t) :
    (KeepsBinding t.guid r op → (r.step op).currentRoute t.guid = some t) ∧
      (¬ KeepsBinding t.guid r op → Gone t (r.step op)) := by
  obtain ⟨d, hd, hlive, htoken⟩ := currentRoute_eq_some.mp ht
  have hmoves := (sound_step hs h).1
  have hmoved := hmoves.moved t.guid
  have hle := (hs.epochs t.guid d hd).2.1
  have hepoch : t.routeEpoch = d.routeEpoch := by
    rw [← htoken]
    rfl
  have hbinding : r.liveBinding t.guid = some (d.gen, d.nodeId) := by
    unfold liveBinding
    rw [hd]
    exact bindingOf_of_live hlive
  unfold KeepsBinding
  rw [hbinding]
  unfold liveBinding
  rw [hd] at hmoved
  cases hnew : (r.step op).find t.guid with
  | none =>
    refine ⟨nofun, fun _ => ⟨?_, fun d' hd' => ?_⟩⟩
    · exact hepoch ▸ hle.trans hmoves.nextRouteEpoch
    · rw [hnew] at hd'
      exact absurd hd' nofun
  | some d' =>
    rw [hnew] at hmoved
    cases hmoved with
    | kept hepoch' hincarnation hsame =>
      rw [hsame, bindingOf_of_live hlive]
      refine ⟨fun _ => ?_, fun hne => absurd rfl hne⟩
      rw [bindingOf_of_live hlive] at hsame
      obtain ⟨d'', hd'', hlive', hgen, hnode⟩ := bindingOf_eq_some.mp hsame
      obtain rfl := Option.some.inj hd''
      refine currentRoute_eq_some.mpr ⟨_, hnew, hlive', ?_⟩
      rw [← htoken]
      unfold DeviceRecord.makeRouteToken
      rw [hepoch', hincarnation, hgen, hnode, guid_of_find hnew, guid_of_find hd]
    | fresh hlow hhigh _ hdead =>
      have hdead' : bindingOf (some d') = none :=
        hdead.resolve_left (by rw [bindingOf_of_live hlive]; exact Option.some_ne_none _)
      rw [hdead']
      refine ⟨nofun, fun _ => ⟨hepoch ▸ hle.trans hmoves.nextRouteEpoch, fun d'' hd'' => ?_⟩⟩
      rw [hnew] at hd''
      obtain rfl := Option.some.inj hd''
      omega

lemma current_run {t : DeviceRouteToken} (hs : r.Sound) (hvalid : t.valid = true)
    (ht : r.currentRoute t.guid = some t) {ops : List RegistryOp}
    (hmeets : Meets step Allowed r ops) :
    (run step r ops).isCurrent t = true ↔ Meets step (KeepsBinding t.guid) r ops := by
  induction ops generalizing r with
  | nil => exact iff_of_true (isCurrent_iff.mpr ⟨hvalid, ht⟩) trivial
  | cons op ops ih =>
    obtain ⟨hkept, hlost⟩ := current_step hs hmeets.1 ht
    by_cases hbinding : KeepsBinding t.guid r op
    · rw [run_cons, ih (hs.step hmeets.1) (hkept hbinding) hmeets.2]
      exact (and_iff_right hbinding).symm
    · have hgone := gone_run (hlost hbinding) (hs.step hmeets.1) hmeets.2
      refine iff_of_false ?_ fun h => hbinding h.1
      rw [run_cons, hgone.not_current]
      exact Bool.false_ne_true

/-- Route tokens over a run: one that is given out is accepted as long as every operation leaves its
device where it is, and never again behind the first one that does not; an accepted token is the one
that would be given out; one device at most is live at a node; and the index holds the live routes. -/
theorem tokens_run {before after : List RegistryOp}
    (hmeets : Meets step Allowed {} (before ++ after)) :
    (∀ g t, (run step {} before).currentRoute g = some t →
      ((run step {} (before ++ after)).isCurrent t = true ↔
        Meets step (KeepsBinding g) (run step {} before) after)) ∧
    (∀ t, (run step {} before).isCurrent t = true →
      (run step {} before).currentRoute t.guid = some t) ∧
    (∀ g h b, (run step {} before).liveBinding g = some b →
      (run step {} before).liveBinding h = some b → g = h) ∧
    (∀ key g, (run step {} before).genNodeToGuid key = some g ↔
      (run step {} before).LiveUnder g key) := by
  obtain ⟨hbefore, hafter⟩ := meets_append.mp hmeets
  have hs := sound_run sound_initial hbefore
  refine ⟨fun g t ht => ?_, fun t ht => (isCurrent_iff.mp ht).2, fun g h b hg hh => ?_, hs.index⟩
  · obtain ⟨rfl, hvalid⟩ := hs.valid_of_currentRoute ht
    rw [run_append]
    exact current_run hs hvalid ht hafter
  · have hg' := (hs.index (makeKey b.1 b.2) g).mpr ⟨b.1, b.2, hg, rfl⟩
    have hh' := (hs.index (makeKey b.1 b.2) h).mpr ⟨b.1, b.2, hh, rfl⟩
    exact Option.some.inj (hg'.symm.trans hh')

def seenAt (guid gen nodeId : ℕ) : RegistryOp := .upsertFromROM { guid := guid, gen := gen, nodeId := nodeId }

/-- A device that is found again behind a bus reset. -/
theorem reset_tokens :
    Meets step Allowed {} ([seenAt 7 1 5] ++ [.invalidateLiveMappingsForBusReset, seenAt 7 2 6]) ∧
      ∀ t, (run step {} [seenAt 7 1 5]).currentRoute 7 = some t →
        ((run step {} ([seenAt 7 1 5] ++
            [.invalidateLiveMappingsForBusReset, seenAt 7 2 6])).isCurrent t = true ↔
          Meets step (KeepsBinding 7) (run step {} [seenAt 7 1 5])
            [.invalidateLiveMappingsForBusReset, seenAt 7 2 6]) := by
  have hfirst : ({} : DeviceRegistry).Allowed (seenAt 7 1 5) :=
    ⟨fun _ _ => ⟨by decide, rfl, fun _ _ ⟨_, _, hlive, _⟩ => absurd hlive nofun⟩, nofun⟩
  have hs := sound_initial.step hfirst
  have hdead := fun g => (moves_invalidate hs g).2
  have hmeets : Meets step Allowed {}
      ([seenAt 7 1 5] ++ [.invalidateLiveMappingsForBusReset, seenAt 7 2 6]) := by
    refine ⟨hfirst, trivial, ⟨fun nodeId _ => ⟨by decide, rfl, ?_⟩, fun b hb => ?_⟩, trivial⟩
    · rintro g _ ⟨gen, nodeId, hlive, _⟩
      exact absurd ((hdead g).symm.trans hlive) nofun
    · exact absurd ((hdead 7).symm.trans hb) nofun
  exact ⟨hmeets, (tokens_run hmeets).1 7⟩

/-- A quarantined device that is discovered again, and one that is found again behind `Clear`, have
their old tokens accepted again; and two devices can be live at one node. -/
theorem tokens_revive :
    (∃ t, (run step {} [seenAt 7 1 5]).currentRoute 7 = some t ∧
      (run step {} [seenAt 7 1 5, .markDuplicateGuid 7]).isCurrent t = false ∧
      (run step {} [seenAt 7 1 5, .markDuplicateGuid 7, .markDiscovered 1 5]).isCurrent t = true) ∧
    (∃ t, (run step {} [seenAt 7 1 5]).currentRoute 7 = some t ∧
      (run step {} [seenAt 7 1 5, .clear]).isCurrent t = false ∧
      (run step {} [seenAt 7 1 5, .clear, seenAt 7 1 5]).isCurrent t = true) ∧
    (run step {} [seenAt 7 1 5, seenAt 8 1 5]).liveBinding 7 = some (1, 5) ∧
      (run step {} [seenAt 7 1 5, seenAt 8 1 5]).liveBinding 8 = some (1, 5) := by
  refine ⟨⟨⟨7, 1, 1, 1, 5⟩, ?_⟩, ⟨⟨7, 1, 1, 1, 5⟩, ?_⟩, ?_⟩
  all_goals decide +kernel

end DeviceRegistry

end ASFireWire.Discovery
