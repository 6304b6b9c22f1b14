import ASFireWire.ParsedROM
import ASFireWire.Runs

/-! The Config ROM store (`ConfigROM/Store/ConfigROMStore.cpp`): one index by generation and node,
one by GUID. The laws are over sequences of insertions that also carry the bus generation a ROM
was really read in, of which the ROM has the eight-bit counter value. -/
namespace ASFireWire.Discovery

open ASFireWire.ConfigROM Runs

def hasParsedUnitProfile (rom : ConfigROM) : Bool := rom.unitDirectories ≠ []

def tryOperationalNodeId (nodeId : ℕ) : Option ℕ := if 0xFF < nodeId then none else some nodeId

/-- The generation in the upper bits of a 32-bit key, the node ID in the low eight. -/
def makeKey (gen nodeId : ℕ) : ℕ := gen * 2 ^ 8 % 2 ^ 32 + nodeId

/-- The copy that is stored. -/
def stamped (rom : ConfigROM) : ConfigROM :=
  { rom with
    firstSeen := if rom.firstSeen = 0 then rom.gen else rom.firstSeen
    lastValidated := if rom.lastValidated = 0 then rom.gen else rom.lastValidated }

@[simp] lemma hasParsedUnitProfile_stamped (rom : ConfigROM) :
    hasParsedUnitProfile (stamped rom) = hasParsedUnitProfile rom := rfl

def shouldUpdateNode (cached : Option ConfigROM) (rom : ConfigROM) : Bool :=
  match cached with
  | none => true
  | some old =>
    old.rawQuadlets.length ≤ rom.rawQuadlets.length &&
      (hasParsedUnitProfile rom || !hasParsedUnitProfile old)

def shouldUpdateGuid (cached : Option ConfigROM) (rom : ConfigROM) : Bool :=
  match cached with
  | none => true
  | some old =>
    (old.gen < rom.gen && (hasParsedUnitProfile rom || !hasParsedUnitProfile old)) ||
      (old.gen = rom.gen && old.rawQuadlets.length ≤ rom.rawQuadlets.length)

structure ConfigROMStore where
  romsByGenNode : Std.TreeMap ℕ ConfigROM := ∅
  romsByGuid : Std.TreeMap ℕ ConfigROM := ∅

namespace ConfigROMStore

/-- Both indexes are updated, each by its own rule. -/
def insert (s : ConfigROMStore) (rom : ConfigROM) : ConfigROMStore :=
  if rom.bib.guid = 0 then s
  else
    match tryOperationalNodeId rom.nodeId with
    | none => s
    | some nodeId =>
      let key := makeKey rom.gen nodeId
      { romsByGenNode :=
          if shouldUpdateNode s.romsByGenNode[key]? (stamped rom) then
            s.romsByGenNode.insert key (stamped rom)
          else s.romsByGenNode
        romsByGuid :=
          if shouldUpdateGuid s.romsByGuid[rom.bib.guid]? (stamped rom) then
            s.romsByGuid.insert rom.bib.guid (stamped rom)
          else s.romsByGuid }

def findByNode (s : ConfigROMStore) (gen nodeId : ℕ) : Option ConfigROM :=
  s.romsByGenNode[makeKey gen nodeId]?

def findByGuid (s : ConfigROMStore) (guid : ℕ) : Option ConfigROM := s.romsByGuid[guid]?

/-! ### Life of an entry -/

def suspend (rom : ConfigROM) : ConfigROM :=
  if rom.state = .fresh ∨ rom.state = .validated then { rom with state := .suspended } else rom

def suspendAll (s : ConfigROMStore) : ConfigROMStore where
  romsByGenNode := s.romsByGenNode.map fun _ rom => suspend rom
  romsByGuid := s.romsByGuid.map fun _ rom => suspend rom

def validateROM (s : ConfigROMStore) (guid gen nodeId : ℕ) : ConfigROMStore :=
  match s.romsByGuid[guid]? with
  | none => s
  | some rom =>
    if rom.state ≠ .suspended then s
    else
      let rom := { rom with nodeId := nodeId, gen := gen, state := .validated, lastValidated := gen }
      { romsByGenNode := s.romsByGenNode.insert (makeKey gen nodeId) rom
        romsByGuid := s.romsByGuid.insert guid rom }

def invalidateROM (s : ConfigROMStore) (guid : ℕ) : ConfigROMStore :=
  match s.romsByGuid[guid]? with
  | none => s
  | some rom =>
    { romsByGenNode := s.romsByGenNode.filter fun _ rom => rom.bib.guid ≠ guid
      romsByGuid := s.romsByGuid.insert guid { rom with state := .invalid, nodeId := kInvalidNodeId } }

def pruneInvalid (s : ConfigROMStore) : ConfigROMStore where
  romsByGenNode := s.romsByGenNode.filter fun _ rom => rom.state ≠ .invalid
  romsByGuid := s.romsByGuid.filter fun _ rom => rom.state ≠ .invalid

inductive StoreOp
  | insert (rom : ConfigROM)
  | suspendAll
  | validateROM (guid gen nodeId : ℕ)
  | invalidateROM (guid : ℕ)
  | pruneInvalid
  | clear

def apply (s : ConfigROMStore) : StoreOp → ConfigROMStore
  | .insert rom => s.insert rom
  | .suspendAll => s.suspendAll
  | .validateROM guid gen nodeId => s.validateROM guid gen nodeId
  | .invalidateROM guid => s.invalidateROM guid
  | .pruneInvalid => s.pruneInvalid
  | .clear => {}

/-- Every entry lies under its own key. -/
structure Keyed (s : ConfigROMStore) : Prop where
  node : ∀ key rom, s.romsByGenNode[key]? = some rom → key = makeKey rom.gen rom.nodeId
  guid : ∀ guid rom, s.romsByGuid[guid]? = some rom → rom.bib.guid = guid ∧ guid ≠ 0

variable {s : ConfigROMStore} {rom old : ConfigROM}

lemma suspend_keeps (rom : ConfigROM) :
    (suspend rom).gen = rom.gen ∧ (suspend rom).nodeId = rom.nodeId ∧
      (suspend rom).bib = rom.bib := by
  unfold suspend
  split_ifs <;> exact ⟨rfl, rfl, rfl⟩

lemma getElem?_insert (m : Std.TreeMap ℕ ConfigROM) (key other : ℕ) (rom : ConfigROM) :
    (m.insert key rom)[other]? = if key = other then some rom else m[other]? := by
  simp only [Std.TreeMap.getElem?_insert, Nat.compare_eq_eq]

/-- An insertion that is not ignored, index by index. -/
lemma insert_eq (hguid : rom.bib.guid ≠ 0) (hnode : rom.nodeId ≤ 0xFF) :
    s.insert rom =
      { romsByGenNode :=
          if shouldUpdateNode s.romsByGenNode[makeKey rom.gen rom.nodeId]? (stamped rom) then
            s.romsByGenNode.insert (makeKey rom.gen rom.nodeId) (stamped rom)
          else s.romsByGenNode
        romsByGuid :=
          if shouldUpdateGuid s.romsByGuid[rom.bib.guid]? (stamped rom) then
            s.romsByGuid.insert rom.bib.guid (stamped rom)
          else s.romsByGuid } := by
  unfold insert tryOperationalNodeId
  rw [if_neg hguid, if_neg (by omega)]

lemma insert_ignored (h : ¬ (rom.bib.guid ≠ 0 ∧ rom.nodeId ≤ 0xFF)) : s.insert rom = s := by
  unfold insert tryOperationalNodeId
  by_cases hguid : rom.bib.guid = 0
  · rw [if_pos hguid]
  · have hnode : 0xFF < rom.nodeId := by
      by_contra hle
      exact h ⟨hguid, by omega⟩
    rw [if_neg hguid, if_pos hnode]

lemma Keyed.insert (h : s.Keyed) (rom : ConfigROM) : (s.insert rom).Keyed := by
  by_cases hvalid : rom.bib.guid ≠ 0 ∧ rom.nodeId ≤ 0xFF
  · rw [insert_eq hvalid.1 hvalid.2]
    constructor
    · intro key rom' hget
      dsimp only at hget
      split_ifs at hget
      · rw [getElem?_insert] at hget
        split_ifs at hget with hkey
        · obtain rfl := Option.some.inj hget
          exact hkey.symm
        · exact h.node key rom' hget
      · exact h.node key rom' hget
    · intro guid rom' hget
      dsimp only at hget
      split_ifs at hget
      · rw [getElem?_insert] at hget
        split_ifs at hget with hkey
        · obtain rfl := Option.some.inj hget
          exact ⟨hkey, hkey ▸ hvalid.1⟩
        · exact h.guid guid rom' hget
      · exact h.guid guid rom' hget
  · rwa [insert_ignored hvalid]

lemma Keyed.suspendAll (h : s.Keyed) : s.suspendAll.Keyed := by
  constructor
  · intro key rom hget
    simp only [ConfigROMStore.suspendAll, Std.TreeMap.getElem?_map, Option.map_eq_some_iff] at hget
    obtain ⟨old, hold, rfl⟩ := hget
    rw [(suspend_keeps old).1, (suspend_keeps old).2.1]
    exact h.node key old hold
  · intro guid rom hget
    simp only [ConfigROMStore.suspendAll, Std.TreeMap.getElem?_map, Option.map_eq_some_iff] at hget
    obtain ⟨old, hold, rfl⟩ := hget
    rw [(suspend_keeps old).2.2]
    exact h.guid guid old hold

lemma Keyed.validateROM (h : s.Keyed) (guid gen nodeId : ℕ) :
    (s.validateROM guid gen nodeId).Keyed := by
  unfold ConfigROMStore.validateROM
  cases hfound : s.romsByGuid[guid]? with
  | none => exact h
  | some old =>
    dsimp only
    split_ifs
    · exact h
    · constructor
      · intro key rom hget
        rw [getElem?_insert] at hget
        split_ifs at hget with hkey
        · obtain rfl := Option.some.inj hget
          exact hkey.symm
        · exact h.node key rom hget
      · intro other rom hget
        rw [getElem?_insert] at hget
        split_ifs at hget with hkey
        · obtain rfl := Option.some.inj hget
          exact hkey ▸ h.guid guid old hfound
        · exact h.guid other rom hget

lemma Keyed.invalidateROM (h : s.Keyed) (guid : ℕ) : (s.invalidateROM guid).Keyed := by
  unfold ConfigROMStore.invalidateROM
  cases hfound : s.romsByGuid[guid]? with
  | none => exact h
  | some old =>
    constructor
    · intro key rom hget
      simp only [Std.TreeMap.getElem?_filter', Option.filter_eq_some_iff] at hget
      exact h.node key rom hget.1
    · intro other rom hget
      rw [getElem?_insert] at hget
      split_ifs at hget with hkey
      · obtain rfl := Option.some.inj hget
        exact hkey ▸ h.guid guid old hfound
      · exact h.guid other rom hget

lemma Keyed.pruneInvalid (h : s.Keyed) : s.pruneInvalid.Keyed := by
  constructor
  · intro key rom hget
    simp only [ConfigROMStore.pruneInvalid, Std.TreeMap.getElem?_filter',
      Option.filter_eq_some_iff] at hget
    exact h.node key rom hget.1
  · intro guid rom hget
    simp only [ConfigROMStore.pruneInvalid, Std.TreeMap.getElem?_filter',
      Option.filter_eq_some_iff] at hget
    exact h.guid guid rom hget.1

/-- Whatever the discovery does to the store, every entry stays under its own key. -/
theorem keyed_run (ops : List StoreOp) : (run apply {} ops).Keyed := by
  have hempty : Keyed {} := ⟨fun key rom hget => by simp at hget, fun guid rom hget => by simp at hget⟩
  apply invariant_run _ hempty
  intro s op h
  cases op with
  | insert rom => exact h.insert rom
  | suspendAll => exact h.suspendAll
  | validateROM guid gen nodeId => exact h.validateROM guid gen nodeId
  | invalidateROM guid => exact h.invalidateROM guid
  | pruneInvalid => exact h.pruneInvalid
  | clear => exact hempty

end ConfigROMStore

/-! ### Sequences of insertions -/

/-- An insertion, with the number of the bus generation its ROM was read in. -/
structure Insertion where
  epoch : ℕ
  rom : ConfigROM
  counter : rom.gen = epoch % 2 ^ 8

def Insertion.Counts (i : Insertion) : Prop := i.rom.bib.guid ≠ 0 ∧ i.rom.nodeId ≤ 0xFF

instance (i : Insertion) : Decidable i.Counts :=
  inferInstanceAs (Decidable (i.rom.bib.guid ≠ 0 ∧ i.rom.nodeId ≤ 0xFF))

/-- The store along a sequence of insertions, and for every GUID the insertion whose ROM it
holds. -/
structure StoreRun where
  store : ConfigROMStore := {}
  held : ℕ → Option Insertion := fun _ => none

namespace StoreRun

def step (w : StoreRun) (i : Insertion) : StoreRun where
  store := w.store.insert i.rom
  held := fun guid =>
    if i.Counts ∧ guid = i.rom.bib.guid ∧
        shouldUpdateGuid (w.store.findByGuid guid) (stamped i.rom) then some i
    else w.held guid

/-- The counter values of the ROM held for the GUID and of the new one are ordered as the
generations they stand for, and the new one does not come from the same generation with as many
quadlets and without the unit profile the other one has. -/
def Comparable (w : StoreRun) (i : Insertion) : Prop :=
  i.Counts → ∀ h ∈ w.held i.rom.bib.guid,
    ((h.rom.gen < i.rom.gen ↔ h.epoch < i.epoch) ∧ (h.rom.gen = i.rom.gen ↔ h.epoch = i.epoch)) ∧
    ¬ (h.rom.gen = i.rom.gen ∧ h.rom.rawQuadlets.length ≤ i.rom.rawQuadlets.length ∧
      hasParsedUnitProfile h.rom ∧ !hasParsedUnitProfile i.rom)

instance (w : StoreRun) (i : Insertion) : Decidable (w.Comparable i) :=
  inferInstanceAs (Decidable (i.Counts → ∀ h ∈ w.held i.rom.bib.guid,
    ((h.rom.gen < i.rom.gen ↔ h.epoch < i.epoch) ∧ (h.rom.gen = i.rom.gen ↔ h.epoch = i.epoch)) ∧
    ¬ (h.rom.gen = i.rom.gen ∧ h.rom.rawQuadlets.length ≤ i.rom.rawQuadlets.length ∧
      hasParsedUnitProfile h.rom ∧ !hasParsedUnitProfile i.rom)))

/-- The GUID index holds what it is said to hold. -/
def Held (w : StoreRun) : Prop :=
  ∀ guid, w.store.findByGuid guid = (w.held guid).map fun i => stamped i.rom

variable {w : StoreRun} {i h : Insertion} {guid : ℕ}

lemma findByGuid_step (w : StoreRun) (i : Insertion) (guid : ℕ) :
    (w.step i).store.findByGuid guid =
      if i.Counts ∧ guid = i.rom.bib.guid ∧
        shouldUpdateGuid (w.store.findByGuid guid) (stamped i.rom) then some (stamped i.rom)
      else w.store.findByGuid guid := by
  unfold step ConfigROMStore.findByGuid
  dsimp only
  by_cases hcounts : i.Counts
  · rw [ConfigROMStore.insert_eq hcounts.1 hcounts.2]
    by_cases hguid : guid = i.rom.bib.guid
    · subst hguid
      simp only [hcounts, true_and]
      split_ifs
      · simp
      · rfl
    · have hother : ¬ (i.Counts ∧ guid = i.rom.bib.guid ∧
          shouldUpdateGuid w.store.romsByGuid[guid]? (stamped i.rom)) := fun h => hguid h.2.1
      rw [if_neg hother]
      dsimp only
      split_ifs
      · rw [ConfigROMStore.getElem?_insert, if_neg (Ne.symm hguid)]
      · rfl
  · rw [ConfigROMStore.insert_ignored hcounts, if_neg (by simp [hcounts])]

lemma held_step (hheld : w.Held) (i : Insertion) : (w.step i).Held := by
  intro guid
  rw [findByGuid_step]
  simp only [step]
  split_ifs
  · rfl
  · exact hheld guid

/-! ### What replaces what -/

/-- An entry of the GUID index only gives way to a higher counter value, or to as many quadlets
under the same one. -/
def GuidOrder (old new : ConfigROM) : Prop :=
  old.gen < new.gen ∨ old.gen = new.gen ∧ old.rawQuadlets.length ≤ new.rawQuadlets.length

/-- An entry of the node index only gives way to as many quadlets, and keeps its profile. -/
def NodeOrder (old new : ConfigROM) : Prop :=
  old.rawQuadlets.length ≤ new.rawQuadlets.length ∧
    (hasParsedUnitProfile old → hasParsedUnitProfile new)

lemma GuidOrder.trans {a b c : ConfigROM} (hab : GuidOrder a b) (hbc : GuidOrder b c) :
    GuidOrder a c := by
  unfold GuidOrder at *
  omega

lemma findByGuid_kept (w : StoreRun) (i : Insertion) {old : ConfigROM}
    (hold : w.store.findByGuid guid = some old) :
    ∃ new, (w.step i).store.findByGuid guid = some new ∧ GuidOrder old new := by
  rw [findByGuid_step, hold]
  split_ifs with hnew
  · obtain ⟨-, -, htaken⟩ := hnew
    refine ⟨_, rfl, ?_⟩
    simp only [shouldUpdateGuid, Bool.or_eq_true, Bool.and_eq_true, decide_eq_true_eq] at htaken
    unfold GuidOrder
    rcases htaken with ⟨hlt, -⟩ | ⟨heq, hle⟩
    · exact Or.inl hlt
    · exact Or.inr ⟨heq, hle⟩
  · exact ⟨old, rfl, Or.inr ⟨rfl, le_rfl⟩⟩

lemma findByNode_kept (w : StoreRun) (i : Insertion) {gen nodeId : ℕ} {old : ConfigROM}
    (hold : w.store.findByNode gen nodeId = some old) :
    ∃ new, (w.step i).store.findByNode gen nodeId = some new ∧ NodeOrder old new := by
  unfold step ConfigROMStore.findByNode at *
  dsimp only
  by_cases hcounts : i.Counts
  · rw [ConfigROMStore.insert_eq hcounts.1 hcounts.2]
    dsimp only
    split_ifs with htaken
    · rw [ConfigROMStore.getElem?_insert]
      split_ifs with hkey
      · rw [hkey, hold] at htaken
        simp only [shouldUpdateNode, Bool.and_eq_true, Bool.or_eq_true, decide_eq_true_eq,
          Bool.not_eq_true'] at htaken
        refine ⟨_, rfl, htaken.1, fun hprofile => ?_⟩
        rcases htaken.2 with hnew | hnone
        · exact hnew
        · simp [hprofile] at hnone
      · exact ⟨old, hold, le_rfl, id⟩
    · exact ⟨old, hold, le_rfl, id⟩
  · rw [ConfigROMStore.insert_ignored hcounts]
    exact ⟨old, hold, le_rfl, id⟩

/-- A profile is only lost in the generation it was read in. -/
lemma profile_kept (hheld : w.Held) (hcomparable : w.Comparable i) {old new : ConfigROM}
    (hold : w.store.findByGuid guid = some old)
    (hnew : (w.step i).store.findByGuid guid = some new) (hprofile : hasParsedUnitProfile old) :
    hasParsedUnitProfile new := by
  rw [findByGuid_step, hold] at hnew
  split_ifs at hnew with htaken
  · obtain ⟨hcounts, rfl, htaken⟩ := htaken
    obtain rfl := Option.some.inj hnew
    have hsource := hheld i.rom.bib.guid
    rw [hold] at hsource
    obtain ⟨h, hh, rfl⟩ := Option.map_eq_some_iff.mp hsource.symm
    obtain ⟨-, hslip⟩ := hcomparable hcounts h hh
    simp only [shouldUpdateGuid, Bool.or_eq_true, Bool.and_eq_true, decide_eq_true_eq,
      Bool.not_eq_true'] at htaken
    rcases htaken with ⟨-, hnew | hnone⟩ | ⟨heq, hle⟩
    · exact hnew
    · simp [hprofile] at hnone
    · by_contra hlost
      exact hslip ⟨heq, hle, hprofile, by simpa using hlost⟩
  · obtain rfl := Option.some.inj hnew
    exact hprofile

/-- Of everything inserted for a GUID, what is held is the newest, or has a profile the newer one
lacks. -/
structure Newest (done : List Insertion) (w : StoreRun) : Prop where
  held : w.Held
  source : ∀ guid, ∀ h ∈ w.held guid, h ∈ done ∧ h.rom.bib.guid = guid
  newest : ∀ j ∈ done, j.Counts → ∃ h ∈ w.held j.rom.bib.guid,
    j.epoch ≤ h.epoch ∨ (hasParsedUnitProfile h.rom ∧ !hasParsedUnitProfile j.rom)

lemma newest_step {done : List Insertion} (hw : Newest done w) (hcomparable : w.Comparable i) :
    Newest (done ++ [i]) (w.step i) := by
  refine ⟨held_step hw.held i, ?_, ?_⟩
  · intro guid h hh
    simp only [step] at hh
    split_ifs at hh with htaken
    · obtain rfl := Option.some.inj hh
      exact ⟨by simp, htaken.2.1.symm⟩
    · obtain ⟨hmem, hguid⟩ := hw.source guid h hh
      exact ⟨List.mem_append_left _ hmem, hguid⟩
  · intro j hj hcounts
    have hfound := hw.held j.rom.bib.guid
    rcases List.mem_append.mp hj with hold | hnew
    · -- an earlier insertion: the ROM held for it stays or gives way to the new one
      obtain ⟨h, hh, horder⟩ := hw.newest j hold hcounts
      simp only [step]
      split_ifs with htaken
      · refine ⟨i, rfl, ?_⟩
        obtain ⟨hcountsI, hguid, htaken⟩ := htaken
        rw [hguid] at hh hfound htaken
        obtain ⟨⟨hlt, heq⟩, hslip⟩ := hcomparable hcountsI h hh
        rw [hfound, hh] at htaken
        simp only [shouldUpdateGuid, Option.map_some, Bool.or_eq_true, Bool.and_eq_true,
          decide_eq_true_eq, Bool.not_eq_true'] at htaken
        change (h.rom.gen < i.rom.gen ∧ (hasParsedUnitProfile i.rom = true ∨
          hasParsedUnitProfile h.rom = false)) ∨ (h.rom.gen = i.rom.gen ∧
            h.rom.rawQuadlets.length ≤ i.rom.rawQuadlets.length) at htaken
        rcases htaken with ⟨hgen, hprofile⟩ | ⟨hgen, hle⟩
        · have hepoch := hlt.mp hgen
          rcases horder with horder | ⟨hhas, hlacks⟩
          · exact Or.inl (by omega)
          · rcases hprofile with hprofile | hnone
            · exact Or.inr ⟨hprofile, hlacks⟩
            · simp [hhas] at hnone
        · have hepoch := heq.mp hgen
          rcases horder with horder | ⟨hhas, hlacks⟩
          · exact Or.inl (by omega)
          · refine Or.inr ⟨?_, hlacks⟩
            by_contra hlost
            exact hslip ⟨hgen, hle, hhas, by simpa using hlost⟩
      · exact ⟨h, hh, horder⟩
    · -- the new insertion itself: taken, or older, or without the profile that is held
      obtain rfl := List.mem_singleton.mp hnew
      simp only [step]
      split_ifs with htaken
      · exact ⟨j, rfl, Or.inl le_rfl⟩
      · cases hh : w.held j.rom.bib.guid with
        | none =>
          rw [hh] at hfound
          exact absurd ⟨hcounts, trivial, by rw [hfound]; rfl⟩ htaken
        | some h =>
          obtain ⟨⟨hlt, heq⟩, hslip⟩ := hcomparable hcounts h hh
          refine ⟨h, rfl, ?_⟩
          by_cases hepoch : j.epoch ≤ h.epoch
          · exact Or.inl hepoch
          · right
            have hgen := hlt.mpr (by omega)
            rw [hfound, hh] at htaken
            have hrefused : ¬ (hasParsedUnitProfile j.rom = true ∨
                hasParsedUnitProfile h.rom = false) := by
              intro hprofile
              apply htaken
              refine ⟨hcounts, trivial, ?_⟩
              simp only [shouldUpdateGuid, Option.map_some, Bool.or_eq_true, Bool.and_eq_true,
                decide_eq_true_eq, Bool.not_eq_true']
              exact Or.inl ⟨hgen, hprofile⟩
            simpa [and_comm] using hrefused

lemma newest_run {done : List Insertion} (hw : Newest done w) {after : List Insertion}
    (hmeets : Meets step Comparable w after) : Newest (done ++ after) (run step w after) := by
  induction after generalizing done w with
  | nil => simpa using hw
  | cons i after ih =>
    have hnext := ih (newest_step hw hmeets.1) hmeets.2
    simpa using hnext

lemma findByGuid_run (hheld : w.Held) {after : List Insertion}
    (hmeets : Meets step Comparable w after) {old : ConfigROM}
    (hold : w.store.findByGuid guid = some old) :
    ∃ new, (run step w after).store.findByGuid guid = some new ∧ GuidOrder old new ∧
      (hasParsedUnitProfile old → hasParsedUnitProfile new) := by
  induction after generalizing w old with
  | nil => exact ⟨old, hold, Or.inr ⟨rfl, le_rfl⟩, id⟩
  | cons i after ih =>
    obtain ⟨mid, hmid, horder⟩ := findByGuid_kept w i hold
    obtain ⟨new, hnew, horder', hprofile⟩ := ih (held_step hheld i) hmeets.2 hmid
    exact ⟨new, hnew, horder.trans horder',
      fun hold' => hprofile (profile_kept hheld hmeets.1 hold hmid hold')⟩

lemma findByNode_run (w : StoreRun) (after : List Insertion) {gen nodeId : ℕ} {old : ConfigROM}
    (hold : w.store.findByNode gen nodeId = some old) :
    ∃ new, (run step w after).store.findByNode gen nodeId = some new ∧ NodeOrder old new := by
  induction after generalizing w old with
  | nil => exact ⟨old, hold, le_rfl, id⟩
  | cons i after ih =>
    obtain ⟨mid, hmid, hlength, hprofile⟩ := findByNode_kept w i hold
    obtain ⟨new, hnew, hlength', hprofile'⟩ := ih (w.step i) hmid
    exact ⟨new, hnew, hlength.trans hlength', fun h => hprofile' (hprofile h)⟩

/-- Between any two moments of a sequence of comparable insertions: a ROM with a unit profile is
not replaced by one without, and within one generation the quadlet counts of both indexes do not
fall; and at the later moment the ROM of a GUID is the newest of everything inserted for it with
or without a profile, as it has one or not. -/
theorem never_regresses (before after : List Insertion)
    (hcomparable : Meets step Comparable {} (before ++ after)) :
    let earlier := run step {} before
    let later := run step {} (before ++ after)
    (∀ guid old, earlier.store.findByGuid guid = some old →
      ∃ new, later.store.findByGuid guid = some new ∧
        (hasParsedUnitProfile old → hasParsedUnitProfile new) ∧
        ((earlier.held guid).map Insertion.epoch = (later.held guid).map Insertion.epoch →
          old.rawQuadlets.length ≤ new.rawQuadlets.length)) ∧
    (∀ gen nodeId old, earlier.store.findByNode gen nodeId = some old →
      ∃ new, later.store.findByNode gen nodeId = some new ∧
        (hasParsedUnitProfile old → hasParsedUnitProfile new) ∧
        old.rawQuadlets.length ≤ new.rawQuadlets.length) ∧
    (∀ j ∈ before ++ after, j.Counts → ∃ i ∈ before ++ after,
      later.held j.rom.bib.guid = some i ∧
      later.store.findByGuid j.rom.bib.guid = some (stamped i.rom) ∧
      (hasParsedUnitProfile j.rom = hasParsedUnitProfile i.rom → j.epoch ≤ i.epoch)) := by
  have hempty : Newest [] ({} : StoreRun) := by
    constructor
    · intro guid
      simp [ConfigROMStore.findByGuid]
    · intro guid h hh
      simp at hh
    · intro j hj
      simp at hj
  have hsplit := (meets_append).mp hcomparable
  have hearlier := newest_run hempty hsplit.1
  have hlater := newest_run hempty hcomparable
  rw [List.nil_append] at hearlier hlater
  dsimp only
  refine ⟨fun guid old hold => ?_, fun gen nodeId old hold => ?_, fun j hj hcounts => ?_⟩
  · obtain ⟨new, hnew, horder, hprofile⟩ := findByGuid_run hearlier.held hsplit.2 hold
    rw [run_append]
    refine ⟨new, hnew, hprofile, fun hsame => ?_⟩
    have hlaterHeld := hlater.held guid
    rw [run_append, hnew] at hlaterHeld
    have hearlierHeld := hearlier.held guid
    rw [hold] at hearlierHeld
    obtain ⟨i, hi, rfl⟩ := Option.map_eq_some_iff.mp hearlierHeld.symm
    obtain ⟨j, hj, rfl⟩ := Option.map_eq_some_iff.mp hlaterHeld.symm
    rw [hi, hj] at hsame
    have hgen : i.rom.gen = j.rom.gen := by
      rw [i.counter, j.counter, Option.some.inj hsame]
    rcases horder with hlt | ⟨-, hle⟩
    · exact absurd hgen (Nat.ne_of_lt hlt)
    · exact hle
  · obtain ⟨new, hnew, hlength, hprofile⟩ := findByNode_run _ after hold
    rw [run_append]
    exact ⟨new, hnew, hprofile, hlength⟩
  · obtain ⟨i, hi, horder⟩ := hlater.newest j hj hcounts
    refine ⟨i, (hlater.source _ i hi).1, hi, ?_, fun hsame => ?_⟩
    · rw [hlater.held, hi]
      rfl
    · rcases horder with hle | ⟨hhas, hlacks⟩
      · exact hle
      · rw [hsame] at hlacks
        simp [hhas] at hlacks

/-- A ROM of the given length from node 2, with or without a unit directory. -/
def romOfNode2 (epoch quadlets : ℕ) (units : List UnitDirectory) : Insertion where
  epoch := epoch
  rom :=
    { gen := epoch % 2 ^ 8
      nodeId := 2
      bib := { guid := 0x0003DB0000001234 }
      unitDirectories := units
      rawQuadlets := List.replicate quadlets 0 }
  counter := rfl

/-- In the generation it was read in, a ROM with its unit directory gives way to one of the same
length without; and after the counter wrapped, the ROM of the generation before it stays. -/
theorem regresses :
    let withUnit := romOfNode2 3 20 [{}]
    let withoutUnit := romOfNode2 3 20 []
    let beforeWrap := romOfNode2 255 20 [{}]
    let afterWrap := romOfNode2 256 20 [{}]
    (((run step {} [withUnit]).store.findByGuid 0x0003DB0000001234).map hasParsedUnitProfile =
        some true ∧
      ((run step {} [withUnit, withoutUnit]).store.findByGuid 0x0003DB0000001234).map
        hasParsedUnitProfile = some false) ∧
    (run step {} [beforeWrap, afterWrap]).store.findByGuid 0x0003DB0000001234 =
      some (stamped beforeWrap.rom) ∧ beforeWrap.rom ≠ afterWrap.rom := by
  decide +kernel

/-- A ROM that grows within a generation, and is then read again in a later one. -/
theorem growingROM_kept :
    let growing := [romOfNode2 3 7 [], romOfNode2 3 20 [{}]]
    let again := [romOfNode2 4 12 [], romOfNode2 5 20 [{}]]
    Meets step Comparable {} (growing ++ again) ∧
    ∀ guid old, (run step {} growing).store.findByGuid guid = some old →
      ∃ new, (run step {} (growing ++ again)).store.findByGuid guid = some new ∧
        (hasParsedUnitProfile old → hasParsedUnitProfile new) := by
  have hmeets : Meets step Comparable {} ([romOfNode2 3 7 [], romOfNode2 3 20 [{}]] ++
      [romOfNode2 4 12 [], romOfNode2 5 20 [{}]]) := by
    decide +kernel
  refine ⟨hmeets, fun guid old hold => ?_⟩
  obtain ⟨new, hnew, hprofile, -⟩ := (never_regresses _ _ hmeets).1 guid old hold
  exact ⟨new, hnew, hprofile⟩

end StoreRun

end ASFireWire.Discovery
