import ASFireWire.TopologyMapService

/-! Runs of the TOPOLOGY_MAP service. Host copy and mirror part only where a zero-length map is
published over a map whose body is not empty; a block read is misjudged only where its end wraps
past 2³². -/
namespace ASFireWire.CSR

open ASFireWire.ConfigROM Quadlets StoreSequences

/-! ### Byte order -/

lemma swapHostToBig_toNat (v : UInt32) : (swapHostToBig v).toNat =
    v.toNat / 2 ^ 24 % 2 ^ 8 + 2 ^ 8 * (v.toNat / 2 ^ 16 % 2 ^ 8) +
      2 ^ 16 * (v.toNat / 2 ^ 8 % 2 ^ 8) + 2 ^ 24 * (v.toNat % 2 ^ 8) := by
  obtain ⟨h0, h1, h2, h3⟩ := byteAt_leBytes v.toNat
  have hlt := be32At_lt (leBytes v.toNat) 0
  rw [swapHostToBig, UInt32.toNat_ofNat_of_lt' hlt]
  simp only [be32At, Nat.zero_add, h0, h1, h2, h3]

/-- The bytes of the result are those of the argument in the other order. -/
lemma swapHostToBig_digits {v : UInt32} {a b c d : ℕ} (ha : a < 2 ^ 8) (hb : b < 2 ^ 8)
    (hc : c < 2 ^ 8) (hv : v.toNat = a + 2 ^ 8 * b + 2 ^ 16 * c + 2 ^ 24 * d) (hd : d < 2 ^ 8) :
    (swapHostToBig v).toNat = d + 2 ^ 8 * c + 2 ^ 16 * b + 2 ^ 24 * a := by
  have h3 : v.toNat / 2 ^ 24 % 2 ^ 8 = d := by omega
  have h2 : v.toNat / 2 ^ 16 % 2 ^ 8 = c := by omega
  have h1 : v.toNat / 2 ^ 8 % 2 ^ 8 = b := by omega
  have h0 : v.toNat % 2 ^ 8 = a := by omega
  rw [swapHostToBig_toNat, h0, h1, h2, h3]

@[simp] lemma swapHostToBig_swapHostToBig (v : UInt32) :
    swapHostToBig (swapHostToBig v) = v := by
  have hv := v.toNat_lt
  obtain ⟨a, ha⟩ : ∃ a, a = v.toNat % 2 ^ 8 := ⟨_, rfl⟩
  obtain ⟨b, hb⟩ : ∃ b, b = v.toNat / 2 ^ 8 % 2 ^ 8 := ⟨_, rfl⟩
  obtain ⟨c, hc⟩ : ∃ c, c = v.toNat / 2 ^ 16 % 2 ^ 8 := ⟨_, rfl⟩
  obtain ⟨d, hd⟩ : ∃ d, d = v.toNat / 2 ^ 24 % 2 ^ 8 := ⟨_, rfl⟩
  have hdigits : v.toNat = a + 2 ^ 8 * b + 2 ^ 16 * c + 2 ^ 24 * d := by omega
  have hswap := swapHostToBig_digits (by omega) (by omega) (by omega) hdigits (by omega)
  have hback := swapHostToBig_digits (by omega) (by omega) (by omega) hswap (by omega)
  exact UInt32.toNat_inj.mp (hback.trans hdigits.symm)

@[simp] lemma swapHostToBig_zero : swapHostToBig 0 = 0 := rfl

lemma swapHostToBig_eq_zero {v : UInt32} : swapHostToBig v = 0 ↔ v = 0 := by
  constructor
  · intro h
    rw [← swapHostToBig_swapHostToBig v, h, swapHostToBig_zero]
  · rintro rfl
    rfl

/-! ### Maps -/

def lengthField (image : MapImage) : ℕ := (image 0).toNat / 2 ^ 16

def crcField (image : MapImage) : ℕ := (image 0).toNat % 2 ^ 16

def nodeCountField (image : MapImage) : ℕ := (image 2).toNat / 2 ^ 16

def selfIDCountField (image : MapImage) : ℕ := (image 2).toNat % 2 ^ 16

/-- The first `n` quadlets behind the header. -/
def following (image : MapImage) (n : ℕ) : List UInt32 := ((List.ofFn image).drop 1).take n

/-- The header counts quadlets that are there and carries their CRC. -/
def Described (image : MapImage) : Prop :=
  lengthField image ≤ 255 ∧
    (computeBlockCRC16 (following image (lengthField image))).toNat = crcField image

/-- A map built from the snapshot. -/
structure Rebuilt (snapshot : TopologySnapshot) (image : MapImage) : Prop where
  length : lengthField image = selfIDCountField image + 2
  described : Described image
  generation : image 1 = snapshot.generation
  content : 4 * (3 + snapshot.selfIDs.length) ≤ 1024 →
    nodeCountField image = snapshot.nodeCount.toNat ∧
      selfIDCountField image = snapshot.selfIDs.length ∧
      (following image (lengthField image)).drop 2 = snapshot.selfIDs

variable (snapshot : TopologySnapshot)

lemma length_mapBody (gen : UInt32) : (mapBody snapshot gen).length = selfIdCount snapshot + 2 := by
  simp [mapBody, selfIdCount]

lemma selfIdCount_le : selfIdCount snapshot ≤ 253 := Nat.min_le_right _ _

lemma mapHeader_toNat (gen : UInt32) : (mapHeader snapshot gen).toNat =
    (selfIdCount snapshot + 2) * 65536 + (computeBlockCRC16 (mapBody snapshot gen)).toNat := by
  have hcrc := (computeBlockCRC16 (mapBody snapshot gen)).toNat_lt
  have hcount := selfIdCount_le snapshot
  rw [mapHeader, lengthAndCRC, UInt32.toNat_ofNat_of_lt' (by
    change _ < 2 ^ 32
    omega)]

lemma counts_toNat (gen : UInt32) : (buildTopologyMap snapshot gen 2).toNat =
    snapshot.nodeCount.toNat * 2 ^ 16 + selfIdCount snapshot := by
  have hnodes := snapshot.nodeCount.toNat_lt
  have hcount := selfIdCount_le snapshot
  change (UInt32.ofNat (snapshot.nodeCount.toNat * 2 ^ 16 + selfIdCount snapshot)).toNat = _
  rw [UInt32.toNat_ofNat_of_lt' (by
    change _ < 2 ^ 32
    omega)]

lemma following_buildTopologyMap (gen : UInt32) :
    following (buildTopologyMap snapshot gen) (selfIdCount snapshot + 2) =
      mapBody snapshot gen := by
  have hlen := length_mapBody snapshot gen
  have hcount := selfIdCount_le snapshot
  refine List.ext_getElem ?_ fun i hi hi' => ?_
  · simp only [following, List.length_take, List.length_drop, List.length_ofFn]
    omega
  · simp only [following, List.getElem_take, List.getElem_drop, List.getElem_ofFn,
      buildTopologyMap]
    rw [Nat.add_comm, List.getD_cons_succ, List.getD_eq_getElem _ _ hi']

/-- Every map built is a proper map of its snapshot. -/
lemma rebuilt_buildTopologyMap : Rebuilt snapshot (buildTopologyMap snapshot snapshot.generation) := by
  have hcrc := (computeBlockCRC16 (mapBody snapshot snapshot.generation)).toNat_lt
  have hcount := selfIdCount_le snapshot
  have hhead : (buildTopologyMap snapshot snapshot.generation 0).toNat =
      (selfIdCount snapshot + 2) * 65536 +
        (computeBlockCRC16 (mapBody snapshot snapshot.generation)).toNat :=
    mapHeader_toNat snapshot snapshot.generation
  have hlength : lengthField (buildTopologyMap snapshot snapshot.generation) =
      selfIdCount snapshot + 2 := by
    rw [lengthField, hhead]
    omega
  have hself : selfIDCountField (buildTopologyMap snapshot snapshot.generation) =
      selfIdCount snapshot := by
    rw [selfIDCountField, counts_toNat]
    omega
  refine ⟨by rw [hlength, hself], ⟨by omega, ?_⟩, rfl, fun hfits => ?_⟩
  · rw [hlength, following_buildTopologyMap, crcField, hhead]
    omega
  · have hall : selfIdCount snapshot = snapshot.selfIDs.length := by
      rw [selfIdCount, kMaxSelfIDs]
      omega
    refine ⟨?_, by rw [hself, hall], ?_⟩
    · rw [nodeCountField, counts_toNat]
      omega
    · rw [hlength, following_buildTopologyMap, mapBody, hall, List.take_length]
      rfl

namespace TopologyMapService

/-! ### What the stores leave in the mirror -/

lemma mem_body (i : Fin 256) : i ∈ (List.finRange 255).map Fin.succ ↔ i ≠ 0 := by
  simp only [List.mem_map, List.mem_finRange, true_and]
  constructor
  · rintro ⟨j, rfl⟩
    exact Fin.succ_ne_zero j
  · intro hi
    exact ⟨i.pred hi, Fin.succ_pred i hi⟩

lemma bodyStores_ne_zero {image : MapImage} {w : Word} (h : w ∈ bodyStores image) : w.1 ≠ 0 := by
  obtain ⟨i, hi, rfl⟩ := List.mem_map.mp h
  exact (mem_body i).mp hi

lemma run_bodyStores (m image : MapImage) (i : Fin 256) :
    Runs.run store m (bodyStores image) i = if i = 0 then m 0 else swapHostToBig (image i) := by
  rw [bodyStores, run_image]
  by_cases hi : i = 0
  · rw [if_neg (by rw [mem_body, not_not]; exact hi), if_pos hi, hi]
  · rw [if_pos ((mem_body i).mpr hi), if_neg hi]

/-- A whole image, header first. -/
lemma run_header_body (m image : MapImage) :
    Runs.run store m ((0, swapHostToBig (image 0)) :: bodyStores image) =
      fun i => swapHostToBig (image i) := by
  funext i
  rw [Runs.run_cons, run_bodyStores]
  by_cases hi : i = 0
  · rw [if_pos hi, hi]
    simp [store]
  · rw [if_neg hi]

lemma run_startStores (m image : MapImage) :
    Runs.run store m (startStores image) = fun i => swapHostToBig (image i) := by
  rw [startStores, Runs.run_append, run_header_body]

/-- A whole image, header last. -/
lemma run_rebuildStores (m image : MapImage) :
    Runs.run store m (rebuildStores image) = fun i => swapHostToBig (image i) := by
  funext i
  rw [rebuildStores, Runs.run_cons, Runs.run_append, Runs.run_cons, Runs.run_nil]
  by_cases hi : i = 0
  · rw [hi]
    simp [store]
  · change Function.update _ 0 _ i = _
    rw [Function.update_of_ne hi, run_bodyStores, if_neg hi]

/-! ### What a remote reader may see while they are made -/

/-- The mirror as a remote node reads it. -/
def remoteView (words : MapImage) : MapImage := fun i => swapHostToBig (words i)

/-- The header is zero or describes a complete body. -/
def Consistent (words : MapImage) : Prop := words 0 = 0 ∨ Described (remoteView words)

lemma remoteView_image (image : MapImage) : remoteView (fun i => swapHostToBig (image i)) = image := by
  funext i
  exact swapHostToBig_swapHostToBig (image i)

lemma consistent_of_zero (words : MapImage) (h : words 0 = 0) : Consistent words := Or.inl h

/-- Rewriting the body under a zero header. -/
lemma throughout_bodyStores {m : MapImage} (hm : m 0 = 0) (image : MapImage) :
    Throughout Consistent m (bodyStores image) :=
  throughout_of_kept consistent_of_zero (fun _ hw h => absurd h (bodyStores_ne_zero hw)) hm

lemma throughout_rebuildStores (m : MapImage) {image : MapImage} (himage : Described image) :
    Throughout Consistent m (rebuildStores image) := by
  have hzero : store m (0, 0) 0 = 0 := by simp [store]
  refine ⟨Or.inl hzero, throughout_append.mpr ⟨throughout_bodyStores hzero image,
    throughout_cons.mpr ⟨?_, trivial⟩⟩⟩
  have hfull : store (Runs.run store (store m (0, 0)) (bodyStores image))
      (0, swapHostToBig (image 0)) = fun i => swapHostToBig (image i) := by
    have hrun := run_rebuildStores m image
    rw [rebuildStores, Runs.run_cons, Runs.run_append] at hrun
    exact hrun
  rw [hfull]
  refine Or.inr ?_
  rwa [remoteView_image]

lemma zeroStores_value {w : Word} (h : w ∈ zeroStores) : w.2 = 0 := by
  rcases List.mem_cons.mp h with rfl | htail
  · rfl
  · obtain ⟨i, -, rfl⟩ := List.mem_map.mp htail
    rfl

lemma run_zeroStores (m : MapImage) : Runs.run store m zeroStores = fun _ => 0 := by
  have h := run_header_body m fun _ => 0
  simpa [zeroStores, bodyStores] using h

/-- The map of an empty snapshot: a header, and zeros behind it. -/
lemma emptyMap_body {i : Fin 256} (hi : i ≠ 0) : buildTopologyMap {} 0 i = 0 := by
  have hpos : 0 < i.val := Nat.pos_of_ne_zero fun h => hi (Fin.ext h)
  obtain ⟨k, hk⟩ : ∃ k, i.val = k + 1 := ⟨i.val - 1, by omega⟩
  rw [buildTopologyMap, hk, List.getD_cons_succ]
  match k with
  | 0 | 1 | _ + 2 => rfl

/-- Starting shows a zero header or the empty map, whichever the service has when it is not
running. -/
lemma throughout_startStores (m : MapImage) {image : MapImage}
    (himage : image 0 = 0 ∨ image = buildTopologyMap {} 0) :
    Throughout Consistent m (startStores image) := by
  refine throughout_append.mpr ⟨?_, ?_⟩
  · have hzero : store m (0, 0) 0 = 0 := by simp [store]
    refine ⟨Or.inl hzero, throughout_of_kept consistent_of_zero (fun w hw _ => ?_) hzero⟩
    exact zeroStores_value (List.mem_cons_of_mem _ hw)
  rw [run_zeroStores]
  rcases himage with hhead | rfl
  · have hzero : store (fun _ => 0 : MapImage) (0, swapHostToBig (image 0)) 0 = 0 := by
      simp [store, hhead]
    exact ⟨Or.inl hzero, throughout_bodyStores hzero image⟩
  · have hfull : store (fun _ => 0 : MapImage) (0, swapHostToBig (buildTopologyMap {} 0 0)) =
        fun i => swapHostToBig (buildTopologyMap {} 0 i) := by
      funext i
      by_cases hi : i = 0
      · subst hi
        simp [store]
      · simp only [store, Function.update_of_ne hi, emptyMap_body hi, swapHostToBig_zero]
    have hdescribed : Consistent fun i => swapHostToBig (buildTopologyMap {} 0 i) := by
      refine Or.inr ?_
      rw [remoteView_image]
      exact (rebuilt_buildTopologyMap {}).described
    refine throughout_cons.mpr ⟨by rwa [hfull], ?_⟩
    rw [hfull]
    refine throughout_of_same hdescribed fun w hw => ?_
    obtain ⟨i, -, rfl⟩ := List.mem_map.mp hw
    rfl

/-! ### Sound steps -/

/-- The CPU and a remote node read the same quadlets. -/
def ReadersAgree (s : TopologyMapService) : Prop :=
  ∀ buffer, s.dma = some buffer → ∀ i : Fin 256,
    s.readQuadlet (UInt32.ofNat (4 * i.val)) = some (remoteView buffer.words i)

/-- The stores a `Rebuild` makes, those of a start it needs first included. -/
def storesOfRebuild (s : TopologyMapService) (snapshot : TopologySnapshot) : List Word :=
  (if s.started then [] else startStores s.hostMap) ++
    rebuildStores (buildTopologyMap snapshot snapshot.generation)

/-- The buffer they go to. -/
def rebuildBuffer (s : TopologyMapService) (available : Option DMABuffer) : Option DMABuffer :=
  if s.started then s.dma else available

structure Sound (s : TopologyMapService) (e : MapEvent) : Prop where
  agree : (s.step e).ReadersAgree
  rebuilt : ∀ snapshot available, e = .rebuild snapshot available →
    s.started = true ∨ available ≠ none → Rebuilt snapshot (s.step e).hostMap
  throughout : ∀ snapshot available buffer, e = .rebuild snapshot available →
    s.rebuildBuffer available = some buffer →
      Throughout Consistent buffer.words (s.storesOfRebuild snapshot)
  resolved : ∀ offset length, e = .resolveBlockRead offset length → s.started = true →
    ((s.resolveBlockRead offset length).isSome ↔
      offset.toNat % 4 = 0 ∧ length.toNat % 4 = 0 ∧ offset.toNat + length.toNat ≤ 1024)

/-- A zero-length map replaces a map without body, and no block read wraps into the region. -/
def Kept (s : TopologyMapService) : MapEvent → Prop
  | .publishZeroLength _ available =>
    s.started = true ∨ available ≠ none → ∀ i, i ≠ 0 → s.hostMap i = 0
  | .resolveBlockRead offset length => s.started = true → offset.toNat % 4 = 0 →
    length.toNat % 4 = 0 → 2 ^ 32 ≤ offset.toNat + length.toNat →
      2 ^ 32 + 1024 < offset.toNat + length.toNat
  | _ => True

/-- The mirror is the host map, and a service that is not running shows no body under a header. -/
structure Inv (s : TopologyMapService) : Prop where
  mirror : ∀ buffer, s.dma = some buffer → ∀ i, buffer.words i = swapHostToBig (s.hostMap i)
  running : s.started = s.dma.isSome
  idle : s.started = false → s.hostMap 0 = 0 ∨ s.hostMap = buildTopologyMap {} 0

lemma readQuadlet_index (s : TopologyMapService) (i : Fin 256) :
    s.readQuadlet (UInt32.ofNat (4 * i.val)) = some (s.hostMap i) := by
  have hi := i.isLt
  have hoff : (UInt32.ofNat (4 * i.val)).toNat = 4 * i.val :=
    UInt32.toNat_ofNat_of_lt' (by
      change _ < 2 ^ 32
      omega)
  rw [readQuadlet, hoff, if_neg (by omega), Nat.mul_div_cancel_left _ (by omega), Fin.ofNat_val_eq_self]

lemma readersAgree_iff (s : TopologyMapService) : s.ReadersAgree ↔
    ∀ buffer, s.dma = some buffer → ∀ i, buffer.words i = swapHostToBig (s.hostMap i) := by
  simp only [ReadersAgree, readQuadlet_index, remoteView, Option.some_inj]
  refine forall_congr' fun buffer => imp_congr_right fun _ => forall_congr' fun i => ?_
  constructor
  · intro h
    rw [h, swapHostToBig_swapHostToBig]
  · intro h
    rw [h, swapHostToBig_swapHostToBig]

lemma storeDMA_eq_some {dma : Option DMABuffer} {stores : List Word} {buffer : DMABuffer}
    (h : storeDMA dma stores = some buffer) :
    ∃ old, dma = some old ∧ buffer.words = Runs.run store old.words stores := by
  obtain ⟨old, hold, rfl⟩ := Option.map_eq_some_iff.mp h
  exact ⟨old, hold, rfl⟩

@[simp] lemma isSome_storeDMA (dma : Option DMABuffer) (stores : List Word) :
    (storeDMA dma stores).isSome = dma.isSome := Option.isSome_map

lemma Inv.initial : Inv {} := by
  refine ⟨fun buffer hbuffer => ?_, rfl, fun _ => Or.inr rfl⟩
  cases hbuffer

lemma invalidateLocked_header (s : TopologyMapService) : s.invalidateLocked.hostMap 0 = 0 := by
  simp [TopologyMapService.invalidateLocked]

lemma Inv.invalidateLocked {s : TopologyMapService} (h : s.Inv) : s.invalidateLocked.Inv := by
  refine ⟨fun buffer hbuffer i => ?_, ?_, fun _ => Or.inl (invalidateLocked_header s)⟩
  · obtain ⟨old, hold, hwords⟩ := storeDMA_eq_some hbuffer
    rw [hwords]
    change Function.update old.words 0 0 i = swapHostToBig (Function.update s.hostMap 0 0 i)
    by_cases hi : i = 0
    · subst hi
      simp
    · rw [Function.update_of_ne hi, Function.update_of_ne hi]
      exact h.mirror old hold i
  · rw [TopologyMapService.invalidateLocked, h.running, isSome_storeDMA]

/-- `StartLocked` leaves a running service with the same map, or an invalidated one. -/
lemma Inv.startLocked {s : TopologyMapService} (h : s.Inv) (available : Option DMABuffer) :
    (s.startLocked available).1.Inv ∧
      ((s.startLocked available).2 = true ∧ (s.startLocked available).1.started = true ∧
          (s.startLocked available).1.hostMap = s.hostMap ∧
          (s.started = true ∨ available ≠ none) ∨
        (s.startLocked available).2 = false ∧ s.started = false ∧ available = none) := by
  cases hstarted : s.started with
  | true =>
    have heq : s.startLocked available = (s, true) := if_pos hstarted
    rw [heq]
    exact ⟨h, Or.inl ⟨rfl, hstarted, rfl, Or.inl rfl⟩⟩
  | false =>
    cases available with
    | none =>
      have heq : s.startLocked none = (s.invalidateLocked, false) := if_neg (by simp [hstarted])
      rw [heq]
      exact ⟨h.invalidateLocked, Or.inr ⟨rfl, rfl, rfl⟩⟩
    | some buffer =>
      have heq : s.startLocked (some buffer) =
          ({ s with dma := storeDMA (some buffer) (startStores s.hostMap), started := true },
            true) := if_neg (by simp [hstarted])
      rw [heq]
      refine ⟨⟨fun b hb i => ?_, rfl, fun hidle => by cases hidle⟩,
        Or.inl ⟨rfl, rfl, rfl, Or.inr (by simp)⟩⟩
      have hstores : storeDMA (some buffer) (startStores s.hostMap) = some b := hb
      obtain ⟨fresh, -, hwords⟩ := storeDMA_eq_some hstores
      rw [hwords, run_startStores]

lemma Inv.stop {s : TopologyMapService} (h : s.Inv) : s.stop.Inv := by
  unfold TopologyMapService.stop
  split
  · exact h
  · refine ⟨fun buffer hbuffer => ?_, rfl, fun _ => Or.inl (invalidateLocked_header s)⟩
    cases hbuffer

lemma startLocked_false {s t : TopologyMapService} {available : Option DMABuffer}
    (hstart : s.startLocked available = (t, false)) : s.started = false ∧ available = none := by
  unfold TopologyMapService.startLocked at hstart
  split at hstart
  · cases hstart
  · rename_i hidle
    cases available with
    | none => exact ⟨by simpa using hidle, rfl⟩
    | some buffer => cases hstart

/-- `Rebuild` on a service that runs or can be started. -/
lemma Inv.rebuild {s : TopologyMapService} (h : s.Inv) (snapshot : TopologySnapshot)
    (available : Option DMABuffer) : (s.rebuild snapshot available).Inv ∧
      (s.started = true ∨ available ≠ none →
        (s.rebuild snapshot available).hostMap =
          buildTopologyMap snapshot snapshot.generation) := by
  obtain ⟨hinv, hcases⟩ := h.startLocked available
  unfold TopologyMapService.rebuild
  rcases hstart : s.startLocked available with ⟨t, _ | _⟩
  · obtain ⟨hidle, hnone⟩ := startLocked_false hstart
    rw [hstart] at hinv
    exact ⟨hinv, fun hready => by simp [hidle, hnone] at hready⟩
  · rw [hstart] at hinv hcases
    have hrunning : t.started = true := by
      rcases hcases with ⟨-, hstarted, -⟩ | ⟨hfalse, -⟩
      · exact hstarted
      · cases hfalse
    refine ⟨⟨fun buffer hbuffer i => ?_, ?_, fun hidle => ?_⟩, fun _ => rfl⟩
    · have hstores : storeDMA t.dma
          (rebuildStores (buildTopologyMap snapshot snapshot.generation)) = some buffer := hbuffer
      obtain ⟨old, -, hwords⟩ := storeDMA_eq_some hstores
      rw [hwords, run_rebuildStores]
    · change t.started = (storeDMA t.dma _).isSome
      rw [isSome_storeDMA, hinv.running]
    · change t.started = false at hidle
      rw [hrunning] at hidle
      cases hidle

lemma Inv.of_agree {s : TopologyMapService} (h : s.ReadersAgree) (hstarted : s.started = true)
    (hdma : s.dma.isSome = true) : s.Inv :=
  ⟨s.readersAgree_iff.mp h, hstarted.trans hdma.symm, fun hidle => by simp [hstarted] at hidle⟩

/-- Only the header of the mirror is written, so the rest of it must have been zero. -/
lemma Inv.header_iff {t t' : TopologyMapService} (h : t.Inv) (generation : UInt32)
    (hstarted : t.started = true) (hmap : t'.hostMap = zeroLengthMap generation)
    (hdma : t'.dma = storeDMA t.dma [(0, swapHostToBig (zeroLengthMap generation 0))]) :
    t'.ReadersAgree ↔ ∀ i, i ≠ 0 → t.hostMap i = 0 := by
  obtain ⟨buffer, hbuffer⟩ : ∃ buffer, t.dma = some buffer := by
    have hsome := h.running
    rw [hstarted] at hsome
    exact Option.isSome_iff_exists.mp hsome.symm
  have hnew : t'.dma = some { buffer with
      words := Function.update buffer.words 0 (swapHostToBig (zeroLengthMap generation 0)) } := by
    rw [hdma, hbuffer]
    rfl
  have hbody : ∀ i, i ≠ 0 → zeroLengthMap generation i = 0 := by
    intro i hi
    rw [zeroLengthMap, Function.update_of_ne hi]
  rw [readersAgree_iff]
  constructor
  · intro hmirror i hi
    have hword := hmirror _ hnew i
    dsimp only at hword
    rw [Function.update_of_ne hi, hmap, hbody i hi, h.mirror buffer hbuffer, swapHostToBig_zero,
      swapHostToBig_eq_zero] at hword
    exact hword
  · intro hempty b hb i
    rw [hnew] at hb
    obtain rfl := Option.some.inj hb
    dsimp only
    rw [hmap]
    by_cases hi : i = 0
    · rw [hi, Function.update_self]
    · rw [Function.update_of_ne hi, hbody i hi, h.mirror buffer hbuffer, hempty i hi]

/-- `PublishZeroLength` keeps the mirror exactly if there was no body to clear. -/
lemma Inv.publishZeroLength {s : TopologyMapService} (h : s.Inv) (generation : UInt32)
    (available : Option DMABuffer) :
    ((s.publishZeroLength generation available).ReadersAgree ↔
        (s.started = true ∨ available ≠ none → ∀ i, i ≠ 0 → s.hostMap i = 0)) ∧
      ((s.publishZeroLength generation available).ReadersAgree →
        (s.publishZeroLength generation available).Inv) := by
  obtain ⟨hinv, hcases⟩ := h.startLocked available
  unfold TopologyMapService.publishZeroLength
  rcases hstart : s.startLocked available with ⟨t, _ | _⟩
  · obtain ⟨hidle, hnone⟩ := startLocked_false hstart
    rw [hstart] at hinv
    have hagree : t.ReadersAgree := t.readersAgree_iff.mpr hinv.mirror
    exact ⟨iff_of_true hagree fun hready => by simp [hidle, hnone] at hready, fun _ => hinv⟩
  · rw [hstart] at hinv hcases
    obtain ⟨hstarted, hmap, hready⟩ :
        t.started = true ∧ t.hostMap = s.hostMap ∧ (s.started = true ∨ available ≠ none) := by
      rcases hcases with ⟨-, hrest⟩ | ⟨hfalse, -⟩
      · exact hrest
      · cases hfalse
    dsimp only at hinv hmap
    constructor
    · refine Iff.trans (hinv.header_iff generation hstarted rfl rfl) ?_
      rw [hmap]
      exact ⟨fun hempty _ => hempty, fun hempty => hempty hready⟩
    · intro hagree
      refine Inv.of_agree hagree hstarted ?_
      change (storeDMA t.dma _).isSome = true
      rw [isSome_storeDMA, ← hinv.running, hstarted]

/-! ### Block reads -/

/-- With the sum taken modulo 2³², the check is right unless the range wraps back into the
region. -/
lemma resolveBlockRead_iff {s : TopologyMapService} (h : s.Inv) (hstarted : s.started = true)
    (offset length : UInt32) :
    ((s.resolveBlockRead offset length).isSome ↔
        offset.toNat % 4 = 0 ∧ length.toNat % 4 = 0 ∧ offset.toNat + length.toNat ≤ 1024) ↔
      (offset.toNat % 4 = 0 → length.toNat % 4 = 0 → 2 ^ 32 ≤ offset.toNat + length.toNat →
        2 ^ 32 + 1024 < offset.toNat + length.toNat) := by
  have hoffset := offset.toNat_lt
  have hlength := length.toNat_lt
  obtain ⟨buffer, hbuffer⟩ : ∃ buffer, s.dma = some buffer := by
    have hsome := h.running
    rw [hstarted] at hsome
    exact Option.isSome_iff_exists.mp hsome.symm
  have hresolved : (s.resolveBlockRead offset length).isSome ↔ offset.toNat % 4 = 0 ∧
      length.toNat % 4 = 0 ∧ (offset.toNat + length.toNat) % 2 ^ 32 ≤ 1024 := by
    rw [resolveBlockRead, hstarted, hbuffer, UInt32.toNat_add]
    dsimp only
    split_ifs with halign hend
    · simp only [Option.isSome_none, Bool.false_eq_true, false_iff]
      omega
    · simp only [Option.isSome_none, Bool.false_eq_true, false_iff]
      omega
    · simp only [Option.isSome_some, true_iff]
      omega
  rw [hresolved]
  constructor
  · intro hiff halign halign' hwrap
    by_contra hnot
    have hin := (hiff.mp ⟨halign, halign', by omega⟩).2.2
    omega
  · intro hnowrap
    constructor
    · rintro ⟨halign, halign', hend⟩
      refine ⟨halign, halign', ?_⟩
      by_contra hnot
      by_cases hwrap : 2 ^ 32 ≤ offset.toNat + length.toNat
      · have := hnowrap halign halign' hwrap
        omega
      · omega
    · rintro ⟨halign, halign', hend⟩
      exact ⟨halign, halign', by omega⟩

/-! ### Whole runs -/

lemma Inv.throughout {s : TopologyMapService} (h : s.Inv) (snapshot : TopologySnapshot)
    (words : MapImage) : Throughout Consistent words (s.storesOfRebuild snapshot) := by
  have hdescribed := (rebuilt_buildTopologyMap snapshot).described
  refine throughout_append.mpr ⟨?_, throughout_rebuildStores _ hdescribed⟩
  cases hstarted : s.started with
  | true => trivial
  | false => exact throughout_startStores words (h.idle hstarted)

lemma Inv.step {s : TopologyMapService} (h : s.Inv) {e : MapEvent} (hkept : s.Kept e) :
    (s.step e).Inv := by
  cases e with
  | start available => exact (h.startLocked available).1
  | stop => exact h.stop
  | rebuild snapshot available => exact (h.rebuild snapshot available).1
  | publishZeroLength generation available =>
    obtain ⟨hiff, hinv⟩ := h.publishZeroLength generation available
    exact hinv (hiff.mpr hkept)
  | invalidate => exact h.invalidateLocked
  | resolveBlockRead offset length => exact h

/-- A step is sound exactly if it is one of those that keep the mirror and the range check. -/
lemma Inv.sound_iff {s : TopologyMapService} (h : s.Inv) (e : MapEvent) : s.Sound e ↔ s.Kept e := by
  constructor
  · intro hsound
    cases e with
    | publishZeroLength generation available =>
      exact (h.publishZeroLength generation available).1.mp hsound.agree
    | resolveBlockRead offset length =>
      intro hstarted
      exact (resolveBlockRead_iff h hstarted offset length).mp
        (hsound.resolved offset length rfl hstarted)
    | start | stop | rebuild | invalidate => trivial
  · intro hkept
    refine ⟨(readersAgree_iff _).mpr (h.step hkept).mirror, ?_, ?_, ?_⟩
    · rintro snapshot available rfl hready
      have hmap := (h.rebuild snapshot available).2 hready
      change Rebuilt snapshot (s.rebuild snapshot available).hostMap
      rw [hmap]
      exact rebuilt_buildTopologyMap snapshot
    · rintro snapshot available buffer - -
      exact h.throughout snapshot buffer.words
    · rintro offset length rfl hstarted
      exact (resolveBlockRead_iff h hstarted offset length).mpr (hkept hstarted)

/-- The steps of a run are all sound exactly if no zero-length map replaces a map with a body and
no block read wraps past 2³² back into the region. -/
theorem run_sound_iff (events : List MapEvent) :
    Runs.Meets step Sound {} events ↔ Runs.Meets step Kept {} events :=
  Runs.meets_congr (fun _ e h => h.sound_iff e) (fun _ e h hsound => h.step ((h.sound_iff e).mp hsound))
    Inv.initial events

/-- Two nodes in generation 7. -/
def twoNodes : TopologySnapshot where
  generation := 7
  nodeCount := 2
  rawSelfIdQuadlets := [0x00070000, 0x807F8C56, 0x817F8C94]

/-- The service runs, publishes the map of two nodes and then a zero-length map. -/
def mapThenZeroLength : List MapEvent :=
  [.start (some ⟨0x4000, fun _ => 0xDEADBEEF⟩), .rebuild twoNodes none, .publishZeroLength 8 none]

/-- The host copy is cleared; behind the zero-length header the mirror still has the old map, so
the quadlet at offset 4 reads 0 on the CPU and 7 over the bus. A block read whose end wraps to
offset 4 of the region is resolved all the same. -/
theorem mapThenZeroLength_not_sound :
    let s := Runs.run step {} mapThenZeroLength
    s.readQuadlet 4 = some 0 ∧
      (∃ buffer, s.dma = some buffer ∧ remoteView buffer.words 1 = 7) ∧
      s.resolveBlockRead 0xFFFFFFFC 8 = some (0x4000 + 0xFFFFFFFC, 8) ∧
      ¬ Runs.Meets step Sound {} mapThenZeroLength := by
  intro s
  obtain ⟨t, ht⟩ : ∃ t, t = Runs.run step {} (mapThenZeroLength.take 2) := ⟨_, rfl⟩
  have hinv : t.Inv := by
    rw [ht]
    have hstart := (Inv.initial.startLocked (some ⟨0x4000, fun _ => 0xDEADBEEF⟩)).1
    exact (hstart.rebuild twoNodes none).1
  have hstarted : t.started = true := by rw [ht]; rfl
  have hmap : t.hostMap 1 = 7 := by rw [ht]; rfl
  obtain ⟨buffer, hbuffer, haddress⟩ : ∃ buffer, t.dma = some buffer ∧
      buffer.deviceAddress = 0x4000 := by
    rw [ht]
    exact ⟨_, rfl, rfl⟩
  have hs : s = { t with
      generation := 8, publishStatus := .zeroLengthDueToTopologyError
      hostMap := zeroLengthMap 8
      dma := storeDMA t.dma [(0, swapHostToBig (zeroLengthMap 8 0))] } := by
    have hpublish : s = t.publishZeroLength 8 none := by
      rw [ht]
      rfl
    have hstart : t.startLocked none = (t, true) := if_pos hstarted
    rw [hpublish, TopologyMapService.publishZeroLength, hstart]
  refine ⟨?_, ?_, ?_, fun h => ?_⟩
  · rw [hs]
    rfl
  · rw [hs, hbuffer]
    refine ⟨_, rfl, ?_⟩
    change swapHostToBig (Function.update buffer.words 0
      (swapHostToBig (zeroLengthMap 8 0)) 1) = 7
    rw [Function.update_of_ne (by decide), hinv.mirror buffer hbuffer, hmap,
      swapHostToBig_swapHostToBig]
  · rw [hs, hbuffer, ← haddress]
    simp [resolveBlockRead, hstarted, storeDMA]
  · have hkept := (hinv.sound_iff (.publishZeroLength 8 none)).mp (by rw [ht]; exact h.2.2.1)
    have hzero := hkept (Or.inl hstarted) 1 (by decide)
    rw [hmap] at hzero
    cases hzero

end TopologyMapService

end ASFireWire.CSR
