import ASFireWire.ROMReaderRuns

/-! Reads from a node whose memory does not change: whatever the reader answers with success are
quadlets of that memory, in order and without a gap. -/
namespace ASFireWire.ConfigROM

open Quadlets ASFireWire.Async Runs

/-- The quadlets of a memory from an offset of the ROM on. -/
def slice (mem : ℕ → ℕ) (offsetBytes count : ℕ) : List ℕ :=
  (List.range count).map fun i => mem (romAddress (offsetBytes + i * kQuadletBytes))

/-- A read that succeeds has some of the quadlets asked for, all of them where no part will do. -/
def ReadsSlice (mem : ℕ → ℕ) (offsetBytes count : ℕ) (policy : QuadletReadPolicy)
    (r : ReadResult) : Prop :=
  r.success = true → ∃ k, k ≤ count ∧ r.quadletsBE = slice mem offsetBytes k ∧
    (0 < count → 0 < k) ∧ (policy = .allOrNothing → k = count)

instance (mem : ℕ → ℕ) (offsetBytes count : ℕ) (policy : QuadletReadPolicy) (r : ReadResult) :
    Decidable (ReadsSlice mem offsetBytes count policy r) :=
  decidable_of_iff (r.success = true →
    r.quadletsBE.length ≤ count ∧ r.quadletsBE = slice mem offsetBytes r.quadletsBE.length ∧
      (0 < count → 0 < r.quadletsBE.length) ∧
      (policy = .allOrNothing → r.quadletsBE.length = count))
    (forall_congr' fun _ =>
      ⟨fun h => ⟨_, h⟩, fun ⟨k, hk, hread, h⟩ => by
        have hlength : r.quadletsBE.length = k := by rw [hread, slice, List.length_map, List.length_range]
        rw [hlength]
        exact ⟨hk, hread, h⟩⟩)

/-- The length field of a directory header, and of the block behind the first quadlet. -/
def lengthField (quadletBE : ℕ) : ℕ := swap32 quadletBE / 2 ^ 16 % 2 ^ 16

def busInfoField (quadletBE : ℕ) : ℕ := swap32 quadletBE / 2 ^ 24 % 2 ^ 8

/-- What an operation may answer with success. -/
def Genuine (mem : ℕ → ℕ) (op : RomOperation) (r : ReadResult) : Prop :=
  match op with
  | .quadlets offsetBytes count policy => ReadsSlice mem offsetBytes count policy r
  | .bib =>
    r.success = true →
      (swap32 (mem (romAddress 0)) = 0 ∨ busInfoField (mem (romAddress 0)) < 4) ∧
          r.quadletsBE = [mem (romAddress 0)] ∨
        4 ≤ busInfoField (mem (romAddress 0)) ∧
          r.quadletsBE = mem (romAddress 0) :: swap32 kBusNameQuadlet ::
            slice mem 8 (busInfoField (mem (romAddress 0)) - 1)
  | .rootDir offsetBytes count =>
    if count ≠ 0 then ReadsSlice mem offsetBytes count .allowPartialEOF r
    else
      r.success = true →
        r.quadletsBE = mem (romAddress offsetBytes) :: slice mem (offsetBytes + kQuadletBytes)
          (min (lengthField (mem (romAddress offsetBytes))) kHeaderFirstMaxEntries)

instance (mem : ℕ → ℕ) (r : ReadResult) : ∀ op, Decidable (Genuine mem op r)
  | .quadlets offsetBytes count policy =>
    inferInstanceAs (Decidable (ReadsSlice mem offsetBytes count policy r))
  | .bib =>
    inferInstanceAs (Decidable (r.success = true →
      (swap32 (mem (romAddress 0)) = 0 ∨ busInfoField (mem (romAddress 0)) < 4) ∧
          r.quadletsBE = [mem (romAddress 0)] ∨
        4 ≤ busInfoField (mem (romAddress 0)) ∧
          r.quadletsBE = mem (romAddress 0) :: swap32 kBusNameQuadlet ::
            slice mem 8 (busInfoField (mem (romAddress 0)) - 1)))
  | .rootDir offsetBytes count =>
    inferInstanceAs (Decidable (if count ≠ 0 then
        ReadsSlice mem offsetBytes count .allowPartialEOF r
      else
        r.success = true →
          r.quadletsBE = mem (romAddress offsetBytes) :: slice mem (offsetBytes + kQuadletBytes)
            (min (lengthField (mem (romAddress offsetBytes))) kHeaderFirstMaxEntries)))

/-- The reads an operation consists of. -/
def PartOf (mem : ℕ → ℕ) (offsetBytes count : ℕ) (policy : QuadletReadPolicy) :
    RomOperation → RomCallback → Prop
  | .quadlets o c p, .final .user => offsetBytes = o ∧ count = c ∧ policy = p
  | .bib, .bibHeader => offsetBytes = 0 ∧ count = 1 ∧ policy = .allOrNothing
  | .bib, .final (.bibTrailing q0 busInfoLength) =>
    q0 = mem (romAddress 0) ∧ busInfoLength = busInfoField q0 ∧ 4 ≤ busInfoLength ∧
      offsetBytes = 8 ∧ count = busInfoLength - 1 ∧ policy = .allOrNothing
  | .rootDir o c, .final .user =>
    c ≠ 0 ∧ offsetBytes = o ∧ count = c ∧ policy = .allowPartialEOF
  | .rootDir o c, .rootHeader o' =>
    c = 0 ∧ o' = o ∧ offsetBytes = o ∧ count = 1 ∧ policy = .allOrNothing
  | .rootDir o c, .final (.rootEntries o' entryCount hdrBe) =>
    c = 0 ∧ o' = o ∧ hdrBe = mem (romAddress o) ∧
      entryCount = min (lengthField hdrBe) kHeaderFirstMaxEntries ∧
      offsetBytes = o + kQuadletBytes ∧ count = entryCount ∧ policy = .allowPartialEOF
  | _, _ => False

/-- A read under way: what it has in its buffer was read in order. -/
structure UnderWay (mem : ℕ → ℕ) (op : RomOperation) (offsetBytes : ℕ)
    (ctx : QuadletReadContext) : Prop where
  part : PartOf mem offsetBytes ctx.quadletCount ctx.policy op ctx.userCallback
  base : ctx.baseAddress = romAddress offsetBytes
  buffer : ctx.buffer.length = ctx.quadletCount
  succeeded : ctx.successCount = ctx.quadletIndex
  index : ctx.quadletIndex ≤ ctx.quadletCount
  read : ctx.buffer.take ctx.quadletIndex = slice mem offsetBytes ctx.quadletIndex

variable {mem : ℕ → ℕ} {op : RomOperation} {offsetBytes count : ℕ}
  {policy : QuadletReadPolicy} {ctx : QuadletReadContext} {r : ReadResult}

lemma length_slice (mem : ℕ → ℕ) (offsetBytes count : ℕ) :
    (slice mem offsetBytes count).length = count := by
  rw [slice, List.length_map, List.length_range]

lemma slice_succ (mem : ℕ → ℕ) (offsetBytes count : ℕ) :
    slice mem offsetBytes (count + 1) =
      slice mem offsetBytes count ++ [mem (romAddress (offsetBytes + count * kQuadletBytes))] := by
  rw [slice, List.range_succ, List.map_append]
  rfl

lemma slice_cons (mem : ℕ → ℕ) (offsetBytes count : ℕ) :
    slice mem offsetBytes (count + 1) =
      mem (romAddress offsetBytes) :: slice mem (offsetBytes + kQuadletBytes) count := by
  rw [slice, List.range_succ_eq_map, List.map_cons, List.map_map, slice, Nat.zero_mul,
    Nat.add_zero]
  congr 1
  apply List.map_congr_left
  intro i _
  simp only [Function.comp_apply, Nat.succ_eq_add_one]
  congr 2
  ring

lemma slice_getD {i : ℕ} (hi : i < count) :
    (slice mem offsetBytes count).getD i 0 = mem (romAddress (offsetBytes + i * kQuadletBytes)) := by
  rw [slice, List.getD_eq_getElem?_getD, List.getElem?_map, List.getElem?_range hi]
  rfl

lemma slice_add (mem : ℕ → ℕ) (offsetBytes count more : ℕ) :
    slice mem offsetBytes (count + more) =
      slice mem offsetBytes count ++ slice mem (offsetBytes + count * kQuadletBytes) more := by
  rw [slice, List.range_add, List.map_append, List.map_map]
  congr 1
  apply List.map_congr_left
  intro i _
  simp only [Function.comp_apply]
  congr 2
  ring

lemma romAddress_add (offsetBytes bytes : ℕ) :
    (romAddress offsetBytes + bytes) % 2 ^ 32 = romAddress (offsetBytes + bytes) := by
  unfold romAddress
  rw [Nat.mod_add_mod, Nat.add_assoc]

/-- A finished read has all its quadlets. -/
lemma UnderWay.readsSlice_all (hctx : UnderWay mem op offsetBytes ctx)
    (hend : ctx.quadletCount ≤ ctx.quadletIndex) (status : AsyncStatus) :
    ReadsSlice mem offsetBytes ctx.quadletCount ctx.policy
      (quadletReadResult ctx true status ctx.quadletCount) := by
  intro _
  have hindex : ctx.quadletIndex = ctx.quadletCount := le_antisymm hctx.index hend
  have hread := hctx.read
  rw [hindex] at hread
  refine ⟨ctx.quadletCount, le_rfl, ?_, id, fun _ => rfl⟩
  unfold quadletReadResult
  dsimp only
  split_ifs with hpos
  · exact hread
  · rw [Nat.eq_zero_of_not_pos hpos]
    rfl

lemma readsSlice_failed (status : AsyncStatus) :
    ReadsSlice mem offsetBytes count policy (quadletReadResult ctx false status 0) := by
  intro h
  exact absurd h (by simp [quadletReadResult])

/-- A read cut short has the quadlets up to there. -/
lemma UnderWay.readsSlice_part (hctx : UnderWay mem op offsetBytes ctx)
    (hpolicy : ctx.policy = .allowPartialEOF) (hsome : ctx.successCount ≠ 0)
    (status : AsyncStatus) :
    ReadsSlice mem offsetBytes ctx.quadletCount ctx.policy
      (quadletReadResult ctx true status ctx.successCount) := by
  intro _
  have hindex := hctx.index
  have hread := hctx.read
  rw [← hctx.succeeded] at hindex hread
  refine ⟨ctx.successCount, hindex, ?_, fun _ => Nat.pos_of_ne_zero hsome, ?_⟩
  · unfold quadletReadResult
    dsimp only
    rw [if_pos (Nat.pos_of_ne_zero hsome), hread]
  · intro hall
    rw [hpolicy] at hall
    exact absurd hall (by decide)

/-- One more quadlet of the memory is in the buffer. -/
lemma UnderWay.read_next (hctx : UnderWay mem op offsetBytes ctx)
    (hmore : ctx.quadletIndex < ctx.quadletCount) {quadlet : ℕ}
    (hquadlet : quadlet = mem (romAddress (offsetBytes + ctx.quadletIndex * kQuadletBytes))) :
    UnderWay mem op offsetBytes
      { ctx with
        buffer := ctx.buffer.set ctx.quadletIndex quadlet
        successCount := ctx.successCount + 1
        quadletIndex := ctx.quadletIndex + 1 } where
  part := hctx.part
  base := hctx.base
  buffer := (List.length_set).trans hctx.buffer
  succeeded := congrArg (· + 1) hctx.succeeded
  index := hmore
  read := by
    have hbuffer : ctx.quadletIndex < (ctx.buffer.set ctx.quadletIndex quadlet).length := by
      rw [List.length_set, hctx.buffer]
      exact hmore
    rw [slice_succ, ← hctx.read, List.take_succ_eq_append_getElem hbuffer,
      List.take_set_of_le le_rfl, List.getElem_set_self, hquadlet]

namespace RomReadWorld

/-- All answers are genuine, and so is what the reads under way have read. -/
structure Honest (mem : ℕ → ℕ) (op : RomOperation) (w : RomReadWorld) : Prop where
  results : ∀ r ∈ w.results, Genuine mem op r
  outstanding : ∀ read ∈ w.outstanding, ∃ offsetBytes, UnderWay mem op offsetBytes read.ctx ∧
    read.ctx.quadletIndex < read.ctx.quadletCount ∧
    read.address = romAddress (offsetBytes + read.ctx.quadletIndex * kQuadletBytes)
  tasks : ∀ ctx ∈ w.tasks, ∃ offsetBytes, UnderWay mem op offsetBytes ctx

/-- A completion with a quadlet brings the one at the address of the read. -/
def FromMemory (mem : ℕ → ℕ) (w : RomReadWorld) : RomReadEvent → Prop
  | .complete i status payload _ =>
    ∀ read, w.outstanding[i]? = some read → status = .success → payload.length = kQuadletBytes →
      le32At payload 0 = mem read.address
  | _ => True

variable {w : RomReadWorld}

lemma Honest.answer (h : w.Honest mem op) (hr : Genuine mem op r) : (w.answer r).Honest mem op where
  results := by
    intro r' hr'
    rcases List.mem_append.mp hr' with hold | hnew
    · exact h.results r' hold
    · exact List.mem_singleton.mp hnew ▸ hr
  outstanding := h.outstanding
  tasks := h.tasks

lemma Honest.readQuad (h : w.Honest mem op) (hctx : UnderWay mem op offsetBytes ctx)
    (hmore : ctx.quadletIndex < ctx.quadletCount) (submit : SubmitOutcome) :
    (w.readQuad ctx submit).2.Honest mem op := by
  have hkept : ∀ (posted : Bool) (read : PendingRead),
      read ∈ w.outstanding ++
        [⟨ctx, (ctx.baseAddress + ctx.quadletIndex * kQuadletBytes) % 2 ^ 32, posted⟩] →
      ∃ offsetBytes, UnderWay mem op offsetBytes read.ctx ∧
        read.ctx.quadletIndex < read.ctx.quadletCount ∧
        read.address = romAddress (offsetBytes + read.ctx.quadletIndex * kQuadletBytes) := by
    intro posted read hread
    rcases List.mem_append.mp hread with hold | hnew
    · exact h.outstanding read hold
    · rw [List.mem_singleton] at hnew
      subst hnew
      refine ⟨offsetBytes, hctx, hmore, ?_⟩
      rw [hctx.base]
      exact romAddress_add _ _
  unfold RomReadWorld.readQuad
  dsimp only
  split_ifs
  · exact ⟨h.results, hkept true, h.tasks⟩
  · cases submit with
    | accepted => exact ⟨h.results, hkept false, h.tasks⟩
    | failed => exact h
    | failedRegistered => exact ⟨h.results, hkept false, h.tasks⟩

lemma Honest.scheduleQuadletReadStep (h : w.Honest mem op)
    (hctx : UnderWay mem op offsetBytes ctx) (submit : SubmitOutcome)
    {callback : RomReadWorld → ReadResult → RomReadWorld}
    (hcallback : ∀ w r, w.Honest mem op → ReadsSlice mem offsetBytes ctx.quadletCount ctx.policy r →
      (callback w r).Honest mem op) :
    (RomReadWorld.scheduleQuadletReadStep callback submit w ctx).Honest mem op := by
  unfold RomReadWorld.scheduleQuadletReadStep
  by_cases hend : ctx.quadletCount ≤ ctx.quadletIndex
  · rw [if_pos hend]
    exact hcallback _ _ h (hctx.readsSlice_all hend _)
  · rw [if_neg hend]
    dsimp only
    split_ifs
    · exact h.readQuad hctx (Nat.not_le.mp hend) submit
    · exact hcallback _ _ (h.readQuad hctx (Nat.not_le.mp hend) submit) (readsSlice_failed _)

lemma Honest.readQuadletsBEImpl (h : w.Honest mem op) (submit : SubmitOutcome)
    {userCallback : RomCallback} (target : ReadTarget)
    (hpart : PartOf mem offsetBytes count policy op userCallback)
    {callback : RomReadWorld → ReadResult → RomReadWorld}
    (hcallback : ∀ w r, w.Honest mem op → ReadsSlice mem offsetBytes count policy r →
      (callback w r).Honest mem op) :
    (RomReadWorld.readQuadletsBEImpl callback submit w userCallback target offsetBytes count
      policy).Honest mem op := by
  unfold RomReadWorld.readQuadletsBEImpl
  by_cases hzero : count = 0
  · rw [if_pos hzero]
    apply hcallback _ _ h
    intro _
    exact ⟨0, Nat.zero_le _, rfl, fun hpos => by omega, fun _ => hzero.symm⟩
  · rw [if_neg hzero]
    have hctx : UnderWay mem op offsetBytes
        { userCallback := userCallback
          target := target
          baseAddress := romAddress offsetBytes
          quadletCount := count
          policy := policy
          buffer := List.replicate count 0 } :=
      ⟨hpart, rfl, List.length_replicate, rfl, Nat.zero_le _, rfl⟩
    exact h.scheduleQuadletReadStep hctx submit hcallback

/-! ### The callbacks -/

lemma genuine_rootDir_count (hcount : count ≠ 0) :
    Genuine mem (.rootDir offsetBytes count) r =
      ReadsSlice mem offsetBytes count .allowPartialEOF r := if_pos hcount

lemma genuine_rootDir_header :
    Genuine mem (.rootDir offsetBytes 0) r = (r.success = true →
      r.quadletsBE = mem (romAddress offsetBytes) :: slice mem (offsetBytes + kQuadletBytes)
        (min (lengthField (mem (romAddress offsetBytes))) kHeaderFirstMaxEntries)) := by
  unfold Genuine
  dsimp only
  rw [if_neg (not_not.mpr rfl)]

/-- What the caller gets of the last read of an operation. -/
lemma genuine_finalResult {callback : FinalCallback}
    (hpart : PartOf mem offsetBytes count policy op (.final callback))
    (hr : ReadsSlice mem offsetBytes count policy r) (target : ReadTarget) :
    Genuine mem op (finalResult target r callback) := by
  cases callback with
  | user =>
    cases op with
    | quadlets o c p =>
      obtain ⟨rfl, rfl, rfl⟩ := hpart
      exact hr
    | bib => exact hpart.elim
    | rootDir o c =>
      obtain ⟨hcount, rfl, rfl, rfl⟩ := hpart
      rw [genuine_rootDir_count hcount]
      exact hr
  | bibTrailing q0 busInfoLength =>
    cases op with
    | quadlets o c p => exact hpart.elim
    | bib =>
      obtain ⟨rfl, hfield, hlong, rfl, rfl, -⟩ := hpart
      intro hsuccess
      unfold finalResult at hsuccess ⊢
      dsimp only at hsuccess ⊢
      split_ifs at hsuccess ⊢ with hshort
      · exact absurd hsuccess (by simp [failedResult])
      · simp only [not_or, not_not, Bool.not_eq_true] at hshort
        obtain ⟨k, -, hread, -⟩ := hr (by simpa using hshort.1)
        have hlength := congrArg List.length hread
        rw [length_slice, hshort.2] at hlength
        rw [← hlength] at hread
        refine Or.inr ⟨hfield ▸ hlong, ?_⟩
        dsimp only
        rw [hread, hfield]
    | rootDir o c => exact hpart.elim
  | rootEntries o' entryCount hdrBe =>
    cases op with
    | quadlets o c p => exact hpart.elim
    | bib => exact hpart.elim
    | rootDir o c =>
      obtain ⟨rfl, rfl, rfl, hentries, rfl, rfl, -⟩ := hpart
      rw [genuine_rootDir_header]
      intro hsuccess
      simp only [finalResult, Bool.and_eq_true, decide_eq_true_eq] at hsuccess
      obtain ⟨k, -, hread, -⟩ := hr hsuccess.1.1
      have hlength := congrArg List.length hread
      rw [length_slice, hsuccess.2] at hlength
      simp only [finalResult]
      rw [hread, ← hlength, hentries]

lemma Honest.callFinal (h : w.Honest mem op) {callback : FinalCallback}
    (hpart : PartOf mem offsetBytes count policy op (.final callback))
    (hr : ReadsSlice mem offsetBytes count policy r) (target : ReadTarget) :
    (RomReadWorld.callFinal target callback w r).Honest mem op :=
  h.answer (genuine_finalResult hpart hr target)

/-- A read of one quadlet has it. -/
lemma readsSlice_one (hr : ReadsSlice mem offsetBytes 1 .allOrNothing r)
    (hsuccess : r.success = true) : r.quadletsBE = [mem (romAddress offsetBytes)] := by
  obtain ⟨k, -, hread, -, hall⟩ := hr hsuccess
  rw [hread, hall rfl]
  rfl

lemma Honest.call (h : w.Honest mem op) {callback : RomCallback}
    (hpart : PartOf mem offsetBytes count policy op callback)
    (hr : ReadsSlice mem offsetBytes count policy r) (submit : SubmitOutcome)
    (target : ReadTarget) : (RomReadWorld.call submit target callback w r).Honest mem op := by
  cases callback with
  | final callback => exact h.callFinal hpart hr target
  | bibHeader =>
    cases op with
    | quadlets o c p => exact hpart.elim
    | bib =>
      obtain ⟨rfl, rfl, rfl⟩ := hpart
      unfold RomReadWorld.call
      dsimp only
      by_cases hfailed : (!r.success) = true ∨ r.quadletsBE.length ≠ 1
      · rw [if_pos hfailed]
        exact h.answer fun hsuccess => absurd hsuccess (by simp [failedResult])
      · rw [if_neg hfailed]
        rw [not_or] at hfailed
        have hone := readsSlice_one hr (by simpa using hfailed.1)
        simp only [hone, List.headD_cons]
        split_ifs with hshort
        · exact h.answer fun _ => Or.inl ⟨hshort, rfl⟩
        · rw [not_or, Nat.not_lt] at hshort
          have htrailing : PartOf mem 8 (busInfoField (mem (romAddress 0)) - 1) .allOrNothing .bib
              (.final (.bibTrailing (mem (romAddress 0)) (busInfoField (mem (romAddress 0))))) :=
            ⟨rfl, rfl, hshort.2, rfl, rfl, rfl⟩
          exact h.readQuadletsBEImpl submit target htrailing
            fun w r hw hr => hw.callFinal htrailing hr target
    | rootDir o c => exact hpart.elim
  | rootHeader o' =>
    cases op with
    | quadlets o c p => exact hpart.elim
    | bib => exact hpart.elim
    | rootDir o c =>
      obtain ⟨rfl, rfl, rfl, rfl, rfl⟩ := hpart
      unfold RomReadWorld.call
      dsimp only
      by_cases hfailed : (!r.success) = true ∨ r.quadletsBE.length ≠ 1
      · rw [if_pos hfailed]
        apply h.answer
        rw [genuine_rootDir_header]
        exact fun hsuccess => absurd hsuccess (by simp [failedResult])
      · rw [if_neg hfailed]
        rw [not_or] at hfailed
        have hone := readsSlice_one hr (by simpa using hfailed.1)
        simp only [hone, List.headD_cons]
        change (if min (lengthField (mem (romAddress offsetBytes))) kHeaderFirstMaxEntries = 0 then _
          else _ : RomReadWorld).Honest mem _
        split_ifs with hnone
        · apply h.answer
          rw [genuine_rootDir_header, hnone]
          exact fun _ => rfl
        · have hentries : PartOf mem (offsetBytes + kQuadletBytes)
              (min (lengthField (mem (romAddress offsetBytes))) kHeaderFirstMaxEntries) .allowPartialEOF
              (.rootDir offsetBytes 0) (.final (.rootEntries offsetBytes
                (min (lengthField (mem (romAddress offsetBytes))) kHeaderFirstMaxEntries)
                (mem (romAddress offsetBytes)))) := ⟨rfl, rfl, rfl, rfl, rfl, rfl, rfl⟩
          exact h.readQuadletsBEImpl submit target hentries
            fun w r hw hr => hw.callFinal hentries hr target

lemma Honest.scheduleStep (h : w.Honest mem op) (hctx : UnderWay mem op offsetBytes ctx)
    (submit : SubmitOutcome) : (w.scheduleStep submit ctx).Honest mem op :=
  h.scheduleQuadletReadStep hctx submit fun _ _ hw hr => hw.call hctx.part hr submit ctx.target

lemma Honest.handleQuadletReadComplete (h : w.Honest mem op)
    (hctx : UnderWay mem op offsetBytes ctx) (submit : SubmitOutcome) {status : AsyncStatus}
    {payload : List UInt8}
    (hquadlet : status = .success → payload.length = kQuadletBytes →
      le32At payload 0 = mem (romAddress (offsetBytes + ctx.quadletIndex * kQuadletBytes)))
    (hmore : ctx.quadletIndex < ctx.quadletCount) :
    (w.handleQuadletReadComplete submit ctx status payload).Honest mem op := by
  unfold RomReadWorld.handleQuadletReadComplete
  dsimp only
  split_ifs with heof hfailed
  · have hpart : ctx.policy = .allowPartialEOF ∧ ctx.successCount ≠ 0 := by
      unfold canTreatAsEOF at heof
      split_ifs at heof with hpolicy hzero
      exact ⟨not_not.mp hpolicy, hzero⟩
    exact h.call hctx.part (hctx.readsSlice_part hpart.1 hpart.2 status) submit ctx.target
  · exact h.call hctx.part (readsSlice_failed status) submit ctx.target
  · rw [not_or, not_not, not_not] at hfailed
    have hnext := hctx.read_next hmore (hquadlet hfailed.1 hfailed.2)
    unfold scheduleNextQuadlet
    split_ifs
    · refine ⟨h.results, h.outstanding, ?_⟩
      intro other hmem
      rcases List.mem_append.mp hmem with hold | hnew
      · exact h.tasks other hold
      · exact List.mem_singleton.mp hnew ▸ ⟨offsetBytes, hnext⟩
    · exact h.scheduleStep hnext submit

/-- The step lemma. -/
lemma Honest.step (h : w.Honest mem op) {e : RomReadEvent} (he : w.FromMemory mem e) :
    (w.step e).Honest mem op := by
  cases e with
  | complete i status payload submit =>
    unfold RomReadWorld.step
    dsimp only
    cases hread : w.outstanding[i]? with
    | none => exact h
    | some read =>
      obtain ⟨offsetBytes, hctx, hmore, haddress⟩ := h.outstanding read (List.mem_of_getElem? hread)
      have herased : ({ w with outstanding := w.outstanding.eraseIdx i } : RomReadWorld).Honest
          mem op :=
        ⟨h.results, fun other hmem => h.outstanding other (List.mem_of_mem_eraseIdx hmem), h.tasks⟩
      dsimp only
      split_ifs
      · apply herased.handleQuadletReadComplete hctx submit _ hmore
        intro hstale
        exact absurd hstale (by decide)
      · apply herased.handleQuadletReadComplete hctx submit _ hmore
        intro hsuccess hpayload
        rw [← haddress]
        exact he read hread hsuccess hpayload
  | runTask i submit =>
    unfold RomReadWorld.step
    dsimp only
    cases htask : w.tasks[i]? with
    | none => exact h
    | some ctx =>
      obtain ⟨offsetBytes, hctx⟩ := h.tasks ctx (List.mem_of_getElem? htask)
      have herased : ({ w with tasks := w.tasks.eraseIdx i } : RomReadWorld).Honest mem op :=
        ⟨h.results, h.outstanding, fun other hmem => h.tasks other (List.mem_of_mem_eraseIdx hmem)⟩
      exact herased.scheduleStep hctx submit
  | generationChanged generation16 => exact ⟨h.results, h.outstanding, h.tasks⟩

lemma honest_start (mem : ℕ → ℕ) (generation16 : ℕ) (usesQueue : Bool) (target : ReadTarget)
    (submit : SubmitOutcome) (op : RomOperation) :
    (start generation16 usesQueue target submit op).Honest mem op := by
  have hempty : ({ generation16 := generation16, usesQueue := usesQueue } : RomReadWorld).Honest
      mem op :=
    ⟨fun r hr => absurd hr List.not_mem_nil, fun read hread => absurd hread List.not_mem_nil,
      fun ctx hctx => absurd hctx List.not_mem_nil⟩
  unfold start
  cases op with
  | quadlets offsetBytes count policy =>
    have hpart : PartOf mem offsetBytes count policy (.quadlets offsetBytes count policy)
        (.final .user) := ⟨rfl, rfl, rfl⟩
    exact hempty.readQuadletsBEImpl submit target hpart
      fun w r hw hr => hw.callFinal hpart hr target
  | bib =>
    have hpart : PartOf mem 0 1 .allOrNothing .bib .bibHeader := ⟨rfl, rfl, rfl⟩
    exact hempty.readQuadletsBEImpl submit target hpart
      fun w r hw hr => hw.call hpart hr submit target
  | rootDir offsetBytes count =>
    unfold RomReadWorld.begin
    dsimp only
    split_ifs with hcount
    · have hpart : PartOf mem offsetBytes count .allowPartialEOF (.rootDir offsetBytes count)
          (.final .user) := ⟨hcount, rfl, rfl, rfl⟩
      exact hempty.readQuadletsBEImpl submit target hpart
        fun w r hw hr => hw.callFinal hpart hr target
    · rw [not_not] at hcount
      subst hcount
      have hpart : PartOf mem offsetBytes 1 .allOrNothing (.rootDir offsetBytes 0)
          (.rootHeader offsetBytes) := ⟨rfl, rfl, rfl, rfl, rfl⟩
      exact hempty.readQuadletsBEImpl submit target hpart
        fun w r hw hr => hw.call hpart hr submit target

/-- Whatever order the completions come in, with failures and short payloads anywhere, on a memory
that does not change every answer of an operation is genuine. -/
theorem genuine_results (generation16 : ℕ) (usesQueue : Bool) (target : ReadTarget)
    (submit : SubmitOutcome) (op : RomOperation) (events : List RomReadEvent)
    (hmemory : Meets step (FromMemory mem) (start generation16 usesQueue target submit op) events) :
    ∀ r ∈ (run step (start generation16 usesQueue target submit op) events).results,
      Genuine mem op r := by
  have hlast := invariant_run_of_meets (I := Honest mem op) (fun w e hw he => hw.step he)
    (honest_start mem generation16 usesQueue target submit op) hmemory
  exact hlast.results

end RomReadWorld

end ASFireWire.ConfigROM
