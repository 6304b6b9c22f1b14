import ASFireWire.ConfigROMParser

/-! The image the builder makes, as a list of quadlets, and what the driver's own parser reads
from it. -/
namespace ASFireWire.ConfigROM

open Quadlets

/-! ### The layout -/

/-- Quadlets 1 to 4 of the bus information block. -/
def bibBody (busOptions : UInt32) (guid : UInt64) (gen4 : ℕ) : List ℕ :=
  [kBusNameQuadlet, setGeneration busOptions.toNat gen4, guid.toNat / 2 ^ 32, guid.toNat % 2 ^ 32]

def bibQuadlets (busOptions : UInt32) (guid : UInt64) (gen4 : ℕ) : List ℕ :=
  (4 * 2 ^ 24 + 4 * 2 ^ 16 + (computeCRC16 (bibBody busOptions guid gen4)).toNat) ::
    bibBody busOptions guid gen4

/-- What one call appends when the image is `offset` quadlets long. -/
def callQuadlets (offset : ℕ) : RomCall → List ℕ
  | .immediate key value24 =>
    [makeDirectoryEntry key.toNat EntryType.kImmediate value24.toNat]
  | .text key text =>
    let payload := ConfigROMBuilder.textQuadlets text
    makeDirectoryEntry key.toNat EntryType.kLeaf (offset + 1) ::
      lengthAndCRC payload.length (computeCRC16 payload) :: payload

def directoryQuadlets (offset : ℕ) : List RomCall → List ℕ
  | [] => []
  | call :: calls =>
    callQuadlets offset call ++
      directoryQuadlets (offset + (callQuadlets offset call).length) calls

lemma length_callQuadlets_pos (offset : ℕ) (call : RomCall) :
    0 < (callQuadlets offset call).length := by
  cases call <;> simp [callQuadlets]

lemma one_lt_length_callQuadlets {offset : ℕ} {call : RomCall} (h : call.isText = true) :
    1 < (callQuadlets offset call).length := by
  cases call with
  | immediate key value24 => exact absurd h (by simp [RomCall.isText])
  | text key text => simp [callQuadlets]

lemma length_le_directoryQuadlets (offset : ℕ) (calls : List RomCall) :
    calls.length ≤ (directoryQuadlets offset calls).length := by
  induction calls generalizing offset with
  | nil => simp
  | cons call calls ih =>
    have hcall := length_callQuadlets_pos offset call
    have hrest := ih (offset + (callQuadlets offset call).length)
    simp only [directoryQuadlets, List.length_cons, List.length_append]
    omega

/-- A text leaf stands among the entries, so the directory outgrows its entries. -/
lemma length_lt_directoryQuadlets {offset : ℕ} {calls : List RomCall}
    (h : ∃ call ∈ calls, call.isText = true) :
    calls.length < (directoryQuadlets offset calls).length := by
  induction calls generalizing offset with
  | nil =>
    obtain ⟨call, hmem, -⟩ := h
    exact absurd hmem (by simp)
  | cons call calls ih =>
    obtain ⟨text, hmem, htext⟩ := h
    simp only [directoryQuadlets, List.length_cons, List.length_append]
    rcases List.mem_cons.mp hmem with rfl | hmem
    · have hcall : 1 < (callQuadlets offset text).length := one_lt_length_callQuadlets htext
      have hrest := length_le_directoryQuadlets (offset + (callQuadlets offset text).length) calls
      omega
    · have hcall := length_callQuadlets_pos offset call
      have hrest : calls.length <
          (directoryQuadlets (offset + (callQuadlets offset call).length) calls).length :=
        ih ⟨text, hmem, htext⟩
      omega

/-- The quadlet of an immediate entry. -/
def immediateQuadlet : RomCall → ℕ
  | .immediate key value24 => makeDirectoryEntry key.toNat EntryType.kImmediate value24.toNat
  | .text _ _ => 0

/-- Without text leaves the directory is one quadlet a call. -/
lemma directoryQuadlets_immediate {calls : List RomCall}
    (h : ∀ call ∈ calls, call.isText = false) (offset : ℕ) :
    directoryQuadlets offset calls = calls.map immediateQuadlet := by
  induction calls generalizing offset with
  | nil => rfl
  | cons call calls ih =>
    have hcall : callQuadlets offset call = [immediateQuadlet call] := by
      cases call with
      | immediate key value24 => rfl
      | text key text => exact absurd (h _ List.mem_cons_self) (by simp [RomCall.isText])
    rw [directoryQuadlets, hcall, ih fun c hc => h c (List.mem_cons_of_mem _ hc)]
    rfl

/-! ### The builder makes the layout -/

namespace ConfigROMBuilder

lemma append_words {b : ConfigROMBuilder} (h : b.words.length < kMaxQuadlets) (value : ℕ) :
    b.append value = { b with words := b.words ++ [value] } := if_pos h

lemma foldl_append_words {b : ConfigROMBuilder} {values : List ℕ}
    (h : b.words.length + values.length ≤ kMaxQuadlets) :
    values.foldl append b = { b with words := b.words ++ values } := by
  induction values generalizing b with
  | nil => simp
  | cons value values ih =>
    simp only [List.length_cons] at h
    rw [List.foldl_cons, append_words (by omega)]
    have hrest := ih (b := { b with words := b.words ++ [value] })
      (by simp only [List.length_append, List.length_singleton]; omega)
    rw [hrest]
    simp

lemma length_textQuadlets (text : List UInt8) :
    (textQuadlets text).length = (text.length + 3) / 4 := by simp [textQuadlets]

lemma set_append_cons (front rest : List ℕ) (v w : ℕ) :
    (front ++ v :: rest).set front.length w = front ++ w :: rest := by
  induction front with
  | nil => rfl
  | cons x front ih => simp

lemma computeCRC_tail {b : ConfigROMBuilder} {front rest : List ℕ} {v : ℕ}
    (h : b.words = front ++ v :: rest) {n : ℕ} (hn : n = rest.length) :
    b.computeCRC (front.length + 1) n = computeCRC16 rest := by
  have hdrop : (front ++ v :: rest).drop (front.length + 1) = rest := by
    rw [← List.drop_drop, List.drop_left]
    rfl
  unfold computeCRC
  rw [h, hdrop, hn, List.take_length]

/-- A leaf that fits is its header and the text. -/
lemma writeTextLeaf_fits {b : ConfigROMBuilder} {text : List UInt8}
    (h : (b.writeTextLeaf text).1 ≠ 0) :
    b.words.length + 1 + (textQuadlets text).length ≤ kMaxQuadlets ∧
      (b.writeTextLeaf text).1 = b.words.length ∧
      (b.writeTextLeaf text).2 =
        { b with
          words := b.words ++ lengthAndCRC (textQuadlets text).length
            (computeCRC16 (textQuadlets text)) :: textQuadlets text } := by
  have hlen := length_textQuadlets text
  unfold writeTextLeaf at h ⊢
  dsimp only at h ⊢
  split_ifs at h ⊢ with hfull
  · exact absurd rfl h
  · have hwords : (textQuadlets text).foldl append (b.append 0) =
        { b with words := b.words ++ 0 :: textQuadlets text } := by
      rw [append_words (by omega), foldl_append_words]
      · simp
      · simp only [List.length_append, List.length_singleton]
        omega
    refine ⟨by omega, rfl, ?_⟩
    rw [hwords, computeCRC_tail rfl hlen.symm]
    simp only [store, set_append_cons, hlen]

/-- The state in which the calls are made: the root directory has been opened. -/
structure Opened (b : ConfigROMBuilder) : Prop where
  begun : b.begun = true
  unfinished : b.finalized = false
  root : b.rootDirHeaderIndex.isSome = true

lemma ensureRootDirectory_opened {b : ConfigROMBuilder} (h : b.Opened) :
    b.ensureRootDirectory = b := by
  obtain ⟨index, hindex⟩ := Option.isSome_iff_exists.mp h.root
  unfold ensureRootDirectory
  rw [hindex]

lemma addImmediateEntry_opened {b : ConfigROMBuilder} (h : b.Opened) (key : UInt8)
    (value24 : UInt32) :
    b.addImmediateEntry key value24 =
      if kMaxQuadlets ≤ b.words.length then (false, b)
      else (true, b.append (makeDirectoryEntry key.toNat EntryType.kImmediate value24.toNat)) := by
  unfold addImmediateEntry
  rw [if_neg (by simp [h.begun, h.unfinished])]
  dsimp only
  rw [ensureRootDirectory_opened h]

lemma addTextLeaf_opened {b : ConfigROMBuilder} (h : b.Opened) (key : UInt8)
    (text : List UInt8) :
    b.addTextLeaf key text =
      if kMaxQuadlets ≤ b.words.length then (0, b)
      else
        let r := (b.append 0).writeTextLeaf text
        if r.1 = 0 then (0, r.2)
        else
          (r.1, r.2.store b.words.length
            (makeDirectoryEntry key.toNat EntryType.kLeaf r.1)) := by
  unfold addTextLeaf
  rw [if_neg (by simp [h.begun, h.unfinished])]
  dsimp only
  rw [ensureRootDirectory_opened h]

/-- A call that reports success appends its quadlets and changes nothing else. -/
lemma addCall_success {b : ConfigROMBuilder} (h : b.Opened) {call : RomCall}
    (hok : (b.addCall call).1 = true) :
    (b.addCall call).2 = { b with words := b.words ++ callQuadlets b.words.length call } ∧
      b.words.length + (callQuadlets b.words.length call).length ≤ kMaxQuadlets := by
  cases call with
  | immediate key value24 =>
    simp only [addCall, addImmediateEntry_opened h] at hok ⊢
    split_ifs at hok ⊢ with hfull
    rw [append_words (by omega)]
    exact ⟨rfl, by simp only [callQuadlets, List.length_singleton]; omega⟩
  | text key text =>
    simp only [addCall, addTextLeaf_opened h] at hok ⊢
    split_ifs at hok ⊢ with hfull hleaf
    · exact absurd hok (by simp)
    · exact absurd hok (by simp)
    · obtain ⟨hfits, hoffset, hwritten⟩ := writeTextLeaf_fits hleaf
      have happend := append_words (b := b) (by omega) 0
      rw [happend] at hfits hoffset hwritten ⊢
      simp only [List.length_append, List.length_singleton] at hfits hoffset
      rw [hwritten, hoffset]
      constructor
      · simp only [store, List.append_assoc, List.singleton_append, set_append_cons, callQuadlets]
      · simp only [callQuadlets, List.length_cons]
        omega

lemma opened_words {b : ConfigROMBuilder} (h : b.Opened) (words : List ℕ) :
    ({ b with words := words } : ConfigROMBuilder).Opened := ⟨h.begun, h.unfinished, h.root⟩

/-- A sequence of successful calls appends the directory. -/
lemma addCalls_success {b b' : ConfigROMBuilder} (h : b.Opened) {calls : List RomCall}
    (hok : b.addCalls calls = some b') :
    b' = { b with words := b.words ++ directoryQuadlets b.words.length calls } ∧
      (calls ≠ [] → b'.words.length ≤ kMaxQuadlets) := by
  induction calls generalizing b with
  | nil =>
    obtain rfl := Option.some.inj hok
    simp [directoryQuadlets]
  | cons call calls ih =>
    unfold addCalls at hok
    dsimp only at hok
    split_ifs at hok with hcall
    obtain ⟨hwords, hfits⟩ := addCall_success h hcall
    rw [hwords] at hok
    obtain ⟨heq, hrest⟩ := ih (opened_words h _) hok
    constructor
    · rw [heq]
      simp [directoryQuadlets]
    · intro _
      by_cases hnil : calls = []
      · subst hnil
        rw [heq]
        simpa [directoryQuadlets] using hfits
      · exact hrest hnil

/-- The first call opens the root directory. -/
lemma addCall_ensureRootDirectory {b : ConfigROMBuilder} (hbegun : b.begun = true)
    (hfinal : b.finalized = false) (hroom : b.words.length < kMaxQuadlets) (call : RomCall) :
    b.ensureRootDirectory.Opened ∧ b.addCall call = b.ensureRootDirectory.addCall call := by
  have hopened : b.ensureRootDirectory.Opened := by
    unfold ensureRootDirectory
    split
    next index hindex => exact ⟨hbegun, hfinal, by rw [hindex]; rfl⟩
    next =>
      unfold append
      rw [if_pos hroom]
      exact ⟨hbegun, hfinal, rfl⟩
  apply And.intro hopened
  have hguard : ¬(!b.begun || b.finalized) = true := by simp [hbegun, hfinal]
  have hguard' : ¬(!b.ensureRootDirectory.begun || b.ensureRootDirectory.finalized) = true := by
    simp [hopened.begun, hopened.unfinished]
  cases call with
  | immediate key value24 =>
    unfold addCall
    dsimp only
    unfold addImmediateEntry
    rw [if_neg hguard, if_neg hguard', ensureRootDirectory_opened hopened]
  | text key text =>
    unfold addCall
    dsimp only
    unfold addTextLeaf
    rw [if_neg hguard, if_neg hguard', ensureRootDirectory_opened hopened]

/-! ### The whole image -/

/-- The builder after `Begin`. -/
lemma beginImage_eq (busOptions : UInt32) (guid : UInt64) :
    beginImage busOptions guid =
      { words := bibQuadlets busOptions guid 0
        lastBusOptions := busOptions.toNat
        begun := true } := by
  simp [beginImage, append, kMaxQuadlets, finaliseBIB, store, computeCRC, bibQuadlets, bibBody]

/-- Updating the generation rewrites the bus information block alone. -/
lemma updateGeneration_words {b : ConfigROMBuilder} {busOptions : UInt32} {guid : UInt64}
    {gen4 : ℕ} {rest : List ℕ} (hwords : b.words = bibQuadlets busOptions guid gen4 ++ rest)
    (hoptions : b.lastBusOptions = busOptions.toNat) (generation : UInt8) :
    (b.updateGeneration generation).words =
        bibQuadlets busOptions guid generation.toNat ++ rest ∧
      (b.updateGeneration generation).lastBusOptions = busOptions.toNat := by
  have hlen : b.words.length = 5 + rest.length := by simp [hwords, bibQuadlets, bibBody]; omega
  unfold updateGeneration
  rw [if_neg (by omega)]
  simp only [store, finaliseBIB, List.length_set, if_neg (by omega : ¬b.words.length < 5)]
  constructor
  · simp [hwords, hoptions, bibQuadlets, bibBody, computeCRC]
  · exact hoptions

lemma updateGenerations_words {b : ConfigROMBuilder} {busOptions : UInt32} {guid : UInt64}
    {gen4 : ℕ} {rest : List ℕ} (hwords : b.words = bibQuadlets busOptions guid gen4 ++ rest)
    (hoptions : b.lastBusOptions = busOptions.toNat) (generations : List UInt8) :
    ∃ gen, (generations.foldl updateGeneration b).words =
      bibQuadlets busOptions guid gen ++ rest := by
  induction generations generalizing b gen4 with
  | nil => exact ⟨gen4, hwords⟩
  | cons generation generations ih =>
    obtain ⟨hw, ho⟩ := updateGeneration_words hwords hoptions generation
    exact ih hw ho

/-- The root directory of an image: its header, then the quadlets of the calls. -/
def rootDirectory (calls : List RomCall) : List ℕ :=
  let body := directoryQuadlets 6 calls
  lengthAndCRC body.length (computeCRC16 body) :: body

lemma length_bibQuadlets (busOptions : UInt32) (guid : UInt64) (gen4 : ℕ) :
    (bibQuadlets busOptions guid gen4).length = 5 := rfl

/-- The builder after `Begin`, a first call that opened the root directory, and all the calls. -/
lemma addCalls_beginImage {busOptions : UInt32} {guid : UInt64} {calls : List RomCall}
    {b : ConfigROMBuilder} (hcalls : calls ≠ [])
    (h : (beginImage busOptions guid).addCalls calls = some b) :
    b = { words := bibQuadlets busOptions guid 0 ++ 0 :: directoryQuadlets 6 calls
          rootDirHeaderIndex := some 5
          lastBusOptions := busOptions.toNat
          begun := true } ∧
      6 + (directoryQuadlets 6 calls).length ≤ kMaxQuadlets := by
  obtain ⟨call, calls, rfl⟩ := List.exists_cons_of_ne_nil hcalls
  have hfirst := addCall_ensureRootDirectory (b := beginImage busOptions guid)
    (by rw [beginImage_eq]) (by rw [beginImage_eq])
    (by rw [beginImage_eq]; exact (by decide : 5 < 256)) call
  have hensure : (beginImage busOptions guid).ensureRootDirectory =
      { words := bibQuadlets busOptions guid 0 ++ [0]
        rootDirHeaderIndex := some 5
        lastBusOptions := busOptions.toNat
        begun := true } := by
    rw [beginImage_eq]
    rfl
  have hall : (beginImage busOptions guid).ensureRootDirectory.addCalls (call :: calls) =
      some b := by
    unfold addCalls at h ⊢
    rw [hfirst.2] at h
    exact h
  obtain ⟨heq, hlen⟩ := addCalls_success hfirst.1 hall
  have hbound := hlen (by simp)
  rw [hensure] at heq
  simp only [List.length_append, length_bibQuadlets, List.length_singleton, List.append_assoc,
    List.singleton_append, Nat.reduceAdd] at heq
  rw [heq] at hbound
  simp only [List.length_append, length_bibQuadlets, List.length_cons] at hbound
  exact ⟨heq, by omega⟩

lemma finalize_root {b : ConfigROMBuilder} {front body : List ℕ} (hbegun : b.begun = true)
    (hfinal : b.finalized = false) (hroot : b.rootDirHeaderIndex = some front.length)
    (hwords : b.words = front ++ 0 :: body) :
    b.finalize.words = front ++ lengthAndCRC body.length (computeCRC16 body) :: body ∧
      b.finalize.lastBusOptions = b.lastBusOptions := by
  have hlen : b.words.length = front.length + 1 + body.length := by simp [hwords]; omega
  have hentries : b.words.length - front.length - 1 = body.length := by omega
  unfold finalize
  rw [if_neg (by simp [hbegun, hfinal])]
  unfold finaliseRootDirectory
  rw [hroot]
  dsimp only
  rw [if_neg (by omega), hentries, computeCRC_tail hwords rfl]
  exact ⟨by simp only [store, hwords, set_append_cons], rfl⟩

/-- The image of a sequence of successful calls, with at least one entry. -/
theorem image_layout {busOptions : UInt32} {guid : UInt64} {calls : List RomCall}
    {generations : List UInt8} {img : List ℕ} (hcalls : calls ≠ [])
    (h : image busOptions guid calls generations = some img) :
    ∃ gen4, img = (bibQuadlets busOptions guid gen4 ++ rootDirectory calls).map swap32 ∧
      6 + (directoryQuadlets 6 calls).length ≤ kMaxQuadlets := by
  unfold image at h
  obtain ⟨b, hb, rfl⟩ := Option.map_eq_some_iff.mp h
  obtain ⟨heq, hlen⟩ := addCalls_beginImage hcalls hb
  have hwords : b.words = bibQuadlets busOptions guid 0 ++ 0 :: directoryQuadlets 6 calls := by
    rw [heq]
  have hroot := finalize_root (by rw [heq]) (by rw [heq]) (by rw [heq]; rfl) hwords
  obtain ⟨gen4, hgen⟩ := updateGenerations_words hroot.1 (by rw [hroot.2, heq]) generations
  exact ⟨gen4, by rw [imageBE, hgen]; rfl, hlen⟩

/-- Without entries there is no root directory. -/
theorem image_empty {busOptions : UInt32} {guid : UInt64} {generations : List UInt8}
    {img : List ℕ} (h : image busOptions guid [] generations = some img) :
    ∃ gen4, img = (bibQuadlets busOptions guid gen4).map swap32 := by
  unfold image at h
  obtain ⟨b, hb, rfl⟩ := Option.map_eq_some_iff.mp h
  obtain rfl := Option.some.inj hb
  have hwords : (beginImage busOptions guid).finalize.words =
      bibQuadlets busOptions guid 0 ++ [] := by
    rw [beginImage_eq, List.append_nil]
    rfl
  obtain ⟨gen4, hgen⟩ := updateGenerations_words hwords (by rw [beginImage_eq]; rfl) generations
  exact ⟨gen4, by rw [imageBE, hgen, List.append_nil]⟩

end ConfigROMBuilder

/-! ### What the parser reads -/

lemma readBEQuadlet_map_swap32 (words : List ℕ) (i : ℕ) :
    readBEQuadlet (words.map swap32) i = words.getD i 0 % 2 ^ 32 := by
  have hzero : swap32 0 = 0 := by decide
  have hread : (words.map swap32).getD i 0 = swap32 (words.getD i 0) := by
    have hmap := List.getD_map (d := 0) (l := words) (n := i) swap32
    rwa [hzero] at hmap
  unfold readBEQuadlet
  rw [hread, swap32_swap32]

lemma setGeneration_lt (busOptions : UInt32) (gen4 : ℕ) :
    setGeneration busOptions.toNat gen4 < 2 ^ 32 := by
  have h := busOptions.toNat_lt
  unfold setGeneration
  omega

/-- The quadlets of the bus information block as the parser reads them. -/
lemma readBEQuadlet_bib (busOptions : UInt32) (guid : UInt64) (gen4 : ℕ) (rest : List ℕ) :
    let img := (bibQuadlets busOptions guid gen4 ++ rest).map swap32
    readBEQuadlet img 0 =
        4 * 2 ^ 24 + 4 * 2 ^ 16 + (computeCRC16 (bibBody busOptions guid gen4)).toNat ∧
      readBEQuadlet img 1 = kBusNameQuadlet ∧
      readBEQuadlet img 2 = setGeneration busOptions.toNat gen4 ∧
      readBEQuadlet img 3 = guid.toNat / 2 ^ 32 ∧
      readBEQuadlet img 4 = guid.toNat % 2 ^ 32 := by
  have hcrc := (computeCRC16 (bibBody busOptions guid gen4)).toNat_lt
  have hguid := guid.toNat_lt
  have hgen := setGeneration_lt busOptions gen4
  dsimp only
  simp only [readBEQuadlet_map_swap32]
  refine ⟨Nat.mod_eq_of_lt ?_, rfl, Nat.mod_eq_of_lt hgen, Nat.mod_eq_of_lt ?_,
    Nat.mod_eq_of_lt ?_⟩
  · change 4 * 2 ^ 24 + 4 * 2 ^ 16 + (computeCRC16 (bibBody busOptions guid gen4)).toNat < 2 ^ 32
    omega
  · change guid.toNat / 2 ^ 32 < 2 ^ 32
    omega
  · change guid.toNat % 2 ^ 32 < 2 ^ 32
    omega

/-- The bus information block parses with a matching CRC and the GUID it was built from. -/
lemma parseBIB_bibQuadlets (busOptions : UInt32) (guid : UInt64) (gen4 : ℕ) (rest : List ℕ) :
    ∃ r, parseBIB ((bibQuadlets busOptions guid gen4 ++ rest).map swap32) = .ok r ∧
      r.crcStatus = .ok ∧ r.bib.guid = guid.toNat := by
  obtain ⟨h0, h1, h2, h3, h4⟩ := readBEQuadlet_bib busOptions guid gen4 rest
  have hcrc := (computeCRC16 (bibBody busOptions guid gen4)).toNat_lt
  have hlen : ((bibQuadlets busOptions guid gen4 ++ rest).map swap32).length =
      5 + rest.length := by
    rw [List.length_map, List.length_append, ConfigROMBuilder.length_bibQuadlets]
  generalize (bibQuadlets busOptions guid gen4 ++ rest).map swap32 = img at *
  have hinput : ((List.range 4).map fun i => readBEQuadlet img (i + 1)) =
      bibBody busOptions guid gen4 := by
    simp only [List.range_succ, List.range_zero, List.nil_append, List.map_cons,
      List.map_nil, List.cons_append, Nat.zero_add, Nat.reduceAdd, h1, h2, h3, h4]
    rfl
  generalize hc : (computeCRC16 (bibBody busOptions guid gen4)).toNat = c at *
  have hinfo : readBEQuadlet img 0 / 2 ^ 24 % 2 ^ 8 = 4 := by omega
  have hcrclen : readBEQuadlet img 0 / 2 ^ 16 % 2 ^ 8 = 4 := by omega
  have hcrcval : readBEQuadlet img 0 % 2 ^ 16 = c := by omega
  have hne : img ≠ [] := by
    intro hnil
    rw [hnil, List.length_nil] at hlen
    omega
  unfold parseBIB
  rw [if_neg hne]
  dsimp only
  simp only [hinfo, hcrclen, hcrcval, h1, h2, h3, h4]
  rw [if_neg (by decide), if_neg (by decide), if_neg (by decide), if_neg (by omega),
    if_neg (by simp)]
  refine ⟨_, rfl, ?_, ?_⟩
  · unfold checkBIBCRC generalBIB
    dsimp only
    rw [if_neg (by decide), if_neg (by omega), hinput]
    exact if_pos hc
  · unfold checkBIBCRC generalBIB
    dsimp only
    rw [if_neg (by decide), if_neg (by omega)]
    dsimp only
    omega

/-- The root directory parses into as many entries as it has quadlets, up to the cap. -/
lemma parseDirectory_rootDirectory {calls : List RomCall}
    (hlen : 6 + (directoryQuadlets 6 calls).length ≤ kMaxQuadlets) (entryCap : ℕ) :
    parseDirectory ((ConfigROMBuilder.rootDirectory calls).map swap32) entryCap =
      .ok ((List.range (min (directoryQuadlets 6 calls).length entryCap)).map fun i =>
        decodeEntry (i + 1) ((directoryQuadlets 6 calls).getD i 0 % 2 ^ 32)) := by
  have hcrc := (computeCRC16 (directoryQuadlets 6 calls)).toNat_lt
  have hmax : kMaxQuadlets = 256 := rfl
  have hhead : readBEQuadlet ((ConfigROMBuilder.rootDirectory calls).map swap32) 0 =
      (lengthAndCRC (directoryQuadlets 6 calls).length
        (computeCRC16 (directoryQuadlets 6 calls))) % 2 ^ 32 :=
    readBEQuadlet_map_swap32 _ 0
  have hlength : readBEQuadlet ((ConfigROMBuilder.rootDirectory calls).map swap32) 0 / 2 ^ 16 %
      2 ^ 16 = (directoryQuadlets 6 calls).length := by
    rw [hhead]
    unfold lengthAndCRC
    omega
  unfold parseDirectory
  rw [if_neg (by simp [ConfigROMBuilder.rootDirectory])]
  dsimp only
  rw [hlength, if_neg (by simp [ConfigROMBuilder.rootDirectory])]
  congr 1
  apply List.map_congr_left
  intro i _
  rw [readBEQuadlet_map_swap32]
  rfl

/-! ### Agreement -/

/-- The parsed entry is the one the call added, and a text is found where the entry points. -/
def Reads (img : List ℕ) : RomCall → DirectoryEntry → Prop
  | .immediate key value24, entry =>
    entry.keyType = EntryType.kImmediate ∧ entry.keyId = key.toNat ∧ entry.value = value24.toNat
  | .text key text, entry =>
    entry.keyType = EntryType.kLeaf ∧ entry.keyId = key.toNat ∧ entry.hasTarget = true ∧
      parseTextDescriptorLeaf img (5 + entry.targetRel) = .ok text

/-- The driver's parser reads the image back: CRC and GUID of the bus information block, exactly
the added entries in the root directory at quadlet 5, and every text. -/
structure Readable (img : List ℕ) (guid : UInt64) (calls : List RomCall) (entryCap : ℕ) : Prop
    where
  bib : ∃ r, parseBIB img = .ok r ∧ r.crcStatus = .ok ∧ r.bib.guid = guid.toNat
  directory : ∃ entries, parseDirectory (img.drop 5) entryCap = .ok entries ∧
    List.Forall₂ (Reads img) calls entries

/-- A key and a value that fit their fields of an immediate entry. -/
def RomCall.Plain : RomCall → Prop
  | .immediate key value24 => key.toNat < 64 ∧ value24.toNat < 2 ^ 24
  | .text _ _ => False

instance (call : RomCall) : Decidable call.Plain := by
  unfold RomCall.Plain
  cases call <;> infer_instance

lemma reads_immediate_iff (img : List ℕ) (index : ℕ) (call : RomCall)
    (h : call.isText = false) :
    Reads img call (decodeEntry index (immediateQuadlet call % 2 ^ 32)) ↔ call.Plain := by
  cases call with
  | text key text => exact absurd h (by simp [RomCall.isText])
  | immediate key value24 =>
    have hkey := key.toNat_lt
    have hvalue := value24.toNat_lt
    have htype : EntryType.kImmediate = 0 := rfl
    simp only [Reads, RomCall.Plain, decodeEntry, immediateQuadlet, makeDirectoryEntry, htype]
    omega

lemma drop_image (busOptions : UInt32) (guid : UInt64) (gen4 : ℕ) (rest : List ℕ) :
    ((bibQuadlets busOptions guid gen4 ++ rest).map swap32).drop 5 = rest.map swap32 := by
  rw [List.map_append, List.drop_left' (by rw [List.length_map]; rfl)]

/-- The entries of a directory without texts are the calls, read back. -/
lemma forall₂_reads_iff {calls : List RomCall} (hplain : ∀ call ∈ calls, call.isText = false)
    {entryCap : ℕ} (hcap : calls.length ≤ entryCap) (img : List ℕ) :
    List.Forall₂ (Reads img) calls
        ((List.range (min (directoryQuadlets 6 calls).length entryCap)).map fun i =>
          decodeEntry (i + 1) ((directoryQuadlets 6 calls).getD i 0 % 2 ^ 32)) ↔
      ∀ call ∈ calls, call.Plain := by
  have hbody := directoryQuadlets_immediate hplain 6
  have hmin : min (directoryQuadlets 6 calls).length entryCap = calls.length := by
    rw [hbody, List.length_map]
    omega
  have hget : ∀ (i : ℕ) (hi : i < calls.length),
      (directoryQuadlets 6 calls).getD i 0 = immediateQuadlet (calls.get ⟨i, hi⟩) := by
    intro i hi
    rw [hbody, List.getD_eq_getElem _ _ (by simpa using hi)]
    simp
  rw [hmin, List.forall₂_iff_get]
  have hreads : ∀ (i : ℕ) (hi : i < calls.length),
      Reads img (calls.get ⟨i, hi⟩)
        (decodeEntry (i + 1) ((directoryQuadlets 6 calls).getD i 0 % 2 ^ 32)) ↔
        (calls.get ⟨i, hi⟩).Plain := by
    intro i hi
    rw [hget i hi]
    exact reads_immediate_iff img (i + 1) _ (hplain _ (List.get_mem calls ⟨i, hi⟩))
  constructor
  · rintro ⟨-, h⟩ call hmem
    obtain ⟨i, rfl⟩ := List.mem_iff_get.mp hmem
    have hi := h i.val i.isLt (by simp)
    simp only [List.get_eq_getElem, List.getElem_map, List.getElem_range] at hi
    exact (hreads i.val i.isLt).mp hi
  · intro h
    apply And.intro (by simp)
    intro i hi _
    simp only [List.get_eq_getElem, List.getElem_map, List.getElem_range]
    exact (hreads i hi).mpr (h _ (List.get_mem calls ⟨i, hi⟩))

lemma isText_of_plain {call : RomCall} (h : call.Plain) : call.isText = false := by
  cases call with
  | immediate key value24 => rfl
  | text key text => exact h.elim

/-- The image is read back exactly when it has an entry, no text leaf, and every key and value
fits its field. A cap equal to the number of entries may cut off the leaf quadlets by chance, so
the converse leaves it out. -/
theorem readable_iff (busOptions : UInt32) (guid : UInt64) (calls : List RomCall)
    (generations : List UInt8) (img : List ℕ)
    (h : ConfigROMBuilder.image busOptions guid calls generations = some img) (entryCap : ℕ) :
    ((calls ≠ [] ∧ (∀ call ∈ calls, call.Plain) ∧ calls.length ≤ entryCap) →
        Readable img guid calls entryCap) ∧
      (calls.length ≠ entryCap → Readable img guid calls entryCap →
        calls ≠ [] ∧ (∀ call ∈ calls, call.Plain) ∧ calls.length ≤ entryCap) := by
  constructor
  · rintro ⟨hne, hplain, hcap⟩
    obtain ⟨gen4, rfl, hlen⟩ := ConfigROMBuilder.image_layout hne h
    have htext : ∀ call ∈ calls, call.isText = false :=
      fun call hmem => isText_of_plain (hplain call hmem)
    constructor
    · exact parseBIB_bibQuadlets busOptions guid gen4 _
    · rw [drop_image, parseDirectory_rootDirectory hlen]
      exact ⟨_, rfl, (forall₂_reads_iff htext hcap _).mpr hplain⟩
  · intro hcap hread
    obtain ⟨entries, hparse, hforall⟩ := hread.directory
    have hne : calls ≠ [] := by
      rintro rfl
      obtain ⟨gen4, rfl⟩ := ConfigROMBuilder.image_empty h
      have hdrop := drop_image busOptions guid gen4 []
      rw [List.append_nil] at hdrop
      rw [hdrop] at hparse
      exact absurd hparse (by simp [parseDirectory])
    obtain ⟨gen4, rfl, hlen⟩ := ConfigROMBuilder.image_layout hne h
    rw [drop_image, parseDirectory_rootDirectory hlen] at hparse
    obtain rfl := Except.ok.inj hparse
    have hcount := hforall.length_eq
    rw [List.length_map, List.length_range] at hcount
    have hlong := length_le_directoryQuadlets 6 calls
    have htext : ∀ call ∈ calls, call.isText = false := by
      intro call hmem
      by_contra hnot
      have hlt : calls.length < (directoryQuadlets 6 calls).length :=
        length_lt_directoryQuadlets ⟨call, hmem, by simpa using hnot⟩
      omega
    exact ⟨hne, (forall₂_reads_iff htext (by omega) _).mp hforall, by omega⟩

/-- What `Build` makes for a vendor: two immediate entries and the vendor's name. -/
def vendorCalls : List RomCall :=
  [.immediate 0x03 0x112233, .immediate 0x0C 0xABCDEF, .text 0x01 [0x41, 0x63, 0x6D, 0x65]]

def vendorImage : List ℕ :=
  (ConfigROMBuilder.image 0xE0646102 0x1122334455667788 vendorCalls [9]).getD []

/-- The text leaf is read as two further entries, and its own entry points past the image. -/
theorem vendorCalls_not_readable :
    ConfigROMBuilder.image 0xE0646102 0x1122334455667788 vendorCalls [9] = some vendorImage ∧
      ¬Readable vendorImage 0x1122334455667788 vendorCalls 64 ∧
      (parseTextDescriptorLeaf vendorImage (5 + (3 + 9))).toOption = none := by
  have hlength : (parseDirectory (vendorImage.drop 5) 64).toOption.map List.length = some 5 := by
    decide +kernel
  refine ⟨by decide +kernel, ?_, by decide +kernel⟩
  intro h
  obtain ⟨entries, hparse, hforall⟩ := h.directory
  rw [hparse] at hlength
  have hcount : entries.length = 5 := Option.some.inj hlength
  rw [← hforall.length_eq] at hcount
  exact absurd hcount (by decide)

/-- Two immediate entries, parsed under the cap of `ParseRootDirectory`. -/
theorem immediates_readable :
    ∃ img, ConfigROMBuilder.image 0xE0646102 0x1122334455667788 (vendorCalls.take 2) [9] =
        some img ∧ Readable img 0x1122334455667788 (vendorCalls.take 2) 64 := by
  obtain ⟨img, himg⟩ := Option.isSome_iff_exists.mp (by decide +kernel :
    (ConfigROMBuilder.image 0xE0646102 0x1122334455667788 (vendorCalls.take 2) [9]).isSome = true)
  exact ⟨img, himg, (readable_iff _ _ _ _ _ himg 64).1 (by decide)⟩

end ASFireWire.ConfigROM
