import ASFireWire.DetailsDiscovery
import ASFireWire.DeviceReads

/-! Directories longer than the reader and the discovery care to read (`ConfigROM/Remote/
ROMReader.cpp`, `ROMScanSessionDetails.cpp`): the header keeps the length the device declares, and
the parser holds what was read against it. -/
namespace ASFireWire.Discovery

open ASFireWire.ConfigROM Quadlets Runs

variable {mem : ℕ → ℕ} {offsetBytes count : ℕ}

/-- The first entries of the directory at an offset of the ROM. -/
def firstEntries (mem : ℕ → ℕ) (offsetBytes count : ℕ) : List DirectoryEntry :=
  (List.range count).map fun i =>
    decodeEntry (i + 1) (swap32 (mem (romAddress (offsetBytes + (i + 1) * kQuadletBytes))))

lemma length_firstEntries (mem : ℕ → ℕ) (offsetBytes count : ℕ) :
    (firstEntries mem offsetBytes count).length = count := by
  rw [firstEntries, List.length_map, List.length_range]

/-- A directory of which `count` entries were read parses if it declares no more. -/
lemma parseDirectory_slice (mem : ℕ → ℕ) (offsetBytes count cap : ℕ) :
    parseDirectoryBestEffort (slice mem offsetBytes (count + 1)) cap =
      if count < lengthField (mem (romAddress offsetBytes)) then []
      else firstEntries mem offsetBytes
        (min (lengthField (mem (romAddress offsetBytes))) cap) := by
  have hnonempty : slice mem offsetBytes (count + 1) ≠ [] := by
    rw [slice_cons]
    exact List.cons_ne_nil _ _
  have hheader : readBEQuadlet (slice mem offsetBytes (count + 1)) 0 / 2 ^ 16 % 2 ^ 16 =
      lengthField (mem (romAddress offsetBytes)) := by
    rw [readBEQuadlet, slice_getD (Nat.succ_pos count), Nat.zero_mul, Nat.add_zero]
    rfl
  unfold parseDirectoryBestEffort parseDirectory
  dsimp only
  rw [if_neg hnonempty, hheader, length_slice, Nat.add_sub_cancel]
  by_cases hmore : count < lengthField (mem (romAddress offsetBytes))
  · rw [if_pos hmore, if_pos hmore]
  · rw [if_neg hmore, if_neg hmore]
    apply List.map_congr_left
    intro i hi
    rw [List.mem_range] at hi
    rw [readBEQuadlet, slice_getD (by omega)]

/-- The clip takes effect exactly when nothing is clipped. -/
lemma parseDirectory_clipped_iff (mem : ℕ → ℕ) (offsetBytes cap : ℕ)
    (hsome : 1 ≤ min (lengthField (mem (romAddress offsetBytes))) cap) :
    parseDirectoryBestEffort (slice mem offsetBytes
        (min (lengthField (mem (romAddress offsetBytes))) cap + 1)) cap =
      firstEntries mem offsetBytes (min (lengthField (mem (romAddress offsetBytes))) cap) ↔
    lengthField (mem (romAddress offsetBytes)) ≤ cap := by
  rw [parseDirectory_slice]
  by_cases hfits : lengthField (mem (romAddress offsetBytes)) ≤ cap
  · rw [if_neg (by omega)]
    simp [hfits]
  · rw [if_pos (by omega)]
    constructor
    · intro hempty
      have hlength := congrArg List.length hempty
      rw [length_firstEntries, List.length_nil] at hlength
      omega
    · intro h
      exact absurd h hfits

/-! ### The two directories -/

/-- The quadlets scanned so far are the first ones of the ROM. -/
def IsPrefix (mem : ℕ → ℕ) (rawQuadlets : List ℕ) : Prop :=
  rawQuadlets = slice mem 0 rawQuadlets.length

variable {rawQuadlets : List ℕ} {first : ℕ}

lemma IsPrefix.take_drop (h : IsPrefix mem rawQuadlets) (hfits : first + count ≤ rawQuadlets.length) :
    (rawQuadlets.drop first).take count = slice mem (first * kQuadletBytes) count := by
  obtain ⟨rest, hrest⟩ : ∃ rest, rawQuadlets.length = first + count + rest :=
    ⟨rawQuadlets.length - (first + count), by omega⟩
  rw [IsPrefix, hrest, slice_add, slice_add] at h
  rw [h, List.append_assoc, List.drop_left' (length_slice mem 0 first),
    List.take_left' (length_slice mem _ count), Nat.zero_add]

lemma IsPrefix.headerLength {rom : ConfigROM} (h : IsPrefix mem rom.rawQuadlets) (first : ℕ)
    (hlt : first < rom.rawQuadlets.length) :
    headerLength rom first = lengthField (mem (romAddress (first * kQuadletBytes))) := by
  have hget : rom.rawQuadlets.getD first 0 = mem (romAddress (first * kQuadletBytes)) := by
    rw [h, slice_getD hlt, Nat.zero_add]
  rw [Discovery.headerLength, readBEQuadlet, hget]
  rfl

/-- A longer directory is lost, not clipped. The root directory, read header first in whatever order
the completions come, and a unit directory in the quadlets scanned so far give their first entries,
up to what is read, exactly when they declare no more than is read. -/
theorem directory_clipped_iff (mem : ℕ → ℕ) :
    (∀ (generation16 : ℕ) (usesQueue : Bool) (target : ReadTarget) (submit : SubmitOutcome)
      (offsetBytes : ℕ) (events : List RomReadEvent),
      1 ≤ lengthField (mem (romAddress offsetBytes)) →
      Meets RomReadWorld.step (RomReadWorld.FromMemory mem)
        (RomReadWorld.start generation16 usesQueue target submit (.rootDir offsetBytes 0)) events →
      ∀ r ∈ (run RomReadWorld.step (RomReadWorld.start generation16 usesQueue target submit
          (.rootDir offsetBytes 0)) events).results, r.success = true →
        (parseDirectoryBestEffort r.quadletsBE 64 = firstEntries mem offsetBytes
            (min (lengthField (mem (romAddress offsetBytes))) kHeaderFirstMaxEntries) ↔
          lengthField (mem (romAddress offsetBytes)) ≤ kHeaderFirstMaxEntries)) ∧
    ∀ (rom : ConfigROM) (absUnitDir : ℕ), IsPrefix mem rom.rawQuadlets →
      absUnitDir + min (headerLength rom absUnitDir) 32 < rom.rawQuadlets.length →
      1 ≤ headerLength rom absUnitDir →
      (unitEntries rom absUnitDir (min (headerLength rom absUnitDir) 32) =
          firstEntries mem (absUnitDir * kQuadletBytes) (min (headerLength rom absUnitDir) 32) ↔
        headerLength rom absUnitDir ≤ 32) := by
  constructor
  · intro generation16 usesQueue target submit offsetBytes events hsome hmemory r hr hsuccess
    have hgenuine := RomReadWorld.genuine_results generation16 usesQueue target submit
      (.rootDir offsetBytes 0) events hmemory r hr
    rw [RomReadWorld.genuine_rootDir_header] at hgenuine
    rw [hgenuine hsuccess, ← slice_cons]
    exact parseDirectory_clipped_iff mem offsetBytes 64 (le_min hsome (by decide))
  · intro rom absUnitDir hscanned hread hsome
    have hheader := hscanned.headerLength absUnitDir (by omega)
    rw [hheader] at hread hsome ⊢
    unfold unitEntries
    rw [hscanned.take_drop (by omega)]
    exact parseDirectory_clipped_iff mem _ 32 (le_min hsome (by decide))

/-- A memory with a directory of so many entries at quadlet 5 of the ROM. -/
def directoryAt5 (length address : ℕ) : ℕ :=
  if address = romAddress 20 then swap32 (length * 2 ^ 16) else swap32 0x17000001

def scannedFrom (mem : ℕ → ℕ) (count : ℕ) : ConfigROM := { rawQuadlets := slice mem 0 count }

/-- A unit directory of 33 entries has none, and a root directory of 65 entries, read in full up to
the limit, has none. -/
theorem directory_lost :
    unitEntries (scannedFrom (directoryAt5 33) 38) 5 32 ≠ firstEntries (directoryAt5 33) 20 32 ∧
      Genuine (directoryAt5 65) (.rootDir 20 0)
        { success := true, quadletsBE := slice (directoryAt5 65) 20 65 } ∧
      parseDirectoryBestEffort (slice (directoryAt5 65) 20 65) 64 ≠
        firstEntries (directoryAt5 65) 20 64 := by
  have hunit : unitEntries (scannedFrom (directoryAt5 33) 38) 5 32 = [] := by decide
  have hheader : lengthField (directoryAt5 65 (romAddress 20)) = 65 := by decide
  have hroot := parseDirectory_slice (directoryAt5 65) 20 64 64
  rw [hheader, if_pos (by decide)] at hroot
  refine ⟨?_, ?_, ?_⟩
  · rw [hunit]
    exact fun h => absurd (congrArg List.length h) (by rw [length_firstEntries]; decide)
  · rw [RomReadWorld.genuine_rootDir_header, hheader]
    exact fun _ => slice_cons _ _ _
  · rw [hroot]
    exact fun h => absurd (congrArg List.length h) (by rw [length_firstEntries]; decide)

/-- A unit directory of two entries is read. -/
theorem directory_clipped_iff_two :
    unitEntries (scannedFrom (directoryAt5 2) 8) 5 2 = firstEntries (directoryAt5 2) 20 2 := by
  have hscanned : IsPrefix (directoryAt5 2) (scannedFrom (directoryAt5 2) 8).rawQuadlets := by
    unfold IsPrefix scannedFrom
    dsimp only
    rw [length_slice]
  have hheader : headerLength (scannedFrom (directoryAt5 2) 8) 5 = 2 := by decide
  have hclipped := (directory_clipped_iff (directoryAt5 2)).2 (scannedFrom (directoryAt5 2) 8) 5
    hscanned (by decide) (by decide)
  rw [hheader] at hclipped
  exact hclipped.mpr (by decide)

end ASFireWire.Discovery
