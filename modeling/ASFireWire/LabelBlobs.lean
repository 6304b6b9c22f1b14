import ASFireWire.DICETransaction

/-! Channel names through a label blob: the encoding a device keeps, and what comes back out of a
parsed section. -/
namespace ASFireWire.DICE.DICETransaction

open Quadlets

/-! ### Byte order within quadlets -/

/-- The bytes of every whole quadlet turned round. -/
def reverseQuadlets : List UInt8 → List UInt8
  | a :: b :: c :: d :: rest => d :: c :: b :: a :: reverseQuadlets rest
  | rest => rest

section Quadlets

variable {bytes front rest : List UInt8} {n : ℕ}

lemma reverseQuadlets_reverseQuadlets (bytes : List UInt8) :
    reverseQuadlets (reverseQuadlets bytes) = bytes := by
  induction bytes using reverseQuadlets.induct with
  | case1 a b c d rest ih => simp [reverseQuadlets, ih]
  | case2 rest h => simp [reverseQuadlets]

@[simp] lemma length_reverseQuadlets (bytes : List UInt8) :
    (reverseQuadlets bytes).length = bytes.length := by
  induction bytes using reverseQuadlets.induct with
  | case1 a b c d rest ih => simp [reverseQuadlets, ih]
  | case2 rest h => simp [reverseQuadlets]

/-- Four bytes and what follows them. -/
lemma exists_quadlet (h : 4 * (n + 1) ≤ bytes.length) :
    ∃ a b c d rest, bytes = a :: b :: c :: d :: rest ∧ 4 * n ≤ rest.length := by
  match bytes, h with
  | a :: b :: c :: d :: rest, h =>
    simp only [List.length_cons] at h
    exact ⟨a, b, c, d, rest, rfl, by omega⟩

lemma reverseQuadlets_append (h : front.length = 4 * n) :
    reverseQuadlets (front ++ rest) = reverseQuadlets front ++ reverseQuadlets rest := by
  induction n generalizing front with
  | zero =>
    obtain rfl := List.length_eq_zero_iff.mp h
    simp [reverseQuadlets]
  | succ n ih =>
    obtain ⟨a, b, c, d, front, rfl, hfront⟩ := exists_quadlet (n := n) h.ge
    simp only [List.length_cons] at h
    simp [reverseQuadlets, ih (show front.length = 4 * n by omega)]

lemma leBytes_be32At (a b c d : UInt8) (rest : List UInt8) :
    leBytes (be32At (a :: b :: c :: d :: rest) 0) = [d, c, b, a] := by
  have hlittle : be32At (a :: b :: c :: d :: rest) 0 = le32At [d, c, b, a] 0 := by
    simp [be32At, le32At, byteAt]
  rw [hlittle, leBytes_le32At (by simp)]

lemma be32At_behind (a b c d : UInt8) (rest : List UInt8) (i : ℕ) :
    be32At (a :: b :: c :: d :: rest) (i + 4) = be32At rest i := by
  simp [be32At, byteAt]

/-- The quadlet loop of `copyLabelBlob`. -/
lemma flatMap_leBytes (h : 4 * n ≤ bytes.length) :
    ((List.range n).flatMap fun q => leBytes (be32At bytes (4 * q))) =
      reverseQuadlets (bytes.take (4 * n)) := by
  induction n generalizing bytes with
  | zero => simp [reverseQuadlets]
  | succ n ih =>
    obtain ⟨a, b, c, d, rest, rfl, hrest⟩ := exists_quadlet h
    rw [List.range_succ_eq_map, List.flatMap_cons, Nat.mul_zero, leBytes_be32At,
      List.flatMap_map]
    simp only [Nat.succ_eq_add_one, Nat.mul_add, Nat.mul_one, be32At_behind]
    rw [ih hrest]
    simp [reverseQuadlets]

end Quadlets

/-! ### The encoding -/

/-- Not empty, without backslash or NUL. -/
def IsChannelName (name : List UInt8) : Prop := name ≠ [] ∧ kSeparator ∉ name ∧ 0 ∉ name

instance (name : List UInt8) : Decidable (IsChannelName name) :=
  inferInstanceAs (Decidable (_ ∧ _ ∧ _))

/-- The names joined by a backslash. -/
def joinNames (names : List (List UInt8)) : List UInt8 := [kSeparator].intercalate names

/-- The names and the double backslash that ends them. -/
def labelText (names : List (List UInt8)) : List UInt8 :=
  joinNames names ++ List.replicate 2 kSeparator

/-- The blob on the wire: the first character of a quadlet is its least significant byte. -/
def labelBlob (names : List (List UInt8)) : List UInt8 :=
  reverseQuadlets ((labelText names).rightpad kLabelBytes 0)

/-! ### Splitting -/

section Splitting

variable {name rest text : List UInt8} {names : List (List UInt8)}

lemma joinNames_cons_cons (name next : List UInt8) (names : List (List UInt8)) :
    joinNames (name :: next :: names) = name ++ kSeparator :: joinNames (next :: names) := by
  simp [joinNames, List.intercalate_cons_cons]

@[simp] lemma joinNames_singleton (name : List UInt8) : joinNames [name] = name := by
  simp [joinNames]

@[simp] lemma joinNames_nil : joinNames [] = [] := rfl

@[simp] lemma splitNames_nil : splitNames [] = [] := by
  simp [splitNames]

lemma ne_separator_of_notMem (h : kSeparator ∉ name) :
    ∀ c ∈ name, decide (c ≠ kSeparator) = true := by
  intro c hc
  simpa using fun heq : c = kSeparator => h (heq ▸ hc)

lemma takeWhile_name (h : kSeparator ∉ name) :
    (name ++ kSeparator :: rest).takeWhile (· ≠ kSeparator) = name := by
  rw [List.takeWhile_append_of_pos (ne_separator_of_notMem h)]
  simp

lemma splitNames_name (h : kSeparator ∉ name) :
    splitNames (name ++ kSeparator :: rest) = name :: splitNames rest := by
  rw [splitNames, if_neg (by simp)]
  dsimp only
  rw [takeWhile_name h, List.drop_append, List.drop_eq_nil_of_le (by omega)]
  simp

lemma splitNames_last (h : kSeparator ∉ name) (hne : name ≠ []) : splitNames name = [name] := by
  rw [splitNames, if_neg hne]
  dsimp only
  rw [List.takeWhile_eq_self_iff.mpr (ne_separator_of_notMem h), List.drop_eq_nil_of_le (by omega),
    splitNames_nil]

/-- Splitting undoes joining. -/
lemma splitNames_joinNames (h : ∀ name ∈ names, IsChannelName name) :
    splitNames (joinNames names) = names := by
  induction names with
  | nil => simp
  | cons name names ih =>
    have hname := h name (by simp)
    have htail := ih fun other hother => h other (List.mem_cons_of_mem _ hother)
    cases names with
    | nil => simpa using splitNames_last hname.2.1 hname.1
    | cons next names => rw [joinNames_cons_cons, splitNames_name hname.2.1, htail]

/-- One separator behind the last name adds nothing. -/
lemma splitNames_joinNames_separator (h : ∀ name ∈ names, IsChannelName name) (hne : names ≠ []) :
    splitNames (joinNames names ++ [kSeparator]) = names := by
  induction names with
  | nil => contradiction
  | cons name names ih =>
    have hname := h name (by simp)
    cases names with
    | nil =>
      have hlast : splitNames (name ++ [kSeparator]) = name :: splitNames [] :=
        splitNames_name hname.2.1
      simpa using hlast
    | cons next names =>
      have htail := ih (fun other hother => h other (List.mem_cons_of_mem _ hother)) (by simp)
      rw [joinNames_cons_cons, List.append_assoc, List.cons_append, splitNames_name hname.2.1,
        htail]

/-- Names that were split from a text are no longer than the text when joined again. -/
lemma length_joinNames_splitNames_le (text : List UInt8) :
    (joinNames (splitNames text)).length ≤ text.length := by
  induction text using splitNames.induct with
  | case1 => simp
  | case2 text hne name ih =>
    rw [splitNames, if_neg hne]
    change (joinNames (name :: splitNames (text.drop (name.length + 1)))).length ≤ text.length
    have hname : name.length ≤ text.length := (List.takeWhile_prefix _).length_le
    rw [List.length_drop] at ih
    cases hsplit : splitNames (text.drop (name.length + 1)) with
    | nil => simpa using hname
    | cons next names =>
      have hmore : text.drop (name.length + 1) ≠ [] := by
        intro hnil
        simp [hnil] at hsplit
      have hlt := List.length_pos_of_ne_nil hmore
      rw [List.length_drop] at hlt
      rw [hsplit] at ih
      rw [joinNames_cons_cons, List.length_append, List.length_cons]
      omega

lemma beforeTerminator_length_le (text : List UInt8) :
    (beforeTerminator text).length ≤ text.length := by
  induction text with
  | nil => simp [beforeTerminator]
  | cons c rest ih =>
    rw [beforeTerminator]
    split
    · simp
    · simpa using ih

lemma beforeTerminator_name (h : kSeparator ∉ name) :
    beforeTerminator (name ++ rest) = name ++ beforeTerminator rest := by
  induction name with
  | nil => simp
  | cons c name ih =>
    rw [List.mem_cons, not_or] at h
    rw [List.cons_append, beforeTerminator, if_neg fun hc => h.1 hc.1.symm, ih h.2,
      List.cons_append]

/-- One separator does not end the list. -/
lemma beforeTerminator_separator (h : rest.head? ≠ some kSeparator) :
    beforeTerminator (kSeparator :: rest) = kSeparator :: beforeTerminator rest := by
  rw [beforeTerminator, if_neg fun hc => h hc.2]

lemma head?_joinNames (h : IsChannelName name) (names : List (List UInt8)) (rest : List UInt8) :
    (joinNames (name :: names) ++ rest).head? ≠ some kSeparator := by
  obtain ⟨hne, hseparator, -⟩ := h
  obtain ⟨c, tail, rfl⟩ := List.exists_cons_of_ne_nil hne
  have hc : c ≠ kSeparator := fun hc => hseparator (hc ▸ List.mem_cons_self)
  cases names with
  | nil => simpa using hc
  | cons next names => simpa [joinNames_cons_cons] using hc

/-- Joined names are kept whole. -/
lemma beforeTerminator_joinNames (h : ∀ name ∈ names, IsChannelName name) (rest : List UInt8) :
    beforeTerminator (joinNames names ++ rest) = joinNames names ++ beforeTerminator rest := by
  induction names with
  | nil => simp
  | cons name names ih =>
    have hname := h name (by simp)
    have htail := ih fun other hother => h other (List.mem_cons_of_mem _ hother)
    cases names with
    | nil => simpa using beforeTerminator_name hname.2.1
    | cons next names =>
      have hhead := head?_joinNames (h next (by simp)) names rest
      rw [joinNames_cons_cons, List.append_assoc, List.cons_append,
        beforeTerminator_name hname.2.1, beforeTerminator_separator hhead, htail,
        List.append_assoc, List.cons_append]

/-- What is left of the double backslash does not matter. -/
lemma splitNames_beforeTerminator (h : ∀ name ∈ names, IsChannelName name) {k : ℕ} (hk : k ≤ 2)
    (hne : k = 1 → names ≠ []) :
    splitNames (beforeTerminator (joinNames names ++ List.replicate k kSeparator)) = names := by
  rw [beforeTerminator_joinNames h]
  match k, hk with
  | 0, _ => simpa [beforeTerminator] using splitNames_joinNames h
  | 1, _ => simpa [beforeTerminator] using splitNames_joinNames_separator h (hne rfl)
  | 2, _ => simpa [beforeTerminator, List.replicate] using splitNames_joinNames h

end Splitting

/-! ### A parsed blob -/

/-- Entry `i` of the section is counted, has room for labels, lies inside the data and holds the
names. -/
structure Carries (data : List UInt8) (i : ℕ) (names : List (List UInt8)) : Prop where
  counted : i < min (be32At data 0) 4
  sized : kStreamEntryMinWithLabelsBytes ≤ entrySizeBytes data
  inside : entryBase data i + kStreamEntryMinWithLabelsBytes ≤ data.length
  blob : (data.drop (entryBase data i + kStreamLabelsOffset)).take kStreamLabelsBytes =
    labelBlob names

section Parsed

variable {data src padded text : List UInt8} {isRxLayout : Bool} {i : ℕ}
  {names : List (List UInt8)}

lemma labels_of_carries (h : Carries data i names) :
    ((parseStreamConfig data isRxLayout).stream i).labels =
      copyLabelBlob (data.drop (entryBase data i + kStreamLabelsOffset)) kStreamLabelsBytes := by
  have hsized := h.sized
  have hinside := h.inside
  simp only [kStreamEntryMinWithLabelsBytes, kStreamLabelsOffset, kStreamLabelsBytes] at hsized hinside
  have hparsed : i < (parseStreamConfig data isRxLayout).numStreams := by
    rw [lt_numStreams_parseStreamConfig]
    simp only [kStreamSectionHeaderBytes, kStreamEntryMinCoreBytes]
    refine ⟨by omega, by omega, h.counted, by omega⟩
  rw [stream_parseStreamConfig hparsed]
  cases isRxLayout <;> simp [parseEntry, h.sized, h.inside]

lemma copyLabelBlob_full (src : List UInt8) : copyLabelBlob src kStreamLabelsBytes =
    (((List.range 63).flatMap fun q => leBytes (be32At src (4 * q))) ++
      (src.drop 252).take 3).rightpad 256 0 := by
  rw [copyLabelBlob, if_neg (by decide)]
  rfl

/-- The last three bytes that are copied keep their order on the wire. -/
lemma copyLabelBlob_eq (hlength : padded.length = 256)
    (hsrc : src.take kStreamLabelsBytes = reverseQuadlets padded) :
    copyLabelBlob src kStreamLabelsBytes =
      padded.take 252 ++ (reverseQuadlets (padded.drop 252)).take 3 ++ [0] := by
  have hwire : reverseQuadlets padded =
      reverseQuadlets (padded.take 252) ++ reverseQuadlets (padded.drop 252) := by
    conv_lhs => rw [← List.take_append_drop 252 padded]
    exact reverseQuadlets_append (n := 63) (by simp [hlength])
  have hfront : (reverseQuadlets (padded.take 252)).length = 252 := by simp [hlength]
  have hback : (reverseQuadlets (padded.drop 252)).length = 4 := by simp [hlength]
  obtain ⟨rest, hrest⟩ : ∃ rest, src =
      reverseQuadlets (padded.take 252) ++ (reverseQuadlets (padded.drop 252) ++ rest) := by
    refine ⟨src.drop kStreamLabelsBytes, ?_⟩
    rw [← List.append_assoc, ← hwire, ← hsrc, List.take_append_drop]
  have htake : src.take 252 = reverseQuadlets (padded.take 252) := by
    rw [hrest, List.take_append_of_le_length hfront.ge, List.take_of_length_le hfront.le]
  have hdrop : (src.drop 252).take 3 = (reverseQuadlets (padded.drop 252)).take 3 := by
    rw [hrest, List.drop_left' hfront, List.take_append_of_le_length (by omega)]
  have hsrclength : 252 ≤ src.length := by
    rw [hrest, List.length_append]
    omega
  have hquadlets := flatMap_leBytes (n := 63) hsrclength
  rw [show 4 * 63 = 252 from rfl, htake, reverseQuadlets_reverseQuadlets] at hquadlets
  have hthree : ((reverseQuadlets (padded.drop 252)).take 3).length = 3 := by simp [hlength]
  rw [copyLabelBlob_full, hquadlets, hdrop, List.rightpad, List.length_append, hthree]
  simp [hlength]

lemma take_reverseQuadlets (three : List UInt8) (h : three.length = 3) :
    ∃ tail, (reverseQuadlets (three ++ [0])).take 3 = 0 :: tail := by
  match three, h with
  | [a, b, c], _ => exact ⟨[c, b], rfl⟩

/-- The padding ends what is shown, at the 253rd character at the latest. -/
lemma exists_copyLabelBlob (hfits : text.length ≤ 255)
    (hsrc : src.take kStreamLabelsBytes = reverseQuadlets (text.rightpad kLabelBytes 0)) :
    ∃ tail, copyLabelBlob src kStreamLabelsBytes = text.take 252 ++ 0 :: tail := by
  have hpadded : text.rightpad kLabelBytes 0 =
      text ++ (List.replicate (255 - text.length) 0 ++ [0]) := by
    rw [List.rightpad, ← List.replicate_succ', kLabelBytes,
      show 256 - text.length = 255 - text.length + 1 by omega]
  rw [hpadded] at hsrc
  rw [copyLabelBlob_eq (by simp; omega) hsrc]
  rcases le_or_gt 252 text.length with hlong | hshort
  · obtain ⟨tail, htail⟩ := take_reverseQuadlets
      (text.drop 252 ++ List.replicate (255 - text.length) 0) (by simp; omega)
    rw [List.append_assoc] at htail
    rw [List.take_append_of_le_length hlong, List.drop_append_of_le_length hlong, htail]
    exact ⟨tail ++ [0], by simp⟩
  · obtain ⟨m, hm⟩ : ∃ m, 252 - text.length = m + 1 := ⟨251 - text.length, by omega⟩
    have hzeros : 255 - text.length = m + 3 + 1 := by omega
    rw [List.take_append, List.take_of_length_le hshort.le, hm, hzeros, List.replicate_succ,
      List.cons_append, List.take_succ_cons, List.append_assoc, List.append_assoc,
      List.cons_append]
    exact ⟨_, rfl⟩

/-- The C string in the decoded blob: characters from the 253rd on never arrive. -/
lemma takeWhile_copyLabelBlob (hfits : text.length ≤ 255) (hchars : 0 ∉ text)
    (hsrc : src.take kStreamLabelsBytes = reverseQuadlets (text.rightpad kLabelBytes 0)) :
    (copyLabelBlob src kStreamLabelsBytes).takeWhile (· ≠ 0) = text.take 252 := by
  have hshown : ∀ c ∈ text.take 252, decide (c ≠ 0) = true := by
    intro c hc
    simpa using fun hzero : c = 0 => hchars (hzero ▸ List.mem_of_mem_take hc)
  obtain ⟨tail, htail⟩ := exists_copyLabelBlob hfits hsrc
  rw [htail, List.takeWhile_append_of_pos hshown]
  simp

lemma notMem_labelText (h : ∀ name ∈ names, IsChannelName name) : 0 ∉ labelText names := by
  have hjoin : 0 ∉ joinNames names := by
    induction names with
    | nil => simp
    | cons name names ih =>
      have hname := (h name (by simp)).2.2
      have htail := ih fun other hother => h other (List.mem_cons_of_mem _ hother)
      cases names with
      | nil => simpa using hname
      | cons next names =>
        rw [joinNames_cons_cons, List.mem_append, List.mem_cons]
        simp [hname, htail, kSeparator]
  rw [labelText, List.mem_append]
  simp [hjoin, kSeparator]

lemma length_labelText (names : List (List UInt8)) :
    (labelText names).length = (joinNames names).length + 2 := by
  simp [labelText]

/-- What is read from the entry is the front of the text, split. -/
lemma splitDiceLabels_of_carries (hnames : ∀ name ∈ names, IsChannelName name)
    (hfits : (labelText names).length ≤ 255) (h : Carries data i names) :
    splitDiceLabels ((parseStreamConfig data isRxLayout).stream i).labels =
      splitNames (beforeTerminator ((labelText names).take 252)) := by
  rw [labels_of_carries h, splitDiceLabels,
    takeWhile_copyLabelBlob hfits (notMem_labelText hnames) h.blob]

/-- A text of 255 characters loses a character of its last name. -/
lemma splitNames_take_ne (h : 255 ≤ (labelText names).length) :
    splitNames (beforeTerminator ((labelText names).take 252)) ≠ names := by
  intro heq
  have hjoined := length_joinNames_splitNames_le (beforeTerminator ((labelText names).take 252))
  rw [heq] at hjoined
  have hbefore := beforeTerminator_length_le ((labelText names).take 252)
  have htake := List.length_take_le 252 (labelText names)
  rw [length_labelText] at h
  omega

lemma splitNames_take (hnames : ∀ name ∈ names, IsChannelName name)
    (h : (labelText names).length ≤ 254) :
    splitNames (beforeTerminator ((labelText names).take 252)) = names := by
  have hlength := length_labelText names
  have htake : (labelText names).take 252 = joinNames names ++
      List.replicate (min (252 - (joinNames names).length) 2) kSeparator := by
    rw [labelText, List.take_append, List.take_of_length_le (by omega), List.take_replicate]
  rw [htake]
  refine splitNames_beforeTerminator hnames (Nat.min_le_right _ _) ?_
  rintro hone rfl
  simp at hone

end Parsed

/-- The names in an entry come back exactly when the text leaves two bytes of the blob unused. -/
theorem splitDiceLabels_eq_names_iff {data : List UInt8} {isRxLayout : Bool} {i : ℕ}
    {names : List (List UInt8)} (hnames : ∀ name ∈ names, IsChannelName name)
    (hfits : (labelText names).length ≤ 255) (hcarries : Carries data i names) :
    splitDiceLabels ((parseStreamConfig data isRxLayout).stream i).labels = names ↔
      (labelText names).length ≤ 254 := by
  rw [splitDiceLabels_of_carries hnames hfits hcarries]
  constructor
  · intro heq
    by_contra hlong
    exact splitNames_take_ne (Nat.lt_of_not_le hlong) heq
  · exact splitNames_take hnames

/-- A section of one stream with nothing but labels in its entry. -/
def oneEntry (names : List (List UInt8)) : List UInt8 :=
  beBytes 1 ++ beBytes 68 ++ List.replicate 16 0 ++ labelBlob names

/-- One entry of 68 quadlets carries any names that fit. -/
lemma carries_oneEntry {names : List (List UInt8)} (h : (labelText names).length ≤ 256) :
    Carries (oneEntry names) 0 names := by
  have hblob : (labelBlob names).length = 256 := by
    rw [labelBlob, length_reverseQuadlets, List.length_rightpad, kLabelBytes]
    omega
  have hcount : be32At (oneEntry names) 0 = 1 := rfl
  have hsize : entrySizeBytes (oneEntry names) = 272 := rfl
  constructor
  · rw [hcount]
    decide
  · rw [hsize]
    decide
  · simp [entryBase, oneEntry, hblob, kStreamSectionHeaderBytes, kStreamEntryMinWithLabelsBytes,
      kStreamLabelsOffset, kStreamLabelsBytes]
  · rw [entryBase, Nat.zero_mul]
    exact List.take_of_length_le hblob.le

theorem twoNames_survive :
    splitDiceLabels ((parseStreamConfig (oneEntry [[0x41], [0x42, 0x43]]) true).stream 0).labels =
      [[0x41], [0x42, 0x43]] :=
  (splitDiceLabels_eq_names_iff (by decide) (by decide) (carries_oneEntry (by decide))).mpr
    (by decide)

/-- A single name of 253 characters. -/
theorem not_names_survive : ¬ ∀ (data : List UInt8) (isRxLayout : Bool) (i : ℕ)
    (names : List (List UInt8)), (∀ name ∈ names, IsChannelName name) →
    (labelText names).length ≤ 255 → Carries data i names →
    splitDiceLabels ((parseStreamConfig data isRxLayout).stream i).labels = names := by
  intro h
  have hlength : (labelText [List.replicate 253 0x41]).length = 255 := by
    rw [length_labelText, joinNames_singleton, List.length_replicate]
  have hname : ∀ name ∈ [List.replicate 253 (0x41 : UInt8)], IsChannelName name := by
    intro name hname
    rw [List.mem_singleton.mp hname]
    have hother : ∀ c ≠ 0x41, c ∉ List.replicate 253 (0x41 : UInt8) :=
      fun c hc hmem => hc (List.eq_of_mem_replicate hmem)
    exact ⟨List.cons_ne_nil _ _, hother _ (by decide), hother _ (by decide)⟩
  have hcarries : Carries (oneEntry [List.replicate 253 0x41]) 0 [List.replicate 253 0x41] :=
    carries_oneEntry (by omega)
  have heq := h _ true 0 _ hname hlength.le hcarries
  rw [splitDiceLabels_of_carries hname hlength.le hcarries] at heq
  exact splitNames_take_ne hlength.ge heq

end ASFireWire.DICE.DICETransaction
