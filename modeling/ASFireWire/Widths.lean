import Mathlib

/-! Bounded numbers of the usual widths: each width is positive, said once, so that a numeral of
`Fin` is read the same way wherever it stands. -/

instance instNeZeroWidth3 : NeZero 3 := ⟨by decide⟩
instance instNeZeroWidth4 : NeZero 4 := ⟨by decide⟩
instance instNeZeroWidth8 : NeZero 8 := ⟨by decide⟩
instance instNeZeroWidth16 : NeZero 16 := ⟨by decide⟩
instance instNeZeroWidth63 : NeZero 63 := ⟨by decide⟩
instance instNeZeroWidth64 : NeZero 64 := ⟨by decide⟩
instance instNeZeroWidth256 : NeZero 256 := ⟨by decide⟩
instance instNeZeroWidthPow16 : NeZero (2 ^ 16) := ⟨by decide⟩
instance instNeZeroWidthPow48 : NeZero (2 ^ 48) := ⟨by decide⟩
