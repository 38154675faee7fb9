import FlowCanvas.Text.Blank
import FlowCanvas.Text.Letters
import Mathlib

/-!
# Lower case is final

A character that comes out of the lower-case mapping is its own lower-case form, and the mapping
makes no white space. Both facts are facts about the table, which has far too many code points to
go through one by one. They are checked on its runs instead: what a run maps to lies outside every
run, because the two intervals are apart or because they interleave, one holding the even and the
other the odd code points.
-/

set_option autoImplicit false

namespace FlowCanvas.Text

/-! ## Runs that miss each other -/

/-- Whether the code points that one run maps to visibly lie outside another run. -/
def CaseRun.misses (r s : CaseRun) : Bool :=
  (r.target + (r.last - r.first)).blt s.first || s.last.blt r.target ||
    ((r.step.beq 2 || r.first.beq r.last) && s.step.beq 2 && ((r.target + s.first) % 2).beq 1)

/-- Whether the code points that a run maps to visibly lie outside an interval. -/
def CaseRun.avoids (r : CaseRun) (low high : Nat) : Bool :=
  (r.target + (r.last - r.first)).blt low || high.blt r.target

/-- A run of upper-case letters is mapped into an interval as long as the run. -/
theorem CaseRun.apply_mem_interval {r : CaseRun} {code : Nat} (h : r.covers code = true) :
    r.target ≤ r.apply code ∧ r.apply code ≤ r.target + (r.last - r.first) := by
  simp only [covers, Bool.and_eq_true, decide_eq_true_eq] at h
  unfold apply
  omega

/-- A run that visibly avoids an interval maps nothing into it. -/
theorem CaseRun.apply_not_mem {r : CaseRun} {code low high : Nat} (h : r.covers code = true)
    (hAvoids : r.avoids low high = true) : r.apply code < low ∨ high < r.apply code := by
  have hIn := apply_mem_interval h
  simp only [avoids, Bool.or_eq_true, Nat.blt_eq] at hAvoids
  omega

/-- A run that visibly misses another one does miss it. -/
theorem CaseRun.covers_apply_of_misses {r s : CaseRun} {code : Nat} (h : r.covers code = true)
    (hMisses : r.misses s = true) : s.covers (r.apply code) = false := by
  have hIn := apply_mem_interval h
  by_contra hCovers
  rw [Bool.not_eq_false] at hCovers
  simp only [covers, Bool.and_eq_true, decide_eq_true_eq, beq_iff_eq] at h hCovers
  simp only [misses, Bool.or_eq_true, Bool.and_eq_true, Nat.blt_eq, Nat.beq_eq] at hMisses
  unfold apply at hIn hCovers
  obtain ⟨⟨hFirst, hLast⟩, hStep⟩ := h
  obtain ⟨⟨hsFirst, hsLast⟩, hsStep⟩ := hCovers
  rcases hMisses with (hBelow | hAbove) | ⟨⟨hEven | hSingle, hsEven⟩, hOdd⟩
  · omega
  · omega
  · rw [hEven] at hStep
    rw [hsEven] at hsStep
    omega
  · rw [hsEven] at hsStep
    omega

/-! ## The table -/

/-- The runs of the table miss each other, the code points with several lower-case characters,
all white space, and everything that is no character. -/
theorem lowerRuns_miss : lowerRuns.all (fun r => lowerRuns.all r.misses && r.avoids 0x130 0x130 &&
    r.avoids 0x0 0x20 && r.avoids 0x85 0x85 && r.avoids 0xA0 0xA0 && r.avoids 0x1680 0x1680 &&
    r.avoids 0x2000 0x205F && r.avoids 0x3000 0x3000 && r.avoids 0xD800 0xDFFF &&
    (r.target + (r.last - r.first)).blt 0x110000) = true := by
  decide +kernel

/-- Only one letter has a lower case that is more than one character. -/
theorem lookup_lowerSequences {code : Nat} (h : code ≠ 0x130) :
    lowerSequences.lookup code = none := by
  simp [lowerSequences, List.lookup, beq_false_of_ne h]

/-- A code point outside the table is its own lower-case form. -/
theorem lowerCode_self {code : Nat} (hSequence : code ≠ 0x130)
    (hRuns : ∀ s ∈ lowerRuns, s.covers code = false) :
    mapCode lowerSequences lowerRuns code = [code] := by
  have hNone : lowerRuns.find? (·.covers code) = none := by
    simpa using hRuns
  rw [mapCode, lookup_lowerSequences hSequence]
  simp only [hNone]

/-- A code point that has a lower-case form maps to a sequence or along a run; any other is its
own lower-case form. -/
theorem lowerCode_cases (code : Nat) :
    code = 0x130 ∧ mapCode lowerSequences lowerRuns code = [0x69, 0x307] ∨
      (∃ r ∈ lowerRuns, r.covers code = true ∧
        mapCode lowerSequences lowerRuns code = [r.apply code]) ∨
      code ≠ 0x130 ∧ ∀ s ∈ lowerRuns, s.covers code = false := by
  by_cases hSequence : code = 0x130
  · exact .inl ⟨hSequence, by simp [mapCode, lowerSequences, hSequence]⟩
  · refine .inr ?_
    cases hFind : lowerRuns.find? (·.covers code) with
    | none => exact .inr ⟨hSequence, by simpa using hFind⟩
    | some r =>
      refine .inl ⟨r, List.mem_of_find?_eq_some hFind, by simpa using List.find?_some hFind, ?_⟩
      rw [mapCode, lookup_lowerSequences hSequence]
      simp only [hFind]

/-! ## Characters -/

/-- A number that is no surrogate and not too large is the code point of a character. -/
theorem toNat_ofNat_of_not_surrogate {n : Nat} (h : n < 0xD800 ∨ 0xDFFF < n) (hMax : n < 0x110000) :
    (Char.ofNat n).toNat = n := by
  have hValid : n.isValidChar := by
    unfold Nat.isValidChar
    omega
  simp [Char.ofNat, hValid, Char.ofNatAux, Char.toNat]

/-- What a run maps to: a character outside every run that is no white space. -/
theorem lowerRun_apply {r : CaseRun} (hr : r ∈ lowerRuns) {code : Nat} (h : r.covers code = true) :
    mapCode lowerSequences lowerRuns (r.apply code) = [r.apply code] ∧
      (Char.ofNat (r.apply code)).toNat = r.apply code ∧
      isBlankChar (Char.ofNat (r.apply code)) = false := by
  have hMiss := List.all_eq_true.1 lowerRuns_miss r hr
  simp only [Bool.and_eq_true, List.all_eq_true, Nat.blt_eq] at hMiss
  obtain ⟨⟨⟨⟨⟨⟨⟨⟨⟨hRuns, hSequence⟩, hControl⟩, hNext⟩, hFixed⟩, hOgham⟩, hQuads⟩, hWide⟩,
    hSurrogates⟩, hMax⟩ := hMiss
  have hLess : r.apply code < 0x110000 := lt_of_le_of_lt (CaseRun.apply_mem_interval h).2 hMax
  have hChar := toNat_ofNat_of_not_surrogate (CaseRun.apply_not_mem h hSurrogates) hLess
  refine ⟨lowerCode_self ?_ fun s hs => CaseRun.covers_apply_of_misses h (hRuns s hs), hChar, ?_⟩
  · have := CaseRun.apply_not_mem h hSequence
    omega
  · have h1 := CaseRun.apply_not_mem h hControl
    have h2 := CaseRun.apply_not_mem h hNext
    have h3 := CaseRun.apply_not_mem h hFixed
    have h4 := CaseRun.apply_not_mem h hOgham
    have h5 := CaseRun.apply_not_mem h hQuads
    have h6 := CaseRun.apply_not_mem h hWide
    simp only [isBlankChar, hChar, Bool.or_eq_false_iff, Bool.and_eq_false_iff,
      decide_eq_false_iff_not, beq_eq_false_iff_ne]
    omega

/-- The dot that is put above a letter is no white space. -/
theorem isBlankChar_combining_dot : isBlankChar (Char.ofNat 0x307) = false := by decide

/-- A lower-case form is its own lower-case form. -/
theorem lowerChar_of_mem_lowerChar {c d : Char} (h : d ∈ lowerChar c) : lowerChar d = [d] := by
  have hFixed : ∀ code, mapCode lowerSequences lowerRuns code = [code] →
      (Char.ofNat code).toNat = code → lowerChar (Char.ofNat code) = [Char.ofNat code] := by
    intro code hMap hChar
    simp [lowerChar, hChar, hMap]
  unfold lowerChar at h
  rcases lowerCode_cases c.toNat with ⟨-, hMap⟩ | ⟨r, hr, hCovers, hMap⟩ | ⟨hSequence, hRuns⟩
  · rw [hMap] at h
    simp only [List.map_cons, List.map_nil, List.mem_cons, List.not_mem_nil, or_false] at h
    rcases h with rfl | rfl
    · exact hFixed 0x69 (by decide) rfl
    · exact hFixed 0x307 (by decide) rfl
  · rw [hMap] at h
    obtain ⟨hSelf, hChar, -⟩ := lowerRun_apply hr hCovers
    rw [List.map_singleton, List.mem_singleton] at h
    exact h ▸ hFixed _ hSelf hChar
  · have hSelf := lowerCode_self hSequence hRuns
    rw [hSelf, List.map_singleton, List.mem_singleton, Char.ofNat_toNat] at h
    simp [lowerChar, h, hSelf]

/-- The lower-case form of a character that is no white space has none. -/
theorem isBlankChar_of_mem_lowerChar {c d : Char} (hc : isBlankChar c = false)
    (h : d ∈ lowerChar c) : isBlankChar d = false := by
  unfold lowerChar at h
  rcases lowerCode_cases c.toNat with ⟨-, hMap⟩ | ⟨r, hr, hCovers, hMap⟩ | ⟨hSequence, hRuns⟩
  · rw [hMap] at h
    simp only [List.map_cons, List.map_nil, List.mem_cons, List.not_mem_nil, or_false] at h
    rcases h with rfl | rfl
    · rfl
    · exact isBlankChar_combining_dot
  · rw [hMap, List.map_singleton, List.mem_singleton] at h
    exact h ▸ (lowerRun_apply hr hCovers).2.2
  · rw [lowerCode_self hSequence hRuns, List.map_singleton, List.mem_singleton,
      Char.ofNat_toNat] at h
    exact h ▸ hc

/-- The only run below the code point 128 is that of the capital letters. -/
theorem lowerRuns_ascii : ∀ s ∈ lowerRuns, s.first = 0x41 ∧ s.last = 0x5A ∨ 0x80 ≤ s.first := by
  decide +kernel

/-- An ASCII character other than a capital letter is its own lower-case form. -/
theorem lowerChar_of_ascii {c : Char} (hAscii : c.toNat < 0x80)
    (hSmall : c.toNat < 0x41 ∨ 0x5A < c.toNat) : lowerChar c = [c] := by
  have hMap : mapCode lowerSequences lowerRuns c.toNat = [c.toNat] := by
    apply lowerCode_self (by omega)
    intro s hs
    have hRun := lowerRuns_ascii s hs
    simp only [CaseRun.covers, Bool.and_eq_false_iff, decide_eq_false_iff_not]
    omega
  simp [lowerChar, hMap]

end FlowCanvas.Text
