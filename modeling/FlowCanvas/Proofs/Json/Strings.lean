import FlowCanvas.Json.Document
import Mathlib

/-!
# Strings in texts

A quoted string is read back from the text that it is at the front of, whatever its characters are.
Each character is read back from the characters that it is escaped as: as itself, or as the word
that an escape with hexadecimal digits spells.
-/

set_option autoImplicit false

namespace FlowCanvas.Json

/-- The piece of a string that an escaped character is read as. -/
def pieceOf (c : Char) : StringPiece :=
  if c.toNat < 0x20 ∧ c ∉ ['\x08', '\x0c', '\n', '\r', '\t'] then .word c.toNat else .char c

/-- A control character is read back from the two hexadecimal digits that it is written with. -/
theorem hexWord?_hexChar {n : Nat} (h : n < 0x20) :
    hexWord? '0' '0' (hexChar (n / 16)) (hexChar (n % 16)) = some n := by
  revert n
  decide

/-- An escaped character is read as one piece. -/
theorem scanPieces?_escaped_append (c : Char) (rest : List Char) :
    scanPieces? (escaped c ++ rest) =
      (scanPieces? rest).map fun (pieces, rest) => (pieceOf c :: pieces, rest) := by
  unfold escaped
  split
  any_goals solve | simp [scanPieces?, simpleEscape?, pieceOf]
  rename_i hQuote hBackslash hBackspace hFeed hLine hReturn hTab
  split
  · rename_i hControl
    have hPiece : pieceOf c = .word c.toNat := by
      unfold pieceOf
      rw [if_pos]
      simp only [List.mem_cons, List.not_mem_nil, or_false, not_or]
      exact ⟨hControl, hBackspace, hFeed, hLine, hReturn, hTab⟩
    simp only [List.cons_append, List.nil_append, scanPieces?, hexWord?_hexChar hControl, hPiece]
  · rename_i hPlain
    have hPiece : pieceOf c = .char c := by
      unfold pieceOf
      rw [if_neg fun h => hPlain h.1]
    rw [hPiece, List.singleton_append, scanPieces?.eq_def]
    split <;> simp_all

/-- A text is read back from its escaped characters up to the quote behind it. -/
theorem scanPieces?_flatMap_escaped (cs rest : List Char) :
    scanPieces? (cs.flatMap escaped ++ '"' :: rest) = some (cs.map pieceOf, rest) := by
  induction cs with
  | nil => simp [scanPieces?]
  | cons c cs ih =>
    rw [List.flatMap_cons, List.append_assoc, scanPieces?_escaped_append, ih]
    rfl

/-- The pieces of escaped characters are those characters. -/
theorem charsOfPieces?_map_pieceOf (cs : List Char) :
    charsOfPieces? (cs.map pieceOf) = some cs := by
  induction cs with
  | nil => rfl
  | cons c cs ih =>
    rw [List.map_cons]
    by_cases hWord : c.toNat < 0x20 ∧ c ∉ ['\x08', '\x0c', '\n', '\r', '\t']
    · have hPiece : pieceOf c = .word c.toNat := if_pos hWord
      have hHigh : ∀ n < 0x20, isHighSurrogate n = false := by decide
      have hLow : ∀ n < 0x20, isLowSurrogate n = false := by decide
      rw [hPiece]
      -- the next piece may be a word as well, but not half of a surrogate pair
      cases hNext : cs.map pieceOf with
      | nil =>
        rw [hNext] at ih
        simp [charsOfPieces?, hHigh _ hWord.1, hLow _ hWord.1, ← Option.some.inj ih]
      | cons piece pieces =>
        rw [hNext] at ih
        cases piece with
        | char d => simpa [charsOfPieces?, hHigh _ hWord.1, hLow _ hWord.1] using ih
        | word n =>
          have hSmall : n < 0x20 := by
            cases cs with
            | nil => simp at hNext
            | cons d cs =>
              have hHead : pieceOf d = .word n := (List.cons.inj hNext).1
              unfold pieceOf at hHead
              split at hHead
              · rename_i hControl
                cases hHead
                exact hControl.1
              · cases hHead
          rw [charsOfPieces?, hHigh _ hWord.1, hLow _ hSmall]
          simp [ih, hLow _ hWord.1]
    · have hPiece : pieceOf c = .char c := if_neg hWord
      rw [hPiece, charsOfPieces?, ih]
      rfl

/-- A quoted string is one token. -/
theorem scanToken?_quoted_append (s : String) (rest : List Char) :
    scanToken? (quoted s ++ rest) = some (.string s, rest) := by
  unfold quoted
  rw [List.cons_append, List.append_assoc, scanToken?, List.singleton_append,
    scanPieces?_flatMap_escaped, Option.map_some]
  simp only
  rw [charsOfPieces?_map_pieceOf]
  simp

end FlowCanvas.Json
