import FlowCanvas.Proofs.Json.Numerals
import FlowCanvas.Proofs.Json.Strings
import Mathlib

/-!
# Tokens of printed documents

The tokens of a document are those of its text, whatever blanks the text has between them
(`Document.lexes_chars`). A numeral is where the end of a token is not plain to see: it must be
legible, and something has to follow that ends it.
-/

set_option autoImplicit false

namespace FlowCanvas.Json

open FlowCanvas (Digit Numeral)

/-! ## Texts and their tokens -/

/-- A text is made of the given tokens, however many tokens may be asked for beyond its length. -/
def Lexes (cs : List Char) (ts : List Token) : Prop :=
  ∀ limit, cs.length ≤ limit → tokensUpTo? limit cs = some ts

/-- A text is split into the tokens that it is made of. -/
theorem Lexes.tokens? {cs : List Char} {ts : List Token} (h : Lexes cs ts) :
    Json.tokens? cs = some ts :=
  h cs.length le_rfl

/-- The empty text is made of no tokens. -/
theorem lexes_nil : Lexes [] [] := by
  intro limit _
  cases limit <;> rfl

/-- Blanks in front of a text do not change its tokens. -/
theorem Lexes.blanks {blanks cs : List Char} {ts : List Token} (h : Lexes cs ts)
    (hBlanks : ∀ c ∈ blanks, isSpace c = true) : Lexes (blanks ++ cs) ts := by
  intro limit hLimit
  have hSame : (blanks ++ cs).dropWhile isSpace = cs.dropWhile isSpace := by
    rw [List.dropWhile_append, List.dropWhile_eq_nil_iff.2 hBlanks]
    rfl
  have hRest := h limit (by rw [List.length_append] at hLimit; omega)
  rw [tokensUpTo?.eq_def] at hRest ⊢
  rw [hSame]
  exact hRest

/-- A text that starts with a token is made of that token and those of the rest. -/
theorem Lexes.token {c : Char} {cs rest : List Char} {t : Token} {ts : List Token}
    (h : Lexes rest ts) (hStart : isSpace c = false) (hScan : scanToken? (c :: cs) = some (t, rest))
    (hLength : rest.length ≤ cs.length) : Lexes (c :: cs) (t :: ts) := by
  intro limit hLimit
  cases limit with
  | zero => simp at hLimit
  | succ limit =>
    have hDrop : (c :: cs).dropWhile isSpace = c :: cs := by simp [hStart]
    rw [tokensUpTo?.eq_def, hDrop]
    simp only
    rw [hScan]
    simp only
    rw [h limit (by rw [List.length_cons] at hLimit; omega)]
    rfl

/-- The punctuation marks and their tokens. -/
def marks : List (Char × Token) :=
  [('[', .arrayOpen), (']', .arrayClose), ('\x7b', .objectOpen), ('\x7d', .objectClose),
    (':', .colon), (',', .comma)]

/-- A punctuation mark is a token. -/
theorem Lexes.mark {c : Char} {rest : List Char} {t : Token} {ts : List Token}
    (h : Lexes rest ts) (hMark : (c, t) ∈ marks) : Lexes (c :: rest) (t :: ts) := by
  simp only [marks, List.mem_cons, List.not_mem_nil, or_false, Prod.mk.injEq] at hMark
  rcases hMark with ⟨rfl, rfl⟩ | ⟨rfl, rfl⟩ | ⟨rfl, rfl⟩ | ⟨rfl, rfl⟩ | ⟨rfl, rfl⟩ | ⟨rfl, rfl⟩ <;>
    exact h.token (by decide) rfl le_rfl

/-- A quoted text is a token. -/
theorem Lexes.quoted {rest : List Char} {ts : List Token} (s : String) (h : Lexes rest ts) :
    Lexes (Json.quoted s ++ rest) (.string s :: ts) := by
  refine h.token (by decide) (scanToken?_quoted_append s rest) ?_
  simp
  omega

/-- What starts with a numeral starts with a number as its token. -/
theorem scanToken?_of_scan? {cs rest : List Char} {n : Numeral}
    (h : Numeral.scan? cs = some (n, rest)) : scanToken? cs = some (.number n, rest) := by
  obtain ⟨c, tail, rfl, hStart⟩ := Numeral.exists_of_scan? h
  have hNot : ∀ d ∈ ['[', ']', '\x7b', '\x7d', ',', ':', 'n', 't', 'f', '"'], c ≠ d := by
    rintro d hd rfl
    revert hStart
    revert hd
    simp only [List.mem_cons, List.not_mem_nil, or_false]
    rintro (rfl | rfl | rfl | rfl | rfl | rfl | rfl | rfl | rfl | rfl) <;> decide
  unfold scanToken?
  split <;> first
    | exact absurd (List.cons.inj ‹_›).1 (hNot _ (by simp))
    | exact absurd ‹_› (List.cons_ne_nil c tail)
    | rw [h]; rfl

/-- A numeral is a token, unless the text goes on with what may belong to it. -/
theorem Lexes.numeral {rest : List Char} {ts : List Token} {n : Numeral} (hn : n.IsLegible)
    (hRest : Numeral.EndsNumeral rest) (h : Lexes rest ts) :
    Lexes (n.chars ++ rest) (.number n :: ts) := by
  have hScan := hn.scan?_chars_append hRest
  obtain ⟨c, tail, hChars, hStart⟩ := Numeral.exists_of_scan? hn
  rw [hChars] at hScan ⊢
  refine h.token ?_ (scanToken?_of_scan? hScan) (by simp)
  rcases hStart with rfl | hDigit
  · decide
  · by_contra hSpace
    rw [Bool.not_eq_false] at hSpace
    unfold isSpace at hSpace
    simp only [Bool.or_eq_true, beq_iff_eq] at hSpace
    rcases hSpace with ((rfl | rfl) | rfl) | rfl <;> revert hDigit <;> decide

/-- A layout that has nothing but blanks to put between tokens. -/
structure PageLayout.IsBlank (layout : PageLayout) : Prop where
  lineBreak : ∀ depth, ∀ c ∈ layout.lineBreak depth, isSpace c = true
  afterColon : ∀ c ∈ layout.afterColon, isSpace c = true

/-- The compact layout puts nothing between tokens. -/
theorem isBlank_compact : compact.IsBlank where
  lineBreak := by simp [compact]
  afterColon := by simp [compact]

/-- The indented layout puts nothing but blanks between tokens. -/
theorem isBlank_indented : indented.IsBlank where
  lineBreak := by
    intro depth c hc
    rcases List.mem_cons.1 hc with rfl | hBlank
    · rfl
    · rw [List.eq_of_mem_replicate hBlank]
      rfl
  afterColon := by simp [indented, isSpace]

/-! ## Tokens of documents -/

namespace Document

mutual

/-- The tokens of a document. -/
def tokens : Document → List Token
  | .null => [.null]
  | .bool b => [.bool b]
  | .number n => [.number n]
  | .string s => [.string s]
  | .array [] => [.arrayOpen, .arrayClose]
  | .array (item :: items) => .arrayOpen :: (tokens item ++ (itemTokens items ++ [.arrayClose]))
  | .object [] => [.objectOpen, .objectClose]
  | .object ((key, value) :: fields) =>
    .objectOpen :: .string key :: .colon ::
      (tokens value ++ (fieldTokens fields ++ [.objectClose]))
  | .unreadable => [.null]

/-- The tokens of the items after the first, each behind a comma. -/
def itemTokens : List Document → List Token
  | [] => []
  | item :: items => .comma :: (tokens item ++ itemTokens items)

/-- The tokens of the fields after the first, each behind a comma. -/
def fieldTokens : List (String × Document) → List Token
  | [] => []
  | (key, value) :: fields =>
    .comma :: .string key :: .colon :: (tokens value ++ fieldTokens fields)

end

mutual

/-- Whether a document can be read back from its text and has a value. -/
def IsLegible : Document → Prop
  | .null | .bool _ | .string _ => True
  | .number n => n.IsLegible ∧ (Number.ofNumeral? n).isSome = true
  | .array items => AreLegible items
  | .object fields => AreLegibleFields fields
  | .unreadable => False

/-- Whether this holds of all items. -/
def AreLegible : List Document → Prop
  | [] => True
  | item :: items => IsLegible item ∧ AreLegible items

/-- Whether this holds of the values of all fields. -/
def AreLegibleFields : List (String × Document) → Prop
  | [] => True
  | (_, value) :: fields => IsLegible value ∧ AreLegibleFields fields

end

/-- What may follow a document in a text ends a numeral. -/
theorem endsNumeral_of_mem {c : Char} (rest : List Char)
    (h : c ∈ [',', ']', '\x7d', ' ', '\t', '\n', '\r']) : Numeral.EndsNumeral (c :: rest) := by
  simp only [List.mem_cons, List.not_mem_nil, or_false] at h
  intro d hd
  cases hd
  rcases h with rfl | rfl | rfl | rfl | rfl | rfl | rfl <;> decide

/-- A numeral ends at blanks. -/
theorem endsNumeral_blanks_append {blanks rest : List Char}
    (hBlanks : ∀ c ∈ blanks, isSpace c = true) (hRest : Numeral.EndsNumeral rest) :
    Numeral.EndsNumeral (blanks ++ rest) := by
  cases blanks with
  | nil => exact hRest
  | cons c blanks =>
    refine endsNumeral_of_mem _ ?_
    have hSpace := hBlanks c List.mem_cons_self
    unfold isSpace at hSpace
    simp only [Bool.or_eq_true, beq_iff_eq] at hSpace
    rcases hSpace with ((rfl | rfl) | rfl) | rfl <;> simp

section

variable {layout : PageLayout}

/-- A numeral ends where further items or the end of an array follow. -/
theorem endsNumeral_itemChars {depth : Nat} (items : List Document) {rest : List Char}
    (hRest : Numeral.EndsNumeral rest) :
    Numeral.EndsNumeral (itemChars layout depth items ++ rest) := by
  cases items with
  | nil => simpa [itemChars] using hRest
  | cons item items =>
    rw [itemChars, List.cons_append]
    exact endsNumeral_of_mem _ (by simp)

/-- A numeral ends where further fields or the end of an object follow. -/
theorem endsNumeral_fieldChars {depth : Nat} (fields : List (String × Document))
    {rest : List Char} (hRest : Numeral.EndsNumeral rest) :
    Numeral.EndsNumeral (fieldChars layout depth fields ++ rest) := by
  cases fields with
  | nil => simpa [fieldChars] using hRest
  | cons field fields =>
    rw [fieldChars, List.cons_append]
    exact endsNumeral_of_mem _ (by simp)

variable (hLayout : layout.IsBlank)

include hLayout

/-- A field is its key, a colon and its value. -/
theorem lexes_field {key : String} {rest : List Char} {ts : List Token} (h : Lexes rest ts) :
    Lexes (quoted key ++ ':' :: (layout.afterColon ++ rest)) (.string key :: .colon :: ts) :=
  .quoted key ((h.blanks hLayout.afterColon).mark (by simp [marks]))

mutual

/-- A printed document is made of the tokens of the document. -/
theorem lexes_chars (d : Document) (depth : Nat) {rest : List Char} {ts : List Token}
    (hd : d.IsLegible) (hRest : Numeral.EndsNumeral rest) (h : Lexes rest ts) :
    Lexes (chars layout depth d ++ rest) (tokens d ++ ts) := by
  match d with
  | .null => exact h.token (by decide) rfl (by simp; omega)
  | .bool true => exact h.token (by decide) rfl (by simp; omega)
  | .bool false => exact h.token (by decide) rfl (by simp; omega)
  | .number n => exact .numeral hd.1 hRest h
  | .string s => exact .quoted s h
  | .array [] => exact (h.mark (by simp [marks])).mark (by simp [marks])
  | .array (item :: items) =>
    simp only [chars, tokens, List.cons_append, List.append_assoc, List.nil_append]
    have hClose : Lexes (']' :: rest) (.arrayClose :: ts) := h.mark (by simp [marks])
    have hEnd := endsNumeral_blanks_append (hLayout.lineBreak depth)
      (endsNumeral_of_mem (c := ']') rest (by simp))
    have hItems := lexes_itemChars items (depth + 1) hd.2 hEnd
      (hClose.blanks (hLayout.lineBreak depth))
    have hItem := lexes_chars item (depth + 1) hd.1 (endsNumeral_itemChars items hEnd) hItems
    exact (hItem.blanks (hLayout.lineBreak _)).mark (by simp [marks])
  | .object [] => exact (h.mark (by simp [marks])).mark (by simp [marks])
  | .object ((key, value) :: fields) =>
    simp only [chars, tokens, List.cons_append, List.append_assoc, List.nil_append]
    have hClose : Lexes ('\x7d' :: rest) (.objectClose :: ts) := h.mark (by simp [marks])
    have hEnd := endsNumeral_blanks_append (hLayout.lineBreak depth)
      (endsNumeral_of_mem (c := '\x7d') rest (by simp))
    have hFields := lexes_fieldChars fields (depth + 1) hd.2 hEnd
      (hClose.blanks (hLayout.lineBreak depth))
    have hValue := lexes_chars value (depth + 1) hd.1 (endsNumeral_fieldChars fields hEnd)
      hFields
    exact ((lexes_field hLayout hValue).blanks (hLayout.lineBreak _)).mark (by simp [marks])

/-- The text of the items after the first is made of their tokens. -/
theorem lexes_itemChars (items : List Document) (depth : Nat) {rest : List Char} {ts : List Token}
    (hItems : AreLegible items) (hRest : Numeral.EndsNumeral rest) (h : Lexes rest ts) :
    Lexes (itemChars layout depth items ++ rest) (itemTokens items ++ ts) := by
  match items with
  | [] => exact h
  | item :: items =>
    simp only [itemChars, itemTokens, List.cons_append, List.append_assoc]
    have hTail := lexes_itemChars items depth hItems.2 hRest h
    have hItem := lexes_chars item depth hItems.1 (endsNumeral_itemChars items hRest) hTail
    exact (hItem.blanks (hLayout.lineBreak _)).mark (by simp [marks])

/-- The text of the fields after the first is made of their tokens. -/
theorem lexes_fieldChars (fields : List (String × Document)) (depth : Nat) {rest : List Char}
    {ts : List Token} (hFields : AreLegibleFields fields) (hRest : Numeral.EndsNumeral rest)
    (h : Lexes rest ts) :
    Lexes (fieldChars layout depth fields ++ rest) (fieldTokens fields ++ ts) := by
  match fields with
  | [] => exact h
  | (key, value) :: fields =>
    simp only [fieldChars, fieldTokens, List.cons_append, List.append_assoc]
    have hTail := lexes_fieldChars fields depth hFields.2 hRest h
    have hValue := lexes_chars value depth hFields.1 (endsNumeral_fieldChars fields hRest)
      hTail
    exact ((lexes_field hLayout hValue).blanks (hLayout.lineBreak _)).mark (by simp [marks])

end

/-- The text of a printed document is made of the tokens of the document. -/
theorem tokens?_print {d : Document} (hd : d.IsLegible) :
    tokens? (d.print layout).toList = some d.tokens := by
  have hLexes := lexes_chars hLayout d 0 hd Numeral.endsNumeral_nil lexes_nil
  rw [List.append_nil, List.append_nil] at hLexes
  rw [print, String.toList_ofList]
  exact hLexes.tokens?

end

end Document

end FlowCanvas.Json
