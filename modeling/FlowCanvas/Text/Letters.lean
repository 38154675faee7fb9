import FlowCanvas.Text.CaseTable

/-!
# Lower and upper case

The case mappings of single characters, by the tables of `FlowCanvas.Text.CaseTable`. A mapping
looks at one character at a time and knows nothing of its neighbours, so a capital sigma becomes
the same small sigma at the end of a word as inside it.
-/

set_option autoImplicit false

namespace FlowCanvas.Text

/-- What a code point maps to under tables of runs and of sequences; itself where neither has
it. -/
def mapCode (sequences : List (Nat × List Nat)) (runs : List CaseRun) (code : Nat) : List Nat :=
  match sequences.lookup code with
  | some codes => codes
  | none =>
    match runs.find? (·.covers code) with
    | some run => [run.apply code]
    | none => [code]

/-- The lower-case form of a character, which may be several characters. -/
def lowerChar (c : Char) : List Char :=
  (mapCode lowerSequences lowerRuns c.toNat).map Char.ofNat

/-- The upper-case form of a character, which may be several characters. -/
def upperChar (c : Char) : List Char :=
  (mapCode upperSequences upperRuns c.toNat).map Char.ofNat

/-- The text with its first character in upper case. -/
def capitalize (s : String) : String :=
  match s.toList with
  | [] => ""
  | c :: rest => String.ofList (upperChar c ++ rest)

end FlowCanvas.Text
