import FlowCanvas.Proofs.Table.Roles
import Mathlib

/-!
# What the normal form of a role is

A text consists of runs of white space and of other characters, which take turns. Its normal form
has one hyphen for each run of white space and all other characters in lower case
(`Role.toList_normalize`). This makes the role of a group out of its name, and two groups have the
same role exactly if their names have the same normal form (`Role.normalizes_exactly`).
-/

set_option autoImplicit false

namespace FlowCanvas

open Text (isBlankChar lowerChar)

namespace Role

variable {c : Char} {run cs : List Char} {rest : List (List Char)}

/-! ## Runs -/

/-- Whether two characters are both white space or both something else. -/
def areAlike (c d : Char) : Bool := isBlankChar c == isBlankChar d

/-- The runs of white space and of other characters that a text consists of, as long as possible. -/
def runs (cs : List Char) : List (List Char) := cs.splitBy areAlike

/-- The normal form of a run. -/
def normalRun (run : List Char) : List Char :=
  if run.all isBlankChar then ['-'] else run.flatMap lowerChar

/-- Texts that are runs of white space and of other characters in turn, none of them empty. -/
structure TakeTurns (parts : List (List Char)) : Prop where
  nil_notMem : [] ∉ parts
  alike : ∀ run ∈ parts, run.IsChain fun c d => areAlike c d
  turns : parts.IsChain fun run next => ∃ hRun hNext,
    areAlike (run.getLast hRun) (next.head hNext) = false

/-- The runs of a text take turns. -/
theorem takeTurns_runs (cs : List Char) : TakeTurns (runs cs) where
  nil_notMem := List.nil_notMem_splitBy _ _
  alike _ hRun := List.isChain_of_mem_splitBy hRun
  turns := List.isChain_getLast_head_splitBy _ _

/-- Runs that take turns do so without the first one. -/
theorem TakeTurns.tail (h : TakeTurns (run :: rest)) : TakeTurns rest where
  nil_notMem hNil := h.nil_notMem (List.mem_cons_of_mem _ hNil)
  alike run hRun := h.alike run (List.mem_cons_of_mem _ hRun)
  turns := h.turns.tail

/-- The characters of a run are all like the first one. -/
theorem isBlankChar_of_mem_run (h : (c :: run).IsChain fun c d => areAlike c d) :
    ∀ d ∈ c :: run, isBlankChar d = isBlankChar c := by
  induction run generalizing c with
  | nil => simp
  | cons d run ih =>
    obtain ⟨hNext, hRest⟩ := List.isChain_cons_cons.1 h
    refine List.forall_mem_cons.2 ⟨rfl, fun e he => ?_⟩
    rw [ih hRest e he, beq_iff_eq.1 hNext]

/-- What follows white space starts with another character. -/
theorem TakeTurns.isBlankChar_head? (h : TakeTurns (run :: rest))
    (hBlank : ∀ d ∈ run, isBlankChar d = true) :
    ∀ c ∈ rest.flatten.head?, isBlankChar c = false := by
  cases rest with
  | nil => exact nofun
  | cons next rest =>
    obtain ⟨⟨hRun, hNext, hDiffers⟩, -⟩ := List.isChain_cons_cons.1 h.turns
    cases next with
    | nil => exact absurd rfl hNext
    | cons d next =>
      rintro c ⟨⟩
      rw [areAlike, hBlank _ (List.getLast_mem hRun)] at hDiffers
      simpa using hDiffers

/-- The normal form of white space is one hyphen. -/
theorem normalRun_of_blank (h : ∀ d ∈ run, isBlankChar d = true) : normalRun run = ['-'] :=
  if_pos (List.all_eq_true.2 h)

/-- The normal form of a run with something in it is its lower case. -/
theorem normalRun_of_filled (hc : c ∈ run) (h : isBlankChar c = false) :
    normalRun run = run.flatMap lowerChar := by
  refine if_neg fun hAll => ?_
  rw [List.all_eq_true.1 hAll c hc] at h
  cases h

/-! ## Run by run -/

/-- A character that is no white space is normalized on its own, whatever came before it. -/
theorem normalChars_cons_of_filled (b : Bool) (h : isBlankChar c = false) (cs : List Char) :
    normalChars b (c :: cs) = lowerChar c ++ normalChars false cs := by
  rw [normalChars, if_neg (ne_true_of_eq_false h)]

/-- A run without white space is normalized to its lower case. -/
theorem normalChars_filled_append (h : ∀ d ∈ run, isBlankChar d = false) (cs : List Char) :
    normalChars false (run ++ cs) = run.flatMap lowerChar ++ normalChars false cs := by
  induction run with
  | nil => rfl
  | cons d run ih =>
    rw [List.cons_append, normalChars_cons_of_filled false (h d List.mem_cons_self),
      ih fun e he => h e (List.mem_cons_of_mem _ he), List.flatMap_cons, List.append_assoc]

/-- White space after white space leaves no trace. -/
theorem normalChars_blanks_append (h : ∀ d ∈ run, isBlankChar d = true) (cs : List Char) :
    normalChars true (run ++ cs) = normalChars true cs := by
  induction run with
  | nil => rfl
  | cons d run ih =>
    rw [List.cons_append, normalChars, if_pos (h d List.mem_cons_self),
      ih fun e he => h e (List.mem_cons_of_mem _ he)]
    rfl

/-- What has been before makes no difference to a text that starts with no white space. -/
theorem normalChars_eq_of_head? (h : ∀ c ∈ cs.head?, isBlankChar c = false) :
    normalChars true cs = normalChars false cs := by
  cases cs with
  | nil => rfl
  | cons c cs => rw [normalChars_cons_of_filled _ (h c rfl), normalChars_cons_of_filled _ (h c rfl)]

/-- Runs that take turns are normalized one by one. -/
theorem TakeTurns.normalChars_flatten {parts : List (List Char)} (h : TakeTurns parts) :
    normalChars false parts.flatten = parts.flatMap normalRun := by
  induction parts with
  | nil => rfl
  | cons run rest ih =>
    cases run with
    | nil => exact absurd List.mem_cons_self h.nil_notMem
    | cons c run =>
      have hLike := isBlankChar_of_mem_run (h.alike _ List.mem_cons_self)
      rw [List.flatten_cons, List.flatMap_cons, ← ih h.tail]
      cases hc : isBlankChar c with
      | false =>
        rw [hc] at hLike
        rw [normalChars_filled_append hLike, normalRun_of_filled List.mem_cons_self hc]
      | true =>
        rw [hc] at hLike
        -- the flag is set behind the run, but the next run does not start with white space
        have hNext := normalChars_eq_of_head? (h.isBlankChar_head? hLike)
        rw [normalRun_of_blank hLike, List.cons_append, normalChars, if_pos hc,
          normalChars_blanks_append fun d hd => hLike d (List.mem_cons_of_mem _ hd), hNext]
        rfl

/-- A text is normalized run by run. -/
theorem toList_normalize (r : Role) :
    r.normalize.text.toList = (runs r.text.toList).flatMap normalRun := by
  have hText : (runs r.text.toList).flatten = r.text.toList := List.flatten_splitBy _ _
  rw [normalize, String.toList_ofList, ← (takeTurns_runs _).normalChars_flatten, hText]

/-! ## Roles of groups -/

/-- Groups have the same role if their names have the same normal form. -/
theorem ofGroupName_inj {name other : String} :
    ofGroupName name = ofGroupName other ↔ normalize ⟨name⟩ = normalize ⟨other⟩ := by
  rw [ofGroupName_eq, ofGroupName_eq, mk.injEq, ← String.toList_inj, String.toList_append,
    String.toList_append, List.append_cancel_left_eq, String.toList_inj]
  exact ⟨congrArg Role.mk, congrArg Role.text⟩

/-- The normal form of a role has one hyphen for each run of white space and all other characters in
lower case. It is final, and no white space is left in it. The role of a group is a front that all
groups share and the normal form of the group's name: it is the role of an output and none of the
fixed ones, and groups share it exactly if their names have the same normal form. -/
theorem normalizes_exactly (r : Role) (name other : String) :
    r.normalize.text.toList = (runs r.text.toList).flatMap normalRun ∧
      r.normalize.normalize = r.normalize ∧
      (∀ c ∈ r.normalize.text.toList, isBlankChar c = false) ∧
      (ofGroupName name).text = "decision-out-" ++ (normalize ⟨name⟩).text ∧
      (ofGroupName name).isDecisionOutput = true ∧
      ofGroupName name ∉ [tableIn, decisionDefault, decisionError] ∧
      (ofGroupName name = ofGroupName other ↔ normalize ⟨name⟩ = normalize ⟨other⟩) := by
  have hText : (ofGroupName name).text = "decision-out-" ++ (normalize ⟨name⟩).text :=
    congrArg Role.text (ofGroupName_eq name)
  have hFixed : ofGroupName name ∉ [tableIn, decisionDefault, decisionError] := by
    simp only [List.mem_cons, List.not_mem_nil, or_false, not_or]
    exact ⟨ofGroupName_ne_tableIn name, ofGroupName_ne_decisionDefault name,
      ofGroupName_ne_decisionError name⟩
  exact ⟨toList_normalize r, isNormal_normalize r, fun c => isBlankChar_normalize, hText,
    isDecisionOutput_ofGroupName name, hFixed, ofGroupName_inj⟩

/-- White space at the ends is not taken off, and a character may have two in lower case. -/
example : ofGroupName " İ \t\u3000X" = ⟨"decision-out--i\u0307-x"⟩ := by decide

end Role

end FlowCanvas
