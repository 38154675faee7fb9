import FlowCanvas.Flow.DecisionTable
import FlowCanvas.Flow.PortRules
import FlowCanvas.Proofs.Text.LowerCase
import Mathlib

/-!
# Roles of decision outputs

The normal form of roles is final: normalizing twice is normalizing once, and no white space is
left. The role that a group makes from its name therefore is a known front followed by the normal
form of the name, which keeps it apart from the fixed outputs and from the input of a table.
-/

set_option autoImplicit false

namespace FlowCanvas

open Text (isBlankChar lowerChar)

namespace Role

/-! ## Normal characters -/

/-- A character that normalizing leaves as it is. -/
def IsNormalChar (c : Char) : Prop := isBlankChar c = false ∧ lowerChar c = [c]

/-- A hyphen is a normal character. -/
theorem isNormalChar_hyphen : IsNormalChar '-' :=
  ⟨by decide, Text.lowerChar_of_ascii (by decide) (by decide)⟩

/-- Normalizing makes normal characters only. -/
theorem isNormalChar_of_mem_normalChars {b : Bool} {cs : List Char} {c : Char}
    (h : c ∈ normalChars b cs) : IsNormalChar c := by
  induction cs generalizing b with
  | nil => simp [normalChars] at h
  | cons d cs ih =>
    unfold normalChars at h
    split at h
    · rcases List.mem_append.1 h with hHyphen | hRest
      · have : c = '-' := by
          cases b <;> simp_all
        exact this ▸ isNormalChar_hyphen
      · exact ih hRest
    · rename_i hBlank
      rw [Bool.not_eq_true] at hBlank
      rcases List.mem_append.1 h with hLower | hRest
      · exact ⟨Text.isBlankChar_of_mem_lowerChar hBlank hLower,
          Text.lowerChar_of_mem_lowerChar hLower⟩
      · exact ih hRest

/-- Normalizing takes over normal characters at the front, whatever comes before and after. -/
theorem normalChars_cons_append {b : Bool} {c : Char} {front : List Char}
    (hc : IsNormalChar c) (h : ∀ d ∈ front, IsNormalChar d) (cs : List Char) :
    normalChars b (c :: front ++ cs) = c :: front ++ normalChars false cs := by
  induction front generalizing c b with
  | nil => simp [normalChars, hc.1, hc.2]
  | cons d front ih =>
    have hRest := ih (b := false) (h d List.mem_cons_self)
      (fun e he => h e (List.mem_cons_of_mem _ he))
    rw [List.cons_append, normalChars, if_neg (by simp [hc.1]), hRest, hc.2]
    rfl

/-- Normal characters stay as they are, whatever came before them. -/
theorem normalChars_of_normal {b : Bool} {cs : List Char}
    (h : ∀ c ∈ cs, IsNormalChar c) : normalChars b cs = cs := by
  cases cs with
  | nil => rfl
  | cons c cs =>
    have hAll := normalChars_cons_append (b := b) (h c List.mem_cons_self)
      (fun d hd => h d (List.mem_cons_of_mem _ hd)) []
    simpa [normalChars] using hAll

/-! ## Normal roles -/

/-- A role in its normal form. -/
def IsNormal (r : Role) : Prop := r.normalize = r

/-- Normalizing a second time changes nothing. -/
theorem isNormal_normalize (r : Role) : IsNormal r.normalize := by
  unfold IsNormal normalize
  rw [String.toList_ofList,
    normalChars_of_normal (fun c hc => isNormalChar_of_mem_normalChars hc)]

/-- No white space is left in a normal form. -/
theorem isBlankChar_normalize {r : Role} {c : Char} (h : c ∈ r.normalize.text.toList) :
    isBlankChar c = false := by
  unfold normalize at h
  rw [String.toList_ofList] at h
  exact (isNormalChar_of_mem_normalChars h).1

/-- The role of the default output is in normal form. -/
theorem isNormal_decisionDefault : IsNormal decisionDefault := by
  unfold IsNormal
  decide

/-- The role of the error output is in normal form. -/
theorem isNormal_decisionError : IsNormal decisionError := by
  unfold IsNormal
  decide

/-! ## Roles of groups -/

/-- The characters of the front after the first. -/
def frontRest : List Char := ['e', 'c', 'i', 's', 'i', 'o', 'n', '-', 'o', 'u', 't', '-']

/-- The front of a group's role starts with a letter. -/
theorem toList_decisionOutFront : decisionOutFront.toList = 'd' :: frontRest := by decide

/-- The front of a group's role is made of normal characters. -/
theorem isNormalChar_of_mem_frontRest {c : Char} (h : c ∈ frontRest) : IsNormalChar c := by
  simp only [frontRest, List.mem_cons, List.not_mem_nil, or_false] at h
  rcases h with rfl | rfl | rfl | rfl | rfl | rfl | rfl | rfl | rfl | rfl | rfl | rfl <;>
    exact ⟨by decide, Text.lowerChar_of_ascii (by decide) (by decide)⟩

/-- A group's role is the common front followed by the normal form of the group's name. -/
theorem ofGroupName_eq (name : String) :
    ofGroupName name = ⟨decisionOutFront ++ (normalize ⟨name⟩).text⟩ := by
  have hFirst : IsNormalChar 'd' :=
    ⟨by decide, Text.lowerChar_of_ascii (by decide) (by decide)⟩
  unfold ofGroupName normalize
  rw [mk.injEq, ← String.toList_inj, String.toList_append, String.toList_append,
    String.toList_ofList, String.toList_ofList, toList_decisionOutFront,
    normalChars_cons_append hFirst fun c hc => isNormalChar_of_mem_frontRest hc]

/-- The role of a group is in normal form, whatever the name of the group is. -/
theorem isNormal_ofGroupName (name : String) : IsNormal (ofGroupName name) :=
  isNormal_normalize _

/-- A text starts with what it has been appended to. -/
theorem startsWith_front_append (s t : String) : Text.startsWith (s ++ t) s = true := by
  unfold Text.startsWith
  rw [String.toList_append, Text.stripFront?_eq_some_iff.2 rfl]
  rfl

/-- The role of a group starts like one. -/
theorem startsWith_ofGroupName (name : String) :
    Text.startsWith (ofGroupName name).text decisionOutFront = true := by
  rw [ofGroupName_eq]
  exact startsWith_front_append _ _

/-- The role of a group is that of an output. -/
theorem isDecisionOutput_ofGroupName (name : String) :
    (ofGroupName name).isDecisionOutput = true := by
  simp [isDecisionOutput, startsWith_ofGroupName]

/-- All groups' roles are of one family. -/
theorem family_ofGroupName (name : String) : (ofGroupName name).family = decisionOut := by
  simp [family, startsWith_ofGroupName]

/-- A role outside the groups' family is no group's. -/
theorem ofGroupName_ne {r : Role} (h : Text.startsWith r.text decisionOutFront = false)
    (name : String) : ofGroupName name ≠ r := by
  rintro rfl
  rw [startsWith_ofGroupName] at h
  cases h

/-- No group has the role of the default output. -/
theorem ofGroupName_ne_decisionDefault (name : String) : ofGroupName name ≠ decisionDefault :=
  ofGroupName_ne (by decide) name

/-- No group has the role of the error output. -/
theorem ofGroupName_ne_decisionError (name : String) : ofGroupName name ≠ decisionError :=
  ofGroupName_ne (by decide) name

/-- No group has the role of the input. -/
theorem ofGroupName_ne_tableIn (name : String) : ofGroupName name ≠ tableIn :=
  ofGroupName_ne (by decide) name

end Role

end FlowCanvas
