import FlowCanvas.Proofs.Json.Lexing
import Mathlib

/-!
# Reading printed documents

Fed with the tokens of a document, a reader that expects a value has read the document, whatever is
still open around it, as long as it nests no more deeply than is allowed. Hence a printed document
is read back, in every layout that puts nothing but blanks between tokens
(`Document.parse?_print`).
-/

set_option autoImplicit false

namespace FlowCanvas.Json

namespace Document

mutual

/-- How many arrays and objects of a document are open at the same time, at most. -/
def depth : Document → Nat
  | .array items => itemDepth items + 1
  | .object fields => fieldDepth fields + 1
  | _ => 0

/-- How many arrays and objects of one of several items are open at the same time, at most. -/
def itemDepth : List Document → Nat
  | [] => 0
  | item :: items => max (depth item) (itemDepth items)

/-- How many arrays and objects of the value of one of several fields are open at the same time, at
most. -/
def fieldDepth : List (String × Document) → Nat
  | [] => 0
  | (_, value) :: fields => max (depth value) (fieldDepth fields)

end

end Document

namespace Reader

/-- The reader after some tokens. -/
def feedAll? (r : Reader) (ts : List Token) : Option Reader := ts.foldlM feed? r

/-- A reader that takes a token goes on with the rest. -/
theorem feedAll?_cons {r r' : Reader} {t : Token} (h : feed? r t = some r') (ts : List Token) :
    feedAll? r (t :: ts) = feedAll? r' ts := by
  unfold feedAll?
  rw [List.foldlM_cons, h]
  rfl

/-- A reader that takes some tokens goes on with those behind them. -/
theorem feedAll?_append {r r' : Reader} {ts : List Token} (h : feedAll? r ts = some r')
    (more : List Token) : feedAll? r (ts ++ more) = feedAll? r' more := by
  unfold feedAll? at h ⊢
  rw [List.foldlM_append, h]
  rfl

/-- A document does not start with the end of an array. -/
theorem exists_tokens_eq (d : Document) : ∃ t ts, d.tokens = t :: ts ∧ t ≠ .arrayClose := by
  cases d with
  | array items => cases items <;> exact ⟨_, _, rfl, by simp⟩
  | object fields => cases fields <;> exact ⟨_, _, rfl, by simp⟩
  | _ => exact ⟨_, _, rfl, by simp⟩

/-- After an opening bracket the first item is read like any other. -/
theorem feedAll?_arrayStart (d : Document) (frames : List Frame) (more : List Token) :
    feedAll? (.arrayStart frames) (d.tokens ++ more) =
      feedAll? (.expectValue (.array [] :: frames)) (d.tokens ++ more) := by
  obtain ⟨t, ts, hTokens, hClose⟩ := exists_tokens_eq d
  have hFeed : feed? (.arrayStart frames) t = feed? (.expectValue (.array [] :: frames)) t := by
    cases t <;> first | rfl | exact absurd rfl hClose
  unfold feedAll?
  rw [hTokens, List.cons_append, List.foldlM_cons, List.foldlM_cons, hFeed]

/-- An object is made of the fields that have been read for it. -/
theorem objectOf_map (fields : List (String × Document)) :
    objectOf (fields.map fun field => (some field.1, field.2)) = .object fields := by
  unfold objectOf
  have hAll : (fields.map fun field => (some field.1, field.2)).mapM
      (fun field : Option String × Document => field.1.map (·, field.2)) = some fields := by
    induction fields with
    | nil => rfl
    | cons field fields ih =>
      rw [List.map_cons, List.mapM_cons, ih]
      rfl
  rw [hAll]

mutual

/-- A reader that expects a value reads the document whose tokens come. -/
theorem feedAll?_tokens (d : Document) (frames : List Frame) (hd : d.IsLegible)
    (hDepth : frames.length + d.depth ≤ maxDepth) :
    feedAll? (.expectValue frames) d.tokens = some (.done frames d) := by
  match d with
  | .null => rfl
  | .bool b => rfl
  | .number n => rfl
  | .string s => rfl
  | .array [] =>
    simp only [Document.depth, Document.itemDepth] at hDepth
    have hOpen : feed? (.expectValue frames) .arrayOpen = some (.arrayStart frames) :=
      if_pos (by omega)
    exact feedAll?_cons hOpen _
  | .array (item :: items) =>
    simp only [Document.depth, Document.itemDepth] at hDepth
    have hOpen : feed? (.expectValue frames) .arrayOpen = some (.arrayStart frames) :=
      if_pos (by omega)
    have hItem := feedAll?_tokens item (.array [] :: frames) hd.1
      (by rw [List.length_cons]; omega)
    rw [Document.tokens, feedAll?_cons hOpen, feedAll?_arrayStart, feedAll?_append hItem]
    exact feedAll?_itemTokens items item [] frames hd.2 (by omega)
  | .object [] =>
    simp only [Document.depth, Document.fieldDepth] at hDepth
    have hOpen : feed? (.expectValue frames) .objectOpen = some (.objectStart frames) :=
      if_pos (by omega)
    exact feedAll?_cons hOpen _
  | .object ((key, value) :: fields) =>
    simp only [Document.depth, Document.fieldDepth] at hDepth
    have hOpen : feed? (.expectValue frames) .objectOpen = some (.objectStart frames) :=
      if_pos (by omega)
    have hValue := feedAll?_tokens value (.object [] (some key) :: frames) hd.1
      (by rw [List.length_cons]; omega)
    rw [Document.tokens, feedAll?_cons hOpen, feedAll?_cons rfl, feedAll?_cons rfl,
      feedAll?_append hValue]
    exact feedAll?_fieldTokens fields key value [] frames hd.2 (by omega)

/-- After an item the remaining items are read up to the end of the array. -/
theorem feedAll?_itemTokens (items : List Document) (item : Document) (before : List Document)
    (frames : List Frame) (hItems : Document.AreLegible items)
    (hDepth : frames.length + (Document.itemDepth items + 1) ≤ maxDepth) :
    feedAll? (.done (.array before :: frames) item)
        (Document.itemTokens items ++ [.arrayClose]) =
      some (.done frames (.array (before.reverse ++ item :: items))) := by
  match items with
  | [] =>
    rw [Document.itemTokens, List.nil_append, feedAll?_cons rfl]
    simp [feedAll?]
  | next :: items =>
    simp only [Document.itemDepth] at hDepth
    have hNext := feedAll?_tokens next (.array (item :: before) :: frames) hItems.1
      (by rw [List.length_cons]; omega)
    rw [Document.itemTokens, List.cons_append, List.append_assoc, feedAll?_cons rfl,
      feedAll?_append hNext, feedAll?_itemTokens items next (item :: before) frames hItems.2
        (by omega)]
    simp

/-- After a field the remaining fields are read up to the end of the object. -/
theorem feedAll?_fieldTokens (fields : List (String × Document)) (key : String)
    (value : Document) (before : List (String × Document)) (frames : List Frame)
    (hFields : Document.AreLegibleFields fields)
    (hDepth : frames.length + (Document.fieldDepth fields + 1) ≤ maxDepth) :
    feedAll? (.done (.object (before.map fun field => (some field.1, field.2)) (some key) :: frames)
        value) (Document.fieldTokens fields ++ [.objectClose]) =
      some (.done frames (.object (before.reverse ++ (key, value) :: fields))) := by
  match fields with
  | [] =>
    rw [Document.fieldTokens, List.nil_append, feedAll?_cons rfl]
    have hFields : ((some key, value) ::
        before.map fun field => ((some field.1 : Option String), field.2)).reverse =
          (before.reverse ++ [(key, value)]).map fun field => (some field.1, field.2) := by
      simp
    show some (Reader.done frames (objectOf _)) = _
    rw [hFields, objectOf_map]
  | (nextKey, next) :: fields =>
    simp only [Document.fieldDepth] at hDepth
    have hNext := feedAll?_tokens next
      (.object ((some key, value) :: before.map fun field => (some field.1, field.2))
        (some nextKey) :: frames) hFields.1 (by rw [List.length_cons]; omega)
    have hRest := feedAll?_fieldTokens fields nextKey next ((key, value) :: before) frames hFields.2
      (by omega)
    rw [Document.fieldTokens, List.cons_append, List.cons_append, List.cons_append,
      List.append_assoc, feedAll?_cons rfl, feedAll?_cons rfl, feedAll?_cons rfl,
      feedAll?_append hNext]
    rw [List.map_cons] at hRest
    rw [hRest]
    simp

end

end Reader

/-- A printed document is read back. -/
theorem Document.parse?_print {d : Document} {layout : PageLayout} (hLayout : layout.IsBlank)
    (hd : d.IsLegible) (hDepth : d.depth ≤ maxDepth) :
    Document.parse? (d.print layout) = some d := by
  have hRead := Reader.feedAll?_tokens d [] hd (by rw [List.length_nil]; omega)
  unfold Document.parse? ofTokens?
  rw [tokens?_print hLayout hd, Option.bind_some]
  unfold Reader.feedAll? at hRead
  rw [hRead]
  rfl

end FlowCanvas.Json
