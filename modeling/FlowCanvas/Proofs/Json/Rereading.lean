import FlowCanvas.Proofs.Json.Values
import Mathlib

/-!
# Printed documents that nest too deeply

A printed document is refused if it nests more deeply than is allowed. Nothing else can go wrong
with it: what is read off its text, if anything is, is the document itself
(`Document.eq_of_parse?_print`), and the value that it has been made of
(`Value.eq_of_parse?_print`).
-/

set_option autoImplicit false

namespace FlowCanvas.Json

namespace Reader

variable {r r' : Reader} {frames : List Frame}

/-- A reader that has got through some tokens has taken the first of them. -/
theorem exists_of_feedAll?_cons {t : Token} {ts : List Token}
    (h : feedAll? r (t :: ts) = some r') :
    ∃ next, feed? r t = some next ∧ feedAll? next ts = some r' := by
  unfold feedAll? at h
  rw [List.foldlM_cons] at h
  exact Option.bind_eq_some_iff.1 h

/-- A reader that has got through some tokens has got through those in front. -/
theorem exists_of_feedAll?_append {ts more : List Token} (h : feedAll? r (ts ++ more) = some r') :
    ∃ next, feedAll? r ts = some next ∧ feedAll? next more = some r' := by
  unfold feedAll? at h
  rw [List.foldlM_append] at h
  exact Option.bind_eq_some_iff.1 h

/-- Where a value is expected, an opening bracket starts an array. -/
theorem eq_arrayStart_of_feed? (h : feed? (.expectValue frames) .arrayOpen = some r) :
    r = .arrayStart frames := by
  simp only [feed?, start?] at h
  split at h
  · exact (Option.some.inj h).symm
  · cases h

/-- Where a value is expected, an opening brace starts an object. -/
theorem eq_objectStart_of_feed? (h : feed? (.expectValue frames) .objectOpen = some r) :
    r = .objectStart frames := by
  simp only [feed?, start?] at h
  split at h
  · exact (Option.some.inj h).symm
  · cases h

mutual

/-- A reader that gets through the tokens of a document has read the document. -/
theorem eq_done_of_feedAll?_tokens (d : Document) (hd : d.IsLegible) {frames : List Frame}
    {r : Reader} (h : feedAll? (.expectValue frames) d.tokens = some r) : r = .done frames d := by
  match d with
  | .null | .bool _ | .number _ | .string _ =>
    cases h
    rfl
  | .array [] =>
    obtain ⟨opened, hOpen, hClose⟩ := exists_of_feedAll?_cons h
    cases eq_arrayStart_of_feed? hOpen
    cases hClose
    rfl
  | .array (item :: items) =>
    obtain ⟨opened, hOpen, hInside⟩ := exists_of_feedAll?_cons h
    cases eq_arrayStart_of_feed? hOpen
    rw [feedAll?_arrayStart] at hInside
    obtain ⟨next, hItem, hItems⟩ := exists_of_feedAll?_append hInside
    cases eq_done_of_feedAll?_tokens item hd.1 hItem
    exact eq_done_of_feedAll?_itemTokens items hd.2 hItems
  | .object [] =>
    obtain ⟨opened, hOpen, hClose⟩ := exists_of_feedAll?_cons h
    cases eq_objectStart_of_feed? hOpen
    cases hClose
    rfl
  | .object ((key, value) :: fields) =>
    obtain ⟨opened, hOpen, hInside⟩ := exists_of_feedAll?_cons h
    cases eq_objectStart_of_feed? hOpen
    rw [feedAll?_cons rfl, feedAll?_cons rfl] at hInside
    obtain ⟨next, hValue, hFields⟩ := exists_of_feedAll?_append hInside
    cases eq_done_of_feedAll?_tokens value hd.1 hValue
    exact eq_done_of_feedAll?_fieldTokens fields hd.2 [] hFields

/-- A reader that gets through the items behind the first has read the array. -/
theorem eq_done_of_feedAll?_itemTokens (items : List Document)
    (hItems : Document.AreLegible items) {item : Document} {before : List Document}
    {frames : List Frame} {r : Reader}
    (h : feedAll? (.done (.array before :: frames) item)
      (Document.itemTokens items ++ [.arrayClose]) = some r) :
    r = .done frames (.array (before.reverse ++ item :: items)) := by
  match items with
  | [] =>
    cases h
    rw [List.reverse_cons]
  | next :: items =>
    rw [Document.itemTokens, List.cons_append, List.append_assoc, feedAll?_cons rfl] at h
    obtain ⟨_, hNext, hRest⟩ := exists_of_feedAll?_append h
    cases eq_done_of_feedAll?_tokens next hItems.1 hNext
    rw [eq_done_of_feedAll?_itemTokens items hItems.2 hRest, List.reverse_cons, List.append_assoc]
    rfl

/-- A reader that gets through the fields behind the first has read the object. -/
theorem eq_done_of_feedAll?_fieldTokens (fields : List (String × Document))
    (hFields : Document.AreLegibleFields fields) {key : String} {value : Document}
    (before : List (String × Document)) {frames : List Frame} {r : Reader}
    (h : feedAll? (.done (.object (before.map fun field => (some field.1, field.2)) (some key) ::
      frames) value) (Document.fieldTokens fields ++ [.objectClose]) = some r) :
    r = .done frames (.object (before.reverse ++ (key, value) :: fields)) := by
  match fields with
  | [] =>
    cases h
    rw [← List.map_cons (f := fun field : String × Document => (some field.1, field.2))
      (a := (key, value)), ← List.map_reverse, objectOf_map, List.reverse_cons]
  | (nextKey, next) :: fields =>
    rw [Document.fieldTokens, List.cons_append, List.cons_append, List.cons_append,
      List.append_assoc, feedAll?_cons rfl, feedAll?_cons rfl, feedAll?_cons rfl] at h
    obtain ⟨_, hNext, hRest⟩ := exists_of_feedAll?_append h
    cases eq_done_of_feedAll?_tokens next hFields.1 hNext
    rw [eq_done_of_feedAll?_fieldTokens fields hFields.2 ((key, value) :: before) hRest,
      List.reverse_cons, List.append_assoc]
    rfl

end

end Reader

variable {layout : PageLayout}

/-- What is read off a printed document is the document. -/
theorem Document.eq_of_parse?_print {d e : Document} (hLayout : layout.IsBlank) (hd : d.IsLegible)
    (h : Document.parse? (d.print layout) = some e) : e = d := by
  unfold Document.parse? ofTokens? at h
  rw [tokens?_print hLayout hd, Option.bind_some] at h
  obtain ⟨r, hRead, hResult⟩ := Option.bind_eq_some_iff.1 h
  rw [Reader.eq_done_of_feedAll?_tokens d hd hRead] at hResult
  exact (Option.some.inj hResult).symm

/-- What is read off the text of a value is the value. -/
theorem Value.eq_of_parse?_print {v w : Value} (hLayout : layout.IsBlank) (hv : v.IsLegible)
    (h : Value.parse? (v.toDocument.print layout) = some w) : w = v := by
  obtain ⟨d, hRead, hValue⟩ := Option.bind_eq_some_iff.1 h
  rw [Document.eq_of_parse?_print hLayout (Value.isLegible_toDocument v hv) hRead,
    Value.ofDocument?_toDocument v hv] at hValue
  exact (Option.some.inj hValue).symm

end FlowCanvas.Json
