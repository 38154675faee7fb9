import FlowCanvas.Flow.Id
import Mathlib

/-!
# Flat texts of ids

A port id is read back from its text if its node is plain, that is, free of the characters that
separate the parts of a flat text, and if its role has no colon. If the node has underscores, though
none in front, a port of another node is read (`PortId.isOk_parse_text`). In the text of a
connection id a plus sign in the role of the source comes before the one that separates the ports.
The text can be read all the same, and means the same text, unless an underscore follows that plus
sign (`ConnectionId.isOk_parse_text_iff`).
-/

set_option autoImplicit false

namespace FlowCanvas

/-- An id without characters that mean something in flat texts, as the text of a UUID is. -/
structure ItemId.IsPlain (id : ItemId) : Prop where
  ne_nil : id.text.toList ≠ []
  underscore : '_' ∉ id.text.toList
  plus : '+' ∉ id.text.toList
  colon : ':' ∉ id.text.toList

/-- An id that is cut off whole or in its middle when the flat text of a port is read. -/
structure ItemId.IsCuttable (id : ItemId) : Prop where
  ne_nil : id.text.toList ≠ []
  head_ne : id.text.toList.head? ≠ some '_'
  colon : ':' ∉ id.text.toList

instance (id : ItemId) : Decidable id.IsCuttable :=
  decidable_of_iff (id.text.toList ≠ [] ∧ id.text.toList.head? ≠ some '_' ∧
    ':' ∉ id.text.toList) ⟨fun h => ⟨h.1, h.2.1, h.2.2⟩, fun h => ⟨h.ne_nil, h.head_ne, h.colon⟩⟩

/-- The characters of a UUID. -/
def ItemId.uuidChars : List Char :=
  ['-', '0', '1', '2', '3', '4', '5', '6', '7', '8', '9', 'a', 'b', 'c', 'd', 'e', 'f']

/-- The text of a UUID is plain. -/
theorem ItemId.isPlain_of_uuidChars {id : ItemId} (hNonempty : id.text.toList ≠ [])
    (h : id.text.toList.all uuidChars.contains = true) : id.IsPlain where
  ne_nil := hNonempty
  underscore hIn := absurd (List.all_eq_true.1 h '_' hIn) (by decide)
  plus hIn := absurd (List.all_eq_true.1 h '+' hIn) (by decide)
  colon hIn := absurd (List.all_eq_true.1 h ':' hIn) (by decide)

namespace Role

/-- A role without a colon. -/
def IsColonFree (r : Role) : Prop := ':' ∉ r.text.toList

instance (r : Role) : Decidable r.IsColonFree := inferInstanceAs (Decidable (':' ∉ r.text.toList))

/-- A role that starts with something else than a separator. -/
def HasStart (r : Role) : Prop := r.text.toList.head? ∉ [none, some '+', some ':']

instance (r : Role) : Decidable r.HasStart :=
  inferInstanceAs (Decidable (r.text.toList.head? ∉ [none, some '+', some ':']))

/-- A role has a start if its first character is no plus sign and no colon. -/
theorem hasStart_iff {r : Role} :
    r.HasStart ↔ ∃ c rest, r.text.toList = c :: rest ∧ c ≠ '+' ∧ c ≠ ':' := by
  unfold HasStart
  cases r.text.toList <;> simp

/-- A role of which something is left when it is read: it does not start with a colon. -/
def IsReadable (r : Role) : Prop := r.text.toList.head? ∉ [none, some ':']

instance (r : Role) : Decidable r.IsReadable :=
  inferInstanceAs (Decidable (r.text.toList.head? ∉ [none, some ':']))

/-- A role with a start can be read. -/
theorem HasStart.isReadable {r : Role} (h : r.HasStart) : r.IsReadable := by
  unfold HasStart at h
  unfold IsReadable
  simp only [List.mem_cons, List.not_mem_nil, or_false, not_or] at h ⊢
  exact ⟨h.1, h.2.2⟩

/-- A role without a colon can be read, unless it is empty. -/
theorem IsColonFree.isReadable {r : Role} (h : r.IsColonFree) (hNonempty : r.text ≠ "") :
    r.IsReadable := by
  unfold IsColonFree at h
  unfold IsReadable
  cases hText : r.text.toList with
  | nil => exact absurd (String.toList_eq_nil_iff.1 hText) hNonempty
  | cons c rest =>
    rw [hText, List.mem_cons, not_or] at h
    simpa using Ne.symm h.1

/-- A role with an underscore right behind its first plus sign. -/
def HasPlusUnderscore (r : Role) : Prop :=
  ∃ before after, r.text.toList = before ++ '+' :: '_' :: after ∧ '+' ∉ before

/-- Whether an underscore follows the first plus sign of a role can be seen where the role is
cut. -/
theorem hasPlusUnderscore_iff {r : Role} :
    r.HasPlusUnderscore ↔ (Text.cutAt? '+' r.text.toList).bind (·.2.head?) = some '_' := by
  rw [Option.bind_eq_some_iff]
  constructor
  · rintro ⟨before, after, hText, hPlus⟩
    exact ⟨(before, '_' :: after), Text.cutAt?_eq_some_iff.2 ⟨hText, hPlus⟩, rfl⟩
  · rintro ⟨⟨before, rest⟩, hCut, hHead⟩
    obtain ⟨hText, hPlus⟩ := Text.cutAt?_eq_some_iff.1 hCut
    obtain ⟨after, rfl⟩ := List.head?_eq_some_iff.1 hHead
    exact ⟨before, after, hText, hPlus⟩

instance (r : Role) : Decidable r.HasPlusUnderscore := decidable_of_iff' _ hasPlusUnderscore_iff

end Role

/-! ## Cutting texts -/

/-- A text is cut in one way only at the first place of a character. -/
theorem Text.append_cons_inj {c : Char} {before after before' after' : List Char}
    (h : before ++ c :: after = before' ++ c :: after') (hc : c ∉ before) (hc' : c ∉ before') :
    before = before' ∧ after = after' := by
  have hCut : Text.cutAt? c (before ++ c :: after) = some (before, after) :=
    Text.cutAt?_eq_some_iff.2 ⟨rfl, hc⟩
  have hCut' : Text.cutAt? c (before ++ c :: after) = some (before', after') :=
    Text.cutAt?_eq_some_iff.2 ⟨h, hc'⟩
  rw [hCut, Option.some.injEq, Prod.mk.injEq] at hCut'
  exact hCut'

namespace PortId

/-- The text of a port is its node and its role with an underscore between them. -/
theorem toList_text (p : PortId) :
    p.text.toList = p.node.text.toList ++ '_' :: p.role.text.toList := by
  simp [text]

/-- Keys of ports are told apart by their texts if their nodes have no underscores. -/
theorem text_inj {p q : PortId} (hp : '_' ∉ p.node.text.toList) (hq : '_' ∉ q.node.text.toList)
    (h : p.text = q.text) : p = q := by
  have hText := congrArg String.toList h
  rw [toList_text, toList_text] at hText
  obtain ⟨hNode, hRole⟩ := Text.append_cons_inj hText hp hq
  obtain ⟨⟨n⟩, ⟨r⟩⟩ := p
  obtain ⟨⟨m⟩, ⟨s⟩⟩ := q
  rw [String.toList_inj] at hNode hRole
  simp only at hNode hRole
  rw [hNode, hRole]

/-- A text without a colon is kept as a whole. -/
theorem upToColon_of_notMem {cs : List Char} (h : ':' ∉ cs) : upToColon cs = cs := by
  unfold upToColon
  rw [List.takeWhile_eq_self_iff]
  intro c hc
  simpa using fun hColon : c = ':' => h (hColon ▸ hc)

/-- What is kept of a text without a colon is not empty, unless the text is. -/
theorem upToColon_ne_nil_of_notMem {cs : List Char} (h : ':' ∉ cs) (hNonempty : cs ≠ []) :
    upToColon cs ≠ [] := by
  rwa [upToColon_of_notMem h]

/-- There is no colon in what is kept of a text. -/
theorem colon_notMem_upToColon (cs : List Char) : ':' ∉ upToColon cs := by
  intro h
  have hKept := List.mem_takeWhile_imp h
  simp at hKept

/-- Something is kept of a text that starts with no colon. -/
theorem upToColon_ne_nil {c : Char} {cs : List Char} (h : c ≠ ':') : upToColon (c :: cs) ≠ [] := by
  simp [upToColon, h]

/-- Something is kept of a role that can be read. -/
theorem upToColon_ne_nil_of_isReadable {r : Role} (h : r.IsReadable) :
    upToColon r.text.toList ≠ [] := by
  unfold Role.IsReadable at h
  cases hText : r.text.toList with
  | nil => simp [hText] at h
  | cons c rest =>
    rw [hText] at h
    exact upToColon_ne_nil (by simpa using h)

/-- A text is read as a port whose node stands before the first underscore and whose role stands
between that and the next colon. -/
theorem parse_eq_ok_iff {raw : String} {p : PortId} :
    parse raw = .ok p ↔
      ∃ rest, raw.toList = p.node.text.toList ++ '_' :: rest ∧ '_' ∉ p.node.text.toList ∧
        p.node.text.toList ≠ [] ∧ p.role.text.toList = upToColon rest ∧ upToColon rest ≠ [] := by
  unfold parse
  constructor
  · intro h
    split at h
    · cases h
    · rename_i node rest hCut
      obtain ⟨hRaw, hNode⟩ := Text.cutAt?_eq_some_iff.1 hCut
      simp only at h
      split at h
      · cases h
      · rename_i hParts
        cases h
        simp only [Bool.or_eq_true, List.isEmpty_iff, not_or] at hParts
        refine ⟨rest, ?_, ?_, ?_, ?_, hParts.2⟩ <;> simp [hRaw, hNode, hParts.1]
  · rintro ⟨rest, hRaw, hNode, hNonempty, hRole, hRoleNonempty⟩
    rw [Text.cutAt?_eq_some_iff.2 ⟨hRaw, hNode⟩]
    simp only
    rw [if_neg (by simp [hNonempty, hRoleNonempty]), ← hRole, String.ofList_toList,
      String.ofList_toList]

/-- What is read from the text of a port is the port, except that its role ends before its first
colon. -/
theorem parse_text {p : PortId} (hNode : p.node.IsPlain) (hRole : p.role.HasStart) :
    parse p.text = .ok ⟨p.node, ⟨String.ofList (upToColon p.role.text.toList)⟩⟩ :=
  parse_eq_ok_iff.2 ⟨p.role.text.toList, toList_text p, hNode.underscore, hNode.ne_nil, by simp,
    upToColon_ne_nil_of_isReadable hRole.isReadable⟩

/-- For its own node the text of a port is read as the port, up to the first colon of the role. -/
theorem parseFor_text {p : PortId} (hRole : p.role.IsReadable) :
    parseFor p.node p.text = .ok ⟨p.node, ⟨String.ofList (upToColon p.role.text.toList)⟩⟩ := by
  have hStrip : Text.stripFront? (p.node.text.toList ++ ['_']) p.text.toList =
      some p.role.text.toList :=
    Text.stripFront?_eq_some_iff.2 (by rw [toList_text]; simp)
  unfold parseFor
  rw [hStrip]
  simp only
  rw [if_neg (by simp [upToColon_ne_nil_of_isReadable hRole])]

/-- A role ends before its first colon. -/
theorem isColonFree_of_parseFor {node : ItemId} {raw : String} {p : PortId}
    (h : parseFor node raw = .ok p) : p.role.IsColonFree := by
  unfold parseFor at h
  split at h
  · cases h
  · simp only at h
    split at h
    · cases h
    · cases h
      unfold Role.IsColonFree
      rw [String.toList_ofList]
      exact colon_notMem_upToColon _

/-- A text without colons that is read as a port is the text of that port. -/
theorem text_of_parse {raw : String} {p : PortId} (hColon : ':' ∉ raw.toList)
    (h : parse raw = .ok p) : p.text = raw := by
  obtain ⟨rest, hRaw, -, -, hRole, -⟩ := parse_eq_ok_iff.1 h
  have hRest : ':' ∉ rest := fun hIn => hColon (hRaw ▸ by simp [hIn])
  rw [← String.toList_inj, toList_text, hRole, upToColon_of_notMem hRest, hRaw]

/-- What is left of a text that is read as a port is a front part of it. -/
theorem text_isPrefix_of_parse {raw : String} {p : PortId} (h : parse raw = .ok p) :
    p.text.toList <+: raw.toList := by
  obtain ⟨rest, hRaw, -, -, hRole, -⟩ := parse_eq_ok_iff.1 h
  rw [toList_text, hRole, hRaw, List.prefix_append_right_inj, List.cons_prefix_cons]
  exact ⟨rfl, List.takeWhile_prefix _⟩

/-- What has been read as a port is read back from its own text. -/
theorem parse_text_of_parse {raw : String} {p : PortId} (h : parse raw = .ok p) :
    parse p.text = .ok p := by
  obtain ⟨rest, -, hNode, hNonempty, hRole, hRoleNonempty⟩ := parse_eq_ok_iff.1 h
  have hColon : ':' ∉ p.role.text.toList := hRole ▸ colon_notMem_upToColon rest
  refine parse_eq_ok_iff.2 ⟨p.role.text.toList, toList_text p, hNode, hNonempty, ?_, ?_⟩
  · rw [upToColon_of_notMem hColon]
  · rw [upToColon_of_notMem hColon, hRole]
    exact hRoleNonempty

/-- A text can be read as a port if something stands before its first underscore and something
between that and the next colon. -/
theorem isOk_parse (node rest : List Char) (hNode : '_' ∉ node) (hNonempty : node ≠ [])
    (hRest : upToColon rest ≠ []) :
    ∃ p, parse (String.ofList (node ++ '_' :: rest)) = .ok p := by
  refine ⟨⟨⟨String.ofList node⟩, ⟨String.ofList (upToColon rest)⟩⟩,
    parse_eq_ok_iff.2 ⟨rest, ?_⟩⟩
  simp [hNode, hNonempty, hRest]

/-- The text of a port can be read, though perhaps as a port of another node. -/
theorem isOk_parse_text {p : PortId} (hNode : p.node.IsCuttable) (hRole : p.role.IsReadable) :
    ∃ q, parse p.text = .ok q := by
  have hRoleRest := upToColon_ne_nil_of_isReadable hRole
  rw [← String.ofList_toList (s := p.text), toList_text]
  cases hCut : Text.cutAt? '_' p.node.text.toList with
  | none => exact isOk_parse _ _ (Text.cutAt?_eq_none_iff.1 hCut) hNode.ne_nil hRoleRest
  | some parts =>
    -- the node has an underscore, so its first part is read as the node
    obtain ⟨before, after⟩ := parts
    obtain ⟨hText, hFree⟩ := Text.cutAt?_eq_some_iff.1 hCut
    have hBefore : before ≠ [] := by
      rintro rfl
      exact hNode.head_ne (by rw [hText]; rfl)
    have hColon := hNode.colon
    rw [hText] at hColon ⊢
    rw [List.append_assoc, List.cons_append]
    refine isOk_parse _ _ hFree hBefore ?_
    cases after with
    | nil => exact upToColon_ne_nil (by decide)
    | cons c rest => exact upToColon_ne_nil fun hEq => hColon (by simp [hEq])

end PortId

namespace ConnectionId

/-- The text of a connection is its source and its target with a plus sign between them. -/
theorem toList_text (c : ConnectionId) :
    c.text.toList = c.source.text.toList ++ '+' :: c.target.text.toList := by
  simp [text]

/-- The keys of two connections with the same text are the same key, if their nodes are plain and
the roles of their targets have no separators. -/
theorem text_inj {c d : ConnectionId} (h : c.text = d.text) (hcs : c.source.node.IsPlain)
    (hds : d.source.node.IsPlain) (hct : c.target.node.IsPlain) (hdt : d.target.node.IsPlain)
    (hcr : '_' ∉ c.target.role.text.toList) (hdr : '_' ∉ d.target.role.text.toList) : c = d := by
  have hText := congrArg String.toList h
  simp only [toList_text, PortId.toList_text, List.append_assoc, List.cons_append] at hText
  obtain ⟨hSource, hRest⟩ := Text.append_cons_inj hText hcs.underscore hds.underscore
  -- from behind, the target's role ends at the last underscore and its node at the last plus sign
  have hReversed := congrArg List.reverse hRest
  simp only [List.reverse_append, List.reverse_cons, List.append_assoc, List.singleton_append]
    at hReversed
  obtain ⟨hTargetRole, hRest'⟩ := Text.append_cons_inj hReversed (by simpa using hcr)
    (by simpa using hdr)
  obtain ⟨hTarget, hSourceRole⟩ := Text.append_cons_inj hRest' (by simpa using hct.plus)
    (by simpa using hdt.plus)
  rw [List.reverse_inj, String.toList_inj] at hTargetRole hTarget hSourceRole
  rw [String.toList_inj] at hSource
  obtain ⟨⟨⟨s⟩, ⟨r⟩⟩, ⟨⟨t⟩, ⟨u⟩⟩⟩ := c
  obtain ⟨⟨⟨s'⟩, ⟨r'⟩⟩, ⟨⟨t'⟩, ⟨u'⟩⟩⟩ := d
  simp only at hSource hSourceRole hTarget hTargetRole
  rw [hSource, hSourceRole, hTarget, hTargetRole]

/-- A text is read as a connection whose ports stand before and behind the first plus sign. -/
theorem parse_eq_ok_iff {raw : String} {c : ConnectionId} :
    parse raw = .ok c ↔
      ∃ source target, raw.toList = source ++ '+' :: target ∧ '+' ∉ source ∧
        PortId.parse (String.ofList source) = .ok c.source ∧
        PortId.parse (String.ofList target) = .ok c.target := by
  unfold parse
  constructor
  · intro h
    split at h
    · cases h
    · rename_i source target hCut
      obtain ⟨hRaw, hPlus⟩ := Text.cutAt?_eq_some_iff.1 hCut
      refine ⟨source, target, hRaw, hPlus, ?_⟩
      cases hSource : PortId.parse (String.ofList source) with
      | error e =>
        rw [hSource] at h
        cases h
      | ok p =>
        cases hTarget : PortId.parse (String.ofList target) with
        | error e =>
          rw [hSource, hTarget] at h
          cases h
        | ok q =>
          rw [hSource, hTarget] at h
          cases h
          exact ⟨rfl, rfl⟩
  · rintro ⟨source, target, hRaw, hPlus, hSource, hTarget⟩
    rw [Text.cutAt?_eq_some_iff.2 ⟨hRaw, hPlus⟩]
    simp only
    rw [hSource, hTarget]
    rfl

/-- A text without colons that is read as a connection id is the text of that id. -/
theorem text_of_parse {raw : String} {c : ConnectionId} (hColon : ':' ∉ raw.toList)
    (h : parse raw = .ok c) : c.text = raw := by
  obtain ⟨source, target, hRaw, -, hSource, hTarget⟩ := parse_eq_ok_iff.1 h
  rw [hRaw, List.mem_append, List.mem_cons, not_or, not_or] at hColon
  have hSourceText := PortId.text_of_parse (by simpa using hColon.1) hSource
  have hTargetText := PortId.text_of_parse (by simpa using hColon.2.2) hTarget
  rw [← String.toList_inj, toList_text, hSourceText, hTargetText, hRaw]
  simp

/-- There is no plus sign in the source of a connection that has been read. -/
theorem plus_notMem_source_of_parse {raw : String} {c : ConnectionId} (h : parse raw = .ok c) :
    '+' ∉ c.source.text.toList := by
  obtain ⟨source, target, -, hPlus, hSource, -⟩ := parse_eq_ok_iff.1 h
  have hFront := PortId.text_isPrefix_of_parse hSource
  rw [String.toList_ofList] at hFront
  exact fun hIn => hPlus (hFront.subset hIn)

/-- What has been read as a connection is read back from its own text. -/
theorem parse_text_of_parse {raw : String} {c : ConnectionId} (h : parse raw = .ok c) :
    parse c.text = .ok c := by
  have hPlus := plus_notMem_source_of_parse h
  obtain ⟨source, target, -, -, hSource, hTarget⟩ := parse_eq_ok_iff.1 h
  refine parse_eq_ok_iff.2
    ⟨c.source.text.toList, c.target.text.toList, toList_text c, hPlus, ?_, ?_⟩
  · rw [String.ofList_toList]
    exact PortId.parse_text_of_parse hSource
  · rw [String.ofList_toList]
    exact PortId.parse_text_of_parse hTarget

/-- An id whose source has an underscore right behind the first plus sign of its role cannot be read
from its text: what stands behind that sign starts with an underscore, so it names no node. -/
theorem not_isOk_parse_text {c : ConnectionId} (hSource : c.source.node.IsPlain)
    (h : c.source.role.HasPlusUnderscore) : ¬ ∃ d, parse c.text = .ok d := by
  obtain ⟨before, after, hRole, hPlus⟩ := h
  rintro ⟨d, hd⟩
  obtain ⟨source, target, hRaw, hPlusSource, -, hParse⟩ := parse_eq_ok_iff.1 hd
  have hFirst : '+' ∉ c.source.node.text.toList ++ '_' :: before := by
    simp [hSource.plus, hPlus]
  rw [toList_text, PortId.toList_text, hRole] at hRaw
  have hSplit : (c.source.node.text.toList ++ '_' :: before) ++ '+' ::
      ('_' :: after ++ '+' :: c.target.text.toList) = source ++ '+' :: target := by
    rw [← hRaw]
    simp
  obtain ⟨-, rfl⟩ := Text.append_cons_inj hSplit hFirst hPlusSource
  obtain ⟨rest, hParts, hNode, hNonempty, -⟩ := PortId.parse_eq_ok_iff.1 hParse
  rw [String.toList_ofList] at hParts
  have hSame : [] ++ '_' :: (after ++ '+' :: c.target.text.toList) =
      d.target.node.text.toList ++ '_' :: rest := by simpa using hParts
  exact hNonempty (Text.append_cons_inj hSame List.not_mem_nil hNode).1.symm

/-- The text of a connection id can be read if those of its ports can be and there is no plus sign
in that of its source. -/
theorem isOk_parse_text_of_notMem {c : ConnectionId}
    (hSource : ∃ p, PortId.parse c.source.text = .ok p)
    (hTarget : ∃ q, PortId.parse c.target.text = .ok q) (hNode : '+' ∉ c.source.node.text.toList)
    (hRole : '+' ∉ c.source.role.text.toList) : ∃ d, parse c.text = .ok d := by
  obtain ⟨p, hp⟩ := hSource
  obtain ⟨q, hq⟩ := hTarget
  refine ⟨⟨p, q⟩, parse_eq_ok_iff.2 ⟨c.source.text.toList, c.target.text.toList, toList_text c, ?_,
    by rwa [String.ofList_toList], by rwa [String.ofList_toList]⟩⟩
  rw [PortId.toList_text]
  simp [hNode, hRole]

/-- What stands behind a plus sign in the text of a connection id can be read as a port, unless it
starts with an underscore. -/
theorem isOk_parse_behind_plus {after : List Char} {p : PortId} (hNode : p.node.IsPlain)
    (hRole : p.role.HasStart) (hRoleColon : p.role.IsColonFree) (hColon : ':' ∉ after)
    (hUnderscore : after.head? ≠ some '_') :
    ∃ q, PortId.parse (String.ofList (after ++ '+' :: p.text.toList)) = .ok q := by
  rw [PortId.toList_text]
  have hRoleText : ':' ∉ p.role.text.toList := hRoleColon
  cases hCut : Text.cutAt? '_' after with
  | none =>
    have hFree := Text.cutAt?_eq_none_iff.1 hCut
    have hNonempty : p.role.text.toList ≠ [] := by
      obtain ⟨d, rest, hText, -⟩ := Role.hasStart_iff.1 hRole
      simp [hText]
    have hParse := PortId.isOk_parse (after ++ '+' :: p.node.text.toList) p.role.text.toList
      (by simp [hFree, hNode.underscore]) (by simp)
      (PortId.upToColon_ne_nil_of_isReadable hRole.isReadable)
    simpa using hParse
  | some parts =>
    obtain ⟨node, rest⟩ := parts
    obtain ⟨rfl, hFree⟩ := Text.cutAt?_eq_some_iff.1 hCut
    have hNonempty : node ≠ [] := by
      rintro rfl
      exact hUnderscore rfl
    have hRest : ':' ∉ rest := fun hIn => hColon (by simp [hIn])
    have hParse := PortId.isOk_parse node
      (rest ++ '+' :: (p.node.text.toList ++ '_' :: p.role.text.toList)) hFree hNonempty
      (PortId.upToColon_ne_nil_of_notMem (by simp [hRest, hNode.colon, hRoleText]) (by simp))
    simpa using hParse

/-- The text of a connection id can be read, unless the role of its source has an underscore right
behind its first plus sign. -/
theorem isOk_parse_text_iff {c : ConnectionId} (hSource : c.source.node.IsPlain)
    (hTarget : c.target.node.IsPlain) (hSourceRole : c.source.role.HasStart)
    (hTargetRole : c.target.role.HasStart) (hColon : c.source.role.IsColonFree)
    (hTargetColon : c.target.role.IsColonFree) :
    (∃ d, parse c.text = .ok d) ↔ ¬ c.source.role.HasPlusUnderscore := by
  refine ⟨fun hRead hHas => not_isOk_parse_text hSource hHas hRead, fun hNot => ?_⟩
  cases hCut : Text.cutAt? '+' c.source.role.text.toList with
  | none =>
    exact isOk_parse_text_of_notMem ⟨_, PortId.parse_text hSource hSourceRole⟩
      ⟨_, PortId.parse_text hTarget hTargetRole⟩ hSource.plus (Text.cutAt?_eq_none_iff.1 hCut)
  | some parts =>
    obtain ⟨before, after⟩ := parts
    obtain ⟨hRole, hPlus⟩ := Text.cutAt?_eq_some_iff.1 hCut
    unfold Role.IsColonFree at hColon
    rw [hRole, List.mem_append, List.mem_cons, not_or, not_or] at hColon
    have hBefore : before ≠ [] := by
      rintro rfl
      obtain ⟨d, rest, hText, hdPlus, -⟩ := Role.hasStart_iff.1 hSourceRole
      rw [hRole, List.nil_append, List.cons.injEq] at hText
      exact hdPlus hText.1.symm
    have hUnderscore : after.head? ≠ some '_' := by
      intro hHead
      obtain ⟨rest, rfl⟩ := List.head?_eq_some_iff.1 hHead
      exact hNot ⟨before, rest, hRole, hPlus⟩
    obtain ⟨p, hp⟩ :=
      PortId.isOk_parse _ _ hSource.underscore hSource.ne_nil
        (PortId.upToColon_ne_nil_of_notMem hColon.1 hBefore)
    obtain ⟨q, hq⟩ := isOk_parse_behind_plus hTarget hTargetRole hTargetColon hColon.2.2 hUnderscore
    refine ⟨⟨p, q⟩, parse_eq_ok_iff.2 ⟨_, _, ?_, ?_, hp, hq⟩⟩
    · rw [toList_text, PortId.toList_text, hRole]
      simp
    · simp [hSource.plus, hPlus]

end ConnectionId

end FlowCanvas
