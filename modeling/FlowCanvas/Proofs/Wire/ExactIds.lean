import FlowCanvas.Proofs.Wire.Ids
import Mathlib

/-!
# Ids that are read back from their texts

A port id is read back from its text exactly if both its parts are there, its node has no underscore
and its role has no colon. For a reader that knows the node only the role matters. A connection id
is read back if both its ports are and no plus sign comes before the one that separates them.
Whatever is read from some text is such an id, so reading never gives a key that is lost when it is
written (`Wire.ids_read_back_iff`).
-/

set_option autoImplicit false

namespace FlowCanvas

namespace PortId

/-- A port id whose text comes apart where its parts have been put together. -/
structure IsExact (p : PortId) : Prop where
  node_ne : p.node.text ≠ ""
  underscore : '_' ∉ p.node.text.toList
  role_ne : p.role.text ≠ ""
  colon : ':' ∉ p.role.text.toList

/-- A port id is read back from its text exactly if it is exact. -/
theorem parse_text_eq_ok_iff {p : PortId} : parse p.text = .ok p ↔ p.IsExact := by
  constructor
  · intro h
    obtain ⟨rest, -, hUnderscore, hNode, hRole, hNonempty⟩ := parse_eq_ok_iff.1 h
    have hColon : ':' ∉ p.role.text.toList := by
      rw [hRole]
      exact colon_notMem_upToColon rest
    refine ⟨?_, hUnderscore, ?_, hColon⟩
    · intro hEmpty
      apply hNode
      rw [hEmpty, String.toList_empty]
    · intro hEmpty
      apply hNonempty
      rw [← hRole, hEmpty, String.toList_empty]
  · intro h
    have hRole : upToColon p.role.text.toList = p.role.text.toList := upToColon_of_notMem h.colon
    apply parse_eq_ok_iff.2
    refine ⟨p.role.text.toList, toList_text p, h.underscore, ?_, hRole.symm, ?_⟩
    · simpa using h.node_ne
    · rw [hRole]
      simpa using h.role_ne

/-- Where the node is known, it does not matter what the id of the node is like. -/
theorem parseFor_text_eq_ok_iff {node : ItemId} {role : Role} :
    parseFor node (text ⟨node, role⟩) = .ok ⟨node, role⟩ ↔
      role.text ≠ "" ∧ ':' ∉ role.text.toList := by
  have hStrip : Text.stripFront? (node.text.toList ++ ['_']) (text ⟨node, role⟩).toList =
      some role.text.toList := by
    rw [Text.stripFront?_eq_some_iff, toList_text]
    simp
  unfold parseFor
  rw [hStrip]
  simp only
  constructor
  · intro h
    split at h
    · cases h
    · rename_i hNonempty
      injection h with hPort
      have hRole : upToColon role.text.toList = role.text.toList := by
        have hText := congrArg (fun p : PortId => p.role.text.toList) hPort
        simpa using hText
      refine ⟨?_, ?_⟩
      · intro hEmpty
        apply hNonempty
        rw [hEmpty]
        rfl
      · rw [← hRole]
        exact colon_notMem_upToColon _
  · rintro ⟨hNonempty, hColon⟩
    rw [upToColon_of_notMem hColon, if_neg (by simpa using hNonempty), String.ofList_toList]

end PortId

namespace ConnectionId

/-- A connection id is read back from its text exactly if both of its ports are exact and the first
has no plus sign in its text. -/
theorem parse_text_eq_ok_iff {c : ConnectionId} :
    parse c.text = .ok c ↔
      c.source.IsExact ∧ c.target.IsExact ∧ '+' ∉ c.source.text.toList := by
  rw [← PortId.parse_text_eq_ok_iff, ← PortId.parse_text_eq_ok_iff]
  constructor
  · intro h
    have hPlus := plus_notMem_source_of_parse h
    obtain ⟨source, target, hText, hSourcePlus, hSource, hTarget⟩ := parse_eq_ok_iff.1 h
    -- both are cuts at the first plus sign
    rw [toList_text] at hText
    obtain ⟨rfl, rfl⟩ := Text.append_cons_inj hText hPlus hSourcePlus
    rw [String.ofList_toList] at hSource hTarget
    exact ⟨hSource, hTarget, hPlus⟩
  · rintro ⟨hSource, hTarget, hPlus⟩
    apply parse_eq_ok_iff.2
    refine ⟨c.source.text.toList, c.target.text.toList, toList_text c, hPlus, ?_, ?_⟩
    · rwa [String.ofList_toList]
    · rwa [String.ofList_toList]

end ConnectionId

namespace Wire

/-- Which ids are read back from their texts, and that whatever is read is. -/
theorem ids_read_back_iff :
    (∀ p : PortId, PortId.parse p.text = .ok p ↔ p.IsExact) ∧
      (∀ (node : ItemId) (role : Role),
        PortId.parseFor node (PortId.text ⟨node, role⟩) = .ok ⟨node, role⟩ ↔
          role.text ≠ "" ∧ ':' ∉ role.text.toList) ∧
      (∀ c : ConnectionId, ConnectionId.parse c.text = .ok c ↔
        c.source.IsExact ∧ c.target.IsExact ∧ '+' ∉ c.source.text.toList) ∧
      (∀ (raw : String) (p : PortId), PortId.parse raw = .ok p → PortId.parse p.text = .ok p) ∧
      ∀ (raw : String) (c : ConnectionId), ConnectionId.parse raw = .ok c →
        ConnectionId.parse c.text = .ok c := by
  refine ⟨?_, ?_, ?_, ?_, ?_⟩
  · intro p
    exact PortId.parse_text_eq_ok_iff
  · intro node role
    exact PortId.parseFor_text_eq_ok_iff
  · intro c
    exact ConnectionId.parse_text_eq_ok_iff
  · intro raw p h
    exact PortId.parse_text_of_parse h
  · intro raw c h
    exact ConnectionId.parse_text_of_parse h

/-- What stands behind a colon is lost when this text is read, but a second plus sign is not. -/
theorem ids_read_back_iff_suffixed :
    let source : PortId := ⟨⟨"t"⟩, ⟨"decision-out-a"⟩⟩
    let target : PortId := ⟨⟨"p"⟩, ⟨"python-in+q"⟩⟩
    PortId.parse "t_decision-out-a:1" = .ok source ∧ PortId.parse source.text = .ok source ∧
      ConnectionId.parse "t_decision-out-a:1+p_python-in+q" = .ok ⟨source, target⟩ ∧
      ConnectionId.parse (ConnectionId.text ⟨source, target⟩) = .ok ⟨source, target⟩ := by
  intro source target
  have hPort : PortId.parse "t_decision-out-a:1" = .ok source := by decide
  have hConnection : ConnectionId.parse "t_decision-out-a:1+p_python-in+q" =
      .ok ⟨source, target⟩ := by decide
  obtain ⟨-, -, -, hPorts, hConnections⟩ := ids_read_back_iff
  exact ⟨hPort, hPorts _ _ hPort, hConnection, hConnections _ _ hConnection⟩

end Wire

end FlowCanvas
