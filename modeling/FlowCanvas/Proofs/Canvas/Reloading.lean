import FlowCanvas.Proofs.Canvas.Edits
import FlowCanvas.Proofs.Graph.Reloading
import Mathlib

/-!
# Saving and reloading

What is drawn, saved and loaded again is the same drawing, as long as the names of the groups of
decision tables do not bring separators into the flat texts of keys where they do harm
(`Canvas.Run.reloads_iff`): a colon in a connected output, or an underscore right behind the first
plus sign in an output whose connection is recorded by a collapsed group.
-/

set_option autoImplicit false

namespace FlowCanvas

namespace Graph

/-- The calls with which a drawing is made that is then saved. An update of a node may change
everything, as long as the node is a decision table or has ports as the rules have them, one for
each role. -/
def SavingCall (_ : Graph) : Edit → Prop
  | .updateNode n keepConnections =>
    keepConnections = false ∧ (n.table? = none → (n.ports.map Port.role).Nodup) ∧ n.HasListedPorts
  | .createNode .. | .createGroup .. | .connect .. | .removeConnection _ | .delete _ | .toggle _
  | .setParent .. => True
  | _ => False

/-- A graph that can be saved. -/
structure IsSaveable (g : Graph) : Prop where
  isFlat : g.IsFlat
  recordsStored : g.RecordsStored

/-- The empty graph can be saved. -/
theorem isSaveable_empty : IsSaveable {} where
  isFlat := ⟨by simp [IsPrepared], by simp, by simp⟩
  recordsStored := by simp [RecordsStored]

namespace IsSaveable

/-- Every call with which a drawing is made keeps it fit for saving. -/
theorem perform {c : Canvas} (hc : c.graph.IsSaveable) {e : Edit} (h : c.graph.SavingCall e) :
    (c.perform e).graph.IsSaveable := by
  have hPrepared := hc.isFlat.isPrepared
  cases e with
  | createNode id kind name position =>
    refine ⟨hc.isFlat.putNode (fun _ => Node.nodup_roles_initial id kind) fun _ => ?_,
      hc.recordsStored.prunes (.of_eq rfl rfl)⟩
    exact Node.hasListedPorts_initial id kind
  | createGroup id title position members =>
    show (c.createGroup id title position members).graph.IsSaveable
    rw [Canvas.graph_createGroup]
    have hPut : ∀ group : Group, group.hidden = {} → (c.graph.putGroup group).IsSaveable := by
      intro group hHidden
      refine ⟨hc.isFlat.shrinks (putGroup_shrinks _ _).drifts, hc.recordsStored.putGroup ?_⟩
      rw [hHidden]
      simp [HiddenConnections.ids]
    have hGroup := hPut { Group.new id title with position, size := c.config.groupSize } rfl
    exact ⟨hGroup.isFlat.shrinks (setParent_shrinks _ _ _).drifts,
      hGroup.recordsStored.prunes (setParent_prunes _ _ _)⟩
  | connect source target =>
    exact Canvas.addConnection_keeps hc fun _ hAdd =>
      ⟨hc.isFlat.addConnection hAdd, hc.recordsStored.prunes (addConnection_prunes hAdd)⟩
  | updateNode n keepConnections =>
    obtain ⟨rfl, hRoles, hListed⟩ := h
    have hPut := hc.isFlat.putNode hRoles hListed
    exact Canvas.updateNode_keeps hc fun _ _ hUpdate =>
      ⟨hPut.updateNode? hUpdate, hc.recordsStored.prunes (updateNode?_prunes hUpdate)⟩
  | removeConnection id =>
    exact Canvas.removeConnection_keeps hc fun _ hRemove =>
      ⟨hc.isFlat.shrinks (removeConnection?_shrinks hRemove),
        hc.recordsStored.prunes (removeConnection?_prunes hRemove)⟩
  | delete selection =>
    exact ⟨hc.isFlat.shrinks (delete_shrinks hPrepared.hasStorableNodes selection),
      hc.recordsStored.prunes (delete_prunes _ selection)⟩
  | toggle id =>
    exact Canvas.toggle_keeps hc fun _ hToggle =>
      ⟨hc.isFlat.shrinks (toggle?_shrinks hToggle).drifts, hc.recordsStored.toggle? hToggle⟩
  | setParent ids parent =>
    show (c.setParent ids parent).1.graph.IsSaveable
    rw [Canvas.graph_setParent]
    exact ⟨hc.isFlat.shrinks (setParent_shrinks _ ids parent).drifts,
      hc.recordsStored.prunes (setParent_prunes _ ids parent)⟩
  | _ => exact h.elim

end IsSaveable

end Graph

namespace Canvas

/-- Reading the saved text of a drawing into any canvas gives the same drawing exactly if the
drawing is reloadable. -/
theorem exists_loadText?_iff {c : Canvas} (hc : c.graph.IsSaveable)
    (hIds : ∀ n ∈ c.flow.nodes, n.id.IsPlain) (hLegible : c.flow.IsLegible) (fresh : Canvas) :
    (∃ reloaded, fresh.loadText? (c.flow.print Json.compact) = some reloaded ∧
      reloaded.flow = c.flow) ↔ c.flow.IsReloadable := by
  unfold loadText?
  constructor
  · rintro ⟨reloaded, hLoad, hSame⟩
    rw [Flow.parse?_print hLegible Json.isBlank_compact, Option.map_map] at hLoad
    obtain ⟨f, hRead, rfl⟩ := Option.map_eq_some_iff.1 hLoad
    exact Graph.IsFlat.isReloadable hIds hLegible hc.isFlat hc.recordsStored hRead hSame
  · intro h
    have hRecoverable : c.flow.IsRecoverable :=
      hc.isFlat.isRecoverable hIds hLegible hc.recordsStored h
    have hGraph : (Graph.ofFlow c.graph.toFlow).toFlow = c.flow :=
      congrArg Graph.toFlow hc.isFlat.isStorable.ofFlow_toFlow
    rw [hRecoverable.parse?_print Json.isBlank_compact]
    exact ⟨fresh.load c.flow, rfl, hGraph⟩

/-- A canvas after any such calls can be saved. -/
theorem Run.isSaveable {c : Canvas} (h : Run Graph.SavingCall c) : c.graph.IsSaveable :=
  h.invariant Graph.isSaveable_empty fun _ _ hc he => hc.perform he

/-- What is drawn, saved and loaded again, into whatever canvas, is the same drawing exactly if the
names of groups have not brought separators into keys where they do harm. -/
theorem Run.reloads_iff {c : Canvas} (h : Run Graph.SavingCall c)
    (hIds : ∀ n ∈ c.flow.nodes, n.id.IsPlain) (hLegible : c.flow.IsLegible) (fresh : Canvas) :
    (∃ reloaded, fresh.loadText? (c.flow.print Json.compact) = some reloaded ∧
      reloaded.flow = c.flow) ↔ c.flow.IsReloadable :=
  exists_loadText?_iff h.isSaveable hIds hLegible fresh

/-- Drawing a decision table with one group, which leads to some code in a collapsed box. -/
def groupToCode (name : String) : List Edit :=
  let table : ItemId := ⟨"6f1c0d2e-8b3a-4c5d-9e7f-0a1b2c3d4e5f"⟩
  let code : ItemId := ⟨"0b9d8c7e-1f2a-4b3c-8d4e-5f6a7b8c9d0e"⟩
  let box : ItemId := ⟨"3c2b1a0f-7e6d-4f5c-a4b3-928170f6e5d4"⟩
  [.createNode table .decisionTable "table" .origin, .createNode code .python "code" .origin,
    .updateNode (.new table "table"
      (.decisionTable { groups := [{ name, expression := "score > 3" }] })) false,
    .connect ⟨table, .ofGroupName name⟩ ⟨code, ⟨"python-in"⟩⟩,
    .createGroup box "box" .origin [code], .toggle box]

/-- Whatever the name of the group is, an editor may make that drawing call by call. -/
theorem run_groupToCode (name : String) :
    Run Graph.SavingCall (performAll {} (groupToCode name)) := by
  refine (Run.start {}).performAll ⟨trivial, trivial, ⟨rfl, ?_, ?_⟩, trivial, trivial, trivial,
    trivial⟩
  · exact (nomatch ·)
  · exact (nomatch ·)

/-- With a plain name for the group the drawing is the same after saving and loading. -/
theorem Run.reloads_groupToCode :
    (Canvas.performAll {} (groupToCode "yes")).flow.connections.length = 1 ∧
      ∃ reloaded,
        loadText? {} ((Canvas.performAll {} (groupToCode "yes")).flow.print Json.compact) =
          some reloaded ∧ reloaded.flow = (Canvas.performAll {} (groupToCode "yes")).flow := by
  have hSimple : (Canvas.performAll {} (groupToCode "yes")).flow.IsSimple := by decide +kernel
  exact ⟨by decide, (Run.reloads_iff (run_groupToCode "yes") hSimple.isPlain_id
    hSimple.isLegible {}).2 (by decide)⟩

/-- A colon in the name of a group gets lost on the way, and the drawing with it. -/
theorem not_forall_reloads :
    ¬ ∀ c, Run Graph.SavingCall c → (∀ n ∈ c.flow.nodes, n.id.IsPlain) → c.flow.IsLegible →
      ∀ fresh : Canvas, ∃ reloaded,
        fresh.loadText? (c.flow.print Json.compact) = some reloaded ∧ reloaded.flow = c.flow := by
  intro h
  have hSimple : (performAll {} (groupToCode "a:b")).flow.IsSimple := by decide +kernel
  have hReload := h _ (run_groupToCode "a:b") hSimple.isPlain_id hSimple.isLegible {}
  have hReloadable := (exists_loadText?_iff (run_groupToCode "a:b").isSaveable hSimple.isPlain_id
    hSimple.isLegible {}).1 hReload
  exact absurd hReloadable (by decide)

end Canvas

end FlowCanvas
