import FlowCanvas.Panel.Sidebar
import FlowCanvas.Proofs.Canvas.Adding
import FlowCanvas.Proofs.Canvas.Deletion
import FlowCanvas.Proofs.Canvas.Eligibility
import FlowCanvas.Proofs.Canvas.Hiding
import FlowCanvas.Proofs.Canvas.Loading
import FlowCanvas.Proofs.Canvas.Nesting
import FlowCanvas.Proofs.Canvas.Ports
import FlowCanvas.Proofs.Canvas.Recording
import FlowCanvas.Proofs.Canvas.Reloading
import FlowCanvas.Proofs.Canvas.Removing
import FlowCanvas.Proofs.Canvas.Rerouting
import FlowCanvas.Proofs.Canvas.Resaving
import FlowCanvas.Proofs.Canvas.RouteEdits
import FlowCanvas.Proofs.Canvas.StaticRules
import FlowCanvas.Proofs.Canvas.Synchrony
import FlowCanvas.Proofs.Canvas.Undoing
import FlowCanvas.Proofs.Canvas.Visibility
import FlowCanvas.Proofs.Form.BlankEnds
import FlowCanvas.Proofs.Form.Complaints
import FlowCanvas.Proofs.Keyed.Arenas
import FlowCanvas.Proofs.Panel.Discarding
import FlowCanvas.Proofs.Panel.Framing
import FlowCanvas.Proofs.Panel.FreshViews
import FlowCanvas.Proofs.Panel.ListFields
import FlowCanvas.Proofs.Panel.Merging
import FlowCanvas.Proofs.Panel.OwnPart
import FlowCanvas.Proofs.Panel.Saving
import FlowCanvas.Proofs.Panel.Settling
import FlowCanvas.Proofs.Panel.Untouched
import FlowCanvas.Proofs.Panel.WebhookPath
import FlowCanvas.Proofs.Table.Flags
import FlowCanvas.Proofs.Table.NormalForms
import FlowCanvas.Proofs.Wire.ExactIds
import FlowCanvas.Wire.File
import FlowCanvas.Wire.Form
