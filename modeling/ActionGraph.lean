import ActionGraph.Action.Rehearsal
import ActionGraph.Files
import ActionGraph.Main
import ActionGraph.Proofs.Asset.Drafting
import ActionGraph.Proofs.Asset.Written
import ActionGraph.Proofs.Clock.Seconds
import ActionGraph.Proofs.Condition.Dependence
import ActionGraph.Proofs.Condition.Grammar
import ActionGraph.Proofs.Player.Complaints
import ActionGraph.Proofs.Player.Effects
import ActionGraph.Proofs.Player.Endings
import ActionGraph.Proofs.Player.FrameRate
import ActionGraph.Proofs.Player.Names
import ActionGraph.Proofs.Player.Progress
import ActionGraph.Proofs.Player.Replay
import ActionGraph.Proofs.Player.Reports
import ActionGraph.Proofs.Scope.History
import ActionGraph.Proofs.Script.Variables
import ActionGraph.Proofs.Store.Handles
import ActionGraph.Proofs.Value.Integers
import ActionGraph.Proofs.Comparison.Laws
import ActionGraph.Proofs.Float.Rounding
import ActionGraph.Proofs.Comparison.Numbers
import ActionGraph.Proofs.Player.LastWord
import ActionGraph.Proofs.Player.Restart
import ActionGraph.Proofs.Asset.Loading
import ActionGraph.Proofs.Condition.Containment
import ActionGraph.Proofs.Store.Overlay
import ActionGraph.Proofs.Action.Selection
import ActionGraph.Proofs.Asset.Assembly
import ActionGraph.Proofs.Player.Frames
import ActionGraph.Proofs.Player.Budget
import ActionGraph.Proofs.Condition.Agreement
import ActionGraph.Proofs.Library.Listing
import ActionGraph.Proofs.Asset.Naming
