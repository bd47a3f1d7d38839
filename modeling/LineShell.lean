import LineShell.Main
import LineShell.Host.Prepared
import LineShell.Store.Table
import LineShell.Proofs.Command.References
import LineShell.Proofs.Command.Roles
import LineShell.Proofs.Expansion.Substitution
import LineShell.Proofs.Input.Lines
import LineShell.Proofs.Session.ReadLoop
import LineShell.Proofs.Session.Turns
import LineShell.Proofs.Session.Unnamed
import LineShell.Proofs.Store.Lawful
import LineShell.Proofs.Session.Effect
import LineShell.Proofs.Session.Structure
import LineShell.Proofs.Session.History
import LineShell.Proofs.Session.Diagnostic
import LineShell.Proofs.Command.Rendering
import LineShell.Proofs.Store.Listed
import LineShell.Proofs.Session.Handover
import LineShell.Proofs.Store.Interchange
import LineShell.Proofs.Session.Interchange
import LineShell.Proofs.Session.Deed
import LineShell.Proofs.Session.Limit
import LineShell.Proofs.Launch.Bindings
import LineShell.Proofs.Launch.Search
import LineShell.Proofs.Config.Grammar
import LineShell.Proofs.Config.File
import LineShell.Proofs.Expansion.Seam
import LineShell.Proofs.Session.Routing
import LineShell.Proofs.Session.Assignment
import LineShell.Proofs.Session.Status
import LineShell.Proofs.Session.Spacing
import LineShell.Proofs.Command.Prefix
import LineShell.Proofs.Command.Trailing
import LineShell.Proofs.Input.Reading
import LineShell.Proofs.Config.Written
import LineShell.Proofs.Session.Replay
import LineShell.Proofs.Session.Commute
import LineShell.Proofs.Launch.Planning
import LineShell.Proofs.Launch.Candidates
import LineShell.Proofs.Session.Resolution
import LineShell.Proofs.Session.Echo
