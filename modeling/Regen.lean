import Regen.Config
import Regen.ContentStore
import Regen.Editor
import Regen.Generation
import Regen.Generator.Recipe
import Regen.Issue.Diagnostic
import Regen.Latch
import Regen.Pool
import Regen.Proofs.Compiler.Adoption
import Regen.Proofs.Compiler.Display
import Regen.Proofs.Compiler.Latest
import Regen.Proofs.Compiler.Outcome
import Regen.Proofs.Compiler.Precedence
import Regen.Proofs.Compiler.Scan
import Regen.Proofs.Compiler.Superseded
import Regen.Proofs.Compiler.Teardown
import Regen.Proofs.Editor.Burst
import Regen.Proofs.Environment.Changes
import Regen.Proofs.Generator.Watch
import Regen.Proofs.Issue.RoundTrip
import Regen.Proofs.Pool.Line
import Regen.Proofs.Registry.Handles
import Regen.Proofs.Session.Projects
import Regen.Proofs.Session.Speaker
import Regen.Proofs.Session.Wakeup
import Regen.Proofs.Workshop.Burst
import Regen.Proofs.Workshop.Delivery
import Regen.Session
import Regen.Shell.Launch
import Regen.Staleness
import Regen.Transform.Stock
import Regen.Workbench.Lifecycle
import Regen.Proofs.Issue.Lines
import Regen.Proofs.Text.Grammar
import Regen.Proofs.Issue.Grammar
import Regen.Proofs.Path.Spelling
import Regen.Proofs.Clock.Timestamp
import Regen.Proofs.Config.Schema
import Regen.Proofs.ContentStore.Spelling
import Regen.Proofs.Session.Limits
import Regen.Proofs.Generation.Clones
