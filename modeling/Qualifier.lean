import Qualifier.Text.Blank
import Qualifier.Text.Search
import Qualifier.Text.Quoted
import Qualifier.Text.Utf8
import Qualifier.Decimal.Shortest
import Qualifier.Json.Shape
import Qualifier.Json.Writer
import Qualifier.Storage.Files
import Qualifier.Service.Simulated
import Qualifier.Service.Client
import Qualifier.Outside.Bench
import Qualifier.Machine.Launch
import Qualifier.Main
import Qualifier.Proofs.Text.Segments
import Qualifier.Proofs.Text.Occurrences
import Qualifier.Proofs.Outside.Conversation
import Qualifier.Proofs.Outside.Ensures
import Qualifier.Proofs.Outside.Parts
import Qualifier.Proofs.Outside.Together
import Qualifier.Proofs.Outside.Moments
import Qualifier.Proofs.Poll.Scan
import Qualifier.Proofs.Poll.Turn
import Qualifier.Proofs.Poll.Bounds
import Qualifier.Proofs.Poll.Draw
import Qualifier.Proofs.Poll.Ceiling
import Qualifier.Proofs.Poll.Order
import Qualifier.Proofs.Poll.Launch
import Qualifier.Proofs.Registry.Numbering
import Qualifier.Proofs.Registry.Queues
import Qualifier.Proofs.Registry.Records
import Qualifier.Proofs.Registry.Requests
import Qualifier.Proofs.Registry.Alike
import Qualifier.Proofs.Storage.Names
import Qualifier.Proofs.Storage.Comparison
import Qualifier.Proofs.Storage.Removal
import Qualifier.Proofs.Identity.Teardown
import Qualifier.Proofs.Identity.Setup
import Qualifier.Proofs.Identity.Credentials
import Qualifier.Proofs.Identity.Atomic
import Qualifier.Proofs.Identity.Repeated
import Qualifier.Proofs.Identity.Provided
import Qualifier.Proofs.Campaign.Reports
import Qualifier.Proofs.Campaign.Records
import Qualifier.Proofs.Campaign.Disposition
import Qualifier.Proofs.Campaign.Independence
import Qualifier.Proofs.Campaign.Launches
import Qualifier.Proofs.Registry.Histories
import Qualifier.Proofs.Json.Spelling
import Qualifier.Proofs.Json.Writing
import Qualifier.Proofs.Service.Calls
import Qualifier.Proofs.Service.Documents
import Qualifier.Proofs.Service.Refusals
import Qualifier.Proofs.Evidence.Patterns
import Qualifier.Proofs.Evidence.Parameters
import Qualifier.Proofs.Outside.Words
import Qualifier.Proofs.Identity.Words
import Qualifier.Proofs.Campaign.Words
import Qualifier.Proofs.Storage.Divergence
import Qualifier.Proofs.Storage.Clearing
import Qualifier.Proofs.Outside.Accounts
import Qualifier.Proofs.Identity.Leftovers
import Qualifier.Proofs.Campaign.Leftovers
import Qualifier.Proofs.Identity.Answers
import Qualifier.Proofs.Identity.Complete
import Qualifier.Proofs.Identity.Rollback
import Qualifier.Proofs.Storage.Contents
import Qualifier.Proofs.Identity.Usable
import Qualifier.Proofs.Registry.Interleavings
import Qualifier.Proofs.Storage.Resemblance
import Qualifier.Proofs.Storage.Severance
import Qualifier.Proofs.Json.Members
import Qualifier.Proofs.Json.Arrangement
import Qualifier.Proofs.Service.Snapshots
import Qualifier.Proofs.Suite.Files
import Qualifier.Proofs.Outside.Veiled
import Qualifier.Proofs.Service.Secrets
import Qualifier.Proofs.Identity.Secrecy
import Qualifier.Proofs.Campaign.Secrecy
import Qualifier.Proofs.Evidence.Exports
import Qualifier.Proofs.Campaign.Evidence
import Qualifier.Proofs.Suite.Selection
import Qualifier.Proofs.Config.Validity
import Qualifier.Proofs.Config.References
import Qualifier.Proofs.Companion.Rendering
import Qualifier.Proofs.Identity.Naming
import Qualifier.Proofs.Storage.Paving
import Qualifier.Proofs.Storage.Replacing
import Qualifier.Proofs.Storage.Entries
import Qualifier.Proofs.Text.Lines
import Qualifier.Proofs.Campaign.Lines
