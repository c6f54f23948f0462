import NodeStorage.Main
import NodeStorage.Metrics.Endpoint
import NodeStorage.Registry.Image
import NodeStorage.Registry.PullSecret
import NodeStorage.Scenario.Monitor
import NodeStorage.Scenario.Server
import NodeStorage.Proofs.Dialogue.Conversation
import NodeStorage.Proofs.Json.RoundTrip
import NodeStorage.Proofs.Text.Trim
import NodeStorage.Proofs.Provisioning.Written
import NodeStorage.Proofs.Provisioning.Course
import NodeStorage.Proofs.Provisioning.History
import NodeStorage.Proofs.Provisioning.KeptCheckpoint
import NodeStorage.Proofs.Provisioning.Phases
import NodeStorage.Proofs.InMemory.Refusals
import NodeStorage.Proofs.Provisioning.CleanUp
import NodeStorage.Proofs.Udev.Signals
import NodeStorage.Proofs.Device.Duplicates
import NodeStorage.Proofs.Device.Forest
import NodeStorage.Proofs.Device.Reported
import NodeStorage.Proofs.Device.Objects
import NodeStorage.Proofs.Device.Offered
import NodeStorage.Proofs.Metrics.Gauge
import NodeStorage.Proofs.InMemory.Results
import NodeStorage.Proofs.Discovery.Scan
import NodeStorage.Proofs.Discovery.KnownList
import NodeStorage.Proofs.InMemory.Things
import NodeStorage.Proofs.Provisioning.Place
import NodeStorage.Proofs.Provisioning.Race
import NodeStorage.Proofs.InMemory.Deletions
import NodeStorage.Proofs.Provisioning.Removal
import NodeStorage.Proofs.Provisioning.Permission
import NodeStorage.Proofs.Provisioning.Retries
import NodeStorage.Proofs.Provisioning.Leftover
import NodeStorage.Proofs.Dialogue.Indifference
import NodeStorage.Proofs.Provisioning.BestEffort
import NodeStorage.Proofs.Discovery.Health
import NodeStorage.Proofs.Discovery.Pruning
import NodeStorage.Proofs.InMemory.Unsteady
import NodeStorage.Proofs.Discovery.Orphans
import NodeStorage.Proofs.Discovery.Rounds
import NodeStorage.Proofs.Discovery.Settling
import NodeStorage.Proofs.Discovery.Loop
import NodeStorage.Proofs.Discovery.Schedule
import NodeStorage.Proofs.Discovery.Discipline
import NodeStorage.Proofs.Discovery.Reports
import NodeStorage.Proofs.Discovery.Records
import NodeStorage.Proofs.Provisioning.Annotations
import NodeStorage.Proofs.Json.Sorted
import NodeStorage.Proofs.Json.Values
import NodeStorage.Proofs.Text.Utf8
import NodeStorage.Proofs.Registry.Merging
import NodeStorage.Proofs.Registry.Secrets
import NodeStorage.Proofs.Discovery.Upkeep
import NodeStorage.Proofs.Discovery.LostAnswers
import NodeStorage.Proofs.Text.Digits
import NodeStorage.Proofs.Time.Calendar
import NodeStorage.Proofs.Time.Instants
import NodeStorage.Proofs.Json.Members
import NodeStorage.Proofs.Decimal.Range
import NodeStorage.Proofs.Json.MergePatch
import NodeStorage.Proofs.Discovery.Conditions
import NodeStorage.Proofs.Kubernetes.StatusPatch
import NodeStorage.Proofs.Device.Dialects
import NodeStorage.Proofs.Discovery.Repeats
import NodeStorage.Proofs.Provisioning.Edits
import NodeStorage.Proofs.Provisioning.Accepted
import NodeStorage.Proofs.CommandLine.EmptyValues
import NodeStorage.Proofs.Device.Rebuilding
import NodeStorage.Proofs.Device.Piecewise
import NodeStorage.Proofs.Discovery.SelectorLaws
import NodeStorage.Proofs.Registry.Algebra
import NodeStorage.Proofs.Text.Split
import NodeStorage.Proofs.Host.Path
import NodeStorage.Proofs.Host.MountTable
import NodeStorage.Proofs.Text.ByteOrder
import NodeStorage.Proofs.Host.Resolution
import NodeStorage.Proofs.Host.PersistentPath
import NodeStorage.Proofs.Udev.Pieces
import NodeStorage.Proofs.Decimal.Shortest
import NodeStorage.Proofs.Json.Decimals
import NodeStorage.Proofs.Decimal.Rounding
import NodeStorage.Proofs.Decimal.Written
import NodeStorage.Proofs.Json.Readable
import NodeStorage.Proofs.Registry.Conversion
import NodeStorage.Proofs.Text.Hexadecimal
import NodeStorage.Proofs.Discovery.ResultNames
import NodeStorage.Proofs.Text.Case
import NodeStorage.Proofs.Provisioning.DiskNames
import NodeStorage.Proofs.Registry.ImageVersions
import NodeStorage.Proofs.Registry.ManifestSource
import NodeStorage.Proofs.Cluster.LabelLengths
import NodeStorage.Proofs.Provisioning.FieldsRead
import NodeStorage.Proofs.Discovery.Transitions
import NodeStorage.Proofs.Pattern.Search
import NodeStorage.Proofs.Text.CaseVariants
import NodeStorage.Proofs.Pattern.Reading
import NodeStorage.Proofs.Pattern.Words
import NodeStorage.Proofs.Udev.PlainSearch
