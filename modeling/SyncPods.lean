import SyncPods.Cluster.Server
import SyncPods.Log.Panic
import SyncPods.Main
import SyncPods.Proofs.BuiltPod
import SyncPods.Proofs.FailureLaw
import SyncPods.Proofs.ResetPod
import SyncPods.Proofs.SharedFiles
import SyncPods.Proofs.WrittenString
import SyncPods.Proofs.WrittenValue
import SyncPods.Proofs.PodText
import SyncPods.Proofs.ResourceRecovery
import SyncPods.Proofs.UuidText
import SyncPods.Proofs.RequestRecovery
import SyncPods.Proofs.CallOrder
import SyncPods.Proofs.FlagPrecedence
import SyncPods.Proofs.SourceIndependence
import SyncPods.Proofs.WellFormedPod
import SyncPods.Proofs.Isolation
import SyncPods.Proofs.Spelling
import SyncPods.Proofs.SpelledTokens
import SyncPods.Proofs.SpelledText
import SyncPods.Proofs.CompactText
import SyncPods.Proofs.RecordReading
import SyncPods.Proofs.ReadBack
import SyncPods.Proofs.RequestText
import SyncPods.Proofs.SettingsText
import SyncPods.Proofs.RecordEdit
import SyncPods.Proofs.Presentation
import SyncPods.Proofs.UuidSpellings
import SyncPods.Proofs.FieldPlace
import SyncPods.Proofs.WorkspaceIdentity
import SyncPods.Proofs.PrettyText
import SyncPods.Proofs.ManifestText
import SyncPods.Proofs.LaunchEffects
import SyncPods.Proofs.SubmissionOutcome
import SyncPods.Proofs.SubmissionRuns
import SyncPods.Proofs.LogStream
import SyncPods.Proofs.SetupRuns
import SyncPods.Proofs.VolumeIsolation
import SyncPods.Proofs.MergedTree
import SyncPods.Proofs.NamedPaths
import SyncPods.Proofs.LayeredSettings
import SyncPods.Proofs.VariableOrder
import SyncPods.Proofs.TextParts
import SyncPods.Proofs.TableFields
import SyncPods.Proofs.VariableOverride
import SyncPods.Proofs.QuantityGrammar
import SyncPods.Proofs.ResourceConversion
import SyncPods.Proofs.ShellText
import SyncPods.Proofs.ShellWords
import SyncPods.Proofs.ShellLetters
import SyncPods.Proofs.ShellQuotes
import SyncPods.Proofs.ShellCommands
import SyncPods.Proofs.SidecarTrap
import SyncPods.Proofs.ConnectorScript
import SyncPods.Proofs.InitContainer
import SyncPods.Proofs.OptionalVolumes
import SyncPods.Proofs.QuotedWords
import SyncPods.Proofs.Rounding
import SyncPods.Proofs.DecimalReading
import SyncPods.Proofs.ScientificText
import SyncPods.Proofs.FoundValues
import SyncPods.Proofs.LineInjection
import SyncPods.Proofs.LetterCase
import SyncPods.Proofs.UnreadName
import SyncPods.Proofs.EnvironmentNames
