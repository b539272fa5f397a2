import RemoteProvision.Encoding.Command
import RemoteProvision.Text.Lines
import RemoteProvision.Template.Basic
import RemoteProvision.Environment.Assembly
import RemoteProvision.Ids
import RemoteProvision.Duration.Reading
import RemoteProvision.Local.EnvRef
import RemoteProvision.Local.Words
import RemoteProvision.Command.Lines
import RemoteProvision.Text.Quoted
import RemoteProvision.Disk.Staging
import RemoteProvision.Error.Basic
import RemoteProvision.Ui.Basic
import RemoteProvision.Config.DebugText
import RemoteProvision.Channel.Recording
import RemoteProvision.Channel.Scripted
import RemoteProvision.Run.Provision
import RemoteProvision.Ui.Record
import RemoteProvision.Ui.Sinks
import RemoteProvision.Config.Reading
import RemoteProvision.Local.Channel
import RemoteProvision.Cli.Usage
import RemoteProvision.Main
import RemoteProvision.Proofs.Run.Tries
import RemoteProvision.Proofs.Command.Wrapper
import RemoteProvision.Proofs.Disk.Staging
import RemoteProvision.Proofs.Run.Blocks
import RemoteProvision.Proofs.Run.Offered
import RemoteProvision.Proofs.Run.Reading
import RemoteProvision.Proofs.Run.Rendering
import RemoteProvision.Proofs.Run.Limits
import RemoteProvision.Proofs.Encoding.Utf16
import RemoteProvision.Proofs.Encoding.Base64
import RemoteProvision.Proofs.Encoding.Command
import RemoteProvision.Proofs.Local.Words
import RemoteProvision.Proofs.Run.Carrying
import RemoteProvision.Proofs.Command.Credentials
import RemoteProvision.Proofs.Text.Between
import RemoteProvision.Proofs.Command.Places
import RemoteProvision.Proofs.Run.Elevating
import RemoteProvision.Proofs.Environment.Assembly
import RemoteProvision.Proofs.Config.Resolving
import RemoteProvision.Proofs.Run.Windows
import RemoteProvision.Proofs.Run.Rounds
import RemoteProvision.Proofs.Run.Independence
import RemoteProvision.Proofs.Run.Rehearsal
import RemoteProvision.Proofs.Cli.DryRun
import RemoteProvision.Proofs.Run.Deadlines
import RemoteProvision.Proofs.Template.Scanning
import RemoteProvision.Proofs.Template.Escaping
import RemoteProvision.Proofs.Run.Confinement
import RemoteProvision.Proofs.Duration.Grammar
import RemoteProvision.Proofs.Local.HelperFiles
import RemoteProvision.Proofs.Run.Fresh
import RemoteProvision.Proofs.Run.Staged
import RemoteProvision.Proofs.Run.Naming
import RemoteProvision.Proofs.Environment.Bindings
import RemoteProvision.Proofs.Environment.Formats
import RemoteProvision.Proofs.Config.Reporting
import RemoteProvision.Proofs.Run.Telling
import RemoteProvision.Proofs.Command.Embedding
import RemoteProvision.Proofs.Local.References
import RemoteProvision.Proofs.Text.Utf8
import RemoteProvision.Proofs.Text.Lenient
import RemoteProvision.Proofs.Text.Lines
import RemoteProvision.Proofs.Stamp
import RemoteProvision.Proofs.Json.Strings
import RemoteProvision.Proofs.Ui.Records
import RemoteProvision.Proofs.Ui.Sinks
import RemoteProvision.Proofs.Duration.Exactness
import RemoteProvision.Proofs.Channel.Recording
import RemoteProvision.Proofs.Text.Widening
import RemoteProvision.Proofs.Run.Recorded
import RemoteProvision.Proofs.Cli.Counting
