import LineShell.Main
import LineShell.Input.Stream
import LineShell.Input.Buffered
import LineShell.Proofs.Command
import LineShell.Proofs.Lines
import LineShell.Proofs.Atomicity
import LineShell.Proofs.Stage
import LineShell.Proofs.Control
import LineShell.Proofs.Statuses
import LineShell.Proofs.Respelling
import LineShell.Proofs.Layout
import LineShell.Proofs.Lockstep
import LineShell.Proofs.Precedence
import LineShell.Proofs.Search
import LineShell.Proofs.Settings
import LineShell.Proofs.Editing
import LineShell.Proofs.SettingKeys
import LineShell.Proofs.SettingLines
import LineShell.Proofs.SettingFiles
import LineShell.Proofs.Writing
import LineShell.Proofs.Opening
import LineShell.Proofs.Remembering
import LineShell.Proofs.Restarts
import LineShell.Proofs.Loading
import LineShell.Proofs.Children
import LineShell.Proofs.Output
import LineShell.Proofs.Unseen
import LineShell.Proofs.Flags
import LineShell.Proofs.Scripts
import LineShell.Proofs.Starts
import LineShell.Proofs.Below
import LineShell.Proofs.Display
import LineShell.Proofs.Home
import LineShell.Proofs.Growth
import LineShell.Proofs.Buffering
import LineShell.Proofs.Limits
import LineShell.Proofs.Tilde
import LineShell.Proofs.Echo
import LineShell.Proofs.Waits
import LineShell.Proofs.Names
import LineShell.Proofs.ExitCodes
import LineShell.Proofs.Independence
