import CommandConsole.Main
import CommandConsole.Network.Listener
import CommandConsole.Settings.File
import CommandConsole.Terminal
import CommandConsole.Proofs.Dispatch
import CommandConsole.Proofs.Scanner
import CommandConsole.Proofs.Decoding
import CommandConsole.Proofs.Framing
import CommandConsole.Proofs.Turns
import CommandConsole.Proofs.Tick
import CommandConsole.Proofs.Runs
import CommandConsole.Proofs.Recall
import CommandConsole.Proofs.Visibility
import CommandConsole.Proofs.Instances
import CommandConsole.Proofs.Arguments
import CommandConsole.Proofs.Stopping
import CommandConsole.Proofs.Delivery
import CommandConsole.Proofs.ColorText
import CommandConsole.Proofs.Controls
import CommandConsole.Proofs.Spans
import CommandConsole.Proofs.Styles
import CommandConsole.Proofs.Indifference
import CommandConsole.Proofs.OwnCommands
import CommandConsole.Proofs.Responses
import CommandConsole.Proofs.Quoting
import CommandConsole.Proofs.Frames
import CommandConsole.Proofs.Displays
import CommandConsole.Proofs.Keystrokes
import CommandConsole.Proofs.Echo
import CommandConsole.Proofs.UnknownNames
import CommandConsole.Proofs.Replacement
import CommandConsole.Proofs.Conservation
import CommandConsole.Proofs.Bookkeeping
import CommandConsole.Proofs.Navigation
import CommandConsole.Proofs.Precedence
import CommandConsole.Proofs.WholeTokens
import CommandConsole.Proofs.Inspection
import CommandConsole.Proofs.Rejoining
import CommandConsole.Proofs.WrittenSpans
import CommandConsole.Proofs.HexForms
import CommandConsole.Proofs.ColorReaders
import CommandConsole.Proofs.JoinedTags
import CommandConsole.Proofs.Confinement
