import DebuggerDap.Text.ArgumentVector
import DebuggerDap.Text.Slashes
import DebuggerDap.Protocol.Frames
import DebuggerDap.Protocol.SocketReceive
import DebuggerDap.Protocol.Draining
import DebuggerDap.Protocol.Resynchronisation
import DebuggerDap.Protocol.ConnectionString
import DebuggerDap.DapClient.TagQueues
import DebuggerDap.DapClient.BreakpointLocations
import DebuggerDap.DapClient.Callbacks
import DebuggerDap.DapClient.ReaderThread
import DebuggerDap.DapClient.Handshake
import DebuggerDap.DapClient.Interaction
import DebuggerDap.DapClient.SendFailure
import DebuggerDap.DapClient.CleanFailure
import DebuggerDap.DapClient.Capabilities
import DebuggerDap.DapClient.ErrorText
import DebuggerDap.DapClient.RequestArguments
import DebuggerDap.Plugin.Addresses
import DebuggerDap.Plugin.ExamineMemory
import DebuggerDap.Plugin.Ports
import DebuggerDap.Plugin.Lifecycle
import DebuggerDap.Plugin.SelectedThread
import DebuggerDap.Plugin.Opening
import DebuggerDap.Plugin.Resumption
import DebuggerDap.Plugin.AttachMode
import DebuggerDap.Breakpoints.Mirror
import DebuggerDap.Breakpoints.Agreement
import DebuggerDap.Breakpoints.Confinement
import DebuggerDap.Breakpoints.Clearing
import DebuggerDap.Breakpoints.Refreshing
import DebuggerDap.Breakpoints.EditDialog
import DebuggerDap.Protocol.CodecRoundTrip
import DebuggerDap.Protocol.ControlRoundTrip
import DebuggerDap.Protocol.NavigationRoundTrip
import DebuggerDap.Protocol.BreakpointKeys
import DebuggerDap.Protocol.LaunchCodecs
import DebuggerDap.Protocol.JsonSafety
import DebuggerDap.Protocol.JsonWire
import DebuggerDap.Persistence.RoundTrip
import DebuggerDap.Persistence.ProjectClosing
import DebuggerDap.Persistence.BreakpointXml
import DebuggerDap.Persistence.XmlValues
import DebuggerDap.Persistence.Reopening
import DebuggerDap.Watches.Reloading
import DebuggerDap.Watches.Insertion
import DebuggerDap.Watches.RegisterValue
