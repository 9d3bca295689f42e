import Horst.CommandLine
import Horst.Dbus.Beacon
import Horst.Dbus.Connection
import Horst.Dbus.Messages
import Horst.Dbus.Scripts
import Horst.Dbus.Serving
import Horst.Dbus.States
import Horst.Dbus.Telemetry
import Horst.Foundation.Format
import Horst.Foundation.Framing
import Horst.Foundation.Getopt
import Horst.Foundation.Interleaving
import Horst.Foundation.Nested
import Horst.Foundation.Outcomes
import Horst.Foundation.Pipe
import Horst.Foundation.Refinement
import Horst.Foundation.Run
import Horst.Foundation.Switch
import Horst.Foundation.Words
import Horst.Parsers
import Horst.S3tp.Backpressure
import Horst.S3tp.Bounds
import Horst.S3tp.Chronicle
import Horst.S3tp.Client
import Horst.S3tp.Commands
import Horst.S3tp.Console
import Horst.S3tp.Delivery
import Horst.S3tp.Lifetimes
import Horst.S3tp.Methods
import Horst.S3tp.NullChannel
import Horst.S3tp.Output
import Horst.S3tp.Protocol
import Horst.S3tp.Reassembly
import Horst.S3tp.Reconnect
import Horst.S3tp.Remoteexec
import Horst.S3tp.Replies
import Horst.S3tp.Server
import Horst.S3tp.Session
import Horst.S3tp.Stages
import Horst.S3tp.Stdin
import Horst.S3tp.Turns
import Horst.S3tp.Wiring
import Horst.Satellite.Answers
import Horst.Satellite.ClosedForm
import Horst.Satellite.Completeness
import Horst.Satellite.Control
import Horst.Satellite.Counts
import Horst.Satellite.Coverage
import Horst.Satellite.Duplicates
import Horst.Satellite.Endings
import Horst.Satellite.Enforced
import Horst.Satellite.Exec
import Horst.Satellite.Flat
import Horst.Satellite.Freeing
import Horst.Satellite.Guards
import Horst.Satellite.Indifference
import Horst.Satellite.LifeCycle
import Horst.Satellite.Model
import Horst.Satellite.Modes
import Horst.Satellite.Passes
import Horst.Satellite.Reentry
import Horst.Satellite.Registers
import Horst.Satellite.Reports
import Horst.Satellite.Restore
import Horst.Satellite.Returns
import Horst.Satellite.Scope
import Horst.Satellite.Sensors
import Horst.Satellite.Sessions
import Horst.Satellite.Settle
import Horst.Satellite.Strays
import Horst.Satellite.Termination
import Horst.State
