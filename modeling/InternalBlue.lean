import InternalBlue.Bytes
import InternalBlue.Sections
import InternalBlue.MemoryImage.Fit
import InternalBlue.MemoryImage.Cache
import InternalBlue.Search
import InternalBlue.Telescope
import InternalBlue.SendLmp
import InternalBlue.Patch
import InternalBlue.Monitor.Pcap
import InternalBlue.Monitor.Controller
import InternalBlue.Monitor.Methods
import InternalBlue.Monitor.Invariant
import InternalBlue.Monitor.Stream
import InternalBlue.Monitor.Capture
import InternalBlue.Monitor.Faults
import InternalBlue.Monitor.Polls
import InternalBlue.Monitor.Times
import InternalBlue.Format
import InternalBlue.Write
import InternalBlue.Cli
import InternalBlue.MemoryImage.Commands
import InternalBlue.Info
import InternalBlue.Read
