import Cezfuzzer.RadamsaPipeDeadlock
import Cezfuzzer.UDPDynamicPorts
import Cezfuzzer.UDPForwarding
import Cezfuzzer.UDPReplies
import Cezfuzzer.UDPReaders
import Cezfuzzer.TCPConnectionLoop
import Cezfuzzer.LauncherSenders
import Cezfuzzer.LauncherRoundTrip
import Cezfuzzer.LauncherRestarts
import Cezfuzzer.LauncherReports
import Cezfuzzer.LauncherHandshake
import Cezfuzzer.LauncherDescriptors
import Cezfuzzer.LauncherInstances
import Cezfuzzer.LauncherDisconnects
import Cezfuzzer.InjectedTopology
import Cezfuzzer.UDPRedirection
import Cezfuzzer.TCPRedirections
import Cezfuzzer.ProxyProtocols
import Cezfuzzer.FuzzerTermination
import Cezfuzzer.FuzzedMessages
import Cezfuzzer.ShortFuzz
import Cezfuzzer.RadamsaFragments
import Cezfuzzer.TCPShortSends
import Cezfuzzer.RadamsaDescriptors
import Cezfuzzer.BlockMemory
import Cezfuzzer.FuzzerMemory
import Cezfuzzer.FuzzerBuffers
import Cezfuzzer.UDPPayload
import Cezfuzzer.ConfigurationReaders
import Cezfuzzer.CommanderReruns
import Cezfuzzer.CommanderDocuments
import Cezfuzzer.UDPOpenSockets
import Cezfuzzer.LauncherOversized
import Cezfuzzer.LauncherBuffers
import Cezfuzzer.LauncherSignals
import Cezfuzzer.LauncherProxies
import Cezfuzzer.MissingPorts
import Cezfuzzer.LauncherLogs
import Cezfuzzer.LauncherStorm
import Cezfuzzer.TCPDelivery
import Cezfuzzer.UDPDelivery
import Cezfuzzer.UDPRoutes
import Cezfuzzer.InjectedFile
import Cezfuzzer.LauncherCommands
import Cezfuzzer.DockerReruns
import Cezfuzzer.LauncherPlacement
import Cezfuzzer.TCPDescriptors
import Cezfuzzer.ClientListSafety
