import GatewaySocket.CommandLine.Mandatory
import GatewaySocket.System.Pipeline
import GatewaySocket.Gateway.MessageType
import GatewaySocket.Gateway.Owners
import GatewaySocket.Gateway.Reply
import GatewaySocket.Gateway.Length
import GatewaySocket.Gateway.Truncated
import GatewaySocket.Database.Answered
import GatewaySocket.System.Capacity
import GatewaySocket.Database.Failure
import GatewaySocket.Database.Sticky
import GatewaySocket.Packet.Views
import GatewaySocket.System.Activity
import GatewaySocket.System.Agreement
import GatewaySocket.System.Deletion
import GatewaySocket.System.Errors
import GatewaySocket.System.Installed
import GatewaySocket.System.Isolation
import GatewaySocket.System.Latency
import GatewaySocket.System.Mapped
import GatewaySocket.System.Queues
import GatewaySocket.Gateway.Forwarding
import GatewaySocket.Gateway.Line
import GatewaySocket.System.Configured
import GatewaySocket.System.Startup
import GatewaySocket.System.Completion
