import GatewayLogs.Python.Float
import GatewayLogs.Python.Str
import GatewayLogs.Python.Value
import GatewayLogs.Python.Dict
import GatewayLogs.Python.Arith
import GatewayLogs.Python.FloatRange
import GatewayLogs.Python.Ops
import GatewayLogs.Python.Print
import GatewayLogs.Api
import GatewayLogs.Json.Loads
import GatewayLogs.Json.Dumps
import GatewayLogs.Loop
import GatewayLogs.Json.RoundTrip
import GatewayLogs.Correlation
import GatewayLogs.Sse.Parse
import GatewayLogs.Sse.Encode
import GatewayLogs.Sse.Usage
import GatewayLogs.Sse.Scan
import GatewayLogs.Sse.Stream
import GatewayLogs.Sse.RoundTrip
import GatewayLogs.Conversations.Collect
import GatewayLogs.Conversations.Response
import GatewayLogs.Conversations.TwoPaths
import GatewayLogs.Conversations.Entries
import GatewayLogs.Conversations.Summary
import GatewayLogs.Conversations.Detail
import GatewayLogs.Logs.Collect
import GatewayLogs.Logs.Entries
import GatewayLogs.Logs.Agreement
import GatewayLogs.Logs.Detail
import GatewayLogs.Report.Collect
import GatewayLogs.Report.Histograms
import GatewayLogs.Report.MostCommon
import GatewayLogs.Report.Totals
import GatewayLogs.Report.Interaction
import GatewayLogs.Report.Detail
import GatewayLogs.Robustness
import GatewayLogs.OrderIndependence
