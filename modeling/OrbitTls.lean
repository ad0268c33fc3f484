import OrbitTls.Text.Split
import OrbitTls.Text.Decimal
import OrbitTls.Text.Hex
import OrbitTls.GoMap
import OrbitTls.Fingerprint.Types
import OrbitTls.Fingerprint.JA3
import OrbitTls.Fingerprint.JA4
import OrbitTls.Fingerprint.PeetPrint
import OrbitTls.Fingerprint.Names
import OrbitTls.Tracking.Akamai
import OrbitTls.Tracking.HTTP2
import OrbitTls.Tracking.TLS
import OrbitTls.Tracking.Assemble
import OrbitTls.Client.Headers
import OrbitTls.Client.Session
import OrbitTls.Client.World
import OrbitTls.Client.Getters
import OrbitTls.Client.Clients
import OrbitTls.Client.HeaderLog
import OrbitTls.Client.HTTPHeader
import OrbitTls.Client.RequestHeaders
import OrbitTls.Client.Request
