import OrbitTls.GoMap

/-! # The records of package `fingerprint`

`Frame`, `HeaderPriority`, `HTTP2Data`, `Extension` and `Data`, field for
field.  A Go pointer that may be nil is an `Option`; a nil map in a frame is
`none`, since `TrackFrame` tests for it.  Fields a composite literal leaves out
take Go's zero values, the defaults below. -/

set_option autoImplicit false

namespace OrbitTls.Fingerprint

structure HeaderPriority where
  dependency : UInt32 := 0
  exclusive : Bool := false
  weight : UInt8 := 0
deriving DecidableEq, Repr

/-- `Frame`: one synthesized HTTP/2 frame. -/
structure Frame where
  type : List Char := []
  streamID : UInt32 := 0
  length : UInt32 := 0
  flags : List (List Char) := []
  headers : List (List Char) := []
  settings : Option (GoMap (List Char) UInt32) := none

structure HTTP2Data where
  settings : GoMap (List Char) UInt32
  windowUpdate : UInt32 := 0
  headerPriority : Option HeaderPriority := none
  sentFrames : List Frame := []
  connectionPreface : List Char := []
  akamaiFingerprint : List Char := []
  akamaiFingerprintHash : List Char := []

structure Extension where
  type : UInt16
  name : List Char

/-- `Data`: the fingerprint record. -/
structure Data where
  tlsVersion : List Char := []
  tlsVersionRecord : List Char := []
  tlsVersionNegotiated : List Char := []
  cipherSuites : List (List Char) := []
  extensions : List Extension := []
  supportedGroups : List (List Char) := []
  signatureAlgorithms : List (List Char) := []
  ja3 : List Char := []
  ja3Hash : List Char := []
  ja4 : List Char := []
  ja4R : List Char := []
  peetPrint : List Char := []
  peetPrintHash : List Char := []
  akamaiFP : List Char := []
  akamaiFPHash : List Char := []
  clientRandom : List Char := []
  sessionID : List Char := []
  http2 : Option HTTP2Data := none

end OrbitTls.Fingerprint
