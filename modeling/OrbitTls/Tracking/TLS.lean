import OrbitTls.Fingerprint.Types

/-! # The connection registry: `TLSTracker` and `TrackedDialer.DialTLS`

The registry maps each address to the record of the last connection dialed to
it.  One registry, `GlobalTracker`, serves every client of the process; its
lock makes every call one atomic step.

A record is stamped with the dial's start time.  Times are counts from Go's
zero time, so `t.After(u)` is `u < t` and the zero `time.Time` is `0`.

`getConnection_storeConnection`: a store overwrites exactly one address.
`getAllConnections_eq`: the snapshot is the registry itself, iteration order
included.  `getConnection_dial`: a successful dial stores a fresh record
stamped with its time; a failed one changes nothing (`Dial.stored`). -/

set_option autoImplicit false

namespace OrbitTls.Tracking

open OrbitTls.Fingerprint

/-- The parts of `tls.ConnectionState` that `updateConnectionDetails` reads; a certificate is
its `Raw` bytes. -/
structure ConnectionState where
  version : UInt16
  handshakeComplete : Bool
  cipherSuite : UInt16
  peerCertificates : List (List UInt8)

/-- `ConnectionDetails`, with the fields some modelled function reads or writes. -/
structure ConnectionDetails where
  clientRandom : List UInt8 := []
  sessionID : List UInt8 := []
  cipherSuite : UInt16 := 0
  tlsVersion : UInt16 := 0
  signatureAlgorithms : List UInt16 := []
  alpnProtocols : List (List Char) := []
  serverName : List Char := []
  peerCertificates : List (List UInt8) := []
  handshakeComplete : Bool := false
  connectedAt : Nat := 0
  http2Settings : GoMap (List Char) UInt32 := GoMap.empty
  http2Frames : List Frame := []
  http2WindowUpdate : UInt32 := 0
  http2Priority : Option HeaderPriority := none

/-- `TLSTracker`, without its lock. -/
structure TLSTracker where
  connections : GoMap (List Char) ConnectionDetails

/-- `NewTLSTracker`, which is also what `GlobalTracker` starts as. -/
def newTLSTracker : TLSTracker := ⟨GoMap.empty⟩

namespace TLSTracker

def storeConnection (t : TLSTracker) (addr : List Char) (details : ConnectionDetails) :
    TLSTracker :=
  ⟨t.connections.insert addr details⟩

def getConnection (t : TLSTracker) (addr : List Char) : Option ConnectionDetails :=
  t.connections.lookup addr

/-- `GetAllConnections`: a fresh map filled from the registry. -/
def getAllConnections (t : TLSTracker) : GoMap (List Char) ConnectionDetails :=
  GoMap.empty.copyFrom t.connections

def clearConnections (_t : TLSTracker) : TLSTracker := newTLSTracker

/-- `updateConnectionDetails`: the handshake's outcome written into the record, then stored. -/
def updateConnectionDetails (t : TLSTracker) (addr : List Char) (state : ConnectionState)
    (details : ConnectionDetails) : TLSTracker :=
  t.storeConnection addr
    { details with
      tlsVersion := state.version
      cipherSuite := state.cipherSuite
      handshakeComplete := state.handshakeComplete
      peerCertificates :=
        if state.peerCertificates.length > 0 then state.peerCertificates
        else details.peerCertificates }

/-- `TrackedDialer.DialTLS` on the registry `t`: `now` is `time.Now()` at the start, and
`handshake` is how `tls.Dial` ends.  The `VerifyConnection` hook writes the same fields as
`updateConnectionDetails` does after it, so it leaves no trace of its own. -/
def dialTLS (t : TLSTracker) (serverName : List Char) (now : Nat) (addr : List Char)
    (handshake : Except (List Char) ConnectionState) : Except (List Char) TLSTracker :=
  let details : ConnectionDetails := { connectedAt := now, serverName := serverName }
  match handshake with
  | .error err => .error err
  | .ok state => .ok (t.updateConnectionDetails addr state details)

variable (t : TLSTracker)

theorem getConnection_storeConnection (addr addr' : List Char) (details : ConnectionDetails) :
    (t.storeConnection addr details).getConnection addr' =
      if addr' = addr then some details else t.getConnection addr' :=
  GoMap.lookup_insert _ _ _ _

@[simp] theorem getAllConnections_eq : t.getAllConnections = t.connections :=
  GoMap.empty_copyFrom _

end TLSTracker

/-- One `DialTLS` call a transport makes: the address, the configuration's `ServerName`, the
start time and how the handshake ends. -/
structure Dial where
  addr : List Char
  serverName : List Char
  now : Nat
  handshake : Except (List Char) ConnectionState

/-- The record a successful dial stores. -/
def Dial.record (d : Dial) (state : ConnectionState) : ConnectionDetails :=
  { connectedAt := d.now, serverName := d.serverName, tlsVersion := state.version,
    cipherSuite := state.cipherSuite, handshakeComplete := state.handshakeComplete,
    peerCertificates := state.peerCertificates }

/-- The record a dial stores: none when its handshake fails. -/
def Dial.stored (d : Dial) : Option ConnectionDetails :=
  match d.handshake with
  | .ok state => some (d.record state)
  | .error _ => none

/-- A record without the HTTP/2 fields, which `updateFingerprint` writes after the dial: the part
of a record that its dial decides. -/
def ConnectionDetails.tlsPart (conn : ConnectionDetails) : ConnectionDetails :=
  { conn with
    http2Settings := GoMap.empty, http2Frames := [], http2WindowUpdate := 0, http2Priority := none }

@[simp] theorem Dial.tlsPart_record (d : Dial) (state : ConnectionState) :
    (d.record state).tlsPart = d.record state :=
  rfl

/-- The registry after a dial: a failed dial returns its error and stores nothing. -/
def TLSTracker.dial (t : TLSTracker) (d : Dial) : TLSTracker :=
  match t.dialTLS d.serverName d.now d.addr d.handshake with
  | .ok t' => t'
  | .error _ => t

theorem TLSTracker.dial_of_stored_eq_none (t : TLSTracker) {d : Dial} (failed : d.stored = none) :
    t.dial d = t := by
  obtain ⟨addr, serverName, now, handshake⟩ := d
  cases handshake with
  | error err => rfl
  | ok state => cases failed

theorem TLSTracker.getConnection_dial (t : TLSTracker) (d : Dial) (addr : List Char) :
    (t.dial d).getConnection addr =
      match d.handshake with
      | .ok state => if addr = d.addr then some (d.record state) else t.getConnection addr
      | .error _ => t.getConnection addr := by
  obtain ⟨dialed, serverName, now, handshake⟩ := d
  cases handshake with
  | error err => rfl
  | ok state =>
      simp only [dial, dialTLS, updateConnectionDetails, getConnection_storeConnection, Dial.record]
      by_cases certificates : state.peerCertificates.length > 0
      · simp [certificates]
      · rw [if_neg certificates, List.length_eq_zero.mp (Nat.eq_zero_of_not_pos certificates)]

theorem TLSTracker.getConnection_dial_tlsPart (t : TLSTracker) (d : Dial) (addr : List Char) :
    ((t.dial d).getConnection addr).map ConnectionDetails.tlsPart =
      (if d.addr = addr then d.stored else none).or
        ((t.getConnection addr).map ConnectionDetails.tlsPart) := by
  rw [TLSTracker.getConnection_dial, Dial.stored]
  cases d.handshake with
  | error err => simp
  | ok state =>
      by_cases hit : addr = d.addr
      · subst hit; simp
      · simp [hit, Ne.symm hit]

end OrbitTls.Tracking
