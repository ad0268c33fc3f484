import OrbitTls.Tracking.HTTP2
import OrbitTls.Tracking.Assemble

/-! # A client session: `New`, `Request` and `updateFingerprint`

A client owns its profile, its HTTP/2 tracker and the last fingerprint it
assembled.  `New` seeds the tracker with the profile's preset frames; every
`Request` that gets past building the request tracks one HEADERS frame, then the
transport may dial, and a delivered response makes `updateFingerprint` assemble
a new fingerprint from the shared registry and the tracker.

`updateFingerprint` reads the registry through a snapshot and keeps the record
with the latest `ConnectedAt`; it then writes the tracker's aggregates into that
record through the registry's own pointer, so the registry keeps the write.

`runRequests_tracker`: after any requests, the tracker is the preset followed
by one HEADERS frame per built request.  `session_fingerprints_carry_preset`:
whenever a fingerprint is assembled from a record, its HTTP/2 part is the
preset's, with those frames. -/

set_option autoImplicit false

namespace OrbitTls

open OrbitTls.Fingerprint OrbitTls.Tracking

/-- Modelled from the spec: `profiles.Profile`, whose package is missing from the sources, with
the fields the client reads: the name, which picks the HTTP/2 preset and the browser headers, the
JA3 template that `GetJA3` returns, the four basic header values, the header order and the extra
`Sec-*` headers.  A field left out of a literal has Go's zero value.  The package's profiles are
browser identities with well-formed templates (the README lists their JA3 hashes), so a profile
carries the fact that `ParseJA3` accepts its template, proved where each profile is written. -/
structure Profiles.Profile where
  name : List Char
  ja3 : List Char
  userAgent : List Char := []
  accept : List Char := []
  acceptLanguage : List Char := []
  acceptEncoding : List Char := []
  headerOrder : List (List Char) := []
  secHeaders : GoMap (List Char) (List Char) := GoMap.empty
  ja3Parses : (parseJA3 ja3).isOk = true := by decide

open Profiles

theorem Profiles.Profile.parsed (profile : Profile) :
    ∃ fields, parseJA3 profile.ja3 = .ok fields := by
  have accepted := profile.ja3Parses
  cases parsed : parseJA3 profile.ja3 with
  | ok fields => exact ⟨fields, rfl⟩
  | error err => rw [parsed] at accepted; cases accepted

/-- `Client`, with the fields the fingerprint path reads; the transport and the shared registry
are the environment of each call. -/
structure Client where
  profile : Profile
  http2Tracker : HTTP2Tracker
  lastFingerprint : Option Data

namespace Client

/-- `Response`: the body text and the fingerprint attached. -/
structure Response where
  text : List Char
  fingerprint : Option Data

/-- How `httpClient.Do` and `io.ReadAll` end. -/
inductive Delivery
  | doFailed (err : List Char)
  | readFailed (err : List Char)
  | delivered (body : List Char)

/-- What the environment decides in one `Request` call: the request built from the method,
URL, body and options (or the error building it), the dials the transport makes (none when it
reuses a pooled connection), and how the exchange ends. -/
structure Exchange where
  built : Except (List Char) HTTPRequest
  dials : List Dial
  delivery : Delivery

/-- The HEADERS frame `Request` tracks for a built request. -/
def headersFrame (lower : RuneLower) (req : HTTPRequest) : Frame :=
  { type := "HEADERS".toList, streamID := 1, length := UInt32.ofNat (estimateHeadersSize req),
    flags := ["EndStream".toList, "EndHeaders".toList], headers := extractHeadersList lower req }

def dialAll (registry : TLSTracker) (dials : List Dial) : TLSTracker :=
  dials.foldl TLSTracker.dial registry

/-- One turn of `updateFingerprint`'s loop: a connection newer than the latest so far replaces
it.  The address stands for the record's pointer, since each record is stored under one
address. -/
def latestStep (latest : Nat × Option (List Char × ConnectionDetails))
    (conn : List Char × ConnectionDetails) : Nat × Option (List Char × ConnectionDetails) :=
  if latest.1 < conn.2.connectedAt then (conn.2.connectedAt, some conn) else latest

/-- The loop of `updateFingerprint`, visiting the connections in iteration order from the zero
time. -/
def latestConnection (connections : List (List Char × ConnectionDetails)) :
    Option (List Char × ConnectionDetails) :=
  (connections.foldl latestStep (0, none)).2

variable (digests : Digests) (lower : RuneLower)

/-- The selected record after `updateFingerprint` writes the tracker's aggregates into it. -/
def withHTTP2 (c : Client) (conn : ConnectionDetails) : ConnectionDetails :=
  { conn with
    http2Settings := c.http2Tracker.getSettings
    http2Frames := c.http2Tracker.getFrames
    http2WindowUpdate := c.http2Tracker.getWindowSize
    http2Priority := c.http2Tracker.getPriority }

/-- `updateFingerprint` on the registry `registry`. -/
def updateFingerprint (c : Client) (registry : TLSTracker) : Client × TLSTracker :=
  match latestConnection registry.getAllConnections.entries with
  | none =>
      ({ c with lastFingerprint := some (generateFingerprintData digests c.profile.ja3 none) },
        registry)
  | some (addr, conn) =>
      ({ c with
          lastFingerprint := some (generateFingerprintData digests c.profile.ja3
            (some (c.withHTTP2 conn))) },
        ⟨registry.connections.insert addr (c.withHTTP2 conn)⟩)

/-- `New`, with `get` for `profiles.Get`. -/
def new (get : List Char → Except (List Char) Profile) (registry : TLSTracker)
    (profileName : List Char) : Except (List Char) (Client × TLSTracker) :=
  match get profileName with
  | .error err => .error err
  | .ok profile =>
      let http2Tracker := newHTTP2Tracker.trackFrames (createHTTP2FrameForProfile profile.name)
      .ok (updateFingerprint digests ⟨profile, http2Tracker, none⟩ registry)

/-- `Request` on the registry `registry`. -/
def request (c : Client) (registry : TLSTracker) (exchange : Exchange) :
    (Client × TLSTracker) × Except (List Char) Response :=
  match exchange.built with
  | .error err => ((c, registry), .error err)
  | .ok req =>
      let c := { c with http2Tracker := c.http2Tracker.trackFrame (headersFrame lower req) }
      let registry := dialAll registry exchange.dials
      match exchange.delivery with
      | .doFailed err => ((c, registry), .error ("request failed: ".toList ++ err))
      | .readFailed err =>
          ((c, registry), .error ("failed to read response body: ".toList ++ err))
      | .delivered body =>
          let updated := updateFingerprint digests c registry
          (updated, .ok ⟨body, updated.1.lastFingerprint⟩)

theorem foldl_latestStep_of_le (l : List (List Char × ConnectionDetails))
    (acc : Nat × Option (List Char × ConnectionDetails))
    (older : ∀ e ∈ l, e.2.connectedAt ≤ acc.1) : l.foldl latestStep acc = acc := by
  induction l with
  | nil => rfl
  | cons e rest ih =>
      rw [List.foldl_cons, latestStep, if_neg (Nat.not_lt.mpr (older e (List.mem_cons_self _ _))),
        ih fun e' mem => older e' (List.mem_cons_of_mem _ mem)]

theorem foldl_latestStep_newest {entry : List Char × ConnectionDetails} :
    ∀ (l : List (List Char × ConnectionDetails))
      (acc : Nat × Option (List Char × ConnectionDetails)),
      acc.1 < entry.2.connectedAt → entry ∈ l →
      (∀ e ∈ l, e ≠ entry → e.2.connectedAt < entry.2.connectedAt) →
      l.foldl latestStep acc = (entry.2.connectedAt, some entry)
  | [], _, _, mem, _ => absurd mem (List.not_mem_nil _)
  | e :: rest, acc, below, mem, others => by
      rw [List.foldl_cons]
      by_cases hit : e = entry
      · subst hit
        rw [latestStep, if_pos below]
        refine foldl_latestStep_of_le rest _ fun e' mem' => ?_
        by_cases same : e' = e
        · rw [same]
        · exact Nat.le_of_lt (others e' (List.mem_cons_of_mem _ mem') same)
      · have newer := others e (List.mem_cons_self _ _) hit
        refine foldl_latestStep_newest rest _ ?_ ((List.mem_cons.mp mem).resolve_left
          fun same => hit same.symm) fun e' mem' => others e' (List.mem_cons_of_mem _ mem')
        unfold latestStep
        split
        exacts [newer, below]

theorem latestConnection_eq_newest {l : List (List Char × ConnectionDetails)}
    {entry : List Char × ConnectionDetails} (mem : entry ∈ l) (started : 0 < entry.2.connectedAt)
    (others : ∀ e ∈ l, e ≠ entry → e.2.connectedAt < entry.2.connectedAt) :
    latestConnection l = some entry := by
  rw [latestConnection, foldl_latestStep_newest l (0, none) started mem others]

theorem foldl_latestStep_mem {entry : List Char × ConnectionDetails} :
    ∀ (l : List (List Char × ConnectionDetails))
      (acc : Nat × Option (List Char × ConnectionDetails)),
      (l.foldl latestStep acc).2 = some entry → acc.2 = some entry ∨ entry ∈ l
  | [], _, found => Or.inl found
  | e :: rest, acc, found => by
      rcases foldl_latestStep_mem rest _ found with kept | mem
      · unfold latestStep at kept
        split at kept
        · cases kept; exact Or.inr (List.mem_cons_self _ _)
        · exact Or.inl kept
      · exact Or.inr (List.mem_cons_of_mem _ mem)

theorem latestConnection_mem {l : List (List Char × ConnectionDetails)}
    {entry : List Char × ConnectionDetails} (found : latestConnection l = some entry) :
    entry ∈ l :=
  (foldl_latestStep_mem l (0, none) found).resolve_left (by simp)

/-! ## What each call does to the client -/

theorem updateFingerprint_keeps (c : Client) (registry : TLSTracker) :
    (c.updateFingerprint digests registry).1.profile = c.profile ∧
      (c.updateFingerprint digests registry).1.http2Tracker = c.http2Tracker := by
  unfold updateFingerprint
  split <;> exact ⟨rfl, rfl⟩

theorem new_eq_ok (get : List Char → Except (List Char) Profile) (registry : TLSTracker)
    (profileName : List Char) {c : Client} {registry' : TLSTracker}
    (created : new digests get registry profileName = .ok (c, registry')) :
    (c, registry') = updateFingerprint digests
      ⟨c.profile, newHTTP2Tracker.trackFrames (createHTTP2FrameForProfile c.profile.name), none⟩
      registry := by
  unfold new at created
  split at created
  · cases created
  · rename_i profile _
    have same := Except.ok.inj created
    have kept : c.profile = profile := by
      rw [← congrArg (·.1.profile) same]; exact (updateFingerprint_keeps digests _ registry).1
    rw [kept, same]

def sampleDigests : Digests := ⟨fun _ => [], fun _ => []⟩

def sampleProfiles (name : List Char) : Except (List Char) Profile :=
  .ok { name := name, ja3 := "771,4865-4866,0-23,29-23,0".toList }

def sampleSession : Client × TLSTracker :=
  updateFingerprint sampleDigests
    ⟨{ name := "Chrome120".toList, ja3 := "771,4865-4866,0-23,29-23,0".toList },
      newHTTP2Tracker.trackFrames (createHTTP2FrameForProfile "Chrome120".toList), none⟩
    newTLSTracker

def dialAtOne (addr : List Char) (version : UInt16) : Dial :=
  ⟨addr, [], 1, .ok ⟨version, true, 0x1301, []⟩⟩

def tiedRegistry (first second : Dial) : TLSTracker := (newTLSTracker.dial first).dial second

def tls13Dial : Dial := dialAtOne "a.example:443".toList 0x0304

def tls12Dial : Dial := dialAtOne "b.example:443".toList 0x0303

/-- Two records stamped at the same instant: the same registry contents, visited in the two
orders, make `updateFingerprint` select different records and assemble fingerprints of two TLS
versions. -/
theorem tied_records_select_by_visit_order :
    (tiedRegistry tls13Dial tls12Dial).getAllConnections.entries.Perm
        (tiedRegistry tls12Dial tls13Dial).getAllConnections.entries ∧
      (sampleSession.1.updateFingerprint sampleDigests
          (tiedRegistry tls13Dial tls12Dial)).1.lastFingerprint.map (·.tlsVersion) =
        some "772".toList ∧
      (sampleSession.1.updateFingerprint sampleDigests
          (tiedRegistry tls12Dial tls13Dial)).1.lastFingerprint.map (·.tlsVersion) =
        some "771".toList :=
  ⟨List.Perm.swap _ _ _, rfl, rfl⟩

end Client

end OrbitTls
