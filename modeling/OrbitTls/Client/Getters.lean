import OrbitTls.Client.Session

/-! # The fingerprint getters of `Client` and `Response`

`Client` answers `GetJA3` and `GetJA3Hash` from its profile's JA3 template, and
the six other getters from the last fingerprint it assembled; with no
fingerprint, `GetJA4` and `GetJA4R` compute the value from the template and the
profile's ALPN list, and the four others give the empty text.  Every getter of
`Response` reads the fingerprint attached to the response, or gives the empty
text.

`request_inversion` says what a `Request` call can do to the client: nothing,
track a frame, or track a frame and assemble a fingerprint.  Every fingerprint
carries the profile's template and its hash (`Fingerprinted`), so
`response_getters_agree`: the eight getters of a delivered response return what
the client's eight getters return once the call is over. -/

set_option autoImplicit false

namespace OrbitTls

open OrbitTls.Fingerprint OrbitTls.Tracking Profiles

namespace Client

variable (digests : Digests) (lower : RuneLower) (alpn : Profile → List (List Char))

/-! ## The getters -/

/-- The shape of the client's getters past `GetJA3Hash`: a field of the last fingerprint, or
`fallback` when the client holds none. -/
def fingerprintField (field : Data → List Char) (fallback : List Char) (c : Client) :
    List Char :=
  match c.lastFingerprint with
  | some fp => field fp
  | none => fallback

/-- What `GetJA4` and `GetJA4R` compute when the client holds no fingerprint: `generate` of the
profile's template and ALPN list, or the empty text when `ParseJA3` rejects the template.  `alpn`
gives a profile's `ALPNProtocols`, a field of the missing `profiles` package that only these two
getters read. -/
def fromTemplate
    (generate : UInt16 → List UInt16 → List UInt16 → List UInt16 → List (List Char) → List Char)
    (c : Client) : List Char :=
  match parseJA3 c.profile.ja3 with
  | .ok (tlsVersion, cipherSuites, extensions, supportedGroups, _) =>
      generate tlsVersion cipherSuites extensions supportedGroups (alpn c.profile)
  | .error _ => []

def getJA3 (c : Client) : List Char := c.profile.ja3

def getJA3Hash (c : Client) : List Char := generateJA3Hash digests c.profile.ja3

def getJA4 (c : Client) : List Char := c.fingerprintField Data.ja4 (c.fromTemplate alpn generateJA4)

def getJA4R (c : Client) : List Char :=
  c.fingerprintField Data.ja4R (c.fromTemplate alpn generateJA4R)

def getPeetPrint (c : Client) : List Char := c.fingerprintField Data.peetPrint []

def getAkamaiFingerprint (c : Client) : List Char := c.fingerprintField Data.akamaiFP []

def getClientRandom (c : Client) : List Char := c.fingerprintField Data.clientRandom []

def getSessionID (c : Client) : List Char := c.fingerprintField Data.sessionID []

/-- The client's eight fingerprint getters, in the order the source declares them. -/
def getters (c : Client) : List (List Char) :=
  [c.getJA3, c.getJA3Hash digests, c.getJA4 alpn, c.getJA4R alpn, c.getPeetPrint,
    c.getAkamaiFingerprint, c.getClientRandom, c.getSessionID]

namespace Response

/-- The shape of every getter of `Response`: a field of the attached fingerprint, or the empty
text. -/
def fingerprintField (field : Data → List Char) (r : Response) : List Char :=
  match r.fingerprint with
  | some fp => field fp
  | none => []

def getJA3 (r : Response) : List Char := r.fingerprintField Data.ja3

def getJA3Hash (r : Response) : List Char := r.fingerprintField Data.ja3Hash

def getJA4 (r : Response) : List Char := r.fingerprintField Data.ja4

def getJA4R (r : Response) : List Char := r.fingerprintField Data.ja4R

def getPeetPrint (r : Response) : List Char := r.fingerprintField Data.peetPrint

def getAkamaiFingerprint (r : Response) : List Char := r.fingerprintField Data.akamaiFP

def getClientRandom (r : Response) : List Char := r.fingerprintField Data.clientRandom

def getSessionID (r : Response) : List Char := r.fingerprintField Data.sessionID

/-- The response's eight fingerprint getters, in the order the source declares them. -/
def getters (r : Response) : List (List Char) :=
  [r.getJA3, r.getJA3Hash, r.getJA4, r.getJA4R, r.getPeetPrint, r.getAkamaiFingerprint,
    r.getClientRandom, r.getSessionID]

end Response

/-! ## What a call does to the client -/

/-- A client holds a fingerprint, and that fingerprint carries its profile's template and the
template's hash. -/
def Fingerprinted (c : Client) : Prop :=
  ∃ fp, c.lastFingerprint = some fp ∧ fp.ja3 = c.profile.ja3 ∧
    fp.ja3Hash = generateJA3Hash digests c.profile.ja3

theorem getters_of_fingerprinted {c : Client} {fp : Data} (held : c.lastFingerprint = some fp)
    (template : fp.ja3 = c.profile.ja3) (hash : fp.ja3Hash = generateJA3Hash digests c.profile.ja3)
    (text : List Char) : c.getters digests alpn = Response.getters ⟨text, some fp⟩ := by
  simp only [getters, Response.getters, getJA3, getJA3Hash, getJA4, getJA4R, getPeetPrint,
    getAkamaiFingerprint, getClientRandom, getSessionID, fingerprintField, held, template, hash,
    Response.getJA3, Response.getJA3Hash, Response.getJA4, Response.getJA4R,
    Response.getPeetPrint, Response.getAkamaiFingerprint, Response.getClientRandom,
    Response.getSessionID, Response.fingerprintField]

theorem fingerprinted_updateFingerprint (c : Client) (registry : TLSTracker) :
    Fingerprinted digests (c.updateFingerprint digests registry).1 := by
  rw [Fingerprinted, (updateFingerprint_keeps digests c registry).1]
  unfold updateFingerprint
  split
  exacts [⟨_, rfl, generateFingerprintData_ja3 digests _ none⟩,
    ⟨_, rfl, generateFingerprintData_ja3 digests _ (some _)⟩]

theorem updateFingerprint_unrecorded (c : Client) {registry : TLSTracker}
    (empty : registry.connections.entries = []) :
    c.updateFingerprint digests registry =
      ({ c with lastFingerprint := some (generateFallbackFingerprint digests c.profile.ja3) },
        registry) := by
  simp only [updateFingerprint, TLSTracker.getAllConnections_eq, empty, latestConnection,
    List.foldl_nil]
  rfl

theorem request_inversion (c : Client) (registry : TLSTracker) (exchange : Exchange) :
    (∃ err, c.request digests lower registry exchange = ((c, registry), .error err)) ∨
      ∃ req, exchange.built = .ok req ∧
        let tracked := { c with http2Tracker := c.http2Tracker.trackFrame (headersFrame lower req) }
        let updated := tracked.updateFingerprint digests (dialAll registry exchange.dials)
        ((∃ err, c.request digests lower registry exchange =
            ((tracked, dialAll registry exchange.dials), .error err)) ∨
          ∃ body, c.request digests lower registry exchange =
            (updated, .ok ⟨body, updated.1.lastFingerprint⟩)) := by
  rcases exchange with ⟨built | req, dials, delivery⟩
  · exact Or.inl ⟨_, rfl⟩
  · refine Or.inr ⟨req, rfl, ?_⟩
    cases delivery with
    | doFailed err => exact Or.inl ⟨_, rfl⟩
    | readFailed err => exact Or.inl ⟨_, rfl⟩
    | delivered body => exact Or.inr ⟨body, rfl⟩

theorem dialAll_of_stored_eq_none :
    ∀ (registry : TLSTracker) {dials : List Dial}, (∀ d ∈ dials, d.stored = none) →
      dialAll registry dials = registry
  | _, [], _ => rfl
  | registry, d :: rest, failed => by
      rw [dialAll, List.foldl_cons, TLSTracker.dial_of_stored_eq_none registry
        (failed d (List.mem_cons_self d rest)), ← dialAll]
      exact dialAll_of_stored_eq_none registry fun d' mem => failed d' (List.mem_cons_of_mem d mem)

theorem request_unrecorded (c : Client) {registry : TLSTracker}
    (empty : registry.connections.entries = []) (exchange : Exchange)
    (failed : ∀ req, exchange.built = .ok req → ∀ d ∈ exchange.dials, d.stored = none)
    (fallback : c.lastFingerprint = some (generateFallbackFingerprint digests c.profile.ja3)) :
    (c.request digests lower registry exchange).1.2 = registry ∧
      (c.request digests lower registry exchange).1.1.lastFingerprint =
        some (generateFallbackFingerprint digests
          (c.request digests lower registry exchange).1.1.profile.ja3) := by
  rcases request_inversion digests lower c registry exchange with
    ⟨_, kept⟩ | ⟨req, built, ⟨_, tracked⟩ | ⟨_, delivered⟩⟩
  · rw [kept]; exact ⟨rfl, fallback⟩
  · rw [tracked, dialAll_of_stored_eq_none registry (failed req built)]; exact ⟨rfl, fallback⟩
  · rw [delivered, dialAll_of_stored_eq_none registry (failed req built),
      updateFingerprint_unrecorded digests _ empty]
    exact ⟨rfl, rfl⟩

theorem fingerprinted_request (c : Client) (registry : TLSTracker) (exchange : Exchange)
    (holds : Fingerprinted digests c) :
    Fingerprinted digests (c.request digests lower registry exchange).1.1 := by
  rcases request_inversion digests lower c registry exchange with
    ⟨_, failed⟩ | ⟨_, -, ⟨_, failed⟩ | ⟨_, sent⟩⟩
  · rwa [failed]
  · rwa [failed]
  · rw [sent]
    exact fingerprinted_updateFingerprint digests _ _

/-- After a delivered request, the eight getters of the response return what the client's eight
getters return, whatever the profile's ALPN list: the response carries the fingerprint the client
now holds, and that fingerprint carries the profile's template and its hash. -/
theorem response_getters_agree (c : Client) (registry : TLSTracker) (exchange : Exchange)
    {c' : Client} {registry' : TLSTracker} {resp : Response}
    (delivered : c.request digests lower registry exchange = ((c', registry'), .ok resp)) :
    resp.getters = c'.getters digests alpn := by
  rcases request_inversion digests lower c registry exchange with
    ⟨_, failed⟩ | ⟨req, -, ⟨_, failed⟩ | ⟨body, sent⟩⟩
  · cases failed.symm.trans delivered
  · cases failed.symm.trans delivered
  · rw [sent, Prod.mk.injEq, Except.ok.injEq] at delivered
    obtain ⟨updated, rfl⟩ := delivered
    obtain ⟨fp, held, template, hash⟩ := fingerprinted_updateFingerprint digests
      { c with http2Tracker := c.http2Tracker.trackFrame (headersFrame lower req) }
      (dialAll registry exchange.dials)
    simp only [updated] at held template hash ⊢
    rw [held]
    exact (getters_of_fingerprinted digests alpn held template hash body).symm

def sampleDelivery : (Client × TLSTracker) × Except (List Char) Response :=
  sampleSession.1.request sampleDigests latin1Lower sampleSession.2
    ⟨.ok ⟨"GET".toList, "/".toList, "https".toList, "a.example".toList, "HTTP/1.1".toList,
      GoMap.empty⟩, [tls13Dial], .delivered []⟩

theorem sampleDelivery_getters_agree :
    sampleDelivery = ((sampleDelivery.1.1, sampleDelivery.1.2),
        .ok ⟨[], sampleDelivery.1.1.lastFingerprint⟩) ∧
      Response.getters ⟨[], sampleDelivery.1.1.lastFingerprint⟩ =
        sampleDelivery.1.1.getters sampleDigests fun _ => [] :=
  ⟨rfl, @response_getters_agree sampleDigests latin1Lower (fun _ => []) sampleSession.1
    sampleSession.2
    ⟨.ok ⟨"GET".toList, "/".toList, "https".toList, "a.example".toList, "HTTP/1.1".toList,
      GoMap.empty⟩, [tls13Dial], .delivered []⟩ sampleDelivery.1.1 sampleDelivery.1.2
    ⟨[], sampleDelivery.1.1.lastFingerprint⟩ rfl⟩

end Client

end OrbitTls
