import OrbitTls.Client.World
import OrbitTls.Client.Getters

/-! # Each client of the process

A `New` appends a client, and a `Request` call changes the client it is addressed
to and the registry.  `clients_run_of_preserved`: a property of clients that `New`
establishes and every `Request` keeps holds of every client along every run.

`clients_answer_from_fingerprint`: in every run, every
client holds a fingerprint carrying its profile's template, so its getters all
read that fingerprint and `GetJA4` never computes its value from the template.
`clients_fallback_until_handshake`: until a handshake succeeds, the registry stays empty and every
client holds the fallback fingerprint, delivered requests or not. -/

set_option autoImplicit false

namespace OrbitTls

open OrbitTls.Fingerprint OrbitTls.Tracking Profiles Client

namespace World

variable (digests : Digests) (lower : RuneLower) (get : List Char → Except (List Char) Profile)

/-! ## What every client holds -/

theorem clients_run_of_preserved (P : Client → Prop)
    (created : ∀ registry profileName c registry',
      Client.new digests get registry profileName = .ok (c, registry') → P c)
    (kept : ∀ c registry exchange, P c → P (c.request digests lower registry exchange).1.1)
    (events : List Event) :
    ∀ w : World, (∀ c ∈ w.clients, P c) → ∀ c ∈ (w.run digests lower get events).clients, P c := by
  induction events with
  | nil => intro w holds; exact holds
  | cons event rest ih =>
      intro w holds
      refine ih (w.step digests lower get event) ?_
      cases event with
      | new profileName =>
          simp only [step]
          split
          · next c registry made =>
              intro c' mem
              rcases List.mem_append.mp mem with old | new
              · exact holds c' old
              · rw [List.mem_singleton.mp new]; exact created _ _ _ _ made
          · exact holds
      | request client exchange =>
          simp only [step]
          split
          · next c found =>
              intro c' mem
              rcases List.mem_or_eq_of_mem_set mem with old | updated
              · exact holds c' old
              · rw [updated]; exact kept _ _ _ (holds c (List.getElem?_mem found))
          · exact holds

theorem fingerprinted_new (registry : TLSTracker) (profileName : List Char) {c : Client}
    {registry' : TLSTracker}
    (created : Client.new digests get registry profileName = .ok (c, registry')) :
    Fingerprinted digests c := by
  rw [show c = (c, registry').1 from rfl, new_eq_ok digests get registry profileName created]
  exact fingerprinted_updateFingerprint digests _ _

/-! ## Before any handshake succeeds -/

/-- The registry holds no record, and every client holds the fallback fingerprint. -/
def Unrecorded (w : World) : Prop :=
  w.registry.connections.entries = [] ∧
    ∀ c ∈ w.clients, c.lastFingerprint = some (generateFallbackFingerprint digests c.profile.ja3)

theorem unrecorded_step {w : World} (holds : Unrecorded digests w) (event : Event)
    (failed : ∀ d ∈ w.dials event, d.stored = none) :
    Unrecorded digests (w.step digests lower get event) := by
  obtain ⟨empty, fallback⟩ := holds
  cases event with
  | new profileName =>
      simp only [step]
      split
      · next c registry made =>
          have made := Prod.mk.inj <| (new_eq_ok digests get _ _ made).trans
            (updateFingerprint_unrecorded digests _ empty)
          refine ⟨(congrArg (·.connections.entries) made.2).trans empty, fun c' mem => ?_⟩
          rcases List.mem_append.mp mem with old | new
          · exact fallback c' old
          · rw [List.mem_singleton.mp new]; exact congrArg Client.lastFingerprint made.1
      · exact ⟨empty, fallback⟩
  | request client exchange =>
      simp only [step]
      split
      · next c found =>
          have dialsFail : ∀ req, exchange.built = .ok req →
              ∀ d ∈ exchange.dials, d.stored = none :=
            fun req built => by simpa only [dials, found, built] using failed
          obtain ⟨kept, updated⟩ := request_unrecorded digests lower c empty exchange dialsFail
            (fallback c (List.getElem?_mem found))
          refine ⟨(congrArg (·.connections.entries) kept).trans empty, fun c' mem => ?_⟩
          rcases List.mem_or_eq_of_mem_set mem with old | new
          · exact fallback c' old
          · rw [new]; exact updated
      · exact ⟨empty, fallback⟩

theorem unrecorded_run (events : List Event) :
    ∀ w : World, Unrecorded digests w →
      (∀ d ∈ w.runDials digests lower get events, d.stored = none) →
      Unrecorded digests (w.run digests lower get events) := by
  induction events with
  | nil => intro w holds _; exact holds
  | cons event rest ih =>
      intro w holds failed
      exact ih _ (unrecorded_step digests lower get holds event
          fun d mem => failed d (List.mem_append_left _ mem))
        fun d mem => failed d (List.mem_append_right _ mem)

end World

/-- In every run of the process in which no TLS handshake has succeeded, the registry holds no
record and every client holds the fallback fingerprint (the template and its hash, a zero client
random and session ID, no JA4, PeetPrint or HTTP/2 part), however many requests were
delivered. -/
theorem clients_fallback_until_handshake (digests : Digests) (lower : RuneLower)
    (get : List Char → Except (List Char) Profile) (events : List Event)
    (noHandshake : ∀ d ∈ initialWorld.runDials digests lower get events, d.stored = none) :
    (initialWorld.run digests lower get events).registry.getAllConnections.entries = [] ∧
      ∀ c ∈ (initialWorld.run digests lower get events).clients,
        c.lastFingerprint = some (generateFallbackFingerprint digests c.profile.ja3) := by
  obtain ⟨empty, fallback⟩ := World.unrecorded_run digests lower get events initialWorld
    ⟨rfl, fun _ mem => by cases mem⟩ noHandshake
  exact ⟨by rw [TLSTracker.getAllConnections_eq]; exact empty, fallback⟩

def failingExchange : Exchange :=
  ⟨.ok (sampleRequest "a.example:443".toList),
    [⟨"a.example:443".toList, [], 1, .error "handshake failure".toList⟩], .delivered []⟩

theorem failed_dial_keeps_fallback :
    (∀ d ∈ initialWorld.runDials sampleDigests latin1Lower sampleProfiles
      (sampleEvents ++ [.request 0 failingExchange]), d.stored = none) ∧
      (initialWorld.run sampleDigests latin1Lower sampleProfiles
          (sampleEvents ++ [.request 0 failingExchange])).registry.getAllConnections.entries = [] ∧
      ∀ c ∈ (initialWorld.run sampleDigests latin1Lower sampleProfiles
          (sampleEvents ++ [.request 0 failingExchange])).clients,
        c.lastFingerprint = some (generateFallbackFingerprint sampleDigests c.profile.ja3) :=
  have noHandshake : ∀ d ∈ initialWorld.runDials sampleDigests latin1Lower sampleProfiles
      (sampleEvents ++ [.request 0 failingExchange]), d.stored = none := by
    intro d mem
    rw [show initialWorld.runDials sampleDigests latin1Lower sampleProfiles
      (sampleEvents ++ [.request 0 failingExchange]) = failingExchange.dials from rfl] at mem
    rw [List.mem_singleton.mp mem]
    rfl
  ⟨noHandshake,
    clients_fallback_until_handshake sampleDigests latin1Lower sampleProfiles _ noHandshake⟩

/-- In every run of the process, every client holds a fingerprint, and each of its eight getters
returns what a response carrying that fingerprint returns, whatever the profile's ALPN list: the
way `GetJA4` and `GetJA4R` have through the template when no fingerprint is held is never
taken. -/
theorem clients_answer_from_fingerprint (digests : Digests) (lower : RuneLower)
    (get : List Char → Except (List Char) Profile) (alpn : Profile → List (List Char))
    (events : List Event) :
    ∀ c ∈ (initialWorld.run digests lower get events).clients, ∃ fp, c.lastFingerprint = some fp ∧
      ∀ text, c.getters digests alpn = Response.getters ⟨text, some fp⟩ := by
  intro c mem
  obtain ⟨fp, held, template, hash⟩ := World.clients_run_of_preserved digests lower get
    (Fingerprinted digests) (fun _ _ _ _ created => World.fingerprinted_new digests get _ _ created)
    (fun c registry exchange => fingerprinted_request digests lower c registry exchange) events
    initialWorld (fun _ mem => (by cases mem)) c mem
  exact ⟨fp, held, getters_of_fingerprinted digests alpn held template hash⟩

theorem sample_clients_answer_from_fingerprint :
    sampleSession.1 ∈
        (initialWorld.run sampleDigests latin1Lower sampleProfiles sampleEvents).clients ∧
      ∃ fp, sampleSession.1.lastFingerprint = some fp ∧
        ∀ text, sampleSession.1.getters sampleDigests (fun _ => []) =
          Response.getters ⟨text, some fp⟩ :=
  have mem := List.getElem?_mem (show (initialWorld.run sampleDigests latin1Lower sampleProfiles
    sampleEvents).clients[0]? = some sampleSession.1 from rfl)
  ⟨mem, clients_answer_from_fingerprint sampleDigests latin1Lower sampleProfiles (fun _ => [])
    sampleEvents _ mem⟩

end OrbitTls
