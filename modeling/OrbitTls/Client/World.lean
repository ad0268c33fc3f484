import OrbitTls.Client.Session

/-! # The process: every client on one registry

`GlobalTracker` is one registry for the whole process: every client's transport
stores its dials there and every client's `updateFingerprint` reads it.  A run
is any sequence of `New` and `Request` calls on any of the clients; the
environment decides how each request ends and which dials its transport makes,
with their start times.

`registry_holds_last_records`: each address holds the record of the last
successful dial to it, up to the HTTP/2 fields `updateFingerprint` writes
(`lastRecord`).  `stamped_run`: every record of the registry carries the start
time of the successful dial that stored it, and the address of the last
successful dial still holds that dial's record.  `request_reads_latest_dial`: so while the clock
advances, the record a request's fingerprint is assembled from is the one the
last successful dial of the whole process stored, whichever client made it and
to whichever address, in every order the loop may visit the registry. -/

set_option autoImplicit false

namespace OrbitTls

open OrbitTls.Fingerprint OrbitTls.Tracking Profiles Client

/-- The process: the shared registry and the clients made so far. -/
structure World where
  registry : TLSTracker
  clients : List Client

inductive Event
  | new (profileName : List Char)
  | request (client : Nat) (exchange : Exchange)

/-- The process at start: `GlobalTracker` is empty and there is no client yet. -/
def initialWorld : World := ⟨newTLSTracker, []⟩

/-- The last dial whose handshake succeeded. -/
def lastStored (dials : List Dial) : Option Dial :=
  dials.reverse.find? (·.handshake.isOk)

/-- The registry the dials of `log` describe: each address holds the record of the last
successful dial to it. -/
def lastRecord (log : List Dial) (addr : List Char) : Option ConnectionDetails :=
  log.reverse.findSome? fun d => if d.addr = addr then d.stored else none

namespace World

variable (digests : Digests) (lower : RuneLower) (get : List Char → Except (List Char) Profile)

/-- One call; a `New` that fails adds no client. -/
def step (w : World) : Event → World
  | .new profileName =>
      match Client.new digests get w.registry profileName with
      | .ok (c, registry) => ⟨registry, w.clients ++ [c]⟩
      | .error _ => w
  | .request client exchange =>
      match w.clients[client]? with
      | some c =>
          let result := c.request digests lower w.registry exchange
          ⟨result.1.2, w.clients.set client result.1.1⟩
      | none => w

def run (w : World) (events : List Event) : World :=
  events.foldl (step digests lower get) w

/-- The dials one call makes: those of a request that is built. -/
def dials (w : World) : Event → List Dial
  | .new _ => []
  | .request client exchange =>
      match w.clients[client]?, exchange.built with
      | some _, .ok _ => exchange.dials
      | _, _ => []

def runDials (w : World) : List Event → List Dial
  | [] => []
  | event :: rest => w.dials event ++ (w.step digests lower get event).runDials rest

end World

/-- The start time of the dial whose record an address holds. -/
def stamp (t : TLSTracker) (addr : List Char) : Option Nat :=
  (t.getConnection addr).map (·.connectedAt)

/-- The registry holds records of the successful dials of `log`: each record is stamped by a
successful dial of `log` to its address, and the last one's address holds its record. -/
structure Stamped (t : TLSTracker) (log : List Dial) : Prop where
  fromLog : ∀ addr time, stamp t addr = some time →
    ∃ d ∈ log, d.handshake.isOk ∧ d.addr = addr ∧ d.now = time
  lastKept : ∀ d, lastStored log = some d → stamp t d.addr = some d.now

/-- The registry refines `lastRecord log`: up to the HTTP/2 fields, each address holds the
record of the last successful dial of `log` to it, and no other address holds a record. -/
def Frontier (t : TLSTracker) (log : List Dial) : Prop :=
  ∀ addr, (t.getConnection addr).map ConnectionDetails.tlsPart = lastRecord log addr

/-! ## The registry along a run -/

theorem lastStored_snoc (log : List Dial) (d : Dial) :
    lastStored (log ++ [d]) = if d.handshake.isOk then some d else lastStored log := by
  unfold lastStored
  rw [List.reverse_append, List.reverse_singleton, List.singleton_append, List.find?_cons]
  split <;> simp_all

theorem lastRecord_snoc (log : List Dial) (d : Dial) (addr : List Char) :
    lastRecord (log ++ [d]) addr =
      (if d.addr = addr then d.stored else none).or (lastRecord log addr) := by
  unfold lastRecord
  rw [List.reverse_append, List.reverse_singleton, List.singleton_append, List.findSome?_cons]
  cases (if d.addr = addr then d.stored else none) <;> rfl

theorem frontier_dial {t : TLSTracker} {log : List Dial} (holds : Frontier t log) (d : Dial) :
    Frontier (t.dial d) (log ++ [d]) := fun addr => by
  rw [TLSTracker.getConnection_dial_tlsPart, lastRecord_snoc, holds addr]

theorem frontier_dialAll {t : TLSTracker} {log : List Dial} (holds : Frontier t log)
    (ds : List Dial) : Frontier (dialAll t ds) (log ++ ds) := by
  induction ds generalizing t log with
  | nil => simpa [dialAll] using holds
  | cons d rest ih =>
      have next := ih (frontier_dial holds d)
      rwa [List.append_assoc, List.singleton_append] at next

theorem stamped_of_stamp_eq {t t' : TLSTracker} {log : List Dial} (same : stamp t' = stamp t)
    (stamped : Stamped t log) : Stamped t' log :=
  ⟨same ▸ stamped.fromLog, same ▸ stamped.lastKept⟩

theorem stamp_dial (t : TLSTracker) (d : Dial) (addr : List Char) :
    stamp (t.dial d) addr =
      if d.handshake.isOk ∧ addr = d.addr then some d.now else stamp t addr := by
  unfold stamp
  rw [TLSTracker.getConnection_dial]
  cases d.handshake with
  | error err => simp [Except.isOk, Except.toBool]
  | ok state => by_cases hit : addr = d.addr <;> simp [hit, Dial.record, Except.isOk, Except.toBool]

theorem stamped_dial {t : TLSTracker} {log : List Dial} (stamped : Stamped t log) (d : Dial) :
    Stamped (t.dial d) (log ++ [d]) := by
  constructor
  · intro addr time found
    rw [stamp_dial] at found
    split at found
    next hit =>
      cases found
      exact ⟨d, List.mem_append_right _ (List.mem_singleton_self _), hit.1, hit.2.symm, rfl⟩
    next =>
      obtain ⟨d', mem, ok, rfl, rfl⟩ := stamped.fromLog addr time found
      exact ⟨d', List.mem_append_left _ mem, ok, rfl, rfl⟩
  · intro last found
    rw [lastStored_snoc] at found
    rw [stamp_dial]
    by_cases ok : d.handshake.isOk
    · simp only [ok, if_true, Option.some.injEq] at found
      subst found
      simp [ok]
    · simp only [ok, if_false, Bool.false_eq_true, false_and] at found ⊢
      exact stamped.lastKept last found

theorem stamped_dialAll {t : TLSTracker} {log : List Dial} (stamped : Stamped t log)
    (ds : List Dial) : Stamped (dialAll t ds) (log ++ ds) := by
  induction ds generalizing t log with
  | nil => simpa [dialAll] using stamped
  | cons d rest ih =>
      have next := ih (stamped_dial stamped d)
      rwa [List.append_assoc, List.singleton_append] at next

theorem getConnection_updateFingerprint (digests : Digests) (c : Client) (t : TLSTracker)
    (addr : List Char) :
    (c.updateFingerprint digests t).2.getConnection addr = t.getConnection addr ∨
      ∃ conn, t.getConnection addr = some conn ∧
        (c.updateFingerprint digests t).2.getConnection addr = some (c.withHTTP2 conn) := by
  unfold updateFingerprint
  split
  · exact Or.inl rfl
  · next selectedAddr conn selected =>
      have held : t.connections.lookup selectedAddr = some conn := by
        have mem := latestConnection_mem selected
        rwa [TLSTracker.getAllConnections_eq, GoMap.mem_entries_iff] at mem
      simp only [TLSTracker.getConnection, GoMap.lookup_insert]
      split
      · next hit => subst hit; exact Or.inr ⟨conn, held, rfl⟩
      · exact Or.inl rfl

theorem map_getConnection_updateFingerprint {β : Type} (view : ConnectionDetails → β)
    (digests : Digests) (c : Client) (keeps : ∀ conn, view (c.withHTTP2 conn) = view conn)
    (t : TLSTracker) (addr : List Char) :
    ((c.updateFingerprint digests t).2.getConnection addr).map view =
      (t.getConnection addr).map view := by
  rcases getConnection_updateFingerprint digests c t addr with same | ⟨conn, before, after⟩
  · rw [same]
  · rw [before, after, Option.map_some', Option.map_some', keeps]

theorem stamp_updateFingerprint (digests : Digests) (c : Client) (t : TLSTracker) :
    stamp (c.updateFingerprint digests t).2 = stamp t :=
  funext (map_getConnection_updateFingerprint (·.connectedAt) digests c (fun _ => rfl) t)

theorem tlsPart_updateFingerprint (digests : Digests) (c : Client) (t : TLSTracker)
    (addr : List Char) :
    ((c.updateFingerprint digests t).2.getConnection addr).map ConnectionDetails.tlsPart =
      (t.getConnection addr).map ConnectionDetails.tlsPart :=
  map_getConnection_updateFingerprint ConnectionDetails.tlsPart digests c (fun _ => rfl) t addr

namespace World

variable (digests : Digests) (lower : RuneLower) (get : List Char → Except (List Char) Profile)

theorem view_step {γ : Type} (view : TLSTracker → γ)
    (keeps : ∀ (c : Client) (t : TLSTracker), view (c.updateFingerprint digests t).2 = view t)
    (w : World) (event : Event) :
    view (w.step digests lower get event).registry = view (dialAll w.registry (w.dials event)) := by
  cases event with
  | new profileName =>
      simp only [step, dials, dialAll, List.foldl_nil]
      split
      · next c registry created =>
          have same := new_eq_ok digests get w.registry profileName created
          rw [show registry = (c, registry).2 from rfl, same, keeps]
      · rfl
  | request client exchange =>
      cases found : w.clients[client]? with
      | none => simp [step, dials, found, dialAll]
      | some c =>
          cases built : exchange.built with
          | error err => simp [step, dials, found, built, request, dialAll]
          | ok req =>
              simp only [step, dials, found, built, request]
              split <;> simp only [keeps]

theorem stamp_step (w : World) (event : Event) :
    stamp (w.step digests lower get event).registry = stamp (dialAll w.registry (w.dials event)) :=
  view_step digests lower get stamp (stamp_updateFingerprint digests) w event

theorem runDials_snoc (w : World) (events : List Event) (event : Event) :
    w.runDials digests lower get (events ++ [event]) =
      w.runDials digests lower get events ++ (w.run digests lower get events).dials event := by
  induction events generalizing w with
  | nil => simp [runDials, run]
  | cons first rest ih => simp [runDials, run, ih, List.foldl_cons]

theorem run_of_step (Inv : TLSTracker → List Dial → Prop)
    (kept : ∀ (w : World) (log : List Dial) (event : Event), Inv w.registry log →
      Inv (w.step digests lower get event).registry (log ++ w.dials event))
    (events : List Event) :
    ∀ (w : World) (log : List Dial), Inv w.registry log →
      Inv (w.run digests lower get events).registry
        (log ++ w.runDials digests lower get events) := by
  induction events with
  | nil => intro w log holds; simpa [run, runDials] using holds
  | cons event rest ih =>
      intro w log holds
      have later := ih (w.step digests lower get event) _ (kept w log event holds)
      rwa [List.append_assoc] at later

theorem stamped_run (events : List Event) :
    ∀ (w : World) (log : List Dial), Stamped w.registry log →
      Stamped (w.run digests lower get events).registry
        (log ++ w.runDials digests lower get events) :=
  run_of_step digests lower get Stamped (fun w _ event stamped => stamped_of_stamp_eq
    (stamp_step digests lower get w event) (stamped_dialAll stamped (w.dials event))) events

theorem frontier_step {w : World} {log : List Dial} (holds : Frontier w.registry log)
    (event : Event) : Frontier (w.step digests lower get event).registry (log ++ w.dials event) :=
  fun addr => (congrFun (view_step digests lower get
    (fun t addr => (t.getConnection addr).map ConnectionDetails.tlsPart)
    (fun c t => funext (tlsPart_updateFingerprint digests c t)) w event) addr).trans
    (frontier_dialAll holds _ addr)

theorem frontier_run (events : List Event) :
    ∀ (w : World) (log : List Dial), Frontier w.registry log →
      Frontier (w.run digests lower get events).registry
        (log ++ w.runDials digests lower get events) :=
  run_of_step digests lower get Frontier
    (fun _ _ event holds => frontier_step digests lower get holds event) events

end World

/-- In every run of the process, each address holds the record of the last successful dial to
it, whichever client's transport made that dial, up to the HTTP/2 fields `updateFingerprint`
writes; an address no dial reached successfully holds nothing.  So the registry loses no record,
and a failed dial leaves none. -/
theorem registry_holds_last_records (digests : Digests) (lower : RuneLower)
    (get : List Char → Except (List Char) Profile) (events : List Event) (addr : List Char) :
    ((initialWorld.run digests lower get events).registry.getConnection addr).map
        ConnectionDetails.tlsPart =
      lastRecord (initialWorld.runDials digests lower get events) addr :=
  World.frontier_run digests lower get events initialWorld [] (fun _ => rfl) addr

theorem initial_stamped : Stamped initialWorld.registry [] :=
  ⟨fun _ _ found => (by cases found), fun _ found => (by cases found)⟩

theorem lastStored_latest {log : List Dial} {last : Dial} (found : lastStored log = some last)
    (rising : log.Pairwise fun a b => a.now < b.now) :
    last ∈ log ∧ ∀ d ∈ log, d.handshake.isOk → d ≠ last → d.now < last.now := by
  obtain ⟨-, later, earlier, split, after⟩ :=
    List.find?_eq_some.mp (show log.reverse.find? _ = some last from found)
  have shape : log = earlier.reverse ++ last :: later.reverse := by
    rw [← List.reverse_reverse log, split]; simp
  rw [shape, List.pairwise_append] at rising
  rw [shape]
  refine ⟨by simp, fun d mem ok differ => ?_⟩
  simp only [List.mem_append, List.mem_reverse, List.mem_cons] at mem
  rcases mem with before | rfl | afterLast
  · exact rising.2.2 d (List.mem_reverse.mpr before) last (List.mem_cons_self _ _)
  · exact absurd rfl differ
  · simpa [ok] using after d afterLast

theorem latestConnection_of_stamped {t : TLSTracker} {log : List Dial} (stamped : Stamped t log)
    (clock : (0 :: log.map Dial.now).Pairwise (· < ·))
    (visit : List (List Char × ConnectionDetails))
    (order : visit.Perm t.getAllConnections.entries) :
    (latestConnection visit).map (fun conn => (conn.1, conn.2.connectedAt)) =
      (lastStored log).map fun d => (d.addr, d.now) := by
  have held : ∀ addr conn, (addr, conn) ∈ visit ↔ t.getConnection addr = some conn := by
    intro addr conn
    rw [order.mem_iff, TLSTracker.getAllConnections_eq, GoMap.mem_entries_iff]; rfl
  have stampOf : ∀ {addr conn}, (addr, conn) ∈ visit →
      ∃ d ∈ log, d.handshake.isOk ∧ d.addr = addr ∧ d.now = conn.connectedAt := fun mem =>
    stamped.fromLog _ _ (by simp [stamp, (held _ _).mp mem])
  rw [List.pairwise_cons, List.pairwise_map] at clock
  cases found : lastStored log with
  | none =>
      have none : ∀ d ∈ log, d.handshake.isOk = false := by simpa [lastStored] using found
      have empty : visit = [] := List.eq_nil_iff_forall_not_mem.mpr fun _ mem => by
        obtain ⟨d, dMem, ok, -⟩ := stampOf mem
        simp [none d dMem] at ok
      rw [empty]; rfl
  | some last =>
      obtain ⟨lastMem, earlier⟩ := lastStored_latest found clock.2
      obtain ⟨conn, lastHeld, lastTime⟩ := Option.map_eq_some'.mp (stamped.lastKept last found)
      have positive : 0 < conn.connectedAt := lastTime ▸ clock.1 _ (List.mem_map_of_mem _ lastMem)
      rw [latestConnection_eq_newest ((held _ _).mpr lastHeld) positive ?_]
      · simp [lastTime]
      · rintro ⟨addr, other⟩ mem differ
        obtain ⟨d, dMem, ok, rfl, dTime⟩ := stampOf mem
        have notLast : d ≠ last := by
          rintro rfl
          exact differ (by rw [Option.some.inj (((held _ _).mp mem).symm.trans lastHeld)])
        rw [← dTime, lastTime]
        exact earlier d dMem ok notLast

/-! ## Which record a request reads -/

/-- In every run of the process whose clock rises, every request an existing client makes that
gets past building the request reads, when `updateFingerprint` runs and in whatever order it
visits the registry, the record stored by the last successful dial of the whole process, made
by any client to any address. -/
theorem request_reads_latest_dial (digests : Digests) (lower : RuneLower)
    (get : List Char → Except (List Char) Profile) (events : List Event) (client : Nat)
    (exchange : Exchange)
    (existing : ((initialWorld.run digests lower get events).clients[client]?).isSome)
    (built : exchange.built.isOk)
    (clock : (0 :: (initialWorld.runDials digests lower get
      (events ++ [.request client exchange])).map Dial.now).Pairwise (· < ·)) :
    ∀ visit : List (List Char × ConnectionDetails),
      visit.Perm (dialAll (initialWorld.run digests lower get events).registry
        exchange.dials).getAllConnections.entries →
      (latestConnection visit).map (fun conn => (conn.1, conn.2.connectedAt)) =
        (lastStored (initialWorld.runDials digests lower get
          (events ++ [.request client exchange]))).map fun d => (d.addr, d.now) := by
  have dialed : (initialWorld.run digests lower get events).dials (.request client exchange) =
      exchange.dials := by
    obtain ⟨c, found⟩ := Option.isSome_iff_exists.mp existing
    cases madeReq : exchange.built with
    | error err => simp [madeReq, Except.isOk, Except.toBool] at built
    | ok req => simp [World.dials, found, madeReq]
  have stamped := World.stamped_run digests lower get events initialWorld [] initial_stamped
  rw [List.nil_append] at stamped
  rw [World.runDials_snoc, dialed] at clock ⊢
  exact latestConnection_of_stamped (stamped_dialAll stamped exchange.dials) clock

def sampleRequest (host : List Char) : HTTPRequest :=
  ⟨"GET".toList, "/".toList, "https".toList, host, "HTTP/1.1".toList, GoMap.empty⟩

def dialingExchange (addr : List Char) (now : Nat) (version : UInt16) : Exchange :=
  ⟨.ok (sampleRequest addr), [⟨addr, [], now, .ok ⟨version, true, 0x1301, []⟩⟩],
    .delivered []⟩

def reusingExchange (addr : List Char) : Exchange :=
  ⟨.ok (sampleRequest addr), [], .delivered []⟩

def sampleEvents : List Event := [.new "Chrome120".toList]

theorem sample_request_reads_latest_dial :
    ((initialWorld.run sampleDigests latin1Lower sampleProfiles sampleEvents).clients[0]?).isSome ∧
      (dialingExchange "a.example:443".toList 1 0x0304).built.isOk ∧
      (0 :: (initialWorld.runDials sampleDigests latin1Lower sampleProfiles (sampleEvents ++
        [.request 0 (dialingExchange "a.example:443".toList 1 0x0304)])).map Dial.now).Pairwise
          (· < ·) ∧
      ∀ visit : List (List Char × ConnectionDetails),
        visit.Perm (dialAll
          (initialWorld.run sampleDigests latin1Lower sampleProfiles sampleEvents).registry
          (dialingExchange "a.example:443".toList 1 0x0304).dials).getAllConnections.entries →
        (latestConnection visit).map (fun conn => (conn.1, conn.2.connectedAt)) =
          (lastStored (initialWorld.runDials sampleDigests latin1Lower sampleProfiles
            (sampleEvents ++ [.request 0 (dialingExchange "a.example:443".toList 1 0x0304)]))).map
              fun d => (d.addr, d.now) :=
  ⟨rfl, rfl, by decide,
    request_reads_latest_dial sampleDigests latin1Lower sampleProfiles sampleEvents 0 _ rfl rfl
      (by decide)⟩

def reuseWorld : World :=
  initialWorld.run sampleDigests latin1Lower sampleProfiles (sampleEvents ++
    [.request 0 (dialingExchange "a.example:443".toList 1 0x0304),
      .request 0 (dialingExchange "b.example:443".toList 2 0x0303)])

/-- A third request to `a`, served by the pooled connection to `a`, is assembled from the record
of `b`: its fingerprint reports `b`'s TLS version 771, while `a` still holds its own record. -/
theorem reused_connection_reads_other_record :
    (reuseWorld.registry.getConnection "a.example:443".toList).isSome ∧
      (latestConnection (dialAll reuseWorld.registry
        (reusingExchange "a.example:443".toList).dials).getAllConnections.entries).map (·.1) =
        some "b.example:443".toList ∧
      ((reuseWorld.clients[0]?).bind fun c =>
        ((c.request sampleDigests latin1Lower reuseWorld.registry
          (reusingExchange "a.example:443".toList)).2.toOption.bind (·.fingerprint)).map
            (·.tlsVersion)) = some "771".toList :=
  ⟨rfl, rfl, rfl⟩

end OrbitTls
