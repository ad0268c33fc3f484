import OrbitTls.Tracking.Akamai
import Mathlib.Algebra.Order.Ring.Nat

/-! # The HTTP/2 activity tracker: `HTTP2Tracker`

The tracker is a state machine whose one transition is `TrackFrame`; its lock
makes every call one atomic step, so a run is the fold of `trackFrame` over the
frames tracked.  `trackFrame_*` say once what one step does to each field; the
run lemmas `trackFrames_*` follow by induction on the last frame tracked.

`trackFrames_aggregates`: from a fresh tracker, the frames are kept in order,
the settings are the per-key last write of the SETTINGS frames, and the window
is the last non-zero WINDOW_UPDATE length.  `trackFrames_priority`: a priority is
held only after a HEADERS frame flagged `Priority` that also carries a settings
map, and it is always the fixed one.  `akamai_builders_agree`: no reachable
tracker holds an exclusive priority, so the two Akamai builders agree on every
tracker's aggregates.  `estimateHeadersSize_perm`, `extractHeadersList_perm`: the
size estimate of a request does not depend on the order in which its header map
is visited, and its header lines depend on it only through their order. -/

set_option autoImplicit false

namespace OrbitTls.Tracking

open OrbitTls.Fingerprint

/-- `HTTP2Tracker`, without its lock. -/
structure HTTP2Tracker where
  frames : List Frame
  settings : GoMap (List Char) UInt32
  windowSize : UInt32
  priority : Option HeaderPriority

def newHTTP2Tracker : HTTP2Tracker := ⟨[], GoMap.empty, 0, none⟩

/-- The priority `extractPriority` derives: fixed, for a HEADERS frame flagged `Priority`. -/
def fixedPriority : HeaderPriority := { dependency := 0, exclusive := false, weight := 16 }

def extractPriority (frame : Frame) : Option HeaderPriority :=
  if frame.type ≠ "HEADERS".toList then none
  else if frame.flags.any (· == "Priority".toList) then some fixedPriority
  else none

namespace HTTP2Tracker

def trackFrame (t : HTTP2Tracker) (frame : Frame) : HTTP2Tracker where
  frames := t.frames ++ [frame]
  settings :=
    if frame.type = "SETTINGS".toList then
      match frame.settings with
      | some settings => t.settings.copyFrom settings
      | none => t.settings
    else t.settings
  windowSize :=
    if frame.type = "WINDOW_UPDATE".toList ∧ 0 < frame.length then frame.length else t.windowSize
  priority :=
    if frame.type = "HEADERS".toList ∧ frame.settings.isSome then
      match extractPriority frame with
      | some priority => some priority
      | none => t.priority
    else t.priority

/-- `GetFrames`: a copy of the frames. -/
def getFrames (t : HTTP2Tracker) : List Frame := t.frames

/-- `GetSettings`: a fresh map filled from the aggregate. -/
def getSettings (t : HTTP2Tracker) : GoMap (List Char) UInt32 := GoMap.empty.copyFrom t.settings

def getWindowSize (t : HTTP2Tracker) : UInt32 := t.windowSize

def getPriority (t : HTTP2Tracker) : Option HeaderPriority := t.priority

/-- `TrackFrame` called on each frame in turn. -/
def trackFrames (t : HTTP2Tracker) (frames : List Frame) : HTTP2Tracker :=
  frames.foldl trackFrame t

end HTTP2Tracker

/-! ## The aggregates, in the spec's words -/

/-- The value `key` has in the last SETTINGS frame whose settings map holds `key`. -/
def lastSetting (frames : List Frame) (key : List Char) : Option UInt32 :=
  frames.reverse.findSome? fun frame =>
    if frame.type = "SETTINGS".toList then frame.settings.bind (·.lookup key) else none

/-- The Length of the last WINDOW_UPDATE frame with a non-zero Length, if any. -/
def lastWindowUpdate? (frames : List Frame) : Option UInt32 :=
  frames.reverse.findSome? fun frame =>
    if frame.type = "WINDOW_UPDATE".toList ∧ frame.length ≠ 0 then some frame.length else none

/-- The priority the last HEADERS frame with a settings map derives, if any does. -/
def lastPriority (frames : List Frame) : Option HeaderPriority :=
  frames.reverse.findSome? fun frame =>
    if frame.type = "HEADERS".toList ∧ frame.settings.isSome then extractPriority frame else none

theorem findSome?_snoc {α β : Type} (f : α → Option β) (l : List α) (a : α) :
    (l ++ [a]).reverse.findSome? f = (f a).or (l.reverse.findSome? f) := by
  simp only [List.reverse_append, List.reverse_singleton, List.singleton_append,
    List.findSome?_cons]
  cases f a <;> rfl

theorem lastSetting_snoc (frames : List Frame) (frame : Frame) (key : List Char) :
    lastSetting (frames ++ [frame]) key =
      (if frame.type = "SETTINGS".toList then frame.settings.bind (·.lookup key) else none).or
        (lastSetting frames key) :=
  findSome?_snoc _ frames frame

theorem lastWindowUpdate?_snoc (frames : List Frame) (frame : Frame) :
    lastWindowUpdate? (frames ++ [frame]) =
      (if frame.type = "WINDOW_UPDATE".toList ∧ frame.length ≠ 0 then some frame.length
        else none).or (lastWindowUpdate? frames) :=
  findSome?_snoc _ frames frame

theorem lastPriority_snoc (frames : List Frame) (frame : Frame) :
    lastPriority (frames ++ [frame]) =
      (if frame.type = "HEADERS".toList ∧ frame.settings.isSome then extractPriority frame
        else none).or (lastPriority frames) :=
  findSome?_snoc _ frames frame

/-! ## One step -/

namespace HTTP2Tracker

variable (t : HTTP2Tracker) (frame : Frame)

theorem uint32_pos_iff (x : UInt32) : 0 < x ↔ x ≠ 0 := by
  rw [UInt32.lt_def, BitVec.lt_def]
  constructor
  · intro pos zero
    subst zero
    exact absurd pos (by decide)
  · intro nonzero
    exact Nat.pos_of_ne_zero fun zero => nonzero (UInt32.toNat.inj zero)

@[simp] theorem trackFrame_frames : (t.trackFrame frame).frames = t.frames ++ [frame] := rfl

theorem trackFrame_lookup (key : List Char) :
    (t.trackFrame frame).settings.lookup key =
      (if frame.type = "SETTINGS".toList then frame.settings.bind (·.lookup key) else none).or
        (t.settings.lookup key) := by
  by_cases settingsFrame : frame.type = "SETTINGS".toList
  · simp only [trackFrame, if_pos settingsFrame]
    cases frame.settings <;> simp [GoMap.lookup_copyFrom]
  · simp only [trackFrame, if_neg settingsFrame]; rfl

theorem trackFrame_windowSize :
    (t.trackFrame frame).windowSize =
      (if frame.type = "WINDOW_UPDATE".toList ∧ frame.length ≠ 0 then some frame.length
        else none).getD t.windowSize := by
  by_cases window : frame.type = "WINDOW_UPDATE".toList ∧ frame.length ≠ 0
  · simp [trackFrame, window, uint32_pos_iff]
  · simp only [trackFrame, uint32_pos_iff, if_neg window]; rfl

theorem trackFrame_priority :
    (t.trackFrame frame).priority =
      (if frame.type = "HEADERS".toList ∧ frame.settings.isSome then extractPriority frame
        else none).or t.priority := by
  by_cases headers : frame.type = "HEADERS".toList ∧ frame.settings.isSome
  · simp only [trackFrame, if_pos headers]; cases extractPriority frame <;> rfl
  · simp only [trackFrame, if_neg headers]; rfl

theorem trackFrames_snoc (frames : List Frame) :
    t.trackFrames (frames ++ [frame]) = (t.trackFrames frames).trackFrame frame := by
  simp [trackFrames, List.foldl_append]

/-! ## Whole runs -/

theorem trackFrames_frames (frames : List Frame) :
    (t.trackFrames frames).frames = t.frames ++ frames := by
  induction frames using List.reverseRecOn with
  | nil => simp [trackFrames]
  | append_singleton frames frame ih => simp [trackFrames_snoc, ih]

theorem trackFrames_lookup (frames : List Frame) (key : List Char) :
    (t.trackFrames frames).settings.lookup key =
      (lastSetting frames key).or (t.settings.lookup key) := by
  induction frames using List.reverseRecOn with
  | nil => rfl
  | append_singleton frames frame ih =>
      rw [trackFrames_snoc, trackFrame_lookup, ih, lastSetting_snoc, Option.or_assoc]

theorem trackFrames_windowSize (frames : List Frame) :
    (t.trackFrames frames).windowSize = (lastWindowUpdate? frames).getD t.windowSize := by
  induction frames using List.reverseRecOn with
  | nil => rfl
  | append_singleton frames frame ih =>
      rw [trackFrames_snoc, trackFrame_windowSize, ih, lastWindowUpdate?_snoc]
      split <;> rfl

theorem trackFrames_priority (frames : List Frame) :
    (t.trackFrames frames).priority = (lastPriority frames).or t.priority := by
  induction frames using List.reverseRecOn with
  | nil => rfl
  | append_singleton frames frame ih =>
      rw [trackFrames_snoc, trackFrame_priority, ih, lastPriority_snoc, Option.or_assoc]

end HTTP2Tracker

open HTTP2Tracker

/-- From a fresh tracker, `GetFrames` returns the frames tracked, in order; `GetSettings` maps
each key to its value in the last SETTINGS frame whose map holds it, and has no other key;
`GetWindowSize` is the last non-zero WINDOW_UPDATE length, or 0. -/
theorem trackFrames_aggregates (frames : List Frame) :
    (newHTTP2Tracker.trackFrames frames).getFrames = frames ∧
    (∀ key,
      (newHTTP2Tracker.trackFrames frames).getSettings.lookup key = lastSetting frames key) ∧
    (newHTTP2Tracker.trackFrames frames).getWindowSize = (lastWindowUpdate? frames).getD 0 := by
  refine ⟨trackFrames_frames _ frames, fun key => ?_, trackFrames_windowSize _ frames⟩
  rw [getSettings, GoMap.lookup_copyFrom, trackFrames_lookup]
  simp [newHTTP2Tracker]

theorem extractPriority_eq_some {frame : Frame} {priority : HeaderPriority} :
    extractPriority frame = some priority ↔
      frame.type = "HEADERS".toList ∧ "Priority".toList ∈ frame.flags ∧
        priority = fixedPriority := by
  unfold extractPriority
  have flag :
      frame.flags.any (· == "Priority".toList) = true ↔ "Priority".toList ∈ frame.flags := by
    simp
  by_cases headers : frame.type = "HEADERS".toList
  · rw [if_neg (not_not.mpr headers)]
    by_cases flagged : "Priority".toList ∈ frame.flags
    · rw [if_pos (flag.mpr flagged)]
      exact ⟨fun derived => ⟨headers, flagged, (Option.some.inj derived).symm⟩,
        fun ⟨_, _, fixed⟩ => fixed ▸ rfl⟩
    · rw [if_neg (mt flag.mp flagged)]
      exact ⟨fun derived => (by cases derived),
        fun ⟨_, flaggedToo, _⟩ => absurd flaggedToo flagged⟩
  · rw [if_pos headers]
    exact ⟨fun derived => (by cases derived),
      fun ⟨headersToo, _⟩ => absurd headersToo headers⟩

theorem derived_eq_some {frame : Frame} {priority : HeaderPriority} :
    (if frame.type = "HEADERS".toList ∧ frame.settings.isSome then extractPriority frame
      else none) = some priority ↔
      (frame.type = "HEADERS".toList ∧ "Priority".toList ∈ frame.flags ∧
          frame.settings.isSome) ∧
        priority = fixedPriority := by
  split
  next guard => rw [extractPriority_eq_some]; tauto
  next guard =>
    exact ⟨fun derived => (by cases derived), fun ⟨⟨h, _, s⟩, _⟩ => absurd ⟨h, s⟩ guard⟩

theorem trackFrames_priority_spec (frames : List Frame) :
    ((newHTTP2Tracker.trackFrames frames).getPriority ≠ none ↔
      ∃ frame ∈ frames, frame.type = "HEADERS".toList ∧ "Priority".toList ∈ frame.flags ∧
        frame.settings.isSome) ∧
    ∀ priority, (newHTTP2Tracker.trackFrames frames).getPriority = some priority →
      priority = fixedPriority := by
  have held : (newHTTP2Tracker.trackFrames frames).getPriority = lastPriority frames := by
    rw [getPriority, trackFrames_priority]; exact Option.or_none
  rw [held]
  refine ⟨?_, fun priority found => ?_⟩
  · rw [Option.ne_none_iff_isSome, lastPriority, List.findSome?_isSome_iff]
    simp only [List.mem_reverse, Option.isSome_iff_exists, derived_eq_some]
    simp
  · obtain ⟨frame, -, derived⟩ := List.exists_of_findSome?_eq_some found
    exact (derived_eq_some.mp derived).2

def priorityHeadersFrame : Frame :=
  { type := "HEADERS".toList, streamID := 1, flags := ["Priority".toList] }

/-- Tracking a HEADERS frame flagged `Priority` that carries no settings map leaves the
priority unset. -/
theorem priorityFlag_without_settings_ignored :
    priorityHeadersFrame.type = "HEADERS".toList ∧
      "Priority".toList ∈ priorityHeadersFrame.flags ∧
      (newHTTP2Tracker.trackFrames [priorityHeadersFrame]).getPriority = none :=
  ⟨rfl, List.mem_singleton_self _, rfl⟩

theorem trackFrames_nonExclusive (frames : List Frame) :
    NonExclusive (newHTTP2Tracker.trackFrames frames).getPriority := by
  cases held : (newHTTP2Tracker.trackFrames frames).getPriority with
  | none => trivial
  | some priority => rw [(trackFrames_priority_spec frames).2 priority held]; rfl

/-- The two Akamai builders agree on every input whose priority is nil or not exclusive, and
every reachable tracker holds such a priority, so they agree on every tracker's aggregates. -/
theorem akamai_builders_agree :
    (∀ (settings : GoMap (List Char) UInt32) (windowUpdate : UInt32)
      (priority : Option HeaderPriority), NonExclusive priority →
        generateAkamaiH2Fingerprint settings windowUpdate priority =
          generateAkamaiFingerprint settings windowUpdate priority) ∧
    ∀ frames : List Frame,
      NonExclusive (newHTTP2Tracker.trackFrames frames).getPriority ∧
      generateAkamaiH2Fingerprint (newHTTP2Tracker.trackFrames frames).getSettings
          (newHTTP2Tracker.trackFrames frames).getWindowSize
          (newHTTP2Tracker.trackFrames frames).getPriority =
        generateAkamaiFingerprint (newHTTP2Tracker.trackFrames frames).getSettings
          (newHTTP2Tracker.trackFrames frames).getWindowSize
          (newHTTP2Tracker.trackFrames frames).getPriority :=
  ⟨fun settings windowUpdate _ nonExclusive =>
      generateAkamaiH2Fingerprint_eq_of_nonExclusive settings windowUpdate nonExclusive,
    fun frames => ⟨trackFrames_nonExclusive frames,
      generateAkamaiH2Fingerprint_eq_of_nonExclusive _ _ (trackFrames_nonExclusive frames)⟩⟩

/-! ## The preset frames -/

/-- The six SETTINGS of a preset, as a map literal. -/
def presetSettings (headerTableSize enablePush maxConcurrentStreams initialWindowSize
    maxFrameSize maxHeaderListSize : UInt32) : GoMap (List Char) UInt32 :=
  ⟨[("HEADER_TABLE_SIZE".toList, headerTableSize), ("ENABLE_PUSH".toList, enablePush),
    ("MAX_CONCURRENT_STREAMS".toList, maxConcurrentStreams),
    ("INITIAL_WINDOW_SIZE".toList, initialWindowSize), ("MAX_FRAME_SIZE".toList, maxFrameSize),
    ("MAX_HEADER_LIST_SIZE".toList, maxHeaderListSize)], by simp only [List.map]; decide⟩

/-- The shape of the three preset builders: one SETTINGS frame, then one WINDOW_UPDATE frame. -/
def presetFrames (settingsLength : UInt32) (settings : GoMap (List Char) UInt32)
    (windowUpdate : UInt32) : List Frame :=
  [{ type := "SETTINGS".toList, length := settingsLength, settings := some settings },
    { type := "WINDOW_UPDATE".toList, length := windowUpdate }]

def createDefaultChromeFrames : List Frame :=
  presetFrames 24 (presetSettings 65536 0 1000 6291456 16384 262144) 1073741824

def createDefaultFirefoxFrames : List Frame :=
  presetFrames 24 (presetSettings 65536 1 1000 131072 16384 262144) 12517376

def createDefaultSafariFrames : List Frame :=
  presetFrames 20 (presetSettings 4096 1 100 2097152 16384 8192) 2013265920

def createHTTP2FrameForProfile (profileName : List Char) : List Frame :=
  if profileName = "Chrome120".toList ∨ profileName = "Edge120".toList then
    createDefaultChromeFrames
  else if profileName = "Firefox121".toList then createDefaultFirefoxFrames
  else if profileName = "Safari17".toList then createDefaultSafariFrames
  else createDefaultChromeFrames

/-- The parts of an `http.Request` the frame builders read. -/
structure HTTPRequest where
  method : List Char
  urlPath : List Char
  urlScheme : List Char
  host : List Char
  proto : List Char
  header : GoMap (List Char) (List (List Char))

/-- `len(s)`: the length of a string in bytes. -/
def byteLen (s : List Char) : Nat := (s.map Char.utf8Size).sum

def estimateHeadersSize (req : HTTPRequest) : Nat :=
  req.header.entries.foldl
    (fun size entry =>
      entry.2.foldl (fun size value => size + (byteLen entry.1 + byteLen value + 4)) size)
    (byteLen req.method + byteLen req.urlPath + byteLen req.proto)

/-- `ExtractHeadersList`, with `lower` for the `unicode.ToLower` of `strings.ToLower`. -/
def extractHeadersList (lower : RuneLower) (req : HTTPRequest) : List (List Char) :=
  [":method: ".toList ++ req.method, ":path: ".toList ++ req.urlPath,
      ":scheme: ".toList ++ req.urlScheme, ":authority: ".toList ++ req.host] ++
    req.header.entries.flatMap fun entry =>
      entry.2.map fun value => stringsToLower lower entry.1 ++ ": ".toList ++ value

theorem foldl_add_eq_add_sum {α : Type} (g : α → Nat) :
    ∀ (l : List α) (size : Nat), l.foldl (fun size v => size + g v) size = size + (l.map g).sum
  | [], size => (Nat.add_zero size).symm
  | v :: rest, size => by
      rw [List.foldl_cons, foldl_add_eq_add_sum g rest, List.map_cons, List.sum_cons]
      omega

theorem estimateHeadersSize_perm (req : HTTPRequest) {header : GoMap (List Char) (List (List Char))}
    (visit : header.entries.Perm req.header.entries) :
    estimateHeadersSize { req with header := header } = estimateHeadersSize req :=
  visit.foldl_eq' (fun _ _ _ _ _ => by simp only [foldl_add_eq_add_sum]; omega) _

theorem extractHeadersList_perm (lower : RuneLower) (req : HTTPRequest)
    {header : GoMap (List Char) (List (List Char))}
    (visit : header.entries.Perm req.header.entries) :
    (extractHeadersList lower { req with header := header }).Perm (extractHeadersList lower req) :=
  (visit.flatMap_right _).append_left _

theorem byteLen_append (a b : List Char) : byteLen (a ++ b) = byteLen a + byteLen b := by
  simp only [byteLen, List.map_append, List.sum_append]

theorem byteLen_headerLine (lower : RuneLower) {name : List Char}
    (ascii : ∀ c ∈ name, c.toNat < 128) (value : List Char) :
    byteLen (stringsToLower lower name ++ ": ".toList ++ value) =
      byteLen name + 2 + byteLen value := by
  rw [byteLen_append, byteLen_append, show byteLen ": ".toList = 2 from rfl,
    stringsToLower_of_ascii lower ascii]
  simp only [byteLen, toLower, List.map_map, Function.comp_def, char_utf8Size_toLower]

/-- For a request whose header names are ASCII, the estimate counts the method, the path and
the protocol, then each header line the frame lists after its four pseudo-header lines with two
bytes more: the four bytes of overhead `EstimateHeadersSize` adds per value are the line's `: `
and two more.  The scheme and the authority are not counted. -/
theorem estimateHeadersSize_eq_lines (lower : RuneLower) (req : HTTPRequest)
    (ascii : ∀ entry ∈ req.header.entries, ∀ c ∈ entry.1, c.toNat < 128) :
    estimateHeadersSize req = byteLen req.method + byteLen req.urlPath + byteLen req.proto +
      (((extractHeadersList lower req).drop 4).map fun line => byteLen line + 2).sum := by
  simp only [estimateHeadersSize, extractHeadersList, List.cons_append, List.drop_succ_cons,
    List.drop_zero, List.nil_append]
  generalize byteLen req.method + byteLen req.urlPath + byteLen req.proto = base
  revert ascii
  induction req.header.entries generalizing base with
  | nil => intro _; rfl
  | cons entry rest ih =>
      intro ascii
      rw [List.foldl_cons, foldl_add_eq_add_sum,
        ih _ fun e mem => ascii e (List.mem_cons_of_mem _ mem), List.flatMap_cons, List.map_append,
        List.sum_append, List.map_map, Nat.add_assoc]
      congr 2
      exact congrArg List.sum (List.map_congr_left fun value _ => by
        simp only [Function.comp_apply,
          byteLen_headerLine lower (ascii entry (List.mem_cons_self _ _))]
        omega)

def acceptRequest : HTTPRequest :=
  ⟨"GET".toList, "/".toList, "https".toList, "example.com".toList, "HTTP/1.1".toList,
    GoMap.empty.insert "Accept".toList ["*/*".toList]⟩

theorem acceptRequest_size_eq_lines :
    (∀ entry ∈ acceptRequest.header.entries, ∀ c ∈ entry.1, c.toNat < 128) ∧
      estimateHeadersSize acceptRequest =
        byteLen acceptRequest.method + byteLen acceptRequest.urlPath +
          byteLen acceptRequest.proto +
          (((extractHeadersList latin1Lower acceptRequest).drop 4).map
            fun line => byteLen line + 2).sum :=
  have ascii : ∀ entry ∈ acceptRequest.header.entries, ∀ c ∈ entry.1, c.toNat < 128 := by
    decide
  ⟨ascii, estimateHeadersSize_eq_lines latin1Lower acceptRequest ascii⟩

end OrbitTls.Tracking
