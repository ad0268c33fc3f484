import OrbitTls.Client.Session
import OrbitTls.Client.HeaderLog
import OrbitTls.Client.HTTPHeader

/-! # The request's headers: `applyAllHeaders`, `applyRequestHeaders` and `PostJSON`

`applyAllHeaders` builds a request's header map in one of two ways.  Without
header options (`hasUserHeaders` false) it sets the profile's headers named in
`HeaderOrder`, in that order, then the client's persistent headers.  With them
it sets the persistent headers, then the options' `Headers`, `HeadersSlice`,
`HeadersStringList` and `HeadersJSON` in turn, a later write of a name winning,
and last gives each of the four basic headers the profile's value when the map
reads the empty text for it.

`applyAllHeaders_precedence`: with header options, every name reads the value of
the highest-priority source supplying it (`prioritized`), except that a basic
header reads the profile's value when that value is the empty text
(`supplied_empty_user_agent_replaced`).  `applyAllHeaders_profile_precedence`:
without them, a name reads the persistent headers' value, else the profile's.
`silent_options_drop_profile_headers`: options that supply no header still take
the second way.  `headersFrame_visit`: the HEADERS frame's length and lines do not
depend on the order in which the map is visited, only the lines' order does;
`tracked_headers_break_declared_order`: that order is the map's, and `:path`
comes before `:authority`.

`PostJSON`'s options always count as header options, so its header map reads of
the profile only the four basic values (`postJSON_ignores_profile_headers`).  It
sends the caller's `Content-Type`, in every order the merged map is visited, when
the caller spells it exactly so (`postJSON_content_type`); a name that is not a
token is never read as `Content-Type`.  `postJSON_content_type_by_visit_order`:
it adds its `Content-Type` beside a differently-cased one, and the map's
iteration order picks the survivor. -/

set_option autoImplicit false

namespace OrbitTls

namespace Client

open Profiles OrbitTls.Tracking

/-! ## Building the header map -/

/-- `RequestOptions`, with the fields `applyAllHeaders` reads.  A nil map or slice is the empty
one: every use here is a `len` or a `range`. -/
structure RequestOptions where
  headers : GoMap (List Char) (List Char) := GoMap.empty
  headersSlice : List (List (List Char)) := []
  headersStringList : List (List Char) := []
  headersJSON : List Char := []

def hasUserHeaders : Option RequestOptions → Bool
  | none => false
  | some opts =>
      decide (opts.headers.len > 0) || decide (opts.headersSlice.length > 0) ||
        decide (opts.headersStringList.length > 0) ||
        (opts.headersJSON != [] && opts.headersJSON != "{}".toList)

variable (unmarshal : List Char → Except (List Char) (GoMap (List Char) (List Char)))

/-- `applyRequestHeaders`, with `unmarshal` for `json.Unmarshal` into a `map[string]string`. -/
def applyRequestHeaders (header : GoMap (List Char) (List (List Char))) :
    Option RequestOptions → GoMap (List Char) (List (List Char))
  | none => header
  | some opts =>
      let header := opts.headers.entries.foldl (fun h e => headerSet h e.1 e.2) header
      let header := opts.headersSlice.foldl
        (fun h pair =>
          match pair with
          | [name, value] => headerSet h name value
          | _ => h) header
      let header := opts.headersStringList.foldl
        (fun h headerStr =>
          match splitN2 headerStr ':' with
          | [name, value] => headerSet h (trimSpace name) (trimSpace value)
          | _ => h) header
      if opts.headersJSON != [] && opts.headersJSON != "{}".toList then
        match unmarshal opts.headersJSON with
        | .ok headers => headers.entries.foldl (fun h e => headerSet h e.1 e.2) header
        | .error _ => header
      else header

/-- The `sec-ch-ua` value `getProfileHeaders` gives the Chrome 120 and Edge 120 profiles. -/
def chrome120SecChUa : List Char :=
  "\"Not_A Brand\";v=\"8\", \"Chromium\";v=\"120\", \"Google Chrome\";v=\"120\"".toList

/-- The `Sec-Fetch-*` headers `getProfileHeaders` adds for a method other than GET. -/
def corsFetchHeaders : List (List Char × List Char) :=
  [("Sec-Fetch-Site".toList, "same-origin".toList), ("Sec-Fetch-Mode".toList, "cors".toList),
    ("Sec-Fetch-Dest".toList, "empty".toList)]

/-- `getProfileHeaders`; it does not read its URL argument. -/
def getProfileHeaders (profile : Profile) (method : List Char) : GoMap (List Char) (List Char) :=
  let headers := GoMap.empty.insertAll
    [("User-Agent".toList, profile.userAgent), ("Accept".toList, profile.accept),
      ("Accept-Language".toList, profile.acceptLanguage),
      ("Accept-Encoding".toList, profile.acceptEncoding)]
  let headers :=
    if profile.name = "Chrome120".toList ∨ profile.name = "Edge120".toList then
      let headers := headers.insertAll
        [("sec-ch-ua".toList, chrome120SecChUa), ("sec-ch-ua-mobile".toList, "?0".toList),
          ("sec-ch-ua-platform".toList, "\"Windows\"".toList), ("DNT".toList, "1".toList),
          ("Connection".toList, "keep-alive".toList),
          ("Upgrade-Insecure-Requests".toList, "1".toList)]
      if method = "GET".toList then
        headers.insertAll
          [("Sec-Fetch-Site".toList, "none".toList), ("Sec-Fetch-Mode".toList, "navigate".toList),
            ("Sec-Fetch-User".toList, "?1".toList), ("Sec-Fetch-Dest".toList, "document".toList)]
      else if method = "POST".toList ∨ method = "PUT".toList ∨ method = "PATCH".toList then
        headers.insertAll corsFetchHeaders
      else headers.insertAll corsFetchHeaders
    else if profile.name = "Firefox121".toList then
      headers.insertAll
        [("DNT".toList, "1".toList), ("Connection".toList, "keep-alive".toList),
          ("Upgrade-Insecure-Requests".toList, "1".toList)]
    else if profile.name = "Safari17".toList then
      headers.insertAll
        [("Connection".toList, "keep-alive".toList),
          ("Upgrade-Insecure-Requests".toList, "1".toList)]
    else headers
  headers.copyFrom profile.secHeaders

/-- The four basic headers `applyAllHeaders` fills in from the profile, in the order it checks
them. -/
def basicHeaders (profile : Profile) : List (List Char × List Char) :=
  [("User-Agent".toList, profile.userAgent), ("Accept".toList, profile.accept),
    ("Accept-Language".toList, profile.acceptLanguage),
    ("Accept-Encoding".toList, profile.acceptEncoding)]

/-- One check of `applyAllHeaders`: `key` gets `value` when the map reads the empty text for it. -/
def setIfEmpty (header : GoMap (List Char) (List (List Char))) (key value : List Char) :
    GoMap (List Char) (List (List Char)) :=
  if headerGet header key = [] then headerSet header key value else header

/-- `applyAllHeaders` for a client whose profile is `profile` and whose header list is
`persistent`: the request's header map. -/
def applyAllHeaders (profile : Profile) (persistent : OrderedHeaders) (method : List Char)
    (opts : Option RequestOptions) : GoMap (List Char) (List (List Char)) :=
  let header : GoMap (List Char) (List (List Char)) := GoMap.empty
  if hasUserHeaders opts then
    let header := persistent.headers.foldl (fun h x => headerSet h x.name x.value) header
    let header := applyRequestHeaders unmarshal header opts
    (basicHeaders profile).foldl (fun h e => setIfEmpty h e.1 e.2) header
  else
    let profileHeaders := getProfileHeaders profile method
    let header := profile.headerOrder.foldl
      (fun h headerName =>
        if headerName.head? = some ':' then h
        else
          match profileHeaders.lookup headerName with
          | some value => headerSet h headerName value
          | none => h) header
    persistent.headers.foldl (fun h x => headerSet h x.name x.value) header

/-- The parts of a parsed URL a request carries. -/
structure URLParts where
  scheme : List Char
  host : List Char
  path : List Char

/-- The request `Request` builds for a parsed URL, without cookies or query parameters: the method
and URL, `HTTP/1.1` from `http.NewRequest`, the header map of `applyAllHeaders`, and the URL's
host as `Host`. -/
def buildRequest (profile : Profile) (persistent : OrderedHeaders) (method : List Char)
    (url : URLParts) (opts : Option RequestOptions) : HTTPRequest :=
  { method := method, urlPath := url.path, urlScheme := url.scheme, host := url.host,
    proto := "HTTP/1.1".toList, header := applyAllHeaders unmarshal profile persistent method opts }

/-- The options `PostJSON` passes to `Request`: a copy of the caller's first header map, with
`Content-Type: application/json` added unless the copy has that exact key.  The body is passed
on, or refused when `json.Marshal` fails; no modelled function reads it. -/
def postJSONOptions (headers : List (GoMap (List Char) (List Char))) : RequestOptions :=
  let mergedHeaders := GoMap.empty.copyFrom (headers.headD GoMap.empty)
  let mergedHeaders :=
    if (mergedHeaders.lookup "Content-Type".toList).isSome then mergedHeaders
    else mergedHeaders.insert "Content-Type".toList "application/json".toList
  { headers := mergedHeaders }

/-! ## The sources of a request's headers, by priority -/

/-- The pairs `applyRequestHeaders` takes from `HeadersJSON`. -/
def jsonPairs (opts : RequestOptions) : List (List Char × List Char) :=
  if opts.headersJSON != [] && opts.headersJSON != "{}".toList then
    match unmarshal opts.headersJSON with
    | .ok headers => headers.entries
    | .error _ => []
  else []

/-- The header sources of a request with options, highest priority first, each as its names and
values in order: the decoded `HeadersJSON`, the `name: value` lines, the two-string pairs, the
`Headers` map and the client's persistent headers. -/
def headerSources (persistent : OrderedHeaders) (opts : RequestOptions) :
    List (List (List Char × List Char)) :=
  [jsonPairs unmarshal opts, opts.headersStringList.filterMap namedLine,
    opts.headersSlice.filterMap namedPair, opts.headers.entries,
    persistent.headers.map fun h => (h.name, h.value)]

/-- The value a source supplies for the lower-cased name `k`: that of its last entry whose name
is `k` up to case. -/
def supplied (k : List Char) (source : List (List Char × List Char)) : Option (List Char) :=
  lastValue (fun name => toLower name == k) source

/-- The value of the highest-priority source that supplies `k`. -/
def prioritized (sources : List (List (List Char × List Char))) (k : List Char) :
    Option (List Char) :=
  sources.findSome? (supplied k)

/-- The profile's value for `k` when `k` names one of the four basic headers. -/
def basicDefault (profile : Profile) (k : List Char) : Option (List Char) :=
  ((basicHeaders profile).find? fun e => toLower e.1 == k).map Prod.snd

theorem prioritized_eq_supplied (k : List Char) :
    ∀ sources : List (List (List Char × List Char)),
      prioritized sources k = supplied k sources.reverse.flatten
  | [] => rfl
  | source :: rest => by
      rw [List.reverse_cons, List.flatten_append, List.flatten_singleton, supplied,
        lastValue_append, ← supplied, ← supplied, ← prioritized_eq_supplied k rest]
      simp only [prioritized, List.findSome?_cons]
      cases supplied k source <;> rfl

theorem supplied_eq_some_iff {k v : List Char} :
    ∀ {source : List (List Char × List Char)}, (source.map fun e => toLower e.1).Nodup →
      (supplied k source = some v ↔ ∃ e ∈ source, toLower e.1 = k ∧ e.2 = v) := by
  intro source
  induction source using List.reverseRecOn with
  | nil => simp [supplied, lastValue]
  | append_singleton source e ih =>
      intro distinct
      simp only [List.map_append, List.map_singleton, List.nodup_append, List.nodup_singleton,
        List.disjoint_singleton, List.mem_map] at distinct
      rw [supplied, lastValue_append, lastValue_singleton, ← supplied]
      by_cases hit : toLower e.1 = k
      · have only : ∀ e' ∈ source, toLower e'.1 ≠ k := fun e' mem same =>
          distinct.2.2 ⟨e', mem, same.trans hit.symm⟩
        constructor
        · intro found
          exact ⟨e, by simp, hit, by simpa [hit] using found⟩
        · rintro ⟨e', mem, named, rfl⟩
          rcases List.mem_append.1 mem with early | last
          · exact absurd named (only e' early)
          · simp [List.mem_singleton.1 last, hit]
      · have miss : (toLower e.1 == k) = false := by simpa using hit
        simp only [miss, Bool.false_eq_true, if_false, Option.none_or, ih distinct.1,
          List.mem_append, List.mem_singleton]
        exact ⟨fun ⟨e', mem, found⟩ => ⟨e', .inl mem, found⟩,
          fun ⟨e', mem, named, value⟩ =>
            ⟨e', mem.resolve_right fun same => hit (same ▸ named), named, value⟩⟩

theorem supplied_perm {k : List Char} {source source' : List (List Char × List Char)}
    (order : source.Perm source') (distinct : (source'.map fun e => toLower e.1).Nodup) :
    supplied k source = supplied k source' :=
  Option.ext fun v => by
    rw [Option.mem_def, Option.mem_def, supplied_eq_some_iff ((order.map _).nodup_iff.2 distinct),
      supplied_eq_some_iff distinct]
    simp only [order.mem_iff]

theorem lookup_setPairs_sources (sources : List (List (List Char × List Char)))
    (tokens : ∀ source ∈ sources, ∀ e ∈ source, e.1.all validHeaderFieldByte = true)
    {n : List Char} (token : n.all validHeaderFieldByte = true) :
    (setPairs GoMap.empty sources.reverse.flatten).lookup (canonicalMIMEHeaderKey n) =
      (prioritized sources (toLower n)).map fun v => [v] := by
  rw [lookup_setPairs, prioritized_eq_supplied, supplied, GoMap.lookup_empty, Option.or_none]
  congr 1
  refine lastValue_congr fun e mem => ?_
  obtain ⟨source, inSources, inSource⟩ := List.mem_flatten.1 mem
  simp [canonicalMIMEHeaderKey_eq_iff (tokens source (List.mem_reverse.1 inSources) e inSource)
    token]

theorem foldl_headerSet_pairs (header : GoMap (List Char) (List (List Char))) :
    ∀ pairs : List (List (List Char)),
      pairs.foldl (fun h pair =>
          match pair with
          | [name, value] => headerSet h name value
          | _ => h) header = setPairs header (pairs.filterMap namedPair)
  | [] => rfl
  | [name, value] :: rest => foldl_headerSet_pairs (headerSet header name value) rest
  | [] :: rest | [_] :: rest | (_ :: _ :: _ :: _) :: rest => foldl_headerSet_pairs header rest

theorem foldl_headerSet_lines (header : GoMap (List Char) (List (List Char))) :
    ∀ lines : List (List Char),
      lines.foldl (fun h headerStr =>
          match splitN2 headerStr ':' with
          | [name, value] => headerSet h (trimSpace name) (trimSpace value)
          | _ => h) header = setPairs header (lines.filterMap namedLine)
  | [] => rfl
  | headerStr :: rest => by
      rw [List.foldl_cons, List.filterMap_cons, namedLine]
      match splitN2 headerStr ':' with
      | [name, value] => exact foldl_headerSet_lines _ rest
      | [] | [_] | _ :: _ :: _ :: _ => exact foldl_headerSet_lines _ rest

theorem foldl_headerSet_persistent (header : GoMap (List Char) (List (List Char)))
    (persistent : OrderedHeaders) :
    persistent.headers.foldl (fun h x => headerSet h x.name x.value) header =
      setPairs header (persistent.headers.map fun h => (h.name, h.value)) := by
  rw [setPairs, List.foldl_map]

theorem applyRequestHeaders_eq (header : GoMap (List Char) (List (List Char)))
    (opts : RequestOptions) :
    applyRequestHeaders unmarshal header (some opts) =
      setPairs header (opts.headers.entries ++ opts.headersSlice.filterMap namedPair ++
        opts.headersStringList.filterMap namedLine ++ jsonPairs unmarshal opts) := by
  simp only [applyRequestHeaders, foldl_headerSet_pairs, foldl_headerSet_lines, setPairs_append,
    jsonPairs]
  split
  · split <;> rfl
  · rfl

theorem applyAllHeaders_user (profile : Profile) (persistent : OrderedHeaders)
    (method : List Char) (opts : RequestOptions) (user : hasUserHeaders (some opts) = true) :
    applyAllHeaders unmarshal profile persistent method (some opts) =
      (basicHeaders profile).foldl (fun h e => setIfEmpty h e.1 e.2)
        (setPairs GoMap.empty (headerSources unmarshal persistent opts).reverse.flatten) := by
  simp only [applyAllHeaders, user, if_true, foldl_headerSet_persistent, applyRequestHeaders_eq,
    ← setPairs_append, headerSources]
  simp

theorem lookup_setIfEmpty (header : GoMap (List Char) (List (List Char)))
    (key value k : List Char) :
    (setIfEmpty header key value).lookup k =
      if k = canonicalMIMEHeaderKey key ∧ ((header.lookup k).bind List.head?).getD [] = []
      then some [value] else header.lookup k := by
  unfold setIfEmpty headerGet
  by_cases hit : k = canonicalMIMEHeaderKey key
  · subst hit
    split <;> simp_all [lookup_headerSet]
  · split <;> simp [lookup_headerSet, hit]

theorem lookup_foldl_setIfEmpty (base : GoMap (List Char) (List (List Char))) (k : List Char) :
    ∀ checks : List (List Char × List Char), (checks.map (canonicalMIMEHeaderKey ·.1)).Nodup →
      (checks.foldl (fun h e => setIfEmpty h e.1 e.2) base).lookup k =
        match checks.find? (fun e => canonicalMIMEHeaderKey e.1 == k) with
        | some e => if ((base.lookup k).bind List.head?).getD [] = [] then some [e.2]
            else base.lookup k
        | none => base.lookup k
  | [], _ => rfl
  | e :: rest, distinct => by
      simp only [List.map_cons, List.nodup_cons, List.mem_map] at distinct
      rw [List.foldl_cons, lookup_foldl_setIfEmpty _ k rest distinct.2, List.find?_cons]
      by_cases hit : canonicalMIMEHeaderKey e.1 = k
      · subst hit
        have later : rest.find? (fun e' => canonicalMIMEHeaderKey e'.1 ==
            canonicalMIMEHeaderKey e.1) = none :=
          List.find?_eq_none.2 fun e' mem same => distinct.1 ⟨e', mem, by simpa using same⟩
        simp [later, lookup_setIfEmpty]
      · have miss : (canonicalMIMEHeaderKey e.1 == k) = false := by simpa using hit
        simp [miss, Ne.symm hit, lookup_setIfEmpty]

theorem basicHeaders_keys (profile : Profile) :
    (basicHeaders profile).map (canonicalMIMEHeaderKey ·.1) =
      ["User-Agent".toList, "Accept".toList, "Accept-Language".toList,
        "Accept-Encoding".toList] :=
  rfl

theorem basicHeaders_tokens (profile : Profile) :
    ∀ e ∈ basicHeaders profile, e.1.all validHeaderFieldByte = true := by
  intro e mem
  simp only [basicHeaders, List.mem_cons, List.mem_singleton, List.not_mem_nil, or_false] at mem
  rcases mem with rfl | rfl | rfl | rfl <;> rfl

/-- With header options, and header names of token characters, every name reads the value of
the highest-priority source supplying it; each of the four basic headers reads that value when
it is not the empty text, and the profile's value otherwise. -/
theorem applyAllHeaders_precedence (profile : Profile) (persistent : OrderedHeaders)
    (method : List Char) (opts : RequestOptions) (user : hasUserHeaders (some opts) = true)
    (tokens : ∀ source ∈ headerSources unmarshal persistent opts, ∀ e ∈ source,
      e.1.all validHeaderFieldByte = true)
    (n : List Char) (token : n.all validHeaderFieldByte = true) :
    (applyAllHeaders unmarshal profile persistent method (some opts)).lookup
        (canonicalMIMEHeaderKey n) =
      match basicDefault profile (toLower n) with
      | some fallback =>
          some [if (prioritized (headerSources unmarshal persistent opts) (toLower n)).getD [] = []
            then fallback
            else (prioritized (headerSources unmarshal persistent opts) (toLower n)).getD []]
      | none => (prioritized (headerSources unmarshal persistent opts) (toLower n)).map
          fun v => [v] := by
  rw [applyAllHeaders_user unmarshal profile persistent method opts user,
    lookup_foldl_setIfEmpty _ _ _ (by rw [basicHeaders_keys]; decide),
    find?_canonical_eq (basicHeaders_tokens profile) token, lookup_setPairs_sources _ tokens token,
    basicDefault]
  cases (basicHeaders profile).find? (fun e => toLower e.1 == toLower n) with
  | none => rfl
  | some e =>
      cases prioritized (headerSources unmarshal persistent opts) (toLower n) with
      | none => rfl
      | some v => by_cases blank : v = [] <;> simp [blank]

def chromeProfile : Profile :=
  { name := "Chrome120".toList, ja3 := "771,4865-4866,0-23,29-23,0".toList,
    userAgent := "Mozilla/5.0".toList, accept := "*/*".toList, acceptLanguage := "en-US".toList,
    acceptEncoding := "gzip".toList,
    headerOrder := [":method".toList, ":authority".toList, ":path".toList, ":scheme".toList,
      "sec-ch-ua".toList, "User-Agent".toList, "Accept".toList] }

def blankUserAgent : RequestOptions :=
  { headers := GoMap.empty.insertAll
      [("X-Source".toList, "request-headers".toList), ("User-Agent".toList, [])],
    headersSlice := [["x-source".toList, "request-slice".toList]] }

theorem blankUserAgent_precedence :
    hasUserHeaders (some blankUserAgent) = true ∧
      (∀ source ∈ headerSources rejectingUnmarshal OrderedHeaders.newOrderedHeaders
        blankUserAgent, ∀ e ∈ source, e.1.all validHeaderFieldByte = true) ∧
      "X-Source".toList.all validHeaderFieldByte = true ∧
      (applyAllHeaders rejectingUnmarshal chromeProfile OrderedHeaders.newOrderedHeaders
          "GET".toList (some blankUserAgent)).lookup (canonicalMIMEHeaderKey "X-Source".toList) =
        match basicDefault chromeProfile (toLower "X-Source".toList) with
        | some fallback =>
            some [if (prioritized (headerSources rejectingUnmarshal OrderedHeaders.newOrderedHeaders
                  blankUserAgent) (toLower "X-Source".toList)).getD [] = []
              then fallback
              else (prioritized (headerSources rejectingUnmarshal OrderedHeaders.newOrderedHeaders
                blankUserAgent) (toLower "X-Source".toList)).getD []]
        | none => (prioritized (headerSources rejectingUnmarshal OrderedHeaders.newOrderedHeaders
            blankUserAgent) (toLower "X-Source".toList)).map fun v => [v] :=
  ⟨rfl, by decide, rfl, applyAllHeaders_precedence rejectingUnmarshal chromeProfile
    OrderedHeaders.newOrderedHeaders "GET".toList blankUserAgent rfl (by decide) "X-Source".toList
    rfl⟩

/-- A `User-Agent` supplied as the empty text is replaced by the profile's: the `Headers` map
supplies it, and the request carries the profile's value. -/
theorem supplied_empty_user_agent_replaced :
    prioritized (headerSources rejectingUnmarshal OrderedHeaders.newOrderedHeaders blankUserAgent)
        (toLower "User-Agent".toList) = some [] ∧
      (applyAllHeaders rejectingUnmarshal chromeProfile OrderedHeaders.newOrderedHeaders
        "GET".toList (some blankUserAgent)).lookup "User-Agent".toList =
        some [chromeProfile.userAgent] := by
  decide

/-! ## Without header options -/

def profilePairs (profile : Profile) (method : List Char) : List (List Char × List Char) :=
  profile.headerOrder.filterMap fun headerName =>
    if headerName.head? = some ':' then none
    else ((getProfileHeaders profile method).lookup headerName).map (headerName, ·)

theorem foldl_profileOrder (profileHeaders : GoMap (List Char) (List Char))
    (header : GoMap (List Char) (List (List Char))) :
    ∀ order : List (List Char),
      order.foldl (fun h headerName =>
          if headerName.head? = some ':' then h
          else
            match profileHeaders.lookup headerName with
            | some value => headerSet h headerName value
            | none => h) header =
        setPairs header (order.filterMap fun headerName =>
          if headerName.head? = some ':' then none
          else (profileHeaders.lookup headerName).map (headerName, ·))
  | [] => rfl
  | headerName :: rest => by
      rw [List.foldl_cons, List.filterMap_cons]
      by_cases pseudo : headerName.head? = some ':'
      · simp only [pseudo, if_true]
        exact foldl_profileOrder _ _ rest
      · simp only [pseudo, if_false]
        cases profileHeaders.lookup headerName <;> exact foldl_profileOrder _ _ rest

theorem applyAllHeaders_profile (profile : Profile) (persistent : OrderedHeaders)
    (method : List Char) (opts : Option RequestOptions) (noUser : hasUserHeaders opts = false) :
    applyAllHeaders unmarshal profile persistent method opts =
      setPairs GoMap.empty
        (profilePairs profile method ++ persistent.headers.map fun h => (h.name, h.value)) := by
  simp only [applyAllHeaders, noUser, Bool.false_eq_true, if_false, foldl_profileOrder,
    foldl_headerSet_persistent, setPairs_append]
  rfl

/-- Without header options, and with names of token characters, a name reads the persistent
headers' value when they hold it, and otherwise the profile's value for the last name of
`HeaderOrder` equal to it up to case. -/
theorem applyAllHeaders_profile_precedence (profile : Profile) (persistent : OrderedHeaders)
    (method : List Char) (opts : Option RequestOptions) (noUser : hasUserHeaders opts = false)
    (tokens : ∀ source ∈ [persistent.headers.map fun h => (h.name, h.value),
      profilePairs profile method], ∀ e ∈ source, e.1.all validHeaderFieldByte = true)
    (n : List Char) (token : n.all validHeaderFieldByte = true) :
    (applyAllHeaders unmarshal profile persistent method opts).lookup (canonicalMIMEHeaderKey n) =
      (prioritized [persistent.headers.map fun h => (h.name, h.value), profilePairs profile method]
        (toLower n)).map fun v => [v] := by
  rw [applyAllHeaders_profile unmarshal profile persistent method opts noUser,
    ← lookup_setPairs_sources _ tokens token]
  simp

theorem chrome_user_agent_precedence :
    hasUserHeaders none = false ∧
      (∀ source ∈ [OrderedHeaders.newOrderedHeaders.headers.map fun h => (h.name, h.value),
        profilePairs chromeProfile "GET".toList], ∀ e ∈ source,
          e.1.all validHeaderFieldByte = true) ∧
      "User-Agent".toList.all validHeaderFieldByte = true ∧
      (applyAllHeaders rejectingUnmarshal chromeProfile OrderedHeaders.newOrderedHeaders
          "GET".toList none).lookup (canonicalMIMEHeaderKey "User-Agent".toList) =
        (prioritized [OrderedHeaders.newOrderedHeaders.headers.map fun h => (h.name, h.value),
          profilePairs chromeProfile "GET".toList] (toLower "User-Agent".toList)).map
          fun v => [v] :=
  ⟨rfl, by decide, rfl, applyAllHeaders_profile_precedence rejectingUnmarshal chromeProfile _ _
    none rfl (by decide) _ rfl⟩

/-! ## The method -/

theorem getProfileHeaders_method (profile : Profile) {method method' : List Char}
    (same : (method = "GET".toList ↔ method' = "GET".toList) ∨
      ¬(profile.name = "Chrome120".toList ∨ profile.name = "Edge120".toList)) :
    getProfileHeaders profile method = getProfileHeaders profile method' := by
  unfold getProfileHeaders
  by_cases chrome : profile.name = "Chrome120".toList ∨ profile.name = "Edge120".toList
  · have sameGet := same.resolve_right (not_not.mpr chrome)
    simp only [if_pos chrome, ite_self]
    by_cases get : method = "GET".toList
    · rw [if_pos get, if_pos (sameGet.mp get)]
    · rw [if_neg get, if_neg (mt sameGet.mpr get)]
  · simp only [if_neg chrome]

/-- A request's header map depends on its method only through whether it is `GET`, and only for
the Chrome 120 and Edge 120 profiles: for every other pair of methods, and for every method of
the other profiles, the maps are the same, with header options or without. -/
theorem applyAllHeaders_method (profile : Profile) (persistent : OrderedHeaders)
    {method method' : List Char}
    (same : (method = "GET".toList ↔ method' = "GET".toList) ∨
      ¬(profile.name = "Chrome120".toList ∨ profile.name = "Edge120".toList))
    (opts : Option RequestOptions) :
    applyAllHeaders unmarshal profile persistent method opts =
      applyAllHeaders unmarshal profile persistent method' opts := by
  unfold applyAllHeaders
  rw [getProfileHeaders_method profile same]

theorem post_delete_same_headers :
    (("POST".toList = "GET".toList ↔ "DELETE".toList = "GET".toList) ∨
        ¬(chromeProfile.name = "Chrome120".toList ∨ chromeProfile.name = "Edge120".toList)) ∧
      applyAllHeaders rejectingUnmarshal chromeProfile OrderedHeaders.newOrderedHeaders
          "POST".toList none =
        applyAllHeaders rejectingUnmarshal chromeProfile OrderedHeaders.newOrderedHeaders
          "DELETE".toList none :=
  ⟨Or.inl (by decide),
    applyAllHeaders_method rejectingUnmarshal chromeProfile _ (Or.inl (by decide)) none⟩

/-! ## The order in which `Headers` is visited -/

theorem hasUserHeaders_visit (opts : RequestOptions) {visit : GoMap (List Char) (List Char)}
    (order : visit.entries.Perm opts.headers.entries) :
    hasUserHeaders (some { opts with headers := visit }) = hasUserHeaders (some opts) := by
  simp only [hasUserHeaders, GoMap.len, order.length_eq]

/-! ## Options that supply no header -/

def lonePair : RequestOptions := { headersSlice := [["X-Only".toList]] }

/-- Options that supply no header still take the custom-header way: the request loses the
profile's `sec-ch-ua`, which the same request without options carries. -/
theorem silent_options_drop_profile_headers :
    headerSources rejectingUnmarshal OrderedHeaders.newOrderedHeaders lonePair =
        [[], [], [], [], []] ∧
      (applyAllHeaders rejectingUnmarshal chromeProfile OrderedHeaders.newOrderedHeaders
        "GET".toList (some lonePair)).lookup "Sec-Ch-Ua".toList = none ∧
      (applyAllHeaders rejectingUnmarshal chromeProfile OrderedHeaders.newOrderedHeaders
        "GET".toList none).lookup "Sec-Ch-Ua".toList = some [chrome120SecChUa] := by
  decide

/-! ## The HEADERS frame of a request -/

def exampleURL : URLParts := ⟨"https".toList, "example.com".toList, "/".toList⟩

variable (lower : RuneLower)

theorem headersFrame_pseudo_lines (profile : Profile) (persistent : OrderedHeaders)
    (method : List Char) (url : URLParts) (opts : Option RequestOptions) :
    (headersFrame lower
        (buildRequest unmarshal profile persistent method url opts)).headers.take 4 =
      [":method: ".toList ++ method, ":path: ".toList ++ url.path,
        ":scheme: ".toList ++ url.scheme, ":authority: ".toList ++ url.host] := by
  simp [headersFrame, extractHeadersList, buildRequest]

/-- Visiting the header map in another order changes neither the frame's estimated length nor
which lines it lists, only their order. -/
theorem headersFrame_visit (req : HTTPRequest) {header : GoMap (List Char) (List (List Char))}
    (visit : header.entries.Perm req.header.entries) :
    (headersFrame lower { req with header := header }).length = (headersFrame lower req).length ∧
      (headersFrame lower { req with header := header }).headers.Perm
        (headersFrame lower req).headers :=
  ⟨congrArg (fun size => UInt32.ofNat size) (estimateHeadersSize_perm req visit),
    extractHeadersList_perm lower req visit⟩

def exampleGet : HTTPRequest :=
  buildRequest rejectingUnmarshal chromeProfile OrderedHeaders.newOrderedHeaders "GET".toList
    exampleURL none

theorem exampleGet_frame_visit :
    exampleGet.header.reverse.entries.Perm exampleGet.header.entries ∧
      (headersFrame latin1Lower { exampleGet with header := exampleGet.header.reverse }).length =
          (headersFrame latin1Lower exampleGet).length ∧
        (headersFrame latin1Lower
            { exampleGet with header := exampleGet.header.reverse }).headers.Perm
          (headersFrame latin1Lower exampleGet).headers :=
  ⟨List.reverse_perm _, headersFrame_visit latin1Lower exampleGet (List.reverse_perm _)⟩

/-- A GET of `https://example.com/` without options: `:path` comes second, and visiting the header
map from its second entry on puts `user-agent` and `accept` before `sec-ch-ua`, which
`HeaderOrder` lists first. -/
theorem tracked_headers_break_declared_order :
    (headersFrame latin1Lower exampleGet).headers.take 4 =
        [":method: GET".toList, ":path: /".toList, ":scheme: https".toList,
          ":authority: example.com".toList] ∧
      ∃ visit : GoMap (List Char) (List (List Char)),
        visit.entries.Perm exampleGet.header.entries ∧
        (headersFrame latin1Lower { exampleGet with header := visit }).headers.drop 4 =
          ["user-agent: Mozilla/5.0".toList, "accept: */*".toList,
            "sec-ch-ua: ".toList ++ chrome120SecChUa] :=
  ⟨headersFrame_pseudo_lines rejectingUnmarshal latin1Lower _ _ _ _ _, exampleGet.header.rotate 1,
    List.rotate_perm exampleGet.header.entries 1, by decide⟩

/-! ## `PostJSON` -/

theorem postJSONOptions_headers (h : GoMap (List Char) (List Char)) :
    (postJSONOptions [h]).headers =
      if (h.lookup "Content-Type".toList).isSome then h
      else h.insert "Content-Type".toList "application/json".toList := by
  simp [postJSONOptions]

theorem postJSONOptions_contentType (h : GoMap (List Char) (List Char))
    (caseDistinct : (h.entries.map fun e => toLower e.1).Nodup)
    (exactKey : ∀ e ∈ h.entries, toLower e.1 = toLower "Content-Type".toList →
      e.1 = "Content-Type".toList) :
    ((postJSONOptions [h]).headers.entries.map fun e => toLower e.1).Nodup ∧
      supplied (toLower "Content-Type".toList) (postJSONOptions [h]).headers.entries =
        some ((h.lookup "Content-Type".toList).getD "application/json".toList) := by
  rw [postJSONOptions_headers]
  cases held : h.lookup "Content-Type".toList with
  | some value =>
      exact ⟨caseDistinct, (supplied_eq_some_iff caseDistinct).2
        ⟨("Content-Type".toList, value), (GoMap.mem_entries_iff h _ value).2 held, rfl, rfl⟩⟩
  | none =>
      have absent := (GoMap.lookup_eq_none_iff h _).1 held
      have distinct : ((h.insert "Content-Type".toList "application/json".toList).entries.map
          fun e => toLower e.1).Nodup := by
        rw [GoMap.insert_entries_of_not_mem _ _ absent, List.map_append, List.nodup_append]
        refine ⟨caseDistinct, List.nodup_singleton _, fun k inH inNew => ?_⟩
        obtain ⟨e, mem, rfl⟩ := List.mem_map.1 inH
        exact absent (List.mem_map.2 ⟨e, mem, exactKey e mem (List.mem_singleton.1 inNew)⟩)
      exact ⟨distinct, (supplied_eq_some_iff distinct).2
        ⟨("Content-Type".toList, "application/json".toList),
          by rw [GoMap.insert_entries_of_not_mem _ _ absent]; simp, rfl, rfl⟩⟩

theorem hasUserHeaders_postJSONOptions (headers : List (GoMap (List Char) (List Char))) :
    hasUserHeaders (some (postJSONOptions headers)) = true := by
  have named : ((postJSONOptions headers).headers.lookup "Content-Type".toList).isSome := by
    dsimp only [postJSONOptions]
    split
    · assumption
    · simp [GoMap.lookup_insert]
  have nonempty : (postJSONOptions headers).headers.entries ≠ [] := fun empty => by
    simp [GoMap.lookup, empty] at named
  simp [hasUserHeaders, GoMap.len, List.length_pos.2 nonempty]

theorem canonicalMIMEHeaderKey_contentType :
    canonicalMIMEHeaderKey "Content-Type".toList = "Content-Type".toList := by
  decide

theorem canonicalMIMEHeaderKey_eq_contentType (name : List Char) :
    (canonicalMIMEHeaderKey name == "Content-Type".toList) =
      (toLower name == toLower "Content-Type".toList) := by
  rw [← canonicalMIMEHeaderKey_contentType, Bool.eq_iff_iff, beq_iff_eq, beq_iff_eq]
  exact canonicalMIMEHeaderKey_eq_token_iff (by decide) name

/-- When the caller's map has its keys distinct up to case and spells a key equal to
`Content-Type` up to case exactly so, the request carries the caller's `Content-Type`, or
`application/json` when it gave none, in every order the merged map is visited, whatever the
client's persistent headers. -/
theorem postJSON_content_type (profile : Profile) (persistent : OrderedHeaders)
    (h : GoMap (List Char) (List Char))
    (caseDistinct : (h.entries.map fun e => toLower e.1).Nodup)
    (exactKey : ∀ e ∈ h.entries, toLower e.1 = toLower "Content-Type".toList →
      e.1 = "Content-Type".toList)
    {visit : GoMap (List Char) (List Char)}
    (order : visit.entries.Perm (postJSONOptions [h]).headers.entries) :
    headerGet (applyAllHeaders unmarshal profile persistent "POST".toList
        (some { headers := visit })) "Content-Type".toList =
      (h.lookup "Content-Type".toList).getD "application/json".toList := by
  obtain ⟨distinct, value⟩ := postJSONOptions_contentType h caseDistinct exactKey
  have user : hasUserHeaders (some { headers := visit }) = true :=
    (hasUserHeaders_visit (postJSONOptions [h]) order).trans (hasUserHeaders_postJSONOptions [h])
  have pairs : (headerSources unmarshal persistent { headers := visit }).reverse.flatten =
      (persistent.headers.map fun h => (h.name, h.value)) ++ visit.entries := by
    simp [headerSources, jsonPairs]
  have named : lastValue (fun name => canonicalMIMEHeaderKey name == "Content-Type".toList)
      visit.entries = some ((h.lookup "Content-Type".toList).getD "application/json".toList) := by
    rw [← value, ← supplied_perm order distinct, supplied]
    exact lastValue_congr fun e _ => canonicalMIMEHeaderKey_eq_contentType e.1
  unfold headerGet
  rw [applyAllHeaders_user unmarshal profile persistent _ _ user,
    lookup_foldl_setIfEmpty _ _ _ (by rw [basicHeaders_keys]; decide), pairs,
    canonicalMIMEHeaderKey_contentType, lookup_setPairs, lastValue_append, named]
  rfl

/-- Whatever maps the caller passes, the header map of `PostJSON`'s request reads of the profile
only its four basic values, and never the method: the headers `getProfileHeaders` adds for a
browser profile (`sec-ch-ua`, `Sec-Fetch-*`, `DNT`, `Connection`, the profile's `SecHeaders`)
and its header order play no part in it. -/
theorem postJSON_ignores_profile_headers (profile profile' : Profile) (persistent : OrderedHeaders)
    (method method' : List Char) (headers : List (GoMap (List Char) (List Char)))
    (sameBasic : basicHeaders profile = basicHeaders profile') :
    applyAllHeaders unmarshal profile persistent method (some (postJSONOptions headers)) =
      applyAllHeaders unmarshal profile' persistent method' (some (postJSONOptions headers)) := by
  rw [applyAllHeaders_user unmarshal profile persistent method _
      (hasUserHeaders_postJSONOptions headers),
    applyAllHeaders_user unmarshal profile' persistent method' _
      (hasUserHeaders_postJSONOptions headers), sameBasic]

/-- The Chrome 120 profile and a Safari 17 profile with the same basic values give a POST and a
GET with `PostJSON`'s options the same header map. -/
theorem chrome_safari_postJSON_same_headers :
    basicHeaders chromeProfile = basicHeaders { chromeProfile with name := "Safari17".toList } ∧
      applyAllHeaders rejectingUnmarshal chromeProfile OrderedHeaders.newOrderedHeaders
          "POST".toList (some (postJSONOptions [])) =
        applyAllHeaders rejectingUnmarshal { chromeProfile with name := "Safari17".toList }
          OrderedHeaders.newOrderedHeaders "GET".toList (some (postJSONOptions [])) :=
  ⟨rfl, postJSON_ignores_profile_headers rejectingUnmarshal _ _ _ _ _ _ rfl⟩

def plainContentType : GoMap (List Char) (List Char) :=
  GoMap.empty.insert "Content-Type".toList "text/plain".toList

theorem plain_content_type_kept :
    (plainContentType.entries.map fun e => toLower e.1).Nodup ∧
      (∀ e ∈ plainContentType.entries, toLower e.1 = toLower "Content-Type".toList →
        e.1 = "Content-Type".toList) ∧
      headerGet (applyAllHeaders rejectingUnmarshal chromeProfile OrderedHeaders.newOrderedHeaders
          "POST".toList (some { headers := (postJSONOptions [plainContentType]).headers }))
          "Content-Type".toList =
        (plainContentType.lookup "Content-Type".toList).getD "application/json".toList :=
  ⟨by decide, by decide, postJSON_content_type rejectingUnmarshal chromeProfile _
    plainContentType (by decide) (by decide) (List.Perm.refl _)⟩

def lowerContentType : GoMap (List Char) (List Char) :=
  GoMap.empty.insert "content-type".toList "text/plain".toList

/-- `PostJSON` adds `Content-Type` beside the caller's `content-type`; both name one header, and
which value the request carries depends on the order `applyRequestHeaders` visits the map. -/
theorem postJSON_content_type_by_visit_order :
    (postJSONOptions [lowerContentType]).headers.len = 2 ∧
      headerGet (applyAllHeaders rejectingUnmarshal chromeProfile OrderedHeaders.newOrderedHeaders
        "POST".toList (some (postJSONOptions [lowerContentType]))) "Content-Type".toList =
        "application/json".toList ∧
      ∃ visit : GoMap (List Char) (List Char),
        visit.entries.Perm (postJSONOptions [lowerContentType]).headers.entries ∧
        headerGet (applyAllHeaders rejectingUnmarshal chromeProfile OrderedHeaders.newOrderedHeaders
          "POST".toList (some { headers := visit })) "Content-Type".toList = "text/plain".toList :=
  ⟨rfl, by decide, (postJSONOptions [lowerContentType]).headers.reverse, List.reverse_perm _,
    by decide⟩

end Client

end OrbitTls
