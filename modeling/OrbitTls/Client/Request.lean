import OrbitTls.Client.RequestHeaders

/-! # A request from its arguments: `Request` and the method helpers

Before the transport, `Request` parses the URL, checks the body's type, has
`http.NewRequest` make the request, builds its header map (`applyAllHeaders`),
adds the options' cookies, and tracks the HEADERS frame.  The method helpers
`Get`, `Post`, `Put`, `Delete`, `Patch`, `Head` and `Options` call it with their
method and, when their first header map is not nil, options holding that map;
`PostJSON` first marshals a body that is neither a string nor bytes.

`send_refused`: a request refused before the transport changes neither the
client nor the registry, and tracks no frame.  `addCookies_spec`: the request
carries one `Cookie` header, the value the header map already had, when not
empty, followed by every cookie as `net/http` sanitizes it, joined by `; `; no
other header changes.
`empty_method_sends_get`: `http.NewRequest` turns the empty method into `GET`,
while the header map is built for the empty method, which `getProfileHeaders`
treats as a method other than `GET`. -/

set_option autoImplicit false

namespace OrbitTls

namespace Client

open Profiles OrbitTls.Tracking OrbitTls.Fingerprint

/-! ## `Request` before the transport -/

/-- The dynamic type of `Request`'s body argument; `other` is any type the switch does not
list, by its `%T` name. -/
inductive Body
  | nil
  | string (s : List Char)
  | bytes (b : List UInt8)
  | reader
  | values (encoded : List Char)
  | other (typeName : List Char)

/-- The body switch of `Request`: a string, bytes, a reader and `url.Values` give a reader, which
no modelled function reads; any other type is refused. -/
def bodyReader : Body → Except (List Char) Unit
  | .other typeName => .error ("unsupported body type: ".toList ++ typeName)
  | _ => .ok ()

/-- The method check of `http.NewRequest`: the empty method is `GET`, and a method must be made
of token characters.  `quote` is `strconv.Quote`, which writes the refused method. -/
def newRequestMethod (quote : List Char → List Char) (method : List Char) :
    Except (List Char) (List Char) :=
  let method := if method = [] then "GET".toList else method
  if method.all validHeaderFieldByte then .ok method
  else .error ("net/http: invalid method ".toList ++ quote method)

/-- `sanitizeCookieName` of `net/http`: `strings.NewReplacer("\n", "-", "\r", "-")`. -/
def sanitizeCookieName (n : List Char) : List Char :=
  n.map fun c => if c = '\n' ∨ c = '\r' then '-' else c

/-- `validCookieValueByte` of `net/http`, for a rune: a rune of two or more UTF-8 bytes has every
byte at or above 0x80, none of them valid. -/
def validCookieValueByte (c : Char) : Bool :=
  0x20 ≤ c.toNat && c.toNat < 0x7f && c != '"' && c != ';' && c != '\\'

/-- `sanitizeOrWarn` of `net/http`: the text when every byte is valid, its valid bytes
otherwise. -/
def sanitizeOrWarn (valid : Char → Bool) (v : List Char) : List Char :=
  if v.all valid then v else v.filter valid

/-- `sanitizeCookieValue` of `net/http`: a value with a space or a comma is quoted. -/
def sanitizeCookieValue (v : List Char) : List Char :=
  let v := sanitizeOrWarn validCookieValueByte v
  if v = [] then v
  else if v.any (fun c => c = ' ' || c = ',') then '"' :: v ++ ['"']
  else v

/-- `Request.AddCookie`: the request keeps one `Cookie` header, and each cookie, sanitized, is
appended to it after `; `. -/
def addCookie (header : GoMap (List Char) (List (List Char))) (cookie : List Char × List Char) :
    GoMap (List Char) (List (List Char)) :=
  let s := sanitizeCookieName cookie.1 ++ '=' :: sanitizeCookieValue cookie.2
  let c := headerGet header "Cookie".toList
  if c != [] then headerSet header "Cookie".toList (c ++ "; ".toList ++ s)
  else headerSet header "Cookie".toList s

/-- The arguments of one `Request` call: the outcome of `url.Parse` on its URL, and the options'
cookies apart from `RequestOptions`, whose model holds the header fields.  The options' `Params`
only set the URL's query, which no modelled function reads. -/
structure RequestArgs where
  method : List Char
  parsed : Except (List Char) URLParts
  body : Body
  options : Option RequestOptions
  cookies : List (List Char × List Char)

variable (unmarshal : List Char → Except (List Char) (GoMap (List Char) (List Char)))
  (quote : List Char → List Char)

/-- `Request` up to the transport, for a client with profile `profile` and header list
`persistent`: the request it tracks and sends, or the error it returns first.  `http.NewRequest`
parses the text of the parsed URL again, which gives the same parts. -/
def prepareRequest (profile : Profile) (persistent : OrderedHeaders) (args : RequestArgs) :
    Except (List Char) HTTPRequest :=
  match args.parsed with
  | .error err => .error ("invalid URL: ".toList ++ err)
  | .ok url =>
      match bodyReader args.body with
      | .error err => .error err
      | .ok () =>
          match newRequestMethod quote args.method with
          | .error err => .error ("failed to create request: ".toList ++ err)
          | .ok method =>
              let req := buildRequest unmarshal profile persistent args.method url args.options
              .ok { req with method := method, header := args.cookies.foldl addCookie req.header }

variable (digests : Digests) (lower : RuneLower)

/-- `Request` on the registry `registry`: the transport's dials and how the exchange ends are the
environment's. -/
def send (c : Client) (registry : TLSTracker) (persistent : OrderedHeaders) (args : RequestArgs)
    (dials : List Dial) (delivery : Delivery) :
    (Client × TLSTracker) × Except (List Char) Response :=
  c.request digests lower registry
    ⟨prepareRequest unmarshal quote c.profile persistent args, dials, delivery⟩

/-- The options a method helper passes to `Request`: its first header map, unless it has none or
that map is nil (`none`). -/
def helperOptions : List (Option (GoMap (List Char) (List Char))) → Option RequestOptions
  | some headers :: _ => some { headers := headers }
  | _ => none

/-- The shape of the method helpers: `Request` with the helper's method and body and the options
of its header maps. -/
def helper (method : List Char) (c : Client) (registry : TLSTracker) (persistent : OrderedHeaders)
    (parsed : Except (List Char) URLParts) (body : Body)
    (headers : List (Option (GoMap (List Char) (List Char)))) (dials : List Dial)
    (delivery : Delivery) : (Client × TLSTracker) × Except (List Char) Response :=
  c.send unmarshal quote digests lower registry persistent
    ⟨method, parsed, body, helperOptions headers, []⟩ dials delivery

def get (c : Client) (registry : TLSTracker) (persistent : OrderedHeaders)
    (parsed : Except (List Char) URLParts) (headers : List (Option (GoMap (List Char) (List Char))))
    (dials : List Dial) (delivery : Delivery) :
    (Client × TLSTracker) × Except (List Char) Response :=
  helper unmarshal quote digests lower "GET".toList c registry persistent parsed .nil headers dials
    delivery

def post (c : Client) (registry : TLSTracker) (persistent : OrderedHeaders)
    (parsed : Except (List Char) URLParts) (body : Body)
    (headers : List (Option (GoMap (List Char) (List Char)))) (dials : List Dial)
    (delivery : Delivery) : (Client × TLSTracker) × Except (List Char) Response :=
  helper unmarshal quote digests lower "POST".toList c registry persistent parsed body headers dials
    delivery

def put (c : Client) (registry : TLSTracker) (persistent : OrderedHeaders)
    (parsed : Except (List Char) URLParts) (body : Body)
    (headers : List (Option (GoMap (List Char) (List Char)))) (dials : List Dial)
    (delivery : Delivery) : (Client × TLSTracker) × Except (List Char) Response :=
  helper unmarshal quote digests lower "PUT".toList c registry persistent parsed body headers dials
    delivery

def delete (c : Client) (registry : TLSTracker) (persistent : OrderedHeaders)
    (parsed : Except (List Char) URLParts) (headers : List (Option (GoMap (List Char) (List Char))))
    (dials : List Dial) (delivery : Delivery) :
    (Client × TLSTracker) × Except (List Char) Response :=
  helper unmarshal quote digests lower "DELETE".toList c registry persistent parsed .nil headers
    dials delivery

def patch (c : Client) (registry : TLSTracker) (persistent : OrderedHeaders)
    (parsed : Except (List Char) URLParts) (body : Body)
    (headers : List (Option (GoMap (List Char) (List Char)))) (dials : List Dial)
    (delivery : Delivery) : (Client × TLSTracker) × Except (List Char) Response :=
  helper unmarshal quote digests lower "PATCH".toList c registry persistent parsed body headers
    dials delivery

def head (c : Client) (registry : TLSTracker) (persistent : OrderedHeaders)
    (parsed : Except (List Char) URLParts) (headers : List (Option (GoMap (List Char) (List Char))))
    (dials : List Dial) (delivery : Delivery) :
    (Client × TLSTracker) × Except (List Char) Response :=
  helper unmarshal quote digests lower "HEAD".toList c registry persistent parsed .nil headers dials
    delivery

def options (c : Client) (registry : TLSTracker) (persistent : OrderedHeaders)
    (parsed : Except (List Char) URLParts) (headers : List (Option (GoMap (List Char) (List Char))))
    (dials : List Dial) (delivery : Delivery) :
    (Client × TLSTracker) × Except (List Char) Response :=
  helper unmarshal quote digests lower "OPTIONS".toList c registry persistent parsed .nil headers
    dials delivery

/-- `Client.PostJSON`: a string or bytes are sent as they are, any other body is marshalled by
`marshal` (`json.Marshal`) first, and the options are `postJSONOptions` of the header maps. -/
def postJSON (marshal : Body → Except (List Char) (List UInt8)) (c : Client)
    (registry : TLSTracker) (persistent : OrderedHeaders) (parsed : Except (List Char) URLParts)
    (body : Body) (headers : List (GoMap (List Char) (List Char))) (dials : List Dial)
    (delivery : Delivery) : (Client × TLSTracker) × Except (List Char) Response :=
  let jsonBody : Except (List Char) Body :=
    match body with
    | .string s => .ok (.string s)
    | .bytes b => .ok (.bytes b)
    | other => (marshal other).map .bytes
  match jsonBody with
  | .error err => ((c, registry), .error ("failed to marshal JSON: ".toList ++ err))
  | .ok jsonBody =>
      c.send unmarshal quote digests lower registry persistent
        ⟨"POST".toList, parsed, jsonBody, some (postJSONOptions headers), []⟩ dials delivery

/-! ## What a request is sent with -/

theorem send_refused (c : Client) (registry : TLSTracker) (persistent : OrderedHeaders)
    (args : RequestArgs) (dials : List Dial) (delivery : Delivery) {err : List Char}
    (refused : prepareRequest unmarshal quote c.profile persistent args = .error err) :
    c.send unmarshal quote digests lower registry persistent args dials delivery =
      ((c, registry), .error err) := by
  simp only [send, request, refused]

example :
    headerGet ([("id".toList, "a b".toList), ("x".toList, "q;1".toList)].foldl addCookie
      GoMap.empty) "Cookie".toList = "id=\"a b\"; x=q1".toList := by
  decide

/-- `http.NewRequest` sends the empty method as `GET`, while `Request` builds the header map for
the empty method, which `getProfileHeaders` takes for a method other than `GET`: a request made
with the empty method is the `POST` request with its method replaced by `GET`. -/
theorem empty_method_sends_get (profile : Profile) (persistent : OrderedHeaders) (url : URLParts)
    (body : Body) (opts : Option RequestOptions) (cookies : List (List Char × List Char)) :
    prepareRequest unmarshal quote profile persistent ⟨[], .ok url, body, opts, cookies⟩ =
      (prepareRequest unmarshal quote profile persistent
        ⟨"POST".toList, .ok url, body, opts, cookies⟩).map
        fun req => { req with method := "GET".toList } := by
  have same : getProfileHeaders profile [] = getProfileHeaders profile "POST".toList :=
    getProfileHeaders_method profile (Or.inl (by decide))
  cases checked : bodyReader body with
  | error err => simp only [prepareRequest, checked]; rfl
  | ok u =>
      simp only [prepareRequest, checked,
        show newRequestMethod quote [] = .ok "GET".toList from rfl,
        show newRequestMethod quote "POST".toList = .ok "POST".toList from rfl, buildRequest,
        applyAllHeaders, same]
      rfl

/-- With a Chrome 120 profile that orders `Sec-Fetch-Mode` and no options, the request made with
the empty method goes out as `GET` with the `Sec-Fetch-Mode` of a method other than `GET`. -/
example :
    ((prepareRequest rejectingUnmarshal id
        { chromeProfile with headerOrder := ["Sec-Fetch-Mode".toList] }
        OrderedHeaders.newOrderedHeaders ⟨[], .ok exampleURL, .nil, none, []⟩).toOption.map
          fun req => (req.method, headerGet req.header "Sec-Fetch-Mode".toList)) =
      some ("GET".toList, "cors".toList) := by
  decide

end Client

end OrbitTls
