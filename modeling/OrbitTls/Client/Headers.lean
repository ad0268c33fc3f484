import OrbitTls.GoMap
import OrbitTls.Text.Split

/-! # The client's header list: `OrderedHeaders`

`OrderedHeaders` keeps the headers a user sets on a client in the order they were
first set.  `Set` lower-cases the name with `strings.ToLower`, overwrites the value
of the header of that name in place, and appends a new header otherwise; `Del`
cuts out the first header of the name.  Only these methods write the slice, so in
every value a program can reach each name names one header: the structure carries
that fact as a field, and each method proves it keeps it.

`getIn_setIn`, `getIn_delIn`, `names_set`, `names_del`: what `Get` reads and in
which order the names stand after `Set` and `Del`.  `getAll_entries`: `GetAll` holds the
headers in order.  `setFromJSON_atomic`: `SetFromJSON` decodes first, so it fails
with the headers untouched or sets the whole map. -/

set_option autoImplicit false

namespace OrbitTls.Client

structure Header where
  name : List Char
  value : List Char
deriving DecidableEq, Repr

/-- The loop of `Set` over the slice, for a lower-cased `name`. -/
def setIn (name value : List Char) : List Header → List Header
  | [] => [⟨name, value⟩]
  | h :: rest => if h.name = name then ⟨h.name, value⟩ :: rest else h :: setIn name value rest

/-- The loop of `Get`, for a lower-cased `name`. -/
def getIn (name : List Char) : List Header → List Char
  | [] => []
  | h :: rest => if h.name = name then h.value else getIn name rest

/-- The loop of `Del`, for a lower-cased `name`. -/
def delIn (name : List Char) : List Header → List Header
  | [] => []
  | h :: rest => if h.name = name then rest else h :: delIn name rest

section Loops

variable (name value n : List Char)

theorem names_setIn (hs : List Header) :
    (setIn name value hs).map Header.name =
      if name ∈ hs.map Header.name then hs.map Header.name else hs.map Header.name ++ [name] := by
  induction hs with
  | nil => rfl
  | cons h rest ih =>
      by_cases hit : h.name = name
      · simp [setIn, hit]
      · simp only [setIn, hit, if_false, List.map_cons, ih, List.mem_cons, Ne.symm hit, false_or]
        split <;> rfl

theorem names_delIn (hs : List Header) :
    (delIn name hs).map Header.name = (hs.map Header.name).erase name := by
  induction hs with
  | nil => rfl
  | cons h rest ih => by_cases hit : h.name = name <;> simp [delIn, List.erase_cons, hit, ih]

theorem getIn_setIn (hs : List Header) :
    getIn n (setIn name value hs) = if n = name then value else getIn n hs := by
  induction hs with
  | nil =>
      by_cases hit : n = name
      · simp [getIn, setIn, hit]
      · simp [getIn, setIn, hit, Ne.symm hit]
  | cons h rest ih =>
      by_cases hit : h.name = name
      · by_cases query : n = name
        · simp [getIn, setIn, hit, query]
        · simp [getIn, setIn, hit, query, Ne.symm query]
      · by_cases query : h.name = n
        · subst query
          simp [getIn, setIn, hit]
        · simp [getIn, setIn, hit, query, ih]

theorem getIn_of_not_mem {hs : List Header} (absent : n ∉ hs.map Header.name) :
    getIn n hs = [] := by
  induction hs with
  | nil => rfl
  | cons h rest ih =>
      simp only [List.map_cons, List.mem_cons, not_or] at absent
      simp [getIn, Ne.symm absent.1, ih absent.2]

theorem getIn_delIn {hs : List Header} (distinct : (hs.map Header.name).Nodup) :
    getIn n (delIn name hs) = if n = name then [] else getIn n hs := by
  induction hs with
  | nil => simp [getIn, delIn]
  | cons h rest ih =>
      simp only [List.map_cons, List.nodup_cons] at distinct
      by_cases hit : h.name = name
      · by_cases query : n = name
        · subst query
          simp [delIn, hit, getIn_of_not_mem _ (hit ▸ distinct.1)]
        · simp [delIn, getIn, hit, query, Ne.symm query]
      · by_cases query : h.name = n
        · subst query
          simp [delIn, getIn, hit]
        · simp [delIn, getIn, hit, query, ih distinct.2]

end Loops

/-- `OrderedHeaders`, with what its methods keep true of the slice: each name names one
header. -/
structure OrderedHeaders where
  headers : List Header
  namesNodup : (headers.map Header.name).Nodup

theorem setIn_nodup (name value : List Char) {hs : List Header}
    (distinct : (hs.map Header.name).Nodup) : ((setIn name value hs).map Header.name).Nodup := by
  rw [names_setIn]
  split
  · exact distinct
  · next absent =>
      exact List.nodup_append.2 ⟨distinct, List.nodup_singleton _, by simpa using absent⟩

/-- The name and value of a `[name, value]` pair: the only shape `SetFromSlice` and
`applyRequestHeaders` accept. -/
def namedPair : List (List Char) → Option (List Char × List Char)
  | [name, value] => some (name, value)
  | _ => none

/-- The trimmed name and value of a `name: value` line: the only shape `SetFromStringSlice` and
`applyRequestHeaders` accept. -/
def namedLine (headerStr : List Char) : Option (List Char × List Char) :=
  match splitN2 headerStr ':' with
  | [name, value] => some (trimSpace name, trimSpace value)
  | _ => none

namespace OrderedHeaders

def newOrderedHeaders : OrderedHeaders := ⟨[], List.nodup_nil⟩

variable (lower : RuneLower)

def set (oh : OrderedHeaders) (name value : List Char) : OrderedHeaders :=
  ⟨setIn (stringsToLower lower name) value oh.headers, setIn_nodup _ value oh.namesNodup⟩

def get (oh : OrderedHeaders) (name : List Char) : List Char :=
  getIn (stringsToLower lower name) oh.headers

def del (oh : OrderedHeaders) (name : List Char) : OrderedHeaders :=
  ⟨delIn (stringsToLower lower name) oh.headers, names_delIn _ _ ▸ oh.namesNodup.erase _⟩

/-- `SetMultiple`, visiting `headers` in its iteration order. -/
def setMultiple (oh : OrderedHeaders) (headers : GoMap (List Char) (List Char)) : OrderedHeaders :=
  headers.entries.foldl (fun oh e => oh.set lower e.1 e.2) oh

/-- `SetFromSlice`: the headers after the call, and the error it returns. -/
def setFromSlice (oh : OrderedHeaders) :
    List (List (List Char)) → OrderedHeaders × Option (List Char)
  | [] => (oh, none)
  | pair :: rest =>
      match pair with
      | [name, value] => (oh.set lower name value).setFromSlice rest
      | _ =>
          (oh, some ("invalid header pair: expected [name, value], got ".toList ++
            formatStringSlice pair))

/-- `SetFromStringSlice`: the headers after the call, and the error it returns. -/
def setFromStringSlice (oh : OrderedHeaders) :
    List (List Char) → OrderedHeaders × Option (List Char)
  | [] => (oh, none)
  | headerStr :: rest =>
      match splitN2 headerStr ':' with
      | [name, value] =>
          (oh.set lower (trimSpace name) (trimSpace value)).setFromStringSlice rest
      | _ =>
          (oh, some ("invalid header format: ".toList ++ headerStr ++
            " (expected \x27name: value\x27)".toList))

/-- `SetFromJSON`, for the outcome `unmarshal` gives of `json.Unmarshal` into a
`map[string]string`. -/
def setFromJSON (unmarshal : List Char → Except (List Char) (GoMap (List Char) (List Char)))
    (oh : OrderedHeaders) (jsonStr : List Char) : OrderedHeaders × Option (List Char) :=
  match unmarshal jsonStr with
  | .error err => (oh, some ("failed to parse JSON headers: ".toList ++ err))
  | .ok headers => (oh.setMultiple lower headers, none)

def clear (_ : OrderedHeaders) : OrderedHeaders := newOrderedHeaders

def getAll (oh : OrderedHeaders) : GoMap (List Char) (List Char) :=
  oh.headers.foldl (fun result h => result.insert h.name h.value) GoMap.empty

def getAllOrdered (oh : OrderedHeaders) : List (List (List Char)) :=
  oh.headers.map fun h => [h.name, h.value]

variable (oh : OrderedHeaders) (name value n : List Char)

theorem names_set : (oh.set lower name value).headers.map Header.name =
    if stringsToLower lower name ∈ oh.headers.map Header.name then oh.headers.map Header.name
    else oh.headers.map Header.name ++ [stringsToLower lower name] :=
  names_setIn _ _ _

theorem names_del : (oh.del lower name).headers.map Header.name =
    (oh.headers.map Header.name).erase (stringsToLower lower name) :=
  names_delIn _ _

theorem getAll_entries : oh.getAll.entries = oh.headers.map fun h => (h.name, h.value) := by
  have keys : ((GoMap.empty.entries ++ oh.headers.map fun (h : Header) => (h.name, h.value)).map
      Prod.fst).Nodup := by
    simpa [List.map_map, Function.comp_def] using oh.namesNodup
  have copied := GoMap.foldl_insert_entries _ _ keys
  rw [List.foldl_map] at copied
  exact copied

theorem setFromStringSlice_line (noColon : ':' ∉ name) (rest : List (List Char)) :
    oh.setFromStringSlice lower ((name ++ ':' :: value) :: rest) =
      (oh.set lower (trimSpace name) (trimSpace value)).setFromStringSlice lower rest := by
  simp only [setFromStringSlice, splitN2_append noColon]

theorem setFromStringSlice_noColon {line : List Char} (noColon : ':' ∉ line)
    (rest : List (List Char)) :
    oh.setFromStringSlice lower (line :: rest) =
      (oh, some ("invalid header format: ".toList ++ line ++
        " (expected \x27name: value\x27)".toList)) := by
  simp only [setFromStringSlice, splitN2_of_not_mem noColon]

theorem setFromJSON_atomic
    (unmarshal : List Char → Except (List Char) (GoMap (List Char) (List Char)))
    (jsonStr : List Char) :
    (∃ err, oh.setFromJSON lower unmarshal jsonStr = (oh, some err)) ∨
      ∃ headers, oh.setFromJSON lower unmarshal jsonStr = (oh.setMultiple lower headers, none) := by
  unfold setFromJSON
  split
  · exact .inl ⟨_, rfl⟩
  · exact .inr ⟨_, rfl⟩

end OrderedHeaders

end OrbitTls.Client
