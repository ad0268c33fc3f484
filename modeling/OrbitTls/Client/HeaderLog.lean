import OrbitTls.Client.Headers

/-! # Runs of header calls: the header list is an insertion-ordered map

A program calls `Set`, `Del`, `Clear`, `SetMultiple`, `SetFromSlice`,
`SetFromStringSlice` and `SetFromJSON` on one `OrderedHeaders` in any order
(`runCalls`, which also collects the errors the calls return).  A call that
returns nil performs a list of primitive events (`HeaderCall.ops`): a Set per
entry, pair or line it applies, a Del, or a Clear.

The abstract reading is a function of that history alone.  `latestSet` is the
value of the latest Set of a name, up to case, unless a Del or Clear of the name
came after it; `present` lists the names that end up present, each at the Set
that brought it in while the name held no value, in history order.

`applyOps_spec`: the header list after a history has the names `present` in
that order and holds `latestSet` under each.  Names are compared after
`strings.ToLower`, for any `unicode.ToLower` (`RuneLower`).  `orderedHeaders_run_spec`: so
after any run whose calls all return nil, `GetAllOrdered`, `Get` and `GetAll`
are the abstract reading of its history.  A call that returns an error is
another matter: `SetFromJSON` fails before writing, but `SetFromSlice` and
`SetFromStringSlice` keep what they set before the element they reject
(`bulk_update_error_states`). -/

set_option autoImplicit false

namespace OrbitTls.Client

variable (lower : RuneLower)

/-- One primitive write to the header list. -/
inductive HeaderOp
  | set (name value : List Char)
  | del (name : List Char)
  | clear

namespace HeaderOp

def apply (oh : OrderedHeaders) : HeaderOp → OrderedHeaders
  | .set name value => oh.set lower name value
  | .del name => oh.del lower name
  | .clear => oh.clear

/-- Whether the event decides the value of the header named `k`, a lower-cased name. -/
def writes (k : List Char) : HeaderOp → Bool
  | .set name _ => stringsToLower lower name == k
  | .del name => stringsToLower lower name == k
  | .clear => true

/-- Whether the event removes the header named `k`. -/
def resets (k : List Char) : HeaderOp → Bool
  | .set _ _ => false
  | .del name => stringsToLower lower name == k
  | .clear => true

def value? : HeaderOp → Option (List Char)
  | .set _ value => some value
  | _ => none

end HeaderOp

/-- The header list after the events of `history`, in order. -/
def applyOps (oh : OrderedHeaders) (history : List HeaderOp) : OrderedHeaders :=
  history.foldl (HeaderOp.apply lower) oh

/-! ## The abstract reading of a history -/

/-- The value of the latest Set of `k` in `history`, unless a Del or Clear of `k` came later. -/
def latestSet (history : List HeaderOp) (k : List Char) : Option (List Char) :=
  (history.reverse.find? (·.writes lower k)).bind HeaderOp.value?

/-- The names a Set brings in: its lower-cased name when that name holds no value before it. -/
def newName (before : List HeaderOp) : HeaderOp → List (List Char)
  | .set name _ =>
      if (latestSet lower before (stringsToLower lower name)).isNone then
        [stringsToLower lower name]
      else []
  | _ => []

/-- The names the Sets of `after` bring in, with `before` already done, that no later Del or
Clear of the name removes. -/
def presentFrom (before : List HeaderOp) : List HeaderOp → List (List Char)
  | [] => []
  | op :: after =>
      (newName lower before op).filter (fun k => after.all fun later => !later.resets lower k) ++
        presentFrom (before ++ [op]) after

/-- The names present after `history`, each at the Set that brought it in. -/
def present (history : List HeaderOp) : List (List Char) := presentFrom lower [] history

theorem latestSet_snoc (history : List HeaderOp) (op : HeaderOp) (k : List Char) :
    latestSet lower (history ++ [op]) k =
      if op.writes lower k then op.value? else latestSet lower history k := by
  by_cases hit : op.writes lower k <;> simp [latestSet, hit]

theorem newName_subset (before : List HeaderOp) (op : HeaderOp) {k : List Char}
    (mem : k ∈ newName lower before op) :
    op.writes lower k ∧ (latestSet lower before k).isNone := by
  cases op with
  | set name value =>
      by_cases fresh : (latestSet lower before (stringsToLower lower name)).isNone
      · simp only [newName, fresh, if_true, List.mem_singleton] at mem
        subst mem
        exact ⟨by simp [HeaderOp.writes], fresh⟩
      · simp [newName, fresh] at mem
  | del name => cases mem
  | clear => cases mem

theorem presentFrom_snoc (op : HeaderOp) :
    ∀ (before after : List HeaderOp), presentFrom lower before (after ++ [op]) =
      (presentFrom lower before after).filter (fun k => !op.resets lower k) ++
        newName lower (before ++ after) op
  | before, [] => by simp [presentFrom]
  | before, first :: after => by
      rw [List.cons_append, presentFrom, presentFrom,
        presentFrom_snoc op (before ++ [first]) after, List.filter_append, List.filter_filter,
        List.append_assoc, List.append_assoc, List.singleton_append]
      congr 1
      exact List.filter_congr fun k _ => by simp [List.all_append, Bool.and_comm]

theorem present_snoc (history : List HeaderOp) (op : HeaderOp) :
    present lower (history ++ [op]) =
      (present lower history).filter (fun k => !op.resets lower k) ++
        newName lower history op := by
  rw [present, presentFrom_snoc, List.nil_append]; rfl

theorem mem_present (history : List HeaderOp) (k : List Char) :
    k ∈ present lower history ↔ (latestSet lower history k).isSome := by
  induction history using List.reverseRecOn with
  | nil => simp [present, presentFrom, latestSet]
  | append_singleton history op ih =>
      rw [present_snoc, latestSet_snoc, List.mem_append, List.mem_filter, ih]
      cases op with
      | set name value =>
          by_cases hit : stringsToLower lower name = k
          · subst hit
            cases held : latestSet lower history (stringsToLower lower name) <;>
              simp [newName, held, HeaderOp.writes, HeaderOp.resets, HeaderOp.value?]
          · have absent : k ∉ newName lower history (.set name value) := fun mem =>
              hit (by simpa [HeaderOp.writes] using (newName_subset lower _ _ mem).1)
            simp [absent, HeaderOp.writes, HeaderOp.resets, hit]
      | del name =>
          by_cases hit : stringsToLower lower name = k <;>
            simp [newName, HeaderOp.writes, HeaderOp.resets, HeaderOp.value?, hit]
      | clear => simp [newName, HeaderOp.writes, HeaderOp.resets, HeaderOp.value?]

/-! ## The header list refines the abstract reading -/

theorem applyOps_snoc (oh : OrderedHeaders) (history : List HeaderOp) (op : HeaderOp) :
    applyOps lower oh (history ++ [op]) = op.apply lower (applyOps lower oh history) := by
  simp [applyOps]

theorem applyOps_spec (history : List HeaderOp) :
    (applyOps lower OrderedHeaders.newOrderedHeaders history).headers.map Header.name =
        present lower history ∧
      ∀ k, getIn k (applyOps lower OrderedHeaders.newOrderedHeaders history).headers =
        (latestSet lower history k).getD [] := by
  induction history using List.reverseRecOn with
  | nil => exact ⟨rfl, fun k => rfl⟩
  | append_singleton history op ih =>
      obtain ⟨names, reads⟩ := ih
      rw [applyOps_snoc, present_snoc]
      set oh := applyOps lower OrderedHeaders.newOrderedHeaders history
      refine ⟨?_, fun k => ?_⟩
      · cases op with
        | set name value =>
            rw [HeaderOp.apply, OrderedHeaders.names_set, names]
            cases held : latestSet lower history (stringsToLower lower name) <;>
              simp [newName, held, HeaderOp.resets, mem_present]
        | del name =>
            have distinct : (present lower history).Nodup := names ▸ oh.namesNodup
            rw [HeaderOp.apply, OrderedHeaders.names_del, names, distinct.erase_eq_filter]
            simp only [newName, HeaderOp.resets, List.append_nil]
            refine List.filter_congr fun k _ => ?_
            by_cases same : k = stringsToLower lower name
            · simp [same]
            · rw [bne_iff_ne.2 same, beq_eq_false_iff_ne.2 (Ne.symm same)]; rfl
        | clear =>
            simp [HeaderOp.apply, OrderedHeaders.clear, OrderedHeaders.newOrderedHeaders,
              newName, HeaderOp.resets]
      · rw [latestSet_snoc]
        cases op with
        | set name value =>
            by_cases hit : stringsToLower lower name = k
            · simp [HeaderOp.apply, OrderedHeaders.set, getIn_setIn, HeaderOp.writes,
                HeaderOp.value?, hit]
            · simp [HeaderOp.apply, OrderedHeaders.set, getIn_setIn, HeaderOp.writes, hit,
                Ne.symm hit, reads]
        | del name =>
            by_cases hit : stringsToLower lower name = k
            · simp [HeaderOp.apply, OrderedHeaders.del, getIn_delIn _ _ oh.namesNodup,
                HeaderOp.writes, HeaderOp.value?, hit]
            · simp [HeaderOp.apply, OrderedHeaders.del, getIn_delIn _ _ oh.namesNodup,
                HeaderOp.writes, hit, Ne.symm hit, reads]
        | clear =>
            simp [HeaderOp.apply, OrderedHeaders.clear, OrderedHeaders.newOrderedHeaders, getIn,
              HeaderOp.writes, HeaderOp.value?]

/-! ## Calls and runs -/

/-- One call a program makes on an `OrderedHeaders`. -/
inductive HeaderCall
  | set (name value : List Char)
  | del (name : List Char)
  | clear
  | setMultiple (headers : GoMap (List Char) (List Char))
  | setFromSlice (headers : List (List (List Char)))
  | setFromStringSlice (headers : List (List Char))
  | setFromJSON (jsonStr : List Char)

def setsOf (pairs : List (List Char × List Char)) : List HeaderOp :=
  pairs.map fun e => .set e.1 e.2

variable (unmarshal : List Char → Except (List Char) (GoMap (List Char) (List Char)))

namespace HeaderCall

/-- The call on `oh`: the list after it and the error it returns. -/
def perform (oh : OrderedHeaders) : HeaderCall → OrderedHeaders × Option (List Char)
  | .set name value => (oh.set lower name value, none)
  | .del name => (oh.del lower name, none)
  | .clear => (oh.clear, none)
  | .setMultiple headers => (oh.setMultiple lower headers, none)
  | .setFromSlice headers => oh.setFromSlice lower headers
  | .setFromStringSlice headers => oh.setFromStringSlice lower headers
  | .setFromJSON jsonStr => oh.setFromJSON lower unmarshal jsonStr

/-- The events a call performs when it returns nil: a Set per map entry (in the map's iteration
order), per pair or per line. -/
def ops : HeaderCall → List HeaderOp
  | .set name value => [.set name value]
  | .del name => [.del name]
  | .clear => [.clear]
  | .setMultiple headers => setsOf headers.entries
  | .setFromSlice headers => setsOf (headers.filterMap namedPair)
  | .setFromStringSlice headers => setsOf (headers.filterMap namedLine)
  | .setFromJSON jsonStr =>
      match unmarshal jsonStr with
      | .ok headers => setsOf headers.entries
      | .error _ => []

end HeaderCall

/-- Calls made in turn on one list: the list at the end and the errors the calls returned. -/
def runCalls (oh : OrderedHeaders) : List HeaderCall → OrderedHeaders × List (List Char)
  | [] => (oh, [])
  | call :: rest =>
      let step := call.perform lower unmarshal oh
      let run := runCalls step.1 rest
      (run.1, step.2.toList ++ run.2)

theorem setMultiple_eq_applyOps (oh : OrderedHeaders) (headers : GoMap (List Char) (List Char)) :
    oh.setMultiple lower headers = applyOps lower oh (setsOf headers.entries) := by
  rw [OrderedHeaders.setMultiple, applyOps, setsOf, List.foldl_map]; rfl

theorem setFromSlice_of_nil (oh : OrderedHeaders) :
    ∀ headers : List (List (List Char)), (oh.setFromSlice lower headers).2 = none →
      (oh.setFromSlice lower headers).1 = applyOps lower oh (setsOf (headers.filterMap namedPair))
  | [], _ => rfl
  | [name, value] :: rest, returned => setFromSlice_of_nil (oh.set lower name value) rest returned
  | [] :: _, returned | [_] :: _, returned | (_ :: _ :: _ :: _) :: _, returned => by
      cases returned

theorem setFromStringSlice_of_nil (oh : OrderedHeaders) :
    ∀ headers : List (List Char), (oh.setFromStringSlice lower headers).2 = none →
      (oh.setFromStringSlice lower headers).1 =
        applyOps lower oh (setsOf (headers.filterMap namedLine))
  | [], _ => rfl
  | headerStr :: rest, returned => by
      unfold OrderedHeaders.setFromStringSlice at returned ⊢
      simp only [List.filterMap_cons, namedLine]
      split at returned
      · exact setFromStringSlice_of_nil _ rest returned
      · cases returned

theorem perform_of_nil (oh : OrderedHeaders) (call : HeaderCall)
    (returned : (call.perform lower unmarshal oh).2 = none) :
    (call.perform lower unmarshal oh).1 = applyOps lower oh (call.ops unmarshal) := by
  cases call with
  | set name value => rfl
  | del name => rfl
  | clear => rfl
  | setMultiple headers => exact setMultiple_eq_applyOps lower oh headers
  | setFromSlice headers => exact setFromSlice_of_nil lower oh headers returned
  | setFromStringSlice headers => exact setFromStringSlice_of_nil lower oh headers returned
  | setFromJSON jsonStr =>
      simp only [HeaderCall.perform, OrderedHeaders.setFromJSON, HeaderCall.ops] at returned ⊢
      split at returned
      · cases returned
      · next decoded => rw [decoded]; exact setMultiple_eq_applyOps lower oh _

theorem runCalls_of_nil (oh : OrderedHeaders) :
    ∀ calls : List HeaderCall, (runCalls lower unmarshal oh calls).2 = [] →
      (runCalls lower unmarshal oh calls).1 =
        applyOps lower oh (calls.flatMap (HeaderCall.ops unmarshal))
  | [], _ => rfl
  | call :: rest, returnedNil => by
      simp only [runCalls, List.append_eq_nil] at returnedNil ⊢
      have returned : (call.perform lower unmarshal oh).2 = none := by
        cases error : (call.perform lower unmarshal oh).2
        · rfl
        · rw [error] at returnedNil; cases returnedNil.1
      rw [runCalls_of_nil _ rest returnedNil.2, perform_of_nil lower unmarshal oh call returned,
        List.flatMap_cons, applyOps, applyOps, applyOps, List.foldl_append]

theorem lookup_getAll (oh : OrderedHeaders) (k : List Char) :
    oh.getAll.lookup k =
      if k ∈ oh.headers.map Header.name then some (getIn k oh.headers) else none := by
  rw [GoMap.lookup, OrderedHeaders.getAll_entries, GoMap.lookup_map]
  induction oh.headers with
  | nil => rfl
  | cons h rest ih =>
      by_cases hit : h.name = k
      · subst hit; simp [getIn]
      · simp [getIn, hit, Ne.symm hit, ih]

theorem getIn_of_mem {hs : List Header} (distinct : (hs.map Header.name).Nodup) {h : Header}
    (mem : h ∈ hs) : getIn h.name hs = h.value := by
  induction hs with
  | nil => cases mem
  | cons first rest ih =>
      simp only [List.map_cons, List.nodup_cons] at distinct
      rcases List.mem_cons.1 mem with rfl | later
      · simp [getIn]
      · have differ : first.name ≠ h.name := fun same =>
          distinct.1 (same ▸ List.mem_map_of_mem _ later)
        simp [getIn, differ, ih distinct.2 later]

/-- After any run of calls that all return nil, from a fresh list: `GetAllOrdered` lists each
lower-cased name once, in the order of the Set that brought it in since its last Del or Clear,
with the value of its latest Set; `Get` and `GetAll` read the latest Set of a name equal to it
after `strings.ToLower`, and `Get` reads the empty text for any other name. -/
theorem orderedHeaders_run_spec (calls : List HeaderCall)
    (returnedNil : (runCalls lower unmarshal OrderedHeaders.newOrderedHeaders calls).2 = []) :
    let oh := (runCalls lower unmarshal OrderedHeaders.newOrderedHeaders calls).1
    let history := calls.flatMap (HeaderCall.ops unmarshal)
    (oh.getAllOrdered.map (·.headD [])).Nodup ∧
      oh.getAllOrdered =
        (present lower history).map (fun k => [k, (latestSet lower history k).getD []]) ∧
      (∀ n, oh.get lower n = (latestSet lower history (stringsToLower lower n)).getD []) ∧
      ∀ k, oh.getAll.lookup k = latestSet lower history k := by
  intro oh history
  have run : oh = applyOps lower OrderedHeaders.newOrderedHeaders history :=
    runCalls_of_nil lower unmarshal _ calls returnedNil
  obtain ⟨names, stored⟩ := applyOps_spec lower history
  rw [← run] at names stored
  have heads : oh.getAllOrdered.map (·.headD []) = oh.headers.map Header.name := by
    simp [OrderedHeaders.getAllOrdered, List.map_map, Function.comp_def]
  refine ⟨heads ▸ oh.namesNodup, ?_, fun n => stored _, fun k => ?_⟩
  · rw [OrderedHeaders.getAllOrdered, ← names, List.map_map]
    refine List.map_congr_left fun h mem => ?_
    simp [← stored h.name, getIn_of_mem oh.namesNodup mem]
  · rw [lookup_getAll]
    by_cases mem : k ∈ oh.headers.map Header.name
    · obtain ⟨v, held⟩ :=
        Option.isSome_iff_exists.1 ((mem_present lower history k).1 (names ▸ mem))
      rw [if_pos mem, stored k, held, Option.getD_some]
    · rw [if_neg mem, eq_comm, ← Option.not_isSome_iff_eq_none, ← mem_present, ← names]
      exact mem

def rejectingUnmarshal (_ : List Char) : Except (List Char) (GoMap (List Char) (List Char)) :=
  .error "invalid character".toList

def sampleCalls : List HeaderCall :=
  [.set "Accept".toList "*/*".toList, .setFromSlice [["X-Über".toList, "1".toList]],
    .set "ACCEPT".toList "text/html".toList, .del "x-über".toList,
    .set "X-ÜBER".toList "2".toList]

theorem sampleCalls_run_spec :
    (runCalls latin1Lower rejectingUnmarshal OrderedHeaders.newOrderedHeaders sampleCalls).2 = [] ∧
      let oh := (runCalls latin1Lower rejectingUnmarshal OrderedHeaders.newOrderedHeaders
        sampleCalls).1
      let history := sampleCalls.flatMap (HeaderCall.ops rejectingUnmarshal)
      (oh.getAllOrdered.map (·.headD [])).Nodup ∧
        oh.getAllOrdered = (present latin1Lower history).map
          (fun k => [k, (latestSet latin1Lower history k).getD []]) ∧
        (∀ n, oh.get latin1Lower n =
          (latestSet latin1Lower history (stringsToLower latin1Lower n)).getD []) ∧
        ∀ k, oh.getAll.lookup k = latestSet latin1Lower history k :=
  ⟨rfl, orderedHeaders_run_spec latin1Lower rejectingUnmarshal sampleCalls rfl⟩

example :
    (runCalls latin1Lower rejectingUnmarshal OrderedHeaders.newOrderedHeaders
        sampleCalls).1.getAllOrdered =
      [["accept".toList, "text/html".toList], ["x-über".toList, "2".toList]] := by
  decide

/-! ## Calls that return an error -/

/-- `SetFromSlice` rejecting its second pair has set the first: it returns an error, and
`GetAllOrdered` differs from what it was before the call. -/
theorem rejected_slice_keeps_earlier_pairs :
    (OrderedHeaders.newOrderedHeaders.setFromSlice latin1Lower
        [["Accept".toList, "*/*".toList], ["X-Bad".toList]]).2.isSome ∧
      (OrderedHeaders.newOrderedHeaders.setFromSlice latin1Lower
          [["Accept".toList, "*/*".toList], ["X-Bad".toList]]).1.getAllOrdered ≠
        OrderedHeaders.newOrderedHeaders.getAllOrdered :=
  ⟨rfl, by decide⟩

theorem setFromSlice_of_error (oh : OrderedHeaders) :
    ∀ headers : List (List (List Char)), (oh.setFromSlice lower headers).2.isSome →
      ∃ good bad rest, headers = good ++ bad :: rest ∧ (∀ pair ∈ good, pair.length = 2) ∧
        bad.length ≠ 2 ∧
        (oh.setFromSlice lower headers).1 = applyOps lower oh (setsOf (good.filterMap namedPair))
  | [], failed => by cases failed
  | [name, value] :: rest, failed => by
      obtain ⟨good, bad, rest', rfl, valid, malformed, state⟩ :=
        setFromSlice_of_error (oh.set lower name value) rest failed
      exact ⟨[name, value] :: good, bad, rest', rfl,
        by simpa using valid, malformed, state⟩
  | [] :: rest, _ => ⟨[], [], rest, rfl, by simp, by simp, rfl⟩
  | [a] :: rest, _ => ⟨[], [a], rest, rfl, by simp, by simp, rfl⟩
  | (a :: b :: c :: more) :: rest, _ =>
      ⟨[], a :: b :: c :: more, rest, rfl, by simp, by simp, rfl⟩

theorem setFromStringSlice_of_error (oh : OrderedHeaders) :
    ∀ headers : List (List Char), (oh.setFromStringSlice lower headers).2.isSome →
      ∃ good bad rest, headers = good ++ bad :: rest ∧ (∀ line ∈ good, ':' ∈ line) ∧
        ':' ∉ bad ∧
        (oh.setFromStringSlice lower headers).1 =
          applyOps lower oh (setsOf (good.filterMap namedLine))
  | [], failed => by cases failed
  | line :: rest, failed => by
      by_cases colon : ':' ∈ line
      · obtain ⟨name, value, absent, rfl⟩ := exists_first_sep colon
        rw [OrderedHeaders.setFromStringSlice_line _ _ _ _ absent] at failed ⊢
        obtain ⟨good, bad, rest', rfl, valid, noColon, state⟩ :=
          setFromStringSlice_of_error _ rest failed
        refine ⟨(name ++ ':' :: value) :: good, bad, rest', rfl, ?_, noColon, ?_⟩
        · simpa using valid
        · rw [state, List.filterMap_cons, namedLine, splitN2_append absent]; rfl
      · rw [OrderedHeaders.setFromStringSlice_noColon _ _ colon]
        exact ⟨[], line, rest, rfl, by simp, colon, rfl⟩

/-- A rejected bulk update: `SetFromJSON` leaves the list as it was, while `SetFromSlice` and
`SetFromStringSlice` stop at the first element they reject (a pair that is not two strings, a
line with no colon) with every element before it set. -/
theorem bulk_update_error_states (oh : OrderedHeaders) :
    (∀ jsonStr, (oh.setFromJSON lower unmarshal jsonStr).2.isSome →
      (oh.setFromJSON lower unmarshal jsonStr).1 = oh) ∧
    (∀ headers, (oh.setFromSlice lower headers).2.isSome →
      ∃ good bad rest, headers = good ++ bad :: rest ∧ (∀ pair ∈ good, pair.length = 2) ∧
        bad.length ≠ 2 ∧
        (oh.setFromSlice lower headers).1 = applyOps lower oh (setsOf (good.filterMap namedPair))) ∧
    (∀ headers, (oh.setFromStringSlice lower headers).2.isSome →
      ∃ good bad rest, headers = good ++ bad :: rest ∧ (∀ line ∈ good, ':' ∈ line) ∧
        ':' ∉ bad ∧
        (oh.setFromStringSlice lower headers).1 =
          applyOps lower oh (setsOf (good.filterMap namedLine))) := by
  refine ⟨fun jsonStr failed => ?_, setFromSlice_of_error lower oh,
    setFromStringSlice_of_error lower oh⟩
  rcases oh.setFromJSON_atomic lower unmarshal jsonStr with ⟨_, rejected⟩ | ⟨_, decoded⟩
  · rw [rejected]
  · rw [decoded] at failed; cases failed

end OrbitTls.Client
