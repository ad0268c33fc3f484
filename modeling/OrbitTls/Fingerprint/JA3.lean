import OrbitTls.Text.Split
import OrbitTls.Text.Decimal

/-! # JA3 templates: `ParseJA3` and `parseUint16List`

`parseJA3_eq_ok` characterises every successful parse: the template splits on
`,` into exactly five fields, the first a digit run and the others empty or
`-`-separated digit runs, and the results are the fields' decimal values, with
no truncation by the `uint16` conversions.  `parseJA3_spec` states it the way
the format is read: a string parses exactly when it is well formed, and then to
its values. -/

set_option autoImplicit false

namespace OrbitTls.Fingerprint

/-! ## Peeling `Except` -/

theorem except_bind_eq_ok {ε α β : Type} {x : Except ε α} {f : α → Except ε β} {b : β} :
    x >>= f = .ok b ↔ ∃ a, x = .ok a ∧ f a = .ok b := by
  cases x <;> simp [bind, Except.bind]

theorem except_mapError_eq_ok {ε ε' α : Type} {x : Except ε α} {g : ε → ε'} {a : α} :
    x.mapError g = .ok a ↔ x = .ok a := by
  cases x <;> simp [Except.mapError]

/-! ## The grammar, in the format's own words -/

/-- A token `strconv.ParseUint(_, 10, 16)` accepts: a non-empty run of ASCII digits worth at
most 65535 (leading zeros allowed). -/
def DigitRun (token : List Char) : Prop :=
  token ≠ [] ∧ (∀ c ∈ token, c.isDigit) ∧ digitsValue token ≤ 65535

/-- A list field: empty, or `-`-separated digit runs. -/
def ListField (field : List Char) : Prop :=
  field = [] ∨ ∀ token ∈ split field '-', DigitRun token

/-- The values of a list field's tokens: none for an empty field. -/
def fieldValues (field : List Char) : List Nat :=
  if field = [] then [] else (split field '-').map digitsValue

/-- A well-formed JA3 string: five `,`-separated fields, a digit run then four list fields. -/
def WellFormedJA3 (s : List Char) : Prop :=
  ∃ f0 f1 f2 f3 f4, split s ',' = [f0, f1, f2, f3, f4] ∧
    DigitRun f0 ∧ ListField f1 ∧ ListField f2 ∧ ListField f3 ∧ ListField f4

/-! ## The code -/

/-- The errors of `ParseJA3`: `fmt.Errorf("invalid JA3 format")`, or a field's `strconv` error. -/
inductive JA3Error
  | invalidFormat
  | num (err : NumError)
deriving DecidableEq, Repr

/-- One token of `parseUint16List`'s loop: `strconv.ParseUint(part, 10, 16)` stored as
`uint16(val)`. -/
def parseToken (part : List Char) : Except NumError UInt16 := do
  let val ← parseUint part 16
  pure (UInt16.ofNat val)

/-- `parseUint16List`: the empty field is the empty list; otherwise each `-`-separated token is
parsed in turn and the first failure is returned. -/
def parseUint16List (s : List Char) : Except NumError (List UInt16) :=
  if s = [] then .ok [] else (split s '-').mapM parseToken

def parseJA3 (ja3 : List Char) :
    Except JA3Error (UInt16 × List UInt16 × List UInt16 × List UInt16 × List UInt16) :=
  match split ja3 ',' with
  | [version, ciphers, extensions, groups, pointFormats] => do
      let tlsVersion ← (parseUint version 16).mapError .num
      let cipherSuites ← (parseUint16List ciphers).mapError .num
      let extensions ← (parseUint16List extensions).mapError .num
      let supportedGroups ← (parseUint16List groups).mapError .num
      let ecPointFormats ← (parseUint16List pointFormats).mapError .num
      pure (UInt16.ofNat tlsVersion, cipherSuites, extensions, supportedGroups, ecPointFormats)
  | _ => .error .invalidFormat

/-! ## Specification lemmas -/

theorem parseUint_eq_ok_iff_digitRun (part : List Char) (v : Nat) :
    parseUint part 16 = .ok v ↔ DigitRun part ∧ v = digitsValue part := by
  rw [parseUint_eq_ok]; simp only [DigitRun, and_assoc]

theorem parseToken_eq_ok (part : List Char) (v : UInt16) :
    parseToken part = .ok v ↔ DigitRun part ∧ v.toNat = digitsValue part := by
  simp only [parseToken, except_bind_eq_ok, parseUint_eq_ok_iff_digitRun]
  constructor
  · rintro ⟨val, ⟨run, rfl⟩, stored⟩
    cases stored
    exact ⟨run, uint16_ofNat_toNat run.2.2⟩
  · rintro ⟨run, value⟩
    exact ⟨_, ⟨run, rfl⟩, by rw [← value, uint16_ofNat_toNat_self]; rfl⟩

theorem mapM_parseToken_eq_ok : ∀ (tokens : List (List Char)) (vs : List UInt16),
    tokens.mapM parseToken = .ok vs ↔
      (∀ token ∈ tokens, DigitRun token) ∧ vs.map UInt16.toNat = tokens.map digitsValue := by
  intro tokens
  induction tokens with
  | nil => intro vs; rw [List.mapM_nil]; cases vs <;> simp [pure, Except.pure]
  | cons token rest ih =>
      intro vs
      simp only [List.mapM_cons, except_bind_eq_ok, parseToken_eq_ok, ih]
      cases vs with
      | nil => simp [pure, Except.pure]
      | cons v vs =>
          simp only [pure, Except.pure, Except.ok.injEq, List.cons.injEq, List.mem_cons,
            forall_eq_or_imp, List.map_cons]
          constructor
          · rintro ⟨v', ⟨run, value⟩, vs', ⟨runs, values⟩, rfl, rfl⟩
            exact ⟨⟨run, runs⟩, value, values⟩
          · rintro ⟨⟨run, runs⟩, value, values⟩
            exact ⟨v, ⟨run, value⟩, vs, ⟨runs, values⟩, rfl, rfl⟩

theorem parseUint16List_eq_ok (field : List Char) (vs : List UInt16) :
    parseUint16List field = .ok vs ↔
      ListField field ∧ vs.map UInt16.toNat = fieldValues field := by
  unfold parseUint16List ListField fieldValues
  by_cases empty : field = []
  · simp [empty, eq_comm]
  · simp only [empty, if_false, false_or, mapM_parseToken_eq_ok]

theorem parseJA3_eq_ok (s : List Char) (version : UInt16) (cs ex g ec : List UInt16) :
    parseJA3 s = .ok (version, cs, ex, g, ec) ↔
      ∃ f0 f1 f2 f3 f4, split s ',' = [f0, f1, f2, f3, f4] ∧
        (DigitRun f0 ∧ version.toNat = digitsValue f0) ∧
        (ListField f1 ∧ cs.map UInt16.toNat = fieldValues f1) ∧
        (ListField f2 ∧ ex.map UInt16.toNat = fieldValues f2) ∧
        (ListField f3 ∧ g.map UInt16.toNat = fieldValues f3) ∧
        (ListField f4 ∧ ec.map UInt16.toNat = fieldValues f4) := by
  unfold parseJA3
  split
  next f0 f1 f2 f3 f4 fields =>
    simp only [except_bind_eq_ok, except_mapError_eq_ok, parseUint_eq_ok_iff_digitRun,
      parseUint16List_eq_ok, fields, List.cons.injEq, and_true, pure, Except.pure,
      Except.ok.injEq, Prod.mk.injEq]
    constructor
    · rintro ⟨v, ⟨run0, rfl⟩, _, field1, _, field2, _, field3, _, field4,
        rfl, rfl, rfl, rfl, rfl⟩
      exact ⟨f0, f1, f2, f3, f4, ⟨rfl, rfl, rfl, rfl, rfl⟩,
        ⟨run0, uint16_ofNat_toNat run0.2.2⟩, field1, field2, field3, field4⟩
    · rintro ⟨_, _, _, _, _, ⟨rfl, rfl, rfl, rfl, rfl⟩, ⟨run0, value0⟩,
        field1, field2, field3, field4⟩
      exact ⟨_, ⟨run0, rfl⟩, cs, field1, ex, field2, g, field3, ec, field4,
        by rw [← value0, uint16_ofNat_toNat_self], rfl, rfl, rfl, rfl⟩
  next notFive =>
    constructor
    · intro failed; cases failed
    · rintro ⟨f0, f1, f2, f3, f4, fields, -⟩
      exact absurd fields (notFive f0 f1 f2 f3 f4)

theorem fieldValues_fit {field : List Char} (listField : ListField field) :
    ∀ v ∈ fieldValues field, v ≤ 65535 := by
  unfold fieldValues
  split
  · simp
  next nonempty =>
    intro v mem
    obtain ⟨token, tokenMem, rfl⟩ := List.mem_map.mp mem
    exact (listField.resolve_left nonempty token tokenMem).2.2

theorem map_toNat_map_ofNat {values : List Nat} (fit : ∀ v ∈ values, v ≤ 65535) :
    (values.map UInt16.ofNat).map UInt16.toNat = values := by
  rw [List.map_map]
  conv_rhs => rw [← List.map_id values]
  exact List.map_congr_left fun v mem => uint16_ofNat_toNat (fit v mem)

/-- A string parses exactly when it is a well-formed JA3 string, and then to its fields'
values: the version is the first field's value and each list has one entry per token,
the token's value. -/
theorem parseJA3_spec (s : List Char) :
    ((∃ result, parseJA3 s = .ok result) ↔ WellFormedJA3 s) ∧
    ∀ version cs ex g ec, parseJA3 s = .ok (version, cs, ex, g, ec) →
      ∃ f0 f1 f2 f3 f4, split s ',' = [f0, f1, f2, f3, f4] ∧
        version.toNat = digitsValue f0 ∧ cs.map UInt16.toNat = fieldValues f1 ∧
        ex.map UInt16.toNat = fieldValues f2 ∧ g.map UInt16.toNat = fieldValues f3 ∧
        ec.map UInt16.toNat = fieldValues f4 := by
  refine ⟨⟨?_, ?_⟩, ?_⟩
  · rintro ⟨⟨version, cs, ex, g, ec⟩, parsed⟩
    obtain ⟨f0, f1, f2, f3, f4, fields, ⟨run0, -⟩, ⟨field1, -⟩, ⟨field2, -⟩, ⟨field3, -⟩,
      ⟨field4, -⟩⟩ := (parseJA3_eq_ok s version cs ex g ec).mp parsed
    exact ⟨f0, f1, f2, f3, f4, fields, run0, field1, field2, field3, field4⟩
  · rintro ⟨f0, f1, f2, f3, f4, fields, run0, field1, field2, field3, field4⟩
    refine ⟨(UInt16.ofNat (digitsValue f0), (fieldValues f1).map UInt16.ofNat,
      (fieldValues f2).map UInt16.ofNat, (fieldValues f3).map UInt16.ofNat,
      (fieldValues f4).map UInt16.ofNat), ?_⟩
    exact (parseJA3_eq_ok s _ _ _ _ _).mpr ⟨f0, f1, f2, f3, f4, fields,
      ⟨run0, uint16_ofNat_toNat run0.2.2⟩,
      ⟨field1, map_toNat_map_ofNat (fieldValues_fit field1)⟩,
      ⟨field2, map_toNat_map_ofNat (fieldValues_fit field2)⟩,
      ⟨field3, map_toNat_map_ofNat (fieldValues_fit field3)⟩,
      ⟨field4, map_toNat_map_ofNat (fieldValues_fit field4)⟩⟩
  · intro version cs ex g ec parsed
    obtain ⟨f0, f1, f2, f3, f4, fields, ⟨-, value0⟩, ⟨-, values1⟩, ⟨-, values2⟩,
      ⟨-, values3⟩, ⟨-, values4⟩⟩ := (parseJA3_eq_ok s version cs ex g ec).mp parsed
    exact ⟨f0, f1, f2, f3, f4, fields, value0, values1, values2, values3, values4⟩

end OrbitTls.Fingerprint
