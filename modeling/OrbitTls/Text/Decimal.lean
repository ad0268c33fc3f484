import Mathlib.Data.List.Basic
import Mathlib.Data.Nat.Digits

/-! # Decimal text: `%d`, `strconv.FormatUint` and `strconv.ParseUint`

`formatDecimal` is the writer behind `fmt.Sprintf("%d", _)` and
`strconv.FormatUint(_, 10)`; `parseUint` is `strconv.ParseUint(_, 10, bitSize)`,
the only base the fingerprint code parses.

`parseUint_eq_ok`: at 16 bits the parser accepts exactly the non-empty runs of
ASCII digits whose value is at most 65535, and returns that value.
`parseUint_formatDecimal`: it reads back every value the writer writes. -/

set_option autoImplicit false

namespace OrbitTls

/-! ## Writing -/

/-- `fmt.Sprintf("%d", n)`, equally `strconv.FormatUint(n, 10)`. -/
def formatDecimal (n : Nat) : List Char := Nat.toDigits 10 n

theorem toDigitsCore_acc (b : Nat) : ∀ (fuel n : Nat) (ds : List Char),
    Nat.toDigitsCore b fuel n ds = Nat.toDigitsCore b fuel n [] ++ ds := by
  intro fuel
  induction fuel with
  | zero => intro n ds; rfl
  | succ fuel ih =>
      intro n ds
      simp only [Nat.toDigitsCore]
      split
      · rfl
      · rw [ih _ (_ :: ds), ih _ [_]]; simp

theorem div_lt_of_div_ne_zero {b n : Nat} (base : 1 < b) (quotient : ¬n / b = 0) : n / b < n :=
  Nat.div_lt_self (Nat.pos_of_ne_zero fun zero => quotient (by simp [zero])) base

theorem toDigitsCore_fuel (b : Nat) (base : 1 < b) : ∀ (fuel fuel' n : Nat) (ds : List Char),
    n < fuel → n < fuel' → Nat.toDigitsCore b fuel n ds = Nat.toDigitsCore b fuel' n ds := by
  intro fuel
  induction fuel with
  | zero => intro fuel' n ds enough; omega
  | succ fuel ih =>
      intro fuel' n ds enough enough'
      obtain ⟨fuel', rfl⟩ : ∃ f, fuel' = f + 1 := ⟨fuel' - 1, by omega⟩
      simp only [Nat.toDigitsCore]
      split
      · rfl
      next quotient =>
        have := div_lt_of_div_ne_zero base quotient
        exact ih fuel' (n / b) _ (by omega) (by omega)

theorem toDigits_eq (b : Nat) (base : 1 < b) (n : Nat) :
    Nat.toDigits b n =
      (if n / b = 0 then [] else Nat.toDigits b (n / b)) ++ [Nat.digitChar (n % b)] := by
  show Nat.toDigitsCore b (n + 1) n [] = _
  rw [Nat.toDigitsCore]
  split
  · rfl
  next quotient =>
    have := div_lt_of_div_ne_zero base quotient
    rw [toDigitsCore_acc, toDigitsCore_fuel b base n (n / b + 1) _ _ (by omega) (by omega)]
    rfl

theorem formatDecimal_eq (n : Nat) :
    formatDecimal n =
      (if n / 10 = 0 then [] else formatDecimal (n / 10)) ++ [Nat.digitChar (n % 10)] :=
  toDigits_eq 10 (by decide) n

theorem formatDecimal_ne_nil (n : Nat) : formatDecimal n ≠ [] := by
  rw [formatDecimal_eq]; simp

/-! ## Reading -/

/-- The value of one ASCII digit. -/
def digitValue (c : Char) : Nat := c.toNat - '0'.toNat

/-- The value of a digit run read after the digits worth `n`, as the parser accumulates it. -/
def decimalFrom (n : Nat) (s : List Char) : Nat := s.foldl (fun n c => n * 10 + digitValue c) n

/-- The value of a run of decimal digits, most significant first. -/
def digitsValue (s : List Char) : Nat := decimalFrom 0 s

@[simp] theorem decimalFrom_nil (n : Nat) : decimalFrom n [] = n := rfl

@[simp] theorem decimalFrom_cons (n : Nat) (c : Char) (s : List Char) :
    decimalFrom n (c :: s) = decimalFrom (n * 10 + digitValue c) s := rfl

theorem le_decimalFrom (n : Nat) (s : List Char) : n ≤ decimalFrom n s := by
  induction s generalizing n with
  | nil => exact le_refl n
  | cons c s ih =>
      have := ih (n * 10 + digitValue c)
      rw [decimalFrom_cons]; omega

theorem digitsValue_append_digit (s : List Char) (c : Char) :
    digitsValue (s ++ [c]) = digitsValue s * 10 + digitValue c := by
  simp [digitsValue, decimalFrom, List.foldl_append]

theorem digitChar_isDigit : ∀ d < 10, (Nat.digitChar d).isDigit := by decide

theorem digitValue_digitChar : ∀ d < 10, digitValue (Nat.digitChar d) = d := by decide

theorem formatDecimal_digits (n : Nat) :
    (∀ c ∈ formatDecimal n, c.isDigit) ∧ digitsValue (formatDecimal n) = n := by
  induction n using Nat.strong_induction_on with
  | _ n ih =>
      rw [formatDecimal_eq]
      have last := Nat.mod_lt n (by decide : 10 > 0)
      split
      next small =>
        refine ⟨by simpa using digitChar_isDigit _ last, ?_⟩
        rw [digitsValue_append_digit, digitValue_digitChar _ last]
        simp [digitsValue]; omega
      next large =>
        obtain ⟨digits, value⟩ := ih (n / 10) (div_lt_of_div_ne_zero (by decide) large)
        refine ⟨?_, ?_⟩
        · intro c mem
          rcases List.mem_append.mp mem with mem | mem
          · exact digits c mem
          · simpa [List.mem_singleton.mp mem] using digitChar_isDigit _ last
        · rw [digitsValue_append_digit, value, digitValue_digitChar _ last]; omega

theorem not_mem_formatDecimal {c : Char} (notDigit : c.isDigit = false) (n : Nat) :
    c ∉ formatDecimal n := fun mem => by
  simp [(formatDecimal_digits n).1 c mem] at notDigit

theorem formatDecimal_injective {m n : Nat} (same : formatDecimal m = formatDecimal n) : m = n := by
  rw [← (formatDecimal_digits m).2, ← (formatDecimal_digits n).2, same]

/-! ## `strconv.ParseUint` -/

/-- The failures of `strconv.ParseUint`: `ErrSyntax` and `ErrRange`. -/
inductive NumError
  | errSyntax
  | errRange
deriving DecidableEq, Repr

/-- `maxUint64/10 + 1`: the accumulator at or above which `n * 10` overflows 64 bits. -/
def cutoff : Nat := (2 ^ 64 - 1) / 10 + 1

/-- The digit loop of `strconv.ParseUint` in base 10, from the accumulator `n`.  A letter is
a digit of value at least ten, rejected as a syntax error like any other non-digit. -/
def parseUintFrom (maxVal : Nat) : Nat → List Char → Except NumError Nat
  | n, [] => .ok n
  | n, c :: rest =>
      if c.isDigit then
        if cutoff ≤ n then .error .errRange
        else if maxVal < n * 10 + digitValue c then .error .errRange
        else parseUintFrom maxVal (n * 10 + digitValue c) rest
      else .error .errSyntax

/-- `strconv.ParseUint(s, 10, bitSize)`. -/
def parseUint (s : List Char) (bitSize : Nat) : Except NumError Nat :=
  if s = [] then .error .errSyntax else parseUintFrom (2 ^ bitSize - 1) 0 s

theorem parseUintFrom_eq_ok {maxVal : Nat} (small : maxVal < cutoff) :
    ∀ (s : List Char) (n v : Nat), n ≤ maxVal →
      (parseUintFrom maxVal n s = .ok v ↔
        (∀ c ∈ s, c.isDigit) ∧ decimalFrom n s ≤ maxVal ∧ v = decimalFrom n s) := by
  intro s
  induction s with
  | nil => intro n v bounded; simp [parseUintFrom, bounded]; exact eq_comm
  | cons c rest ih =>
      intro n v bounded
      have below : ¬cutoff ≤ n := by omega
      by_cases digit : c.isDigit
      · by_cases over : maxVal < n * 10 + digitValue c
        · have := le_decimalFrom (n * 10 + digitValue c) rest
          simp [parseUintFrom, digit, below, over]; omega
        · simp only [parseUintFrom, digit, below, over, if_true, if_false,
            ih (n * 10 + digitValue c) v (by omega), decimalFrom_cons, List.mem_cons,
            forall_eq_or_imp, true_and]
      · simp [parseUintFrom, digit]

theorem parseUint_eq_ok (s : List Char) (v : Nat) :
    parseUint s 16 = .ok v ↔
      s ≠ [] ∧ (∀ c ∈ s, c.isDigit) ∧ digitsValue s ≤ 65535 ∧ v = digitsValue s := by
  unfold parseUint
  by_cases empty : s = []
  · rw [if_pos empty]
    exact ⟨fun failed => (by cases failed), fun accepted => absurd empty accepted.1⟩
  · simp only [empty, if_false, ne_eq, not_false_eq_true, true_and]
    exact parseUintFrom_eq_ok (by decide) s 0 v (by decide)

theorem uint16_toNat_lt (v : UInt16) : v.toNat < 65536 := v.val.isLt

theorem uint16_ofNat_toNat {n : Nat} (fits : n ≤ 65535) : (UInt16.ofNat n).toNat = n :=
  UInt16.toNat_ofNat_of_lt (by unfold UInt16.size; omega)

theorem uint16_ofNat_toNat_self (v : UInt16) : UInt16.ofNat v.toNat = v :=
  UInt16.toNat.inj (uint16_ofNat_toNat (by have := uint16_toNat_lt v; omega))

theorem parseUint_formatDecimal {n : Nat} (fits : n ≤ 65535) :
    parseUint (formatDecimal n) 16 = .ok n := by
  obtain ⟨digits, value⟩ := formatDecimal_digits n
  rw [parseUint_eq_ok, value]
  exact ⟨formatDecimal_ne_nil n, digits, fits, rfl⟩

end OrbitTls
