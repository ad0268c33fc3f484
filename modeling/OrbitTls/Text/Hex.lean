import OrbitTls.Text.Decimal
import Mathlib.Data.List.Lex

/-! # Hexadecimal text: `%04x`

`formatHex4` is `fmt.Sprintf("%04x", _)`, the writer of every code in the JA4
and JA4_R lists.  Below 65536 it is exactly the four low hexadecimal digits
(`formatHex4_eq_hexDigits`), so it is injective on 16-bit values
(`formatHex4_injective`) and writes only hexadecimal digits (`mem_formatHex4`). -/

set_option autoImplicit false

namespace OrbitTls

/-- `fmt.Sprintf("%04x", n)`: lower-case hexadecimal, padded with `'0'` on the left to width
four. -/
def formatHex4 (n : Nat) : List Char :=
  List.replicate (4 - (Nat.toDigits 16 n).length) '0' ++ Nat.toDigits 16 n

/-- `fmt.Sprintf("%04X", n)`: as `%04x`, with upper-case letters. -/
def formatHex4Upper (n : Nat) : List Char :=
  (formatHex4 n).map Char.toUpper

/-- The last `width` hexadecimal digits of `n`, most significant first. -/
def hexDigits : Nat → Nat → List Char
  | 0, _ => []
  | width + 1, n => hexDigits width (n / 16) ++ [Nat.digitChar (n % 16)]

/-- `hex.EncodeToString`: two lower-case hexadecimal digits per byte. -/
def hexEncodeToString (bytes : List UInt8) : List Char :=
  bytes.flatMap fun b => hexDigits 2 b.toNat

theorem hexDigits_zero : ∀ width : Nat, hexDigits width 0 = List.replicate width '0'
  | 0 => rfl
  | width + 1 => by
      rw [hexDigits, hexDigits_zero width, List.replicate_succ']
      rfl

theorem pad_toDigits_hex : ∀ (width n : Nat), n < 16 ^ (width + 1) →
    List.replicate (width + 1 - (Nat.toDigits 16 n).length) '0' ++ Nat.toDigits 16 n =
      hexDigits (width + 1) n := by
  intro width
  induction width with
  | zero =>
      intro n small
      rw [toDigits_eq 16 (by decide), if_pos (by omega)]
      simp [hexDigits]
  | succ width ih =>
      intro n small
      rw [toDigits_eq 16 (by decide)]
      split
      next quotient =>
        rw [hexDigits, quotient, hexDigits_zero]
        simp
      next quotient =>
        have high : n / 16 < 16 ^ (width + 1) := by
          rw [Nat.div_lt_iff_lt_mul (by decide)]; simpa [Nat.pow_succ] using small
        rw [hexDigits, ← ih (n / 16) high]
        simp [Nat.add_sub_add_right]

theorem formatHex4_eq_hexDigits {n : Nat} (small : n < 65536) : formatHex4 n = hexDigits 4 n :=
  pad_toDigits_hex 3 n small

theorem digitChar_injective :
    ∀ d < 16, ∀ e < 16, Nat.digitChar d = Nat.digitChar e → d = e := by
  decide

theorem hexDigits_map_injective (g : Char → Char)
    (apart : ∀ d < 16, ∀ e < 16, g (Nat.digitChar d) = g (Nat.digitChar e) → d = e) :
    ∀ (width m n : Nat), m < 16 ^ width → n < 16 ^ width →
      (hexDigits width m).map g = (hexDigits width n).map g → m = n := by
  intro width
  induction width with
  | zero => intro m n smallM smallN _; simp at smallM smallN; omega
  | succ width ih =>
      intro m n smallM smallN same
      simp only [hexDigits, List.map_append, List.map_singleton] at same
      obtain ⟨high, low⟩ := List.append_inj' same rfl
      have highM : m / 16 < 16 ^ width := by
        rw [Nat.div_lt_iff_lt_mul (by decide)]; simpa [Nat.pow_succ] using smallM
      have highN : n / 16 < 16 ^ width := by
        rw [Nat.div_lt_iff_lt_mul (by decide)]; simpa [Nat.pow_succ] using smallN
      have highEq := ih _ _ highM highN high
      have lowEq := apart _ (Nat.mod_lt m (by decide)) _ (Nat.mod_lt n (by decide))
        (List.singleton_inj.mp low)
      omega

theorem formatHex4_injective {a b : UInt16} (same : formatHex4 a.toNat = formatHex4 b.toNat) :
    a = b := by
  have smallA := uint16_toNat_lt a
  have smallB := uint16_toNat_lt b
  rw [formatHex4_eq_hexDigits smallA, formatHex4_eq_hexDigits smallB] at same
  exact UInt16.toNat.inj (hexDigits_map_injective id digitChar_injective 4 _ _ smallA smallB
    (by rw [List.map_id, List.map_id, same]))

theorem mem_hexDigits {c : Char} : ∀ {width n : Nat}, c ∈ hexDigits width n →
    ∃ d < 16, c = Nat.digitChar d := by
  intro width
  induction width with
  | zero => intro n mem; simp [hexDigits] at mem
  | succ width ih =>
      intro n mem
      rcases List.mem_append.mp mem with mem | mem
      · exact ih mem
      · exact ⟨n % 16, Nat.mod_lt n (by decide), List.mem_singleton.mp mem⟩

theorem mem_formatHex4 {c : Char} {v : UInt16} (mem : c ∈ formatHex4 v.toNat) :
    ∃ d < 16, c = Nat.digitChar d := by
  rw [formatHex4_eq_hexDigits (uint16_toNat_lt v)] at mem
  exact mem_hexDigits mem

theorem formatHex4_ne_nil (v : UInt16) : formatHex4 v.toNat ≠ [] := by
  rw [formatHex4_eq_hexDigits (uint16_toNat_lt v)]; simp [hexDigits]

/-! ## String order against numeric order -/

theorem length_hexDigits : ∀ width n : Nat, (hexDigits width n).length = width
  | 0, _ => rfl
  | width + 1, n => by simp [hexDigits, length_hexDigits width]

theorem digitChar_lt : ∀ d < 16, ∀ e < 16, d < e → Nat.digitChar d < Nat.digitChar e := by
  decide

theorem lex_append_of_length_eq {α : Type} {r : α → α → Prop} {a a' : List α}
    (less : List.Lex r a a') (sameLength : a.length = a'.length) (t t' : List α) :
    List.Lex r (a ++ t) (a' ++ t') := by
  induction less with
  | nil => simp at sameLength
  | cons _ ih => exact .cons (ih (by simpa using sameLength))
  | rel head => exact .rel head

theorem hexDigits_lt : ∀ (width : Nat) {m n : Nat}, m < n → n < 16 ^ width →
    hexDigits width m < hexDigits width n
  | 0, _, _, less, small => by simp at small; omega
  | width + 1, m, n, less, small => by
      have high : n / 16 < 16 ^ width :=
        (Nat.div_lt_iff_lt_mul (by decide)).2 (by simpa [Nat.pow_succ] using small)
      rcases Nat.lt_or_eq_of_le (Nat.div_le_div_right less.le : m / 16 ≤ n / 16) with
        higher | same
      · exact lex_append_of_length_eq (hexDigits_lt width higher high)
          (by rw [length_hexDigits, length_hexDigits]) _ _
      · rw [hexDigits, hexDigits, same]
        exact List.Lex.append_left _ ((List.Lex.singleton_iff _ _).2
          (digitChar_lt _ (Nat.mod_lt _ (by decide)) _ (Nat.mod_lt _ (by decide)) (by omega))) _

theorem formatHex4_lt {m n : Nat} (less : m < n) (small : n < 65536) :
    formatHex4 m < formatHex4 n := by
  rw [formatHex4_eq_hexDigits (by omega), formatHex4_eq_hexDigits small]
  exact hexDigits_lt 4 less small

end OrbitTls
