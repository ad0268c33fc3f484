import OrbitTls.Text.Split
import OrbitTls.Text.Hex
import Mathlib.Data.List.Sort
import Mathlib.Data.List.Lex
import Mathlib.Data.Char

/-! # JA4 and JA4_R: `GenerateJA4`, `GenerateJA4R`

Both write `t`, a two-character version field and a protocol field (`h2`, `h1`
or `d`, a prefix-free code), then lists of `%04x` codes joined by `,` and
separated by `_`.  JA4 sorts its two lists first; JA4_R keeps the order given
and adds the supported groups.

`generateJA4_eq_iff`: two JA4 strings are equal exactly when the fields agree
and the cipher and extension lists are permutations of each other.
`generateJA4R_eq_iff`: two JA4_R strings are equal exactly when the fields
agree and the three lists are equal as sequences. -/

set_option autoImplicit false

namespace OrbitTls.Fingerprint

def contains (slice : List (List Char)) (item : List Char) : Bool := slice.any (· == item)

/-- The version field of `GenerateJA4` and `GenerateJA4R`. -/
def ja4Version (tlsVersion : UInt16) : List Char :=
  if tlsVersion = 0x0303 then "12".toList
  else if tlsVersion = 0x0302 then "11".toList
  else "13".toList

/-- The protocol field of `GenerateJA4` and `GenerateJA4R`. -/
def ja4Proto (alpnProtocols : List (List Char)) : List Char :=
  if alpnProtocols.length > 0 then
    if contains alpnProtocols "h2".toList then "h2".toList
    else if contains alpnProtocols "http/1.1".toList then "h1".toList
    else "d".toList
  else "d".toList

/-- A list of codes, each written by `fmt.Sprintf("%04x", _)`. -/
def hexCodes (codes : List UInt16) : List (List Char) := codes.map fun c => formatHex4 c.toNat

/-- `sort.Strings`: increasing lexicographic order. -/
def sortStrings (strs : List (List Char)) : List (List Char) :=
  strs.mergeSort fun a b => decide (a ≤ b)

def generateJA4 (tlsVersion : UInt16) (cipherSuites extensions _supportedGroups : List UInt16)
    (alpnProtocols : List (List Char)) : List Char :=
  let cipherStr := join (sortStrings (hexCodes cipherSuites)) ','
  let extStr := join (sortStrings (hexCodes extensions)) ','
  ['t'] ++ ja4Version tlsVersion ++ ja4Proto alpnProtocols ++ "1516".toList ++ ['_'] ++
    cipherStr ++ ['_'] ++ extStr

def generateJA4R (tlsVersion : UInt16) (cipherSuites extensions supportedGroups : List UInt16)
    (alpnProtocols : List (List Char)) : List Char :=
  let cipherStr := join (hexCodes cipherSuites) ','
  let extStr := join (hexCodes extensions) ','
  let groupStr := join (hexCodes supportedGroups) ','
  ['t'] ++ ja4Version tlsVersion ++ ja4Proto alpnProtocols ++ ['_'] ++ cipherStr ++ ['_'] ++
    extStr ++ ['_'] ++ groupStr

/-! ## The two fields -/

theorem ja4Version_length (tlsVersion : UInt16) : (ja4Version tlsVersion).length = 2 := by
  unfold ja4Version; split_ifs <;> rfl

theorem ja4Proto_cases (alpnProtocols : List (List Char)) :
    ja4Proto alpnProtocols = "h2".toList ∨ ja4Proto alpnProtocols = "h1".toList ∨
      ja4Proto alpnProtocols = "d".toList := by
  unfold ja4Proto; split_ifs <;> simp

theorem ja4Proto_append_inj (a a' : List (List Char)) (rest rest' : List Char) :
    ja4Proto a ++ rest = ja4Proto a' ++ rest' ↔ ja4Proto a = ja4Proto a' ∧ rest = rest' := by
  constructor
  · intro same
    rcases ja4Proto_cases a with p | p | p <;> rcases ja4Proto_cases a' with q | q | q <;>
      rw [p, q] at same ⊢ <;> simp_all
  · rintro ⟨p, rfl⟩; rw [p]

theorem ja4Head_inj (v v' : UInt16) (a a' : List (List Char)) (rest rest' : List Char) :
    ja4Version v ++ (ja4Proto a ++ rest) = ja4Version v' ++ (ja4Proto a' ++ rest') ↔
      ja4Version v = ja4Version v' ∧ ja4Proto a = ja4Proto a' ∧ rest = rest' := by
  constructor
  · intro same
    obtain ⟨version, tail⟩ := List.append_inj same (by simp [ja4Version_length])
    exact ⟨version, (ja4Proto_append_inj a a' rest rest').mp tail⟩
  · rintro ⟨version, proto, rfl⟩; rw [version, proto]

/-! ## The code lists -/

theorem sortStrings_sorted (strs : List (List Char)) : (sortStrings strs).Sorted (· ≤ ·) := by
  simpa using @List.sorted_mergeSort _ (fun a b => decide (a ≤ b))
    (fun a b c hab hbc => by simpa using le_trans (by simpa using hab) (by simpa using hbc))
    (fun a b => by simpa using le_total a b) strs

theorem sortStrings_eq_iff (xs ys : List (List Char)) :
    sortStrings xs = sortStrings ys ↔ xs.Perm ys := by
  constructor
  · intro same
    have sorts :
        xs.mergeSort (fun a b => decide (a ≤ b)) = ys.mergeSort (fun a b => decide (a ≤ b)) :=
      same
    exact (List.mergeSort_perm xs _).symm.trans (sorts ▸ List.mergeSort_perm ys _)
  · intro perm
    exact List.eq_of_perm_of_sorted
      ((List.mergeSort_perm xs _).trans (perm.trans (List.mergeSort_perm ys _).symm))
      (sortStrings_sorted xs) (sortStrings_sorted ys)

theorem perm_of_perm_map {α β : Type} [Nonempty α] {f : α → β} (inj : Function.Injective f)
    {l₁ l₂ : List α} (perm : (l₁.map f).Perm (l₂.map f)) : l₁.Perm l₂ := by
  obtain ⟨g, inverse⟩ := inj.hasLeftInverse
  simpa [List.map_map, inverse.comp_eq_id] using perm.map g

theorem hexCodes_perm_iff (xs ys : List UInt16) : (hexCodes xs).Perm (hexCodes ys) ↔ xs.Perm ys :=
  ⟨perm_of_perm_map fun _ _ => formatHex4_injective, fun perm => perm.map _⟩

theorem hexCodes_injective {xs ys : List UInt16} (same : hexCodes xs = hexCodes ys) : xs = ys :=
  List.map_injective_iff.mpr (fun _ _ => formatHex4_injective) same

theorem hexCode_word {xs : List UInt16} {code : List Char} (mem : code ∈ hexCodes xs) :
    code ≠ [] ∧ ',' ∉ code ∧ '_' ∉ code := by
  obtain ⟨v, -, rfl⟩ := List.mem_map.mp mem
  refine ⟨formatHex4_ne_nil v, fun comma => ?_, fun underscore => ?_⟩
  · obtain ⟨d, small, digit⟩ := mem_formatHex4 comma
    exact absurd digit (by revert d; decide)
  · obtain ⟨d, small, digit⟩ := mem_formatHex4 underscore
    exact absurd digit (by revert d; decide)

theorem sortedCode_word {xs : List UInt16} {code : List Char}
    (mem : code ∈ sortStrings (hexCodes xs)) : code ≠ [] ∧ ',' ∉ code ∧ '_' ∉ code :=
  hexCode_word (List.mem_mergeSort.mp mem)

theorem underscore_not_mem_join {words : List (List Char)} (free : ∀ w ∈ words, '_' ∉ w) :
    '_' ∉ join words ',' := fun mem =>
  (mem_join mem).elim (by decide) fun ⟨w, inWords, inWord⟩ => free w inWords inWord

theorem sortedCodes_free (xs : List UInt16) : '_' ∉ join (sortStrings (hexCodes xs)) ',' :=
  underscore_not_mem_join fun _ mem => (sortedCode_word mem).2.2

theorem codes_free (xs : List UInt16) : '_' ∉ join (hexCodes xs) ',' :=
  underscore_not_mem_join fun _ mem => (hexCode_word mem).2.2

theorem sortedCodes_join_eq_iff (xs ys : List UInt16) :
    join (sortStrings (hexCodes xs)) ',' = join (sortStrings (hexCodes ys)) ',' ↔ xs.Perm ys := by
  rw [← hexCodes_perm_iff, ← sortStrings_eq_iff]
  refine ⟨join_injective ?_ ?_, fun same => by rw [same]⟩ <;>
    exact fun _ mem => ⟨(sortedCode_word mem).1, (sortedCode_word mem).2.1⟩

theorem codes_join_eq_iff (xs ys : List UInt16) :
    join (hexCodes xs) ',' = join (hexCodes ys) ',' ↔ xs = ys := by
  refine ⟨fun same => hexCodes_injective (join_injective ?_ ?_ same),
    fun same => by rw [same]⟩ <;>
    exact fun _ mem => ⟨(hexCode_word mem).1, (hexCode_word mem).2.1⟩

theorem hexCode_le_of_le {a b : UInt16} (le : a ≤ b) : formatHex4 a.toNat ≤ formatHex4 b.toNat := by
  by_cases same : a.toNat = b.toNat
  · rw [same]
  · exact (formatHex4_lt (lt_of_le_of_ne (show a.toNat ≤ b.toNat from le) same)
      (uint16_toNat_lt b)).le

theorem sortStrings_hexCodes (xs : List UInt16) :
    sortStrings (hexCodes xs) = hexCodes (xs.mergeSort fun a b => decide (a ≤ b)) := by
  have sorted := @List.sorted_mergeSort _ (fun a b : UInt16 => decide (a ≤ b))
    (fun _ _ _ hab hbc => by simpa using UInt16.le_trans (by simpa using hab) (by simpa using hbc))
    (fun a b => by simpa using UInt16.le_total a b) xs
  exact List.eq_of_perm_of_sorted
    ((List.mergeSort_perm _ _).trans ((List.mergeSort_perm xs _).symm.map _))
    (sortStrings_sorted _)
    (List.pairwise_map.2 (sorted.imp fun le => hexCode_le_of_le (by simpa using le)))

/-- `text` with `ins` put before its first `sep`: how JA4 reads against JA4_R. -/
def insertBeforeFirst (sep : Char) (ins text : List Char) : List Char :=
  text.takeWhile (· != sep) ++ ins ++ text.dropWhile (· != sep)

theorem insertBeforeFirst_append {sep : Char} (ins : List Char) {before : List Char}
    (absent : sep ∉ before) (after : List Char) :
    insertBeforeFirst sep ins (before ++ sep :: after) = before ++ ins ++ sep :: after := by
  simp [insertBeforeFirst, List.takeWhile_append_of_pos (bne_of_not_mem absent),
    List.dropWhile_append_of_pos (bne_of_not_mem absent)]

theorem ja4Head_free (v : UInt16) (a : List (List Char)) :
    '_' ∉ ['t'] ++ ja4Version v ++ ja4Proto a := by
  unfold ja4Version
  rcases ja4Proto_cases a with p | p | p <;> rw [p] <;> split_ifs <;> decide

/-! ## What JA4 and JA4_R determine -/

theorem generateJA4_eq_iff (v v' : UInt16) (cs cs' ex ex' g g' : List UInt16)
    (a a' : List (List Char)) :
    generateJA4 v cs ex g a = generateJA4 v' cs' ex' g' a' ↔
      ja4Version v = ja4Version v' ∧ ja4Proto a = ja4Proto a' ∧
        cs.Perm cs' ∧ ex.Perm ex' := by
  simp only [generateJA4, List.append_assoc, List.singleton_append, List.cons_append,
    List.nil_append, List.cons.injEq, true_and, ja4Head_inj, List.append_cancel_left_eq]
  rw [append_sep_inj (sortedCodes_free cs) (sortedCodes_free cs'), sortedCodes_join_eq_iff,
    sortedCodes_join_eq_iff]

theorem generateJA4R_eq_iff (v v' : UInt16) (cs cs' ex ex' g g' : List UInt16)
    (a a' : List (List Char)) :
    generateJA4R v cs ex g a = generateJA4R v' cs' ex' g' a' ↔
      ja4Version v = ja4Version v' ∧ ja4Proto a = ja4Proto a' ∧
        cs = cs' ∧ ex = ex' ∧ g = g' := by
  simp only [generateJA4R, List.append_assoc, List.singleton_append, List.cons_append,
    List.nil_append, List.cons.injEq, true_and, ja4Head_inj]
  rw [append_sep_inj (codes_free cs) (codes_free cs'),
    append_sep_inj (codes_free ex) (codes_free ex'), codes_join_eq_iff, codes_join_eq_iff,
    codes_join_eq_iff]

/-- JA4 followed by `_` is JA4_R of the lists sorted by value and no groups, with JA4's `1516`
put before the first `_`: the two share their version and protocol fields, and the string sort
of the `%04x` codes is their numeric sort. -/
theorem generateJA4_eq_generateJA4R_sorted (v : UInt16) (cs ex g : List UInt16)
    (a : List (List Char)) :
    generateJA4 v cs ex g a ++ ['_'] =
      insertBeforeFirst '_' "1516".toList
        (generateJA4R v (cs.mergeSort fun x y => decide (x ≤ y))
          (ex.mergeSort fun x y => decide (x ≤ y)) [] a) := by
  have shape : generateJA4R v (cs.mergeSort fun x y => decide (x ≤ y))
      (ex.mergeSort fun x y => decide (x ≤ y)) [] a =
        (['t'] ++ ja4Version v ++ ja4Proto a) ++ '_' ::
          (join (hexCodes (cs.mergeSort fun x y => decide (x ≤ y))) ',' ++ ['_'] ++
            join (hexCodes (ex.mergeSort fun x y => decide (x ≤ y))) ',' ++ ['_']) := by
    simp [generateJA4R, hexCodes]
  rw [shape, insertBeforeFirst_append _ (ja4Head_free v a)]
  simp [generateJA4, sortStrings_hexCodes]

end OrbitTls.Fingerprint
