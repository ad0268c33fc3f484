import OrbitTls.Fingerprint.JA3

/-! # PeetPrint: `GeneratePeetPrint` and `formatUint16Slice`

A PeetPrint is five `|`-separated fields, each a `-`-joined list of decimal
values.  `parseUint16List_formatUint16Slice`: the list reader of `ParseJA3`
reads back every list the writer writes, the empty list included.
`generatePeetPrint_spec`: splitting a PeetPrint on `|` gives exactly its five
fields, each read back to the values written, so the string determines all six
inputs. -/

set_option autoImplicit false

namespace OrbitTls.Fingerprint

/-- `formatUint16Slice`: the decimal values joined by `-`, the empty list as the empty string. -/
def formatUint16Slice (slice : List UInt16) : List Char :=
  if slice.length = 0 then [] else join (slice.map fun v => formatDecimal v.toNat) '-'

def generatePeetPrint (tlsVersionNegotiated tlsVersionRecord : UInt16)
    (cipherSuites extensions supportedGroups signatureAlgorithms : List UInt16) : List Char :=
  join [formatDecimal tlsVersionNegotiated.toNat ++ ['-'] ++ formatDecimal tlsVersionRecord.toNat,
    formatUint16Slice supportedGroups, formatUint16Slice signatureAlgorithms,
    formatUint16Slice extensions, formatUint16Slice cipherSuites] '|'

theorem formatDecimal_digitRun (v : UInt16) : DigitRun (formatDecimal v.toNat) :=
  ⟨formatDecimal_ne_nil _, (formatDecimal_digits _).1, by
    rw [(formatDecimal_digits _).2]; have := uint16_toNat_lt v; omega⟩

theorem parseUint16List_formatUint16Slice (xs : List UInt16) :
    parseUint16List (formatUint16Slice xs) = .ok xs := by
  rw [parseUint16List_eq_ok]
  unfold formatUint16Slice
  split
  next empty => simp [List.length_eq_zero.mp empty, ListField, fieldValues]
  next nonempty =>
    have words : xs.map (fun v => formatDecimal v.toNat) ≠ [] := by simpa using nonempty
    have free : ∀ word ∈ xs.map (fun v => formatDecimal v.toNat), '-' ∉ word := by
      simp only [List.mem_map]
      rintro _ ⟨v, -, rfl⟩
      exact not_mem_formatDecimal (by decide) _
    have written : join (xs.map fun v => formatDecimal v.toNat) '-' ≠ [] := fun empty =>
      words (join_eq_nil (by simp [formatDecimal_ne_nil]) empty)
    simp only [ListField, fieldValues, written, if_false, false_or, split_join free words,
      List.forall_mem_map, List.map_map]
    refine ⟨fun v _ => formatDecimal_digitRun v, List.map_congr_left fun v _ => ?_⟩
    simp [(formatDecimal_digits _).2]

theorem bar_not_mem_formatUint16Slice (xs : List UInt16) : '|' ∉ formatUint16Slice xs := by
  unfold formatUint16Slice
  split
  · simp
  · intro mem
    rcases mem_join mem with bar | ⟨word, inWords, inWord⟩
    · exact absurd bar (by decide)
    · obtain ⟨v, -, rfl⟩ := List.mem_map.mp inWords
      exact not_mem_formatDecimal (by decide) _ inWord

theorem versions_eq_formatUint16Slice (n r : UInt16) :
    formatDecimal n.toNat ++ ['-'] ++ formatDecimal r.toNat = formatUint16Slice [n, r] := by
  simp [formatUint16Slice, join_cons_cons]

/-- Splitting a PeetPrint on `|` gives its five fields, read back to the values written; so
the list reader inverts the list writer and a PeetPrint determines all six inputs. -/
theorem generatePeetPrint_spec :
    (∀ (n r : UInt16) (cs ex g sa : List UInt16),
      (split (generatePeetPrint n r cs ex g sa) '|').map parseUint16List =
        [.ok [n, r], .ok g, .ok sa, .ok ex, .ok cs]) ∧
    (∀ xs : List UInt16, parseUint16List (formatUint16Slice xs) = .ok xs) ∧
    (∀ (n r n' r' : UInt16) (cs ex g sa cs' ex' g' sa' : List UInt16),
      generatePeetPrint n r cs ex g sa = generatePeetPrint n' r' cs' ex' g' sa' →
        n = n' ∧ r = r' ∧ cs = cs' ∧ ex = ex' ∧ g = g' ∧ sa = sa') := by
  have decodes : ∀ (n r : UInt16) (cs ex g sa : List UInt16),
      (split (generatePeetPrint n r cs ex g sa) '|').map parseUint16List =
        [.ok [n, r], .ok g, .ok sa, .ok ex, .ok cs] := by
    intro n r cs ex g sa
    rw [generatePeetPrint, versions_eq_formatUint16Slice,
      split_join (by simp [bar_not_mem_formatUint16Slice]) (by simp)]
    simp [parseUint16List_formatUint16Slice]
  refine ⟨decodes, parseUint16List_formatUint16Slice, ?_⟩
  intro n r n' r' cs ex g sa cs' ex' g' sa' same
  have fields := (decodes n r cs ex g sa).symm.trans (same ▸ decodes n' r' cs' ex' g' sa')
  simp only [List.cons.injEq, Except.ok.injEq, and_true] at fields
  obtain ⟨⟨rfl, rfl⟩, rfl, rfl, rfl, rfl⟩ := fields
  exact ⟨rfl, rfl, rfl, rfl, rfl, rfl⟩

end OrbitTls.Fingerprint
