import OrbitTls.Fingerprint.Types
import OrbitTls.Text.Split
import OrbitTls.Text.Decimal

/-! # Akamai HTTP/2 fingerprints: `generateAkamaiFingerprint`, `GenerateAkamaiH2Fingerprint`

Both builders write the SETTINGS identifiers present in the map as `<id>:<value>`
joined by `;`, in the fixed order of the six identifiers, then `|<window>|`, a
priority digit and the pseudo-header order `m,a,p,s`.  The one on the live path
always writes `0`; the other writes `1` for an exclusive priority.

`generateAkamaiFingerprint_eq_iff`: a fingerprint determines the window and the
six settings, and nothing else of the input.
`generateAkamaiH2Fingerprint_eq_of_nonExclusive`: the two builders agree unless
the priority is exclusive. -/

set_option autoImplicit false

namespace OrbitTls.Tracking

open OrbitTls.Fingerprint

/-- The SETTINGS identifiers both builders read, in their order: the label written and the key
looked up. -/
def akamaiSettings : List (Char × List Char) :=
  [('1', "HEADER_TABLE_SIZE".toList), ('2', "ENABLE_PUSH".toList),
    ('3', "MAX_CONCURRENT_STREAMS".toList), ('4', "INITIAL_WINDOW_SIZE".toList),
    ('5', "MAX_FRAME_SIZE".toList), ('6', "MAX_HEADER_LIST_SIZE".toList)]

/-- One `if val, ok := settings[key]; ok { parts = append(parts, fmt.Sprintf("<id>:%d", val)) }`. -/
def settingPart (settings : GoMap (List Char) UInt32) (entry : Char × List Char) :
    Option (List Char) :=
  (settings.lookup entry.2).map fun val => entry.1 :: ':' :: formatDecimal val.toNat

/-- The parts of the settings present, in table order. -/
def settingsParts (settings : GoMap (List Char) UInt32) : List (List Char) :=
  akamaiSettings.filterMap (settingPart settings)

def generateAkamaiFingerprint (settings : GoMap (List Char) UInt32) (windowUpdate : UInt32)
    (_priority : Option HeaderPriority) : List Char :=
  join (settingsParts settings) ';' ++ ['|'] ++ formatDecimal windowUpdate.toNat ++
    "|0|m,a,p,s".toList

def generateAkamaiH2Fingerprint (settings : GoMap (List Char) UInt32) (windowUpdate : UInt32)
    (priority : Option HeaderPriority) : List Char :=
  let priorityStr :=
    match priority with
    | some p => if p.exclusive then "1".toList else "0".toList
    | none => "0".toList
  join (settingsParts settings) ';' ++ ['|'] ++ formatDecimal windowUpdate.toNat ++ ['|'] ++
    priorityStr ++ "|m,a,p,s".toList

/-- No priority, or one that is not exclusive. -/
def NonExclusive : Option HeaderPriority → Prop
  | none => True
  | some p => p.exclusive = false

/-! ## Reading a fingerprint back -/

theorem mem_settingPart {settings : GoMap (List Char) UInt32} {entry : Char × List Char}
    {part : List Char} (written : settingPart settings entry = some part) :
    ∃ val : UInt32, part = entry.1 :: ':' :: formatDecimal val.toNat := by
  unfold settingPart at written
  obtain ⟨val, -, rfl⟩ := Option.map_eq_some'.mp written
  exact ⟨val, rfl⟩

theorem part_head {table : List (Char × List Char)} {settings : GoMap (List Char) UInt32}
    {part : List Char} (mem : part ∈ table.filterMap (settingPart settings)) :
    ∃ entry ∈ table, part.head? = some entry.1 := by
  obtain ⟨entry, inTable, written⟩ := List.mem_filterMap.mp mem
  obtain ⟨val, rfl⟩ := mem_settingPart written
  exact ⟨entry, inTable, rfl⟩

theorem settingPart_injective {settings settings' : GoMap (List Char) UInt32}
    {entry : Char × List Char} (same : settingPart settings entry = settingPart settings' entry) :
    settings.lookup entry.2 = settings'.lookup entry.2 :=
  Option.map_injective (fun _ _ written =>
    UInt32.toNat.inj (formatDecimal_injective (List.cons.inj (List.cons.inj written).2).2)) same

theorem part_head_ne {table : List (Char × List Char)} {settings : GoMap (List Char) UInt32}
    {label : Char} (absent : label ∉ table.map Prod.fst) {part : List Char}
    (mem : part ∈ table.filterMap (settingPart settings)) : part.head? ≠ some label := by
  intro head
  obtain ⟨other, inTable, otherHead⟩ := part_head mem
  exact absent (List.mem_map.mpr ⟨other, inTable, by simpa [head] using otherHead.symm⟩)

theorem filterMap_settingPart_cons {first : Char × List Char} {rest : List (Char × List Char)}
    (fresh : first.1 ∉ rest.map Prod.fst) {settings settings' : GoMap (List Char) UInt32}
    (same : (first :: rest).filterMap (settingPart settings) =
      (first :: rest).filterMap (settingPart settings')) :
    settingPart settings first = settingPart settings' first ∧
      rest.filterMap (settingPart settings) = rest.filterMap (settingPart settings') := by
  simp only [List.filterMap_cons] at same
  cases written : settingPart settings first <;> cases written' : settingPart settings' first <;>
    simp only [written, written', List.cons.injEq] at same
  · exact ⟨rfl, same⟩
  · obtain ⟨val, rfl⟩ := mem_settingPart written'
    exact absurd rfl (part_head_ne fresh (same ▸ List.mem_cons_self _ _))
  · obtain ⟨val, rfl⟩ := mem_settingPart written
    exact absurd rfl (part_head_ne fresh (same.symm ▸ List.mem_cons_self _ _))
  · exact ⟨congrArg some same.1, same.2⟩

theorem parts_determine_lookups : ∀ (table : List (Char × List Char)),
    (table.map Prod.fst).Nodup → ∀ settings settings' : GoMap (List Char) UInt32,
    table.filterMap (settingPart settings) = table.filterMap (settingPart settings') →
      ∀ entry ∈ table, settings.lookup entry.2 = settings'.lookup entry.2 := by
  intro table
  induction table with
  | nil => intro _ _ _ _ entry mem; simp at mem
  | cons first rest ih =>
      intro labels settings settings' same entry mem
      simp only [List.map_cons, List.nodup_cons] at labels
      obtain ⟨head, tail⟩ := filterMap_settingPart_cons labels.1 same
      rcases List.mem_cons.mp mem with rfl | inRest
      · exact settingPart_injective head
      · exact ih labels.2 settings settings' tail entry inRest

theorem akamaiSettings_labels :
    ∀ entry ∈ akamaiSettings, entry.1 ≠ ';' ∧ entry.1 ≠ '|' := by
  decide

theorem settingsPart_word {settings : GoMap (List Char) UInt32} {part : List Char}
    (mem : part ∈ settingsParts settings) : part ≠ [] ∧ ';' ∉ part ∧ '|' ∉ part := by
  obtain ⟨entry, inTable, written⟩ := List.mem_filterMap.mp mem
  obtain ⟨val, rfl⟩ := mem_settingPart written
  have label := akamaiSettings_labels entry inTable
  simp only [ne_eq, reduceCtorEq, not_false_eq_true, List.mem_cons, not_or, true_and]
  exact ⟨⟨Ne.symm label.1, by decide, not_mem_formatDecimal (by decide) _⟩,
    ⟨Ne.symm label.2, by decide, not_mem_formatDecimal (by decide) _⟩⟩

theorem bar_not_mem_settings (settings : GoMap (List Char) UInt32) :
    '|' ∉ join (settingsParts settings) ';' := fun mem =>
  (mem_join mem).elim (by decide) fun ⟨_, inParts, inPart⟩ =>
    (settingsPart_word inParts).2.2 inPart

theorem akamaiSettings_keys :
    akamaiSettings.map Prod.snd = ["HEADER_TABLE_SIZE".toList, "ENABLE_PUSH".toList,
      "MAX_CONCURRENT_STREAMS".toList, "INITIAL_WINDOW_SIZE".toList, "MAX_FRAME_SIZE".toList,
      "MAX_HEADER_LIST_SIZE".toList] := rfl

/-- The live Akamai fingerprint determines exactly the window and the lookups of the six
SETTINGS keys: other keys and the priority never matter. -/
theorem generateAkamaiFingerprint_eq_iff (m m' : GoMap (List Char) UInt32) (w w' : UInt32)
    (p p' : Option HeaderPriority) :
    generateAkamaiFingerprint m w p = generateAkamaiFingerprint m' w' p' ↔
      w = w' ∧ ∀ key ∈ ["HEADER_TABLE_SIZE".toList, "ENABLE_PUSH".toList,
        "MAX_CONCURRENT_STREAMS".toList, "INITIAL_WINDOW_SIZE".toList, "MAX_FRAME_SIZE".toList,
        "MAX_HEADER_LIST_SIZE".toList], m.lookup key = m'.lookup key := by
  rw [← akamaiSettings_keys, List.forall_mem_map]
  unfold generateAkamaiFingerprint
  simp only [List.append_assoc, List.singleton_append, List.cons_append, List.nil_append]
  rw [append_sep_inj (bar_not_mem_settings m) (bar_not_mem_settings m'),
    List.append_cancel_right_eq]
  constructor
  · rintro ⟨joined, window⟩
    refine ⟨UInt32.toNat.inj (formatDecimal_injective window), ?_⟩
    refine parts_determine_lookups akamaiSettings (by decide) m m' ?_
    exact join_injective (fun _ mem => ⟨(settingsPart_word mem).1, (settingsPart_word mem).2.1⟩)
      (fun _ mem => ⟨(settingsPart_word mem).1, (settingsPart_word mem).2.1⟩) joined
  · rintro ⟨rfl, agree⟩
    have parts : settingsParts m = settingsParts m' :=
      List.filterMap_congr fun entry mem => by simp only [settingPart, agree entry mem]
    exact ⟨by rw [parts], rfl⟩

theorem generateAkamaiH2Fingerprint_eq_of_nonExclusive (settings : GoMap (List Char) UInt32)
    (windowUpdate : UInt32) {priority : Option HeaderPriority}
    (nonExclusive : NonExclusive priority) :
    generateAkamaiH2Fingerprint settings windowUpdate priority =
      generateAkamaiFingerprint settings windowUpdate priority := by
  cases priority with
  | none =>
      simp only [generateAkamaiH2Fingerprint, generateAkamaiFingerprint, List.append_assoc]; rfl
  | some p =>
      have notExclusive : p.exclusive = false := nonExclusive
      simp only [generateAkamaiH2Fingerprint, generateAkamaiFingerprint, notExclusive,
        List.append_assoc]
      rfl

end OrbitTls.Tracking
