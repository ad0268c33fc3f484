import OrbitTls.GoMap
import OrbitTls.Text.Split

/-! # Header maps: `textproto.CanonicalMIMEHeaderKey` and `http.Header`

An `http.Header` maps canonical keys to lists of values: `Set` makes the key
hold one value, `Get` reads the first.  `CanonicalMIMEHeaderKey` upper-cases a
token name's first letter and each letter after a `-`, lower-cases the rest,
and leaves a name with any other character as it is.

`canonicalMIMEHeaderKey_eq_iff`: on names made of token characters the canonical
key and the lower-cased name determine each other, so the map compares names up
to case.  `lookup_setPairs`: after `Set` calls in turn, a key reads the value of
the last call whose name has that key. -/

set_option autoImplicit false

namespace OrbitTls

/-- `validHeaderFieldByte`: a token character of a header name. -/
def validHeaderFieldByte (c : Char) : Bool :=
  c.isAlphanum || "!#$%&\x27*+-.^_\x60|~".toList.contains c

/-- The loop of `canonicalMIMEHeaderKey`: a letter is upper-cased first and after each `-`, and
lower-cased elsewhere. -/
def canonicalizeFrom (upper : Bool) : List Char → List Char
  | [] => []
  | c :: rest =>
      let c := if upper then c.toUpper else c.toLower
      c :: canonicalizeFrom (c == '-') rest

/-- `textproto.CanonicalMIMEHeaderKey`: a key of token characters is canonicalised, any other
key is returned as it is. -/
def canonicalMIMEHeaderKey (s : List Char) : List Char :=
  if s.all validHeaderFieldByte then canonicalizeFrom true s else s

/-- `http.Header.Set`: the canonical key holds the one value. -/
def headerSet (header : GoMap (List Char) (List (List Char))) (key value : List Char) :
    GoMap (List Char) (List (List Char)) :=
  header.insert (canonicalMIMEHeaderKey key) [value]

/-- `http.Header.Get`: the first value under the canonical key, or the empty text. -/
def headerGet (header : GoMap (List Char) (List (List Char))) (key : List Char) : List Char :=
  ((header.lookup (canonicalMIMEHeaderKey key)).bind List.head?).getD []

/-- `Set` calls in turn. -/
def setPairs (header : GoMap (List Char) (List (List Char)))
    (pairs : List (List Char × List Char)) : GoMap (List Char) (List (List Char)) :=
  pairs.foldl (fun h e => headerSet h e.1 e.2) header

/-- The value of the last pair whose name satisfies `named`. -/
def lastValue (named : List Char → Bool) (pairs : List (List Char × List Char)) :
    Option (List Char) :=
  (pairs.reverse.find? fun e => named e.1).map Prod.snd

theorem toLower_canonicalizeFrom :
    ∀ (upper : Bool) (s : List Char), toLower (canonicalizeFrom upper s) = toLower s
  | _, [] => rfl
  | upper, c :: rest => by
      simp only [canonicalizeFrom, toLower, List.map_cons, List.cons.injEq]
      exact ⟨by cases upper <;> simp [char_toLower_toUpper, char_toLower_toLower],
        toLower_canonicalizeFrom _ rest⟩

theorem canonicalizeFrom_toLower :
    ∀ (upper : Bool) (s : List Char),
      canonicalizeFrom upper (toLower s) = canonicalizeFrom upper s
  | _, [] => rfl
  | upper, c :: rest => by
      have head : (if upper then c.toLower.toUpper else c.toLower.toLower) =
          if upper then c.toUpper else c.toLower := by
        cases upper <;> simp [char_toUpper_toLower, char_toLower_toLower]
      simp only [toLower, List.map_cons, canonicalizeFrom, head] at *
      rw [← toLower, canonicalizeFrom_toLower]

theorem canonicalMIMEHeaderKey_eq_iff {a b : List Char} (tokenA : a.all validHeaderFieldByte)
    (tokenB : b.all validHeaderFieldByte) :
    canonicalMIMEHeaderKey a = canonicalMIMEHeaderKey b ↔ toLower a = toLower b := by
  rw [canonicalMIMEHeaderKey, canonicalMIMEHeaderKey, if_pos tokenA, if_pos tokenB]
  constructor
  · intro same
    rw [← toLower_canonicalizeFrom true a, same, toLower_canonicalizeFrom]
  · intro same
    rw [← canonicalizeFrom_toLower true a, same, canonicalizeFrom_toLower]

theorem validHeaderFieldByte_toLower (c : Char) :
    validHeaderFieldByte c.toLower = validHeaderFieldByte c := by
  by_cases upper : c.toNat ≥ 65 ∧ c.toNat ≤ 90
  · have letters : ∀ k < 91, 65 ≤ k →
        validHeaderFieldByte (Char.ofNat k).toLower = validHeaderFieldByte (Char.ofNat k) := by
      decide
    simpa using letters c.toNat (by omega) upper.1
  · rw [show c.toLower = c from if_neg upper]

theorem validHeaderFieldByte_toUpper (c : Char) :
    validHeaderFieldByte c.toUpper = validHeaderFieldByte c := by
  rw [← validHeaderFieldByte_toLower, char_toLower_toUpper, validHeaderFieldByte_toLower]

theorem all_valid_toLower (s : List Char) :
    (toLower s).all validHeaderFieldByte = s.all validHeaderFieldByte := by
  simp [toLower, Function.comp_def, validHeaderFieldByte_toLower]

theorem all_valid_canonicalizeFrom :
    ∀ (upper : Bool) (s : List Char),
      (canonicalizeFrom upper s).all validHeaderFieldByte = s.all validHeaderFieldByte
  | _, [] => rfl
  | upper, c :: rest => by
      cases upper <;>
        simp [canonicalizeFrom, all_valid_canonicalizeFrom _ rest, validHeaderFieldByte_toLower,
          validHeaderFieldByte_toUpper]

theorem canonicalMIMEHeaderKey_eq_token_iff {n : List Char} (token : n.all validHeaderFieldByte)
    (name : List Char) :
    canonicalMIMEHeaderKey name = canonicalMIMEHeaderKey n ↔ toLower name = toLower n := by
  by_cases nameToken : name.all validHeaderFieldByte
  · exact canonicalMIMEHeaderKey_eq_iff nameToken token
  · constructor
    · intro same
      rw [canonicalMIMEHeaderKey, if_neg nameToken, canonicalMIMEHeaderKey, if_pos token] at same
      rw [same, all_valid_canonicalizeFrom] at nameToken
      exact absurd token nameToken
    · intro same
      rw [← all_valid_toLower, same, all_valid_toLower] at nameToken
      exact absurd token nameToken

theorem lookup_headerSet (header : GoMap (List Char) (List (List Char))) (key value k : List Char) :
    (headerSet header key value).lookup k =
      if k = canonicalMIMEHeaderKey key then some [value] else header.lookup k :=
  GoMap.lookup_insert _ _ _ _

theorem lastValue_append (named : List Char → Bool) (a b : List (List Char × List Char)) :
    lastValue named (a ++ b) = (lastValue named b).or (lastValue named a) := by
  simp only [lastValue, List.reverse_append, List.find?_append]
  cases (b.reverse.find? fun e => named e.1) <;> rfl

theorem lastValue_singleton (named : List Char → Bool) (e : List Char × List Char) :
    lastValue named [e] = if named e.1 then some e.2 else none := by
  by_cases hit : named e.1 <;> simp [lastValue, hit]

theorem lastValue_congr {named named' : List Char → Bool} {pairs : List (List Char × List Char)}
    (same : ∀ e ∈ pairs, named e.1 = named' e.1) :
    lastValue named pairs = lastValue named' pairs := by
  induction pairs using List.reverseRecOn with
  | nil => rfl
  | append_singleton pairs e ih =>
      rw [lastValue_append, lastValue_append, lastValue_singleton, lastValue_singleton,
        same e (by simp), ih fun e' mem => same e' (by simp [mem])]

theorem find?_canonical_eq {n : List Char} :
    ∀ {checks : List (List Char × List Char)},
      (∀ e ∈ checks, e.1.all validHeaderFieldByte) → n.all validHeaderFieldByte →
      checks.find? (fun e => canonicalMIMEHeaderKey e.1 == canonicalMIMEHeaderKey n) =
        checks.find? fun e => toLower e.1 == toLower n
  | [], _, _ => rfl
  | e :: rest, tokens, token => by
      have sameKey : (canonicalMIMEHeaderKey e.1 == canonicalMIMEHeaderKey n) =
          (toLower e.1 == toLower n) := by
        simpa only [beq_eq_decide, decide_eq_decide] using
          canonicalMIMEHeaderKey_eq_iff (tokens e (List.mem_cons_self _ _)) token
      rw [List.find?_cons, List.find?_cons, sameKey,
        find?_canonical_eq (fun e' mem => tokens e' (List.mem_cons_of_mem _ mem)) token]

theorem setPairs_append (header : GoMap (List Char) (List (List Char)))
    (a b : List (List Char × List Char)) :
    setPairs header (a ++ b) = setPairs (setPairs header a) b :=
  List.foldl_append _ _ _ _

theorem lookup_setPairs (header : GoMap (List Char) (List (List Char)))
    (pairs : List (List Char × List Char)) (k : List Char) :
    (setPairs header pairs).lookup k =
      ((lastValue (fun name => canonicalMIMEHeaderKey name == k) pairs).map fun v => [v]).or
        (header.lookup k) := by
  induction pairs using List.reverseRecOn with
  | nil => rfl
  | append_singleton pairs e ih =>
      rw [setPairs_append, show setPairs (setPairs header pairs) [e] =
          headerSet (setPairs header pairs) e.1 e.2 from rfl,
        lookup_headerSet, ih, lastValue_append, lastValue_singleton]
      by_cases hit : k = canonicalMIMEHeaderKey e.1
      · simp [hit]
      · have miss : (canonicalMIMEHeaderKey e.1 == k) = false := by simpa using Ne.symm hit
        simp [hit, miss]

end OrbitTls
