import Mathlib.Data.List.Basic

/-! # Go strings: `strings.Split`, `strings.Join` and the other `strings` functions used

A Go `string` is modelled by its list of characters.  Every separator the
fingerprint code splits or joins on is one ASCII byte, which never occurs
inside the encoding of another character, so `strings.Split(s, sep)` and
`strings.Join(parts, sep)` are `List.splitOn` and `List.intercalate` on a
one-character separator.

The decoding facts every fingerprint format rests on: a join of separator-free
parts splits back into those parts (`split_join`), joins of non-empty
separator-free parts are injective (`join_injective`), and a text cut at the
first separator determines both sides (`append_sep_inj`).

`strings.ToLower` maps Go's `unicode.ToLower` over the runes; its case tables are
not in the sources, so it is a parameter (`RuneLower`) with the one law the proofs
use: on ASCII it is `Char.toLower`.  `toLower` is ASCII case folding, the folding
`textproto` canonicalises header names by.  `strings.SplitN(s, sep, 2)` cuts at
the first separator (`splitN2_append`) or leaves the text whole
(`splitN2_of_not_mem`). -/

set_option autoImplicit false

namespace OrbitTls

/-- `strings.Split(s, string(sep))`. -/
def split (s : List Char) (sep : Char) : List (List Char) := s.splitOn sep

/-- `strings.Join(parts, string(sep))`. -/
def join (parts : List (List Char)) (sep : Char) : List Char := [sep].intercalate parts

@[simp] theorem join_nil (sep : Char) : join [] sep = [] := rfl

@[simp] theorem join_singleton (part : List Char) (sep : Char) : join [part] sep = part := by
  simp [join, List.intercalate]

theorem join_cons_cons (part next : List Char) (rest : List (List Char)) (sep : Char) :
    join (part :: next :: rest) sep = part ++ sep :: join (next :: rest) sep := by
  simp [join, List.intercalate, List.intersperse]

theorem split_join {parts : List (List Char)} {sep : Char}
    (free : ∀ part ∈ parts, sep ∉ part) (nonempty : parts ≠ []) :
    split (join parts sep) sep = parts :=
  List.splitOn_intercalate parts sep free nonempty

theorem join_split (s : List Char) (sep : Char) : join (split s sep) sep = s :=
  List.intercalate_splitOn s sep

theorem mem_join {c sep : Char} {parts : List (List Char)} (mem : c ∈ join parts sep) :
    c = sep ∨ ∃ part ∈ parts, c ∈ part := by
  induction parts with
  | nil => simp at mem
  | cons part rest ih =>
      cases rest with
      | nil => exact .inr ⟨part, by simp, by simpa using mem⟩
      | cons next rest =>
          rw [join_cons_cons] at mem
          rcases List.mem_append.mp mem with inPart | inRest
          · exact .inr ⟨part, by simp, inPart⟩
          · rcases List.mem_cons.mp inRest with rfl | inJoin
            · exact .inl rfl
            · rcases ih inJoin with isSep | ⟨other, mem, inOther⟩
              · exact .inl isSep
              · exact .inr ⟨other, List.mem_cons_of_mem _ mem, inOther⟩

theorem join_eq_nil {parts : List (List Char)} {sep : Char}
    (words : ∀ part ∈ parts, part ≠ []) (empty : join parts sep = []) : parts = [] := by
  cases parts with
  | nil => rfl
  | cons part rest =>
      have first := words part (by simp)
      cases rest with
      | nil => exact absurd (by simpa using empty) first
      | cons next rest => simp [join_cons_cons] at empty

theorem join_injective {a b : List (List Char)} {sep : Char}
    (wordsA : ∀ part ∈ a, part ≠ [] ∧ sep ∉ part)
    (wordsB : ∀ part ∈ b, part ≠ [] ∧ sep ∉ part)
    (same : join a sep = join b sep) : a = b := by
  by_cases nonemptyA : a = []
  · subst a; exact (join_eq_nil (fun part mem => (wordsB part mem).1) same.symm).symm
  by_cases nonemptyB : b = []
  · subst b; exact join_eq_nil (fun part mem => (wordsA part mem).1) same
  calc a = split (join a sep) sep :=
        (split_join (fun part mem => (wordsA part mem).2) nonemptyA).symm
    _ = split (join b sep) sep := by rw [same]
    _ = b := split_join (fun part mem => (wordsB part mem).2) nonemptyB

theorem append_sep_inj {x y x' y' : List Char} {sep : Char} (freeX : sep ∉ x)
    (freeX' : sep ∉ x') :
    x ++ sep :: y = x' ++ sep :: y' ↔ x = x' ∧ y = y' := by
  refine ⟨fun same => ?_, fun ⟨left, right⟩ => by rw [left, right]⟩
  induction x generalizing x' with
  | nil =>
      cases x' with
      | nil => simpa using same
      | cons c rest =>
          obtain ⟨rfl, -⟩ := List.cons.inj same
          exact absurd (List.mem_cons_self _ _) freeX'
  | cons c rest ih =>
      cases x' with
      | nil =>
          obtain ⟨rfl, -⟩ := List.cons.inj same
          exact absurd (List.mem_cons_self _ _) freeX
      | cons c' rest' =>
          obtain ⟨rfl, tail⟩ := List.cons.inj same
          obtain ⟨rfl, rfl⟩ := ih (fun mem => freeX (List.mem_cons_of_mem _ mem))
            (fun mem => freeX' (List.mem_cons_of_mem _ mem)) tail
          exact ⟨rfl, rfl⟩

/-- ASCII case folding: `A`-`Z` to `a`-`z`, every other character kept. -/
def toLower (s : List Char) : List Char := s.map Char.toLower

/-- `unicode.ToLower`, whose case tables are Go's: any map of runes that, as Go's does up to
`MaxASCII`, lowers `A`-`Z` and keeps every other ASCII rune. -/
structure RuneLower where
  toRune : Char → Char
  ascii : ∀ c : Char, c.toNat < 128 → toRune c = c.toLower

/-- `strings.ToLower`: `unicode.ToLower` on every rune. -/
def stringsToLower (lower : RuneLower) (s : List Char) : List Char := s.map lower.toRune

theorem stringsToLower_of_ascii (lower : RuneLower) {s : List Char}
    (ascii : ∀ c ∈ s, c.toNat < 128) : stringsToLower lower s = toLower s :=
  List.map_congr_left fun c mem => lower.ascii c (ascii c mem)

/-- The rune map of `unicode.ToLower` on U+0000 to U+00FF, keeping every later rune. -/
def latin1Lower : RuneLower :=
  ⟨fun c => if 0xC0 ≤ c.toNat ∧ c.toNat ≤ 0xDE ∧ c.toNat ≠ 0xD7 then Char.ofNat (c.toNat + 32)
    else c.toLower,
    fun _ small => if_neg fun latin => by omega⟩

theorem char_toLower_toLower (c : Char) : c.toLower.toLower = c.toLower := by
  by_cases upper : c.toNat ≥ 65 ∧ c.toNat ≤ 90
  · have once :
        ∀ k < 91, 65 ≤ k → (Char.ofNat k).toLower.toLower = (Char.ofNat k).toLower := by
      decide
    simpa using once c.toNat (by omega) upper.1
  · have same : c.toLower = c := if_neg upper
    rw [same, same]

theorem char_fixed {c : Char} (wide : ¬c.toNat < 128) : c.toUpper = c ∧ c.toLower = c :=
  ⟨if_neg fun range => wide (by omega), if_neg fun range => wide (by omega)⟩

theorem char_toLower_toUpper (c : Char) : c.toUpper.toLower = c.toLower := by
  by_cases small : c.toNat < 128
  · have ascii : ∀ k < 128, (Char.ofNat k).toUpper.toLower = (Char.ofNat k).toLower := by
      decide
    simpa using ascii c.toNat small
  · rw [(char_fixed small).1]

theorem char_toUpper_toLower (c : Char) : c.toLower.toUpper = c.toUpper := by
  by_cases small : c.toNat < 128
  · have ascii : ∀ k < 128, (Char.ofNat k).toLower.toUpper = (Char.ofNat k).toUpper := by
      decide
    simpa using ascii c.toNat small
  · rw [(char_fixed small).2]

theorem char_utf8Size_toLower (c : Char) : c.toLower.utf8Size = c.utf8Size := by
  by_cases small : c.toNat < 128
  · have ascii : ∀ k < 128, (Char.ofNat k).toLower.utf8Size = (Char.ofNat k).utf8Size := by
      decide
    simpa using ascii c.toNat small
  · rw [(char_fixed small).2]

def isSpace (c : Char) : Bool :=
  c = '\t' || c = '\n' || c = '\x0b' || c = '\x0c' || c = '\r' || c = ' ' ||
    c.toNat = 0x85 || c.toNat = 0xa0 || c.toNat = 0x1680 ||
    (0x2000 ≤ c.toNat && c.toNat ≤ 0x200a) || c.toNat = 0x2028 || c.toNat = 0x2029 ||
    c.toNat = 0x202f || c.toNat = 0x205f || c.toNat = 0x3000

def trimSpace (s : List Char) : List Char :=
  ((s.dropWhile isSpace).reverse.dropWhile isSpace).reverse

/-- `strings.SplitN(s, sep, 2)` for a one-character `sep`: the text before the first `sep`
and the text after it, or the whole text when it has no `sep`. -/
def splitN2 (s : List Char) (sep : Char) : List (List Char) :=
  match s.span (· != sep) with
  | (before, []) => [before]
  | (before, _ :: after) => [before, after]

theorem bne_of_not_mem {s : List Char} {sep : Char} (absent : sep ∉ s) :
    ∀ c ∈ s, (c != sep) = true :=
  fun _ mem => bne_iff_ne.2 (ne_of_mem_of_not_mem mem absent)

theorem splitN2_of_not_mem {s : List Char} {sep : Char} (absent : sep ∉ s) :
    splitN2 s sep = [s] := by
  simp [splitN2, List.span_eq_take_drop, List.takeWhile_eq_self_iff.2 (bne_of_not_mem absent),
    List.dropWhile_eq_nil_iff.2 (bne_of_not_mem absent)]

theorem exists_first_sep {s : List Char} {sep : Char} (present : sep ∈ s) :
    ∃ before after, sep ∉ before ∧ s = before ++ sep :: after := by
  induction s with
  | nil => cases present
  | cons c rest ih =>
      by_cases hit : c = sep
      · exact ⟨[], rest, List.not_mem_nil _, by rw [hit]; rfl⟩
      · obtain ⟨before, after, absent, rfl⟩ :=
          ih ((List.mem_cons.1 present).resolve_left (Ne.symm hit))
        exact ⟨c :: before, after, by simp [absent, Ne.symm hit], rfl⟩

theorem splitN2_append {before after : List Char} {sep : Char} (absent : sep ∉ before) :
    splitN2 (before ++ sep :: after) sep = [before, after] := by
  simp [splitN2, List.span_eq_take_drop, List.takeWhile_append_of_pos (bne_of_not_mem absent),
    List.dropWhile_append_of_pos (bne_of_not_mem absent)]

/-- `fmt`'s `%v` of a `[]string`. -/
def formatStringSlice (parts : List (List Char)) : List Char := '[' :: join parts ' ' ++ [']']

end OrbitTls
