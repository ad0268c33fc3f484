import Mathlib.Data.List.Nodup
import Mathlib.Data.List.Rotate

/-! # Go maps

A Go `map[K]V` is modelled by its entries in iteration order, each key at most
once; the invariant is a field, so a map with a repeated key cannot be built.
Go leaves the iteration order unspecified: a statement about every map is a
statement about every order.

`lookup_insert`, `lookup_copyFrom`: what `m[k] = v` and the copying loop
`for k, v := range src { dst[k] = v }` do to every lookup, whatever the order
in which the loop visits `src`. -/

set_option autoImplicit false

namespace OrbitTls

/-- A Go `map[K]V`: its entries in iteration order, each key once. -/
structure GoMap (K V : Type) where
  entries : List (K × V)
  keysNodup : (entries.map Prod.fst).Nodup

namespace GoMap

variable {K V : Type} [DecidableEq K]

/-- `make(map[K]V)`, and the nil map as far as reading goes. -/
def empty : GoMap K V := ⟨[], List.nodup_nil⟩

/-- `v, ok := m[k]`. -/
def lookup (m : GoMap K V) (k : K) : Option V := m.entries.lookup k

/-- `len(m)`. -/
def len (m : GoMap K V) : Nat := m.entries.length

theorem keys_map_update (entries : List (K × V)) (k : K) (v : V) :
    (entries.map fun e => if e.1 = k then (k, v) else e).map Prod.fst = entries.map Prod.fst := by
  simp only [List.map_map]
  exact List.map_congr_left fun e _ => by by_cases same : e.1 = k <;> simp [same]

/-- `m[k] = v`: an existing key keeps its place, a new key goes last. -/
def insert (m : GoMap K V) (k : K) (v : V) : GoMap K V :=
  if present : k ∈ m.entries.map Prod.fst then
    ⟨m.entries.map fun e => if e.1 = k then (k, v) else e,
      (keys_map_update m.entries k v).symm ▸ m.keysNodup⟩
  else
    ⟨m.entries ++ [(k, v)], by
      rw [List.map_append, List.nodup_append]
      exact ⟨m.keysNodup, List.nodup_singleton _, by simpa using present⟩⟩

/-- The assignments `m[k] = v` of a list in turn, as a map literal or a run of assignments makes
them. -/
def insertAll (m : GoMap K V) (pairs : List (K × V)) : GoMap K V :=
  pairs.foldl (fun acc e => acc.insert e.1 e.2) m

/-- The same map visited in the reverse order. -/
def reverse (m : GoMap K V) : GoMap K V :=
  ⟨m.entries.reverse, by rw [List.map_reverse, List.nodup_reverse]; exact m.keysNodup⟩

/-- The same map visited from its `n`-th entry on, wrapping around. -/
def rotate (m : GoMap K V) (n : Nat) : GoMap K V :=
  ⟨m.entries.rotate n, by rw [List.map_rotate, List.nodup_rotate]; exact m.keysNodup⟩

/-- `for k, v := range src { m[k] = v }`, visiting `src` in its iteration order. -/
def copyFrom (m src : GoMap K V) : GoMap K V :=
  src.entries.foldl (fun acc e => acc.insert e.1 e.2) m

theorem lookup_cons (k k' : K) (v : V) (rest : List (K × V)) :
    ((k, v) :: rest).lookup k' = if k' = k then some v else rest.lookup k' := by
  by_cases same : k' = k
  · simp [List.lookup_cons, same]
  · have differ : (k' == k) = false := by simpa using same
    simp [List.lookup_cons, differ, same]

theorem lookup_eq_none_of_not_mem {entries : List (K × V)} {k : K}
    (absent : k ∉ entries.map Prod.fst) : entries.lookup k = none := by
  induction entries with
  | nil => rfl
  | cons e rest ih =>
      simp only [List.map_cons, List.mem_cons, not_or] at absent
      rw [lookup_cons, if_neg absent.1, ih absent.2]

theorem lookup_update_ne (entries : List (K × V)) {k k' : K} (v : V) (differ : k' ≠ k) :
    (entries.map fun e => if e.1 = k then (k, v) else e).lookup k' = entries.lookup k' := by
  induction entries with
  | nil => rfl
  | cons e rest ih =>
      obtain ⟨a, b⟩ := e
      by_cases hit : a = k
      · subst hit
        simp only [List.map_cons, if_true, lookup_cons, if_neg differ, ih]
      · simp only [List.map_cons, hit, if_false, lookup_cons, ih]

theorem lookup_update_self (entries : List (K × V)) {k : K} (v : V)
    (present : k ∈ entries.map Prod.fst) :
    (entries.map fun e => if e.1 = k then (k, v) else e).lookup k = some v := by
  induction entries with
  | nil => simp at present
  | cons e rest ih =>
      obtain ⟨a, b⟩ := e
      by_cases hit : a = k
      · subst hit; simp only [List.map_cons, if_true, lookup_cons]
      · simp only [List.map_cons, List.mem_cons] at present
        simp only [List.map_cons, hit, if_false, lookup_cons, if_neg (Ne.symm hit)]
        exact ih (present.resolve_left (Ne.symm hit))

theorem lookup_append_singleton (entries : List (K × V)) (k k' : K) (v : V)
    (absent : k ∉ entries.map Prod.fst) :
    (entries ++ [(k, v)]).lookup k' = if k' = k then some v else entries.lookup k' := by
  induction entries with
  | nil => rw [List.nil_append, lookup_cons]
  | cons e rest ih =>
      obtain ⟨a, b⟩ := e
      simp only [List.map_cons, List.mem_cons, not_or] at absent
      rw [List.cons_append, lookup_cons, lookup_cons, ih absent.2]
      by_cases hit : k' = a
      · subst hit; simp [Ne.symm absent.1]
      · simp [hit]

@[simp] theorem lookup_empty (k : K) : (empty : GoMap K V).lookup k = none := rfl

theorem lookup_insert (m : GoMap K V) (k k' : K) (v : V) :
    (m.insert k v).lookup k' = if k' = k then some v else m.lookup k' := by
  unfold insert lookup
  split
  next present =>
    by_cases same : k' = k
    · subst same; rw [if_pos rfl]; exact lookup_update_self _ v present
    · rw [if_neg same]; exact lookup_update_ne _ v same
  next absent => exact lookup_append_singleton _ k k' v absent

theorem mem_entries_iff (m : GoMap K V) (k : K) (v : V) :
    (k, v) ∈ m.entries ↔ m.lookup k = some v := by
  obtain ⟨entries, keysNodup⟩ := m
  unfold lookup
  induction entries with
  | nil => simp
  | cons e rest ih =>
      obtain ⟨a, b⟩ := e
      simp only [List.map_cons, List.nodup_cons] at keysNodup
      have restIff : (k, v) ∈ rest ↔ rest.lookup k = some v := ih keysNodup.2
      rw [List.mem_cons, lookup_cons]
      by_cases hit : k = a
      · subst hit
        have absent : (k, v) ∉ rest := fun mem => keysNodup.1 (List.mem_map_of_mem Prod.fst mem)
        simp [absent, eq_comm]
      · simp [hit, restIff]

theorem lookup_eq_none_iff (m : GoMap K V) (k : K) :
    m.lookup k = none ↔ k ∉ m.entries.map Prod.fst := by
  refine ⟨fun missing mem => ?_, lookup_eq_none_of_not_mem⟩
  obtain ⟨⟨k, v⟩, held, rfl⟩ := List.mem_map.1 mem
  rw [(mem_entries_iff m k v).1 held] at missing
  cases missing

theorem lookup_map {α : Type} (f : α → K) (g : α → V) (l : List α) (k : K) :
    (l.map fun a => (f a, g a)).lookup k = (l.find? fun a => f a = k).map g := by
  induction l with
  | nil => rfl
  | cons a rest ih =>
      by_cases hit : f a = k
      · simp [lookup_cons, hit]
      · simp [lookup_cons, hit, Ne.symm hit, ih]

omit [DecidableEq K] in
theorem ext_entries {m m' : GoMap K V} (same : m.entries = m'.entries) : m = m' := by
  cases m; cases m'; cases same; rfl

theorem insert_entries_of_not_mem (m : GoMap K V) {k : K} (v : V)
    (absent : k ∉ m.entries.map Prod.fst) : (m.insert k v).entries = m.entries ++ [(k, v)] := by
  simp only [insert, dif_neg absent]

theorem foldl_insert_entries (rest : List (K × V)) (m : GoMap K V)
    (keys : (m.entries ++ rest).map Prod.fst |>.Nodup) :
    (rest.foldl (fun acc e => acc.insert e.1 e.2) m).entries = m.entries ++ rest := by
  induction rest generalizing m with
  | nil => simp
  | cons e rest ih =>
      have absent : e.1 ∉ m.entries.map Prod.fst := by
        simp only [List.map_append, List.map_cons, List.nodup_append, List.nodup_cons] at keys
        exact fun mem => keys.2.2 mem (List.mem_cons_self _ _)
      rw [List.foldl_cons, ih, insert_entries_of_not_mem _ _ absent, List.append_assoc]
      · rfl
      · rwa [insert_entries_of_not_mem _ _ absent, List.append_assoc]

@[simp] theorem empty_copyFrom (m : GoMap K V) : empty.copyFrom m = m :=
  ext_entries (foldl_insert_entries m.entries empty m.keysNodup)

theorem lookup_copyFrom (m src : GoMap K V) (k : K) :
    (m.copyFrom src).lookup k = (src.lookup k).or (m.lookup k) := by
  obtain ⟨entries, keysNodup⟩ := src
  unfold copyFrom
  induction entries generalizing m with
  | nil => rfl
  | cons e rest ih =>
      obtain ⟨a, b⟩ := e
      simp only [List.map_cons, List.nodup_cons] at keysNodup
      rw [List.foldl_cons, ih _ keysNodup.2, lookup_insert]
      show _ = (((a, b) :: rest).lookup k).or _
      rw [lookup_cons]
      by_cases hit : k = a
      · subst hit; simp [lookup, lookup_eq_none_of_not_mem keysNodup.1]
      · simp [hit, lookup]

end GoMap

end OrbitTls
