/-!
Finite tables: at most one value under each key. What a table holds is told by `get?`; the order of
its entries has no meaning.
-/

namespace Tollgate

/-- A finite table from keys to values. -/
structure Table (K V : Type) where
  entries : List (K × V) := []
  nodup : (entries.map (·.1)).Nodup := by simp

namespace Table

variable {K V : Type}

/-- A table of no keys. -/
def empty : Table K V where

instance : Inhabited (Table K V) := ⟨empty⟩

/-- The keys that have a value. -/
def keys (t : Table K V) : List K :=
  t.entries.map (·.1)

/-- The number of keys that have a value. -/
def size (t : Table K V) : Nat :=
  t.entries.length

variable [DecidableEq K]

/-- The value under a key, if there is one. -/
def get? (t : Table K V) (k : K) : Option V :=
  (t.entries.find? fun p => p.1 = k).map (·.2)

/-- Whether a key has a value. -/
def contains (t : Table K V) (k : K) : Bool :=
  (t.get? k).isSome

/-- The table without a key. -/
def erase (t : Table K V) (k : K) : Table K V where
  entries := t.entries.filter fun p => p.1 ≠ k
  nodup := t.nodup.sublist (List.filter_sublist.map _)

/-- The table with a value under a key in place of any other. -/
def put (t : Table K V) (k : K) (v : V) : Table K V where
  entries := (k, v) :: (t.erase k).entries
  nodup := by
    refine List.nodup_cons.2 ⟨?_, (t.erase k).nodup⟩
    simp [erase]

theorem get?_erase (t : Table K V) (k l : K) :
    (t.erase k).get? l = if l = k then none else t.get? l := by
  simp only [get?, erase, List.find?_filter]
  split
  · next h => simp [h]
  · next h =>
    congr 2
    funext p
    by_cases hp : p.1 = l <;> simp [hp, h]

theorem get?_put (t : Table K V) (k : K) (v : V) (l : K) :
    (t.put k v).get? l = if l = k then some v else t.get? l := by
  by_cases h : l = k
  · simp [get?, put, h]
  · have erased := get?_erase t k l
    rw [if_neg h] at erased ⊢
    rw [← erased]
    simp [get?, put, Ne.symm h]

end Table

end Tollgate
