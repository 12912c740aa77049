import Mathlib.Data.List.Perm.Basic
import Tollgate.Proofs.Json.Fields

/-!
What a structure is read from. Each of its fields has a name, and either has to come or has a
default. An object gives the values of a field by name, and anything else in it is passed over; an
array gives them in order. So what is read depends on the values of the fields alone.
-/

namespace Tollgate.Json

/-- A field of structures `α`: the part of the structure that it holds, how that is read, and what
it holds if it does not come, unless it has to come. -/
structure Field (α : Type) where
  name : String
  {Part : Type}
  part : α → Part
  read? : Value → Option Part
  default? : Option Part := none

namespace Field

variable {α : Type} (fld : Field α)

/-- What a field holds if these values come under its name. -/
def value? : List Value → Option fld.Part
  | [] => fld.default?
  | [v] => fld.read? v
  | _ => none

/-- Whether these values may come under the name of a field: none or one that can be read, and one
if the field has to come. -/
structure Admits (vs : List Value) : Prop where
  once : vs.length ≤ 1
  required : fld.default? = none → vs.length = 1
  read : ∀ v ∈ vs, (fld.read? v).isSome

/-- What a field holds among those that came. -/
def find (f : Fields) : Option fld.Part :=
  match fld.default? with
  | none => f.required fld.name fld.read?
  | some d => f.defaulted fld.name d fld.read?

theorem find_eq (f : Fields) : fld.find f = fld.value? (f.get? fld.name).toList := by
  unfold find Fields.required Fields.defaulted
  cases f.get? fld.name with
  | none => cases hDefault : fld.default? <;> simp [value?, hDefault]
  | some v => cases fld.default? <;> rfl

theorem isSome_value?_iff (vs : List Value) : (fld.value? vs).isSome ↔ fld.Admits vs := by
  match vs with
  | [] =>
      constructor
      · intro h
        exact ⟨Nat.zero_le 1, fun hNone => by simp [value?, hNone] at h, List.forall_mem_nil _⟩
      · intro h
        cases hDefault : fld.default? with
        | none => exact absurd (h.required hDefault) (by simp)
        | some d => simp [value?, hDefault]
  | [v] =>
      constructor
      · intro h
        exact ⟨Nat.le_refl 1, fun _ => rfl, List.forall_mem_singleton.2 h⟩
      · exact fun h => h.read v List.mem_cons_self
  | v :: w :: vs =>
      constructor
      · exact fun h => by cases h
      · exact fun h => absurd h.once (by simp)

/-- What a field holds depends on what its values are read as, if at all. -/
theorem value?_congr {vs ws : List Value} (h : (vs.map fld.read?).Perm (ws.map fld.read?)) :
    fld.value? vs = fld.value? ws := by
  have hLength : vs.length = ws.length := by simpa using h.length_eq
  match vs, ws with
  | [], [] => rfl
  | [v], [w] => simpa [value?] using h
  | v :: w :: vs, x :: y :: ws => rfl

end Field

/-- The names that items get are names of fields. -/
theorem map_fst_zip_sublist {β γ : Type} (bs : List β) (cs : List γ) :
    ((bs.zip cs).map Prod.fst).Sublist bs := by
  induction bs generalizing cs with
  | nil => exact .slnil
  | cons b bs ih =>
      cases cs with
      | nil => exact List.nil_sublist _
      | cons c cs => exact (ih cs).cons_cons b

/-- The fields of items in their order each have one value, and those behind them none. -/
theorem forall_occurrences_zip {α : Type} {fields : List (Field α)}
    (hNames : (fields.map (·.name)).Nodup) (items : List Value) (P : Field α → List Value → Prop) :
    (∀ fld ∈ fields, P fld (occurrences fld.name ((fields.map (·.name)).zip items))) ↔
      (∀ p ∈ fields.zip items, P p.1 [p.2]) ∧ ∀ fld ∈ fields.drop items.length, P fld [] := by
  induction fields generalizing items with
  | nil => simp
  | cons fld fields ih =>
      cases items with
      | nil => simp [occurrences]
      | cons v items =>
          rw [List.map_cons, List.nodup_cons] at hNames
          obtain ⟨hFresh, hNames⟩ := hNames
          have hFirst : occurrences fld.name
              ((fld.name, v) :: (fields.map (·.name)).zip items) = [v] := by
            have hNone : occurrences fld.name ((fields.map (·.name)).zip items) = [] :=
              occurrences_of_not_mem fun h => hFresh ((map_fst_zip_sublist _ items).subset h)
            simpa [occurrences] using hNone
          have hRest (other : Field α) (hOther : other ∈ fields) : occurrences other.name
              ((fld.name, v) :: (fields.map (·.name)).zip items) =
                occurrences other.name ((fields.map (·.name)).zip items) := by
            have hNe : fld.name ≠ other.name := fun hSame =>
              hFresh (hSame ▸ List.mem_map_of_mem hOther)
            simp [occurrences, hNe]
          simp only [List.map_cons, List.zip_cons_cons, List.forall_mem_cons, hFirst,
            List.length_cons, List.drop_succ_cons, and_assoc, ← ih hNames]
          exact and_congr_right fun _ => forall₂_congr fun other hOther => by rw [hRest other hOther]

/-- Whether a name is that of a field. -/
def isKnown {α : Type} (fields : List (Field α)) (name : String) : Bool :=
  fields.any (·.name = name)

/-- The fields that a reader reads a structure from. There is something to read if every field holds
something, and then each part of it is what the field of that part holds. -/
structure Layout {α : Type} (read? : Value → Option α) where
  fields : List (Field α)
  nodup : (fields.map (·.name)).Nodup
  reads (v : Value) (x : α) : read? v = some x ↔
    ∃ f, v.fields? (fields.map (·.name)) = some f ∧ ∀ fld ∈ fields, fld.find f = some (fld.part x)
  complete (v : Value) : (read? v).isSome ↔
    ∃ f, v.fields? (fields.map (·.name)) = some f ∧ ∀ fld ∈ fields, (fld.find f).isSome

namespace Layout

variable {α : Type} {read? : Value → Option α} (l : Layout read?)

/-- What a field holds in an object. -/
theorem find_of_fields?_ofFields {ms : List (String × Value)} {f : Fields} {fld : Field α}
    (h : (Value.ofFields ms).fields? (l.fields.map (·.name)) = some f) (hField : fld ∈ l.fields) :
    fld.find f = fld.value? (occurrences fld.name ms) := by
  obtain ⟨hHead, hOnce⟩ := get?_of_fields?_ofFields h (List.mem_map_of_mem hField)
  rw [fld.find_eq, hHead, ← List.take_one, List.take_of_length_le hOnce]

/-- If every field holds something, none comes twice. -/
theorem exists_fields? {ms : List (String × Value)}
    (h : ∀ fld ∈ l.fields, (fld.value? (occurrences fld.name ms)).isSome) :
    ∃ f, (Value.ofFields ms).fields? (l.fields.map (·.name)) = some f := by
  apply exists_fields?_ofFields
  intro name hName
  obtain ⟨fld, hField, rfl⟩ := List.mem_map.1 hName
  exact ((fld.isSome_value?_iff _).1 (h fld hField)).once

/-- What an object means: each part of it is what the field of that part holds. -/
theorem read?_ofFields_eq_some_iff (ms : List (String × Value)) (x : α) :
    read? (.ofFields ms) = some x ↔
      ∀ fld ∈ l.fields, fld.value? (occurrences fld.name ms) = some (fld.part x) := by
  rw [l.reads]
  constructor
  · rintro ⟨f, hFields, hParts⟩ fld hField
    rw [← l.find_of_fields?_ofFields hFields hField]
    exact hParts fld hField
  · intro hParts
    obtain ⟨f, hFields⟩ := l.exists_fields? fun fld hField => by rw [hParts fld hField]; rfl
    refine ⟨f, hFields, fun fld hField => ?_⟩
    rw [l.find_of_fields?_ofFields hFields hField]
    exact hParts fld hField

/-- When an object means something: when the values under the name of each field may come there. -/
theorem isSome_read?_ofFields_iff (ms : List (String × Value)) :
    (read? (.ofFields ms)).isSome ↔ ∀ fld ∈ l.fields, fld.Admits (occurrences fld.name ms) := by
  simp only [← Field.isSome_value?_iff]
  constructor
  · intro h fld hField
    obtain ⟨x, hRead⟩ := Option.isSome_iff_exists.1 h
    rw [(l.read?_ofFields_eq_some_iff ms x).1 hRead fld hField]
    rfl
  · intro h
    obtain ⟨f, hFields⟩ := l.exists_fields? h
    apply (l.complete _).2 ⟨f, hFields, fun fld hField => ?_⟩
    rw [l.find_of_fields?_ofFields hFields hField]
    exact h fld hField

/-- Objects in which the values of each field are read as the same, in any order, mean the same. -/
theorem read?_ofFields_congr {ms ns : List (String × Value)}
    (h : ∀ fld ∈ l.fields, ((occurrences fld.name ms).map fld.read?).Perm
      ((occurrences fld.name ns).map fld.read?)) :
    read? (.ofFields ms) = read? (.ofFields ns) := by
  apply Option.ext
  intro x
  simp only [l.read?_ofFields_eq_some_iff]
  constructor
  · intro hParts fld hField
    rw [← fld.value?_congr (h fld hField)]
    exact hParts fld hField
  · intro hParts fld hField
    rw [fld.value?_congr (h fld hField)]
    exact hParts fld hField

/-- The order of members does not matter. -/
theorem read?_ofFields_perm (l : Layout read?) {ms ns : List (String × Value)} (h : ms.Perm ns) :
    read? (.ofFields ms) = read? (.ofFields ns) :=
  l.read?_ofFields_congr fun _ _ => ((h.filter _).map _).map _

/-- Members of unknown names do not matter. -/
theorem read?_ofFields_known (ms : List (String × Value)) :
    read? (.ofFields ms) = read? (.ofFields (ms.filter fun m => isKnown l.fields m.1)) := by
  apply l.read?_ofFields_congr
  intro fld hField
  have hKnown : occurrences fld.name (ms.filter fun m => isKnown l.fields m.1) = occurrences fld.name ms := by
    rw [occurrences, List.filter_filter, occurrences]
    congr 1
    apply List.filter_congr
    intro m _
    have hKnows : m.1 = fld.name → isKnown l.fields m.1 := fun hName =>
      List.any_eq_true.2 ⟨fld, hField, decide_eq_true hName.symm⟩
    by_cases hName : m.1 = fld.name
    · simp [hName, hName ▸ hKnows hName]
    · simp [hName]
  rw [hKnown]

/-- An array is the object that gives its items the names of the fields in order, and no longer than
there are fields. -/
theorem read?_array (items : List Value) :
    read? (.array items) =
      if items.length ≤ l.fields.length then
        read? (.ofFields ((l.fields.map (·.name)).zip items))
      else none := by
  have hFields : (Value.array items).fields? (l.fields.map (·.name)) =
      if items.length ≤ l.fields.length then some ((l.fields.map (·.name)).zip items) else none := by
    rw [Value.fields?, List.length_map]
  split_ifs at hFields ⊢ with hLength
  · apply Option.ext
    intro x
    rw [l.reads, l.read?_ofFields_eq_some_iff, hFields]
    have hFind (fld : Field α) : fld.find ((l.fields.map (·.name)).zip items) =
        fld.value? (occurrences fld.name ((l.fields.map (·.name)).zip items)) := by
      have hOnce := length_occurrences_le_one (l.nodup.sublist (map_fst_zip_sublist _ items)) fld.name
      rw [fld.find_eq, Fields.get?_eq_head?, ← List.take_one, List.take_of_length_le hOnce]
    simp [hFind]
  · cases hRead : read? (.array items) with
    | none => rfl
    | some x =>
        obtain ⟨f, hSome, -⟩ := (l.reads _ _).1 hRead
        rw [hFields] at hSome
        cases hSome

/-- When an array means something: when each item is read by the field in its place, and the fields
behind the last item may be left out. -/
theorem isSome_read?_array_iff (items : List Value) :
    (read? (.array items)).isSome ↔ items.length ≤ l.fields.length ∧
      (∀ p ∈ l.fields.zip items, (p.1.read? p.2).isSome) ∧
      ∀ fld ∈ l.fields.drop items.length, fld.default?.isSome := by
  rw [l.read?_array]
  split_ifs with hLength
  · simp only [hLength, true_and, l.isSome_read?_ofFields_iff, ← Field.isSome_value?_iff]
    exact forall_occurrences_zip l.nodup items fun fld vs => (fld.value? vs).isSome
  · simp [hLength]

/-- An object with a name in which half a character stands alone means nothing. -/
theorem read?_of_nameless (l : Layout read?) {ms : List (Option String × Value)}
    (h : ∃ m ∈ ms, m.1 = none) : read? (.object ms) = none := by
  cases hRead : read? (.object ms) with
  | none => rfl
  | some x =>
      obtain ⟨f, hFields, -⟩ := (l.reads _ _).1 hRead
      obtain ⟨m, hm, hNone⟩ := h
      rw [Value.fields?] at hFields
      split_ifs at hFields with hNames
      rw [Bool.and_eq_true, List.all_eq_true] at hNames
      have hSome := hNames.1 m hm
      rw [hNone] at hSome
      cases hSome

end Layout

end Tollgate.Json
