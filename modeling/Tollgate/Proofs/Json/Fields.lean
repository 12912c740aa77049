import Tollgate.Json.Fields
import Tollgate.Proofs.Json.Writing

/-!
What is found in an object under a name, and what it takes that a written value is read back:
nothing in it that no text can hold, and a reader that undoes the writer.
-/

namespace Tollgate.Json

theorem find?_entries (ms : List (Option String × Value)) (names : List String) (name : String) :
    (names.flatMap fun n => (valuesOf n ms).map (n, ·)).find? (fun p => p.1 = name) =
      if name ∈ names then (valuesOf name ms).head?.map (name, ·) else none := by
  induction names with
  | nil => rfl
  | cons n names ih =>
      rw [List.flatMap_cons, List.find?_append, ih]
      by_cases hName : n = name
      · subst hName
        cases valuesOf n ms <;> simp
      · have hSkip : ((valuesOf n ms).map (n, ·)).find? (fun p => p.1 = name) = none := by
          simp [hName]
        simp [hSkip, Ne.symm hName]

/-- A field is the first member of its name. -/
theorem get?_of_fields?_object {names : List String} {ms : List (Option String × Value)}
    {f : Fields} (h : (Value.object ms).fields? names = some f) {name : String}
    (hName : name ∈ names) : f.get? name = (valuesOf name ms).head? := by
  rw [Value.fields?] at h
  split_ifs at h
  obtain rfl := Option.some.inj h
  rw [Fields.get?, find?_entries, if_pos hName, Option.map_map]
  exact Option.map_id'

@[simp]
theorem Fields.get?_cons (p : String × Value) (f : Fields) (name : String) :
    Fields.get? (p :: f) name = if p.1 = name then some p.2 else Fields.get? f name := by
  unfold Fields.get?
  rw [List.find?_cons]
  split_ifs with hName <;> simp [hName]

@[simp]
theorem Fields.get?_nil (name : String) : Fields.get? [] name = none := rfl

/-- The values that come under a name among members. -/
def occurrences (name : String) (ms : List (String × Value)) : List Value :=
  (ms.filter fun m => m.1 = name).map (·.2)

theorem valuesOf_named (name : String) (ms : List (String × Value)) :
    valuesOf name (ms.map fun m => (some m.1, m.2)) = occurrences name ms := by
  rw [valuesOf, List.filter_map, List.map_map, occurrences]
  congr 1
  exact List.filter_congr fun m _ => by simp

theorem occurrences_of_not_mem {name : String} {ms : List (String × Value)}
    (h : name ∉ ms.map (·.1)) : occurrences name ms = [] := by
  rw [occurrences, List.map_eq_nil_iff, List.filter_eq_nil_iff]
  exact fun m hm hName => h (List.mem_map.2 ⟨m, hm, of_decide_eq_true hName⟩)

theorem Fields.get?_eq_head? (f : Fields) (name : String) :
    f.get? name = (occurrences name f).head? := by
  rw [Fields.get?, occurrences, List.head?_map, List.head?_filter]

theorem length_occurrences_le_one {ms : List (String × Value)} (h : (ms.map (·.1)).Nodup)
    (name : String) : (occurrences name ms).length ≤ 1 := by
  rw [occurrences, List.length_map, ← List.countP_eq_length_filter]
  refine Nat.le_trans (Nat.le_of_eq ?_) (List.nodup_iff_count.1 h name)
  rw [List.count, List.countP_map]
  exact List.countP_congr fun m _ => by simp

/-- The fields of an object are there if none of them comes twice. -/
theorem exists_fields?_ofFields {names : List String} {ms : List (String × Value)}
    (h : ∀ name ∈ names, (occurrences name ms).length ≤ 1) :
    ∃ f, (Value.ofFields ms).fields? names = some f := by
  refine ⟨_, if_pos ?_⟩
  simpa [valuesOf_named] using h

/-- A field of an object is what comes under its name, once at most. -/
theorem get?_of_fields?_ofFields {names : List String} {ms : List (String × Value)} {f : Fields}
    (h : (Value.ofFields ms).fields? names = some f) {name : String} (hName : name ∈ names) :
    f.get? name = (occurrences name ms).head? ∧ (occurrences name ms).length ≤ 1 := by
  constructor
  · rw [get?_of_fields?_object h hName, valuesOf_named]
  · rw [Value.ofFields, Value.fields?] at h
    split_ifs at h with hOnce
    simp only [Bool.and_eq_true, List.all_eq_true, decide_eq_true_eq, valuesOf_named] at hOnce
    exact hOnce.2 name hName

/-- What is read from fields that are written under different names finds them under these. -/
theorem bind_fields?_ofFields {α : Type} {fields : List (String × Value)} {names : List String}
    {read : Fields → Option α} {x : Option α} (hNames : (fields.map (·.1)).Nodup)
    (h : ∀ f : Fields, (∀ name ∈ names, f.get? name = Fields.get? fields name) → read f = x) :
    ((Value.ofFields fields).fields? names).bind read = x := by
  have hOnce : ∀ name ∈ names, (occurrences name fields).length ≤ 1 := fun name _ =>
    length_occurrences_le_one hNames name
  obtain ⟨f, hFields⟩ := exists_fields?_ofFields hOnce
  rw [hFields, Option.bind_some]
  refine h f fun name hName => ?_
  rw [(get?_of_fields?_ofFields hFields hName).1, Fields.get?_eq_head?]

namespace Value

@[simp]
theorem string?_text (s : String) : (text s).string? = some s := rfl

@[simp]
theorem bool?_bool (b : Bool) : (bool b).bool? = some b := rfl

@[simp]
theorem uint16?_natural (n : UInt16) : (natural n.toNat).uint16? = some n := by
  simp [uint16?, n.toNat_lt]

@[simp]
theorem uint64?_natural (n : UInt64) : (natural n.toNat).uint64? = some n := by
  simp [uint64?, n.toNat_lt]

@[simp]
theorem isWhole_text (s : String) : (text s).IsWhole := by
  simp [IsWhole, Token.IsWhole, text, tokens]

@[simp]
theorem isWhole_natural (n : Nat) : (natural n).IsWhole := by
  simp [IsWhole, Token.IsWhole, tokens]

@[simp]
theorem isWhole_bool (b : Bool) : (bool b).IsWhole := by
  simp [IsWhole, Token.IsWhole, tokens]

theorem isWhole_items {vs : List Value} (h : ∀ v ∈ vs, v.IsWhole) :
    ∀ t ∈ itemTokens vs, t.IsWhole := by
  induction vs with
  | nil => exact List.forall_mem_nil _
  | cons v vs ih =>
      rw [List.forall_mem_cons] at h
      simp only [itemTokens, List.forall_mem_append, List.forall_mem_cons]
      refine ⟨⟨?_, h.1⟩, ih h.2⟩
      simp [Token.IsWhole]

theorem isWhole_array {vs : List Value} (h : ∀ v ∈ vs, v.IsWhole) : (array vs).IsWhole := by
  cases vs with
  | nil => simp [IsWhole, tokens, Token.IsWhole]
  | cons v vs =>
      rw [List.forall_mem_cons] at h
      simp only [IsWhole, tokens, List.forall_mem_append, List.forall_mem_cons]
      refine ⟨⟨⟨?_, h.1⟩, isWhole_items h.2⟩, ?_, List.forall_mem_nil _⟩ <;> simp [Token.IsWhole]

theorem isWhole_members {fields : List (String × Value)} (h : ∀ p ∈ fields, p.2.IsWhole) :
    ∀ t ∈ memberTokens (fields.map fun p => (some p.1, p.2)), t.IsWhole := by
  induction fields with
  | nil => exact List.forall_mem_nil _
  | cons p fields ih =>
      rw [List.forall_mem_cons] at h
      simp only [List.map_cons, memberTokens, List.forall_mem_append, List.forall_mem_cons]
      refine ⟨⟨?_, ?_, ?_, h.1⟩, ih h.2⟩ <;> simp [Token.IsWhole]

theorem isWhole_ofFields {fields : List (String × Value)} (h : ∀ p ∈ fields, p.2.IsWhole) :
    (ofFields fields).IsWhole := by
  cases fields with
  | nil => simp [ofFields, IsWhole, tokens, Token.IsWhole]
  | cons p fields =>
      rw [List.forall_mem_cons] at h
      simp only [ofFields, IsWhole, List.map_cons, tokens, List.forall_mem_append,
        List.forall_mem_cons]
      refine ⟨⟨⟨?_, ?_, ?_, h.1⟩, isWhole_members h.2⟩, ?_, List.forall_mem_nil _⟩ <;>
        simp [Token.IsWhole]

end Value

/-- What is written as a value can stand in a text, and is read back from the value. -/
structure Restores {α : Type} (write : α → Value) (read? : Value → Option α) (x : α) : Prop where
  isWhole : (write x).IsWhole
  read?_write : read? (write x) = some x

namespace Restores

variable {α : Type} {write : α → Value} {read? : Value → Option α}

/-- A list is read back if all its items are. -/
theorem list {xs : List α} (h : ∀ x ∈ xs, Restores write read? x) :
    Restores (fun xs => .array (xs.map write)) (Value.list? read?) xs where
  isWhole := by
    refine Value.isWhole_array fun v hv => ?_
    obtain ⟨x, hx, rfl⟩ := List.mem_map.1 hv
    exact (h x hx).isWhole
  read?_write := by
    rw [Value.list?]
    induction xs with
    | nil => rfl
    | cons x xs ih =>
        rw [List.forall_mem_cons] at h
        rw [List.map_cons, List.mapM_cons, h.1.read?_write, ih h.2]
        rfl

/-- Both written forms of it are read back. -/
theorem ofText? {x : α} (h : Restores write read? x) :
    (Value.ofText? (write x).compact).bind read? = some x ∧
      (Value.ofText? (write x).indented).bind read? = some x := by
  rw [Value.ofText?_compact h.isWhole, Value.ofText?_indented h.isWhole]
  exact ⟨h.read?_write, h.read?_write⟩

end Restores

end Tollgate.Json
