import Tollgate.Proofs.Json.Scanning

/-!
What is written is read back. The units of a value are put together to that value, whatever they
stand in; and both written forms, the compact one and the one in lines, are texts of these units.
-/

namespace Tollgate.Json

namespace Reading

theorem run_cons {r next : Reading} {t : Token} (h : r.step t = some next) (ts : List Token) :
    r.run (t :: ts) = next.run ts := by
  simp [run, h]

/-- Right behind `[` a value is read as anywhere. -/
theorem run_firstItem (stack : List Frame) (v : Value) (ts : List Token) :
    (firstItem stack).run (v.tokens ++ ts) = (value (.items [] :: stack)).run (v.tokens ++ ts) := by
  cases v with
  | array items => cases items <;> simp [Value.tokens, run, step]
  | object members => cases members <;> simp [Value.tokens, run, step]
  | _ => simp [Value.tokens, run, step]

end Reading

open Reading

-- What holds a value, and what follows it, stay open, so that items and members can be read on top
-- of the array or object that they are in.
mutual

/-- The units of a value are read as that value. -/
theorem Value.run_tokens (stack : List Frame) (ts : List Token) :
    (v : Value) → (value stack).run (v.tokens ++ ts) = (after stack v).run ts
  | .null | .bool _ | .natural _ | .otherNumber | .string _ | .array [] | .object [] => by
      simp [Value.tokens, run, step, begin]
  | .array (v :: vs) => by
      calc (value stack).run ((Value.array (v :: vs)).tokens ++ ts)
        _ = (firstItem stack).run (v.tokens ++ (itemTokens vs ++ .closeBracket :: ts)) := by
            simp [Value.tokens, run, step, begin]
        _ = (after (.items [] :: stack) v).run (itemTokens vs ++ .closeBracket :: ts) := by
            rw [run_firstItem, Value.run_tokens _ _ v]
        _ = (after stack (.array (v :: vs))).run ts := run_itemTokens stack ts [] v vs
  | .object ((k, v) :: ms) => by
      calc (value stack).run ((Value.object ((k, v) :: ms)).tokens ++ ts)
        _ = (value (.members [] k :: stack)).run
              (v.tokens ++ (memberTokens ms ++ .closeBrace :: ts)) := by
            simp [Value.tokens, run, step, begin]
        _ = (after (.members [] k :: stack) v).run (memberTokens ms ++ .closeBrace :: ts) :=
            Value.run_tokens _ _ v
        _ = (after stack (.object ((k, v) :: ms))).run ts := run_memberTokens stack ts [] k v ms

/-- Further items go into the array behind those read before. -/
theorem run_itemTokens (stack : List Frame) (ts : List Token) (done : List Value) (w : Value) :
    (vs : List Value) →
      (after (.items done :: stack) w).run (itemTokens vs ++ .closeBracket :: ts) =
        (after stack (.array ((w :: done).reverse ++ vs))).run ts
  | [] => by simp [itemTokens, run, step]
  | v :: vs => by
      calc (after (.items done :: stack) w).run (itemTokens (v :: vs) ++ .closeBracket :: ts)
        _ = (value (.items (w :: done) :: stack)).run
              (v.tokens ++ (itemTokens vs ++ .closeBracket :: ts)) := by
            simp [itemTokens, run, step]
        _ = (after (.items (w :: done) :: stack) v).run (itemTokens vs ++ .closeBracket :: ts) :=
            Value.run_tokens _ _ v
        _ = (after stack (.array ((w :: done).reverse ++ v :: vs))).run ts := by
            rw [run_itemTokens stack ts (w :: done) v vs, List.reverse_cons (a := v),
              List.append_assoc]
            rfl

/-- Further members go into the object behind those read before. -/
theorem run_memberTokens (stack : List Frame) (ts : List Token)
    (done : List (Option String × Value)) (l : Option String) (w : Value) :
    (ms : List (Option String × Value)) →
      (after (.members done l :: stack) w).run (memberTokens ms ++ .closeBrace :: ts) =
        (after stack (.object (((l, w) :: done).reverse ++ ms))).run ts
  | [] => by simp [memberTokens, run, step]
  | (k, v) :: ms => by
      calc
        (after (.members done l :: stack) w).run (memberTokens ((k, v) :: ms) ++ .closeBrace :: ts)
        _ = (value (.members ((l, w) :: done) k :: stack)).run
              (v.tokens ++ (memberTokens ms ++ .closeBrace :: ts)) := by
            simp [memberTokens, run, step]
        _ = (after (.members ((l, w) :: done) k :: stack) v).run
              (memberTokens ms ++ .closeBrace :: ts) := Value.run_tokens _ _ v
        _ = (after stack (.object (((l, w) :: done).reverse ++ (k, v) :: ms))).run ts := by
            rw [run_memberTokens stack ts ((l, w) :: done) k v ms, List.reverse_cons (a := (k, v)),
              List.append_assoc]
            rfl

end

theorem Value.ofTokens?_tokens (v : Value) : Value.ofTokens? v.tokens = some v := by
  have h := Value.run_tokens [] [] v
  rwa [List.append_nil] at h

/-- A value whose strings, keys included, can all be read. -/
def Value.IsWhole (v : Value) : Prop :=
  ∀ t ∈ v.tokens, t.IsWhole

namespace Spaced

variable {ts : List Token} {cs : List Char}

/-- A unit that is no number may stand before anything. -/
theorem plain {t : Token} (hWhole : t.IsWhole) (hPlain : t.isNumber = false) (h : Spaced ts cs) :
    Spaced (t :: ts) (t.chars ++ cs) :=
  h.unit hWhole fun hNumber => by
    rw [hPlain] at hNumber
    cases hNumber

theorem newLine (depth : Nat) (h : Spaced ts cs) : Spaced ts (newLine depth ++ cs) := by
  refine .space rfl ?_
  induction 2 * depth with
  | zero => exact h
  | succ n ih => exact .space rfl ih

/-- Without its white space a text still is one of the same units. -/
theorem dense (h : Spaced ts cs) : Spaced ts (ts.flatMap Token.chars) := by
  induction h with
  | nil => exact .nil
  | space _ _ ih => exact ih
  | unit hWhole hNumber _ ih => exact .unit hWhole hNumber ih

end Spaced

theorem startsPlain_items (vs : List Value) (ts : List Token) :
    StartsPlain (itemTokens vs ++ .closeBracket :: ts) := by
  cases vs <;> (intro t ht; obtain rfl := Option.some.inj ht; rfl)

theorem startsPlain_members (ms : List (Option String × Value)) (ts : List Token) :
    StartsPlain (memberTokens ms ++ .closeBrace :: ts) := by
  cases ms with
  | nil => intro t ht; obtain rfl := Option.some.inj ht; rfl
  | cons m ms => intro t ht; obtain rfl := Option.some.inj ht; rfl

/-- The line of a member. -/
theorem Spaced.member (depth : Nat) {k : Option String} {ts : List Token} {cs : List Char}
    (hKey : (Token.string k).IsWhole) (h : Spaced ts cs) :
    Spaced (.string k :: .colon :: ts)
      (Json.newLine depth ++ ((Token.string k).chars ++ ':' :: ' ' :: cs)) :=
  have hColon := Spaced.plain (t := .colon) nofun rfl (.space (c := ' ') rfl h)
  (Spaced.plain hKey rfl hColon).newLine depth

-- The induction goes from the end of the text to its front: what follows is a text already, and says
-- that no number comes next.
mutual

/-- A value in lines is a text of its units, whatever follows it. -/
theorem Value.spaced_layOut (depth : Nat) {ts : List Token} {cs : List Char}
    (h : Spaced ts cs) (hPlain : StartsPlain ts) :
    (v : Value) → v.IsWhole → Spaced (v.tokens ++ ts) (v.layOut depth ++ cs)
  | .null, hWhole | .bool _, hWhole | .natural _, hWhole | .otherNumber, hWhole
  | .string _, hWhole => .unit (hWhole _ (.head _)) (fun _ => hPlain) h
  | .array [], _ => .plain (t := .openBracket) nofun rfl (.plain (t := .closeBracket) nofun rfl h)
  | .object [], _ => .plain (t := .openBrace) nofun rfl (.plain (t := .closeBrace) nofun rfl h)
  | .array (v :: vs), hWhole => by
      simp only [Value.IsWhole, Value.tokens, List.forall_mem_append, List.forall_mem_cons]
        at hWhole
      obtain ⟨⟨⟨-, hItem⟩, hItems⟩, -⟩ := hWhole
      have hRest := spaced_layOutItems depth h vs hItems
      have hValue := Value.spaced_layOut (depth + 1) hRest (startsPlain_items vs ts) v hItem
      have hAll := Spaced.plain (t := .openBracket) nofun rfl (hValue.newLine (depth + 1))
      simpa [Value.tokens, Value.layOut, Token.chars] using hAll
  | .object ((k, v) :: ms), hWhole => by
      simp only [Value.IsWhole, Value.tokens, List.forall_mem_append, List.forall_mem_cons]
        at hWhole
      obtain ⟨⟨⟨-, hKey, -, hMember⟩, hMembers⟩, -⟩ := hWhole
      have hRest := spaced_layOutMembers depth h ms hMembers
      have hValue := Value.spaced_layOut (depth + 1) hRest (startsPlain_members ms ts) v hMember
      have hAll := Spaced.plain (t := .openBrace) nofun rfl (hValue.member (depth + 1) hKey)
      simpa [Value.tokens, Value.layOut, Token.chars] using hAll

/-- Further items in lines, to the end of the array. -/
theorem spaced_layOutItems (depth : Nat) {ts : List Token} {cs : List Char} (h : Spaced ts cs) :
    (vs : List Value) → (∀ t ∈ itemTokens vs, t.IsWhole) →
      Spaced (itemTokens vs ++ .closeBracket :: ts)
        (layOutItems depth vs ++ newLine depth ++ ']' :: cs)
  | [], _ => (Spaced.plain (t := .closeBracket) nofun rfl h).newLine depth
  | v :: vs, hWhole => by
      simp only [itemTokens, List.forall_mem_append, List.forall_mem_cons] at hWhole
      obtain ⟨⟨-, hItem⟩, hItems⟩ := hWhole
      have hRest := spaced_layOutItems depth h vs hItems
      have hValue := Value.spaced_layOut (depth + 1) hRest (startsPlain_items vs ts) v hItem
      have hAll := Spaced.plain (t := .comma) nofun rfl (hValue.newLine (depth + 1))
      simpa [itemTokens, layOutItems, Token.chars] using hAll

/-- Further members in lines, to the end of the object. -/
theorem spaced_layOutMembers (depth : Nat) {ts : List Token} {cs : List Char} (h : Spaced ts cs) :
    (ms : List (Option String × Value)) → (∀ t ∈ memberTokens ms, t.IsWhole) →
      Spaced (memberTokens ms ++ .closeBrace :: ts)
        (layOutMembers depth ms ++ newLine depth ++ '}' :: cs)
  | [], _ => (Spaced.plain (t := .closeBrace) nofun rfl h).newLine depth
  | (k, v) :: ms, hWhole => by
      simp only [memberTokens, List.forall_mem_append, List.forall_mem_cons] at hWhole
      obtain ⟨⟨-, hKey, -, hMember⟩, hMembers⟩ := hWhole
      have hRest := spaced_layOutMembers depth h ms hMembers
      have hValue := Value.spaced_layOut (depth + 1) hRest (startsPlain_members ms ts) v hMember
      have hAll := Spaced.plain (t := .comma) nofun rfl (hValue.member (depth + 1) hKey)
      simpa [memberTokens, layOutMembers, Token.chars] using hAll

end

/-- Any text of the units of a value is read as that value. -/
theorem Value.ofText?_of_spaced {v : Value} {s : String} (h : Spaced v.tokens s.toList) :
    Value.ofText? s = some v := by
  rw [Value.ofText?, h.tokens?_eq]
  exact v.ofTokens?_tokens

theorem Value.spaced_indented {v : Value} (h : v.IsWhole) : Spaced v.tokens (v.layOut 0) := by
  have hText := Value.spaced_layOut 0 .nil (fun _ ht => nomatch ht) v h
  rwa [List.append_nil, List.append_nil] at hText

/-- A value is read back from its text in lines. -/
theorem Value.ofText?_indented {v : Value} (h : v.IsWhole) :
    Value.ofText? v.indented = some v := by
  refine ofText?_of_spaced ?_
  rw [Value.indented, String.toList_ofList]
  exact v.spaced_indented h

/-- A value is read back from its compact text. -/
theorem Value.ofText?_compact {v : Value} (h : v.IsWhole) : Value.ofText? v.compact = some v := by
  refine ofText?_of_spaced ?_
  rw [Value.compact, String.toList_ofList]
  exact (v.spaced_indented h).dense

end Tollgate.Json
