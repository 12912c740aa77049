import Mathlib.Data.List.Basic
import Tollgate.Guard.Report
import Tollgate.Proofs.Guard.Parts

/-!
Reports as lines. Each report of a guard goes out as one line, which tells by its name what was
reported; so the lines of a name count the reports.
-/

namespace Tollgate

namespace Metrics.Sink

/-- Whether a line is a sample of the metric of a name. -/
def isLineOf (stem name line : String) : Bool :=
  (lead stem ++ name.toList ++ [':']).isPrefixOf line.toList

/-- Two names without a colon are told apart by what stands before the first colon. -/
theorem colon_prefix_iff {a b rest : List Char} (ha : ':' ∉ a) (hb : ':' ∉ b) :
    a ++ [':'] <+: b ++ ':' :: rest ↔ a = b := by
  constructor
  · rintro ⟨tail, hTail⟩
    have hUpTo (name after : List Char) (h : ':' ∉ name) :
        (name ++ ':' :: after).takeWhile (· != ':') = name := by
      rw [List.takeWhile_append_of_pos]
      · simp
      · intro x hx
        simp only [bne_iff_ne]
        rintro rfl
        exact h hx
    rw [List.append_assoc, List.singleton_append] at hTail
    rw [← hUpTo a tail ha, hTail, hUpTo b rest hb]
  · rintro rfl
    exact ⟨rest, by simp⟩

/-- A line is one of the metric of its name and of no other. -/
theorem isLineOf_line {stem name other : String} (hName : ':' ∉ name.toList)
    (hOther : ':' ∉ other.toList) (sample : Sample) :
    isLineOf stem name (line stem other sample) = decide (name = other) := by
  rw [Bool.eq_iff_iff, isLineOf, line, List.isPrefixOf_iff_prefix, String.toList_ofList,
    List.append_assoc, List.append_assoc, List.prefix_append_right_inj,
    colon_prefix_iff hName hOther, decide_eq_true_iff]
  exact String.toList_inj

end Metrics.Sink

namespace Guard

/-- The name under which a report goes out. -/
def Note.name (n : Note) : String :=
  (n.metric 0).1

/-- How long a load took does not show in the name. -/
theorem Note.metric_fst (n : Note) (loadMs : Nat) : (n.metric loadMs).1 = n.name := by
  cases n <;> rfl

/-- A report on a lookup. -/
def Note.OnLookup : Note → Prop
  | .hit _ | .miss _ | .load _ => True
  | .loadFailure | .limitExceeded | .size _ _ => False

/-- The report without the size that it tells. -/
def Note.unsized : Note → Note
  | .size c _ => .size c 0
  | n => n

/-- One report of every name. -/
def Note.all : List Note :=
  Concern.all.flatMap (fun c => [.hit c, .miss c, .load c, .size c 0]) ++
    [.loadFailure, .limitExceeded]

theorem Note.unsized_mem_all (n : Note) : n.unsized ∈ all := by
  cases n with
  | hit c | miss c | load c => cases c <;> decide
  | loadFailure | limitExceeded => decide
  | size c k =>
      show Note.size c 0 ∈ all
      cases c <;> decide

theorem Note.name_unsized (n : Note) : n.unsized.name = n.name := by
  cases n <;> rfl

theorem Note.colon_not_mem_name (n : Note) : ':' ∉ n.name.toList := by
  have hAll : ∀ m ∈ all, ':' ∉ m.name.toList := by decide +kernel
  rw [← n.name_unsized]
  exact hAll _ n.unsized_mem_all

/-- A report on a lookup shares its name with no other report. -/
theorem Note.name_eq_iff {m : Note} (h : m.OnLookup) (n : Note) : m.name = n.name ↔ m = n := by
  have hAll : ∀ m ∈ all, ∀ n ∈ all, m.name = n.name → m = n := by decide +kernel
  constructor
  · intro hName
    have hSame : m.unsized = n.unsized :=
      hAll _ m.unsized_mem_all _ n.unsized_mem_all
        ((m.name_unsized.trans hName).trans n.name_unsized.symm)
    cases n with
    | size c k => cases m <;> first | exact h.elim | cases hSame
    | _ => cases m <;> first | exact h.elim | exact hSame
  · rintro rfl
    rfl

/-- How many lines of the name of a report are sent by deeds. -/
def sent {C : Type} (sink : Metrics.Sink) (loadMs : Nat) (n : Note) (deeds : List (Deed C)) : Nat :=
  (lines sink loadMs deeds).countP fun line => sink.stem.any fun stem =>
    Metrics.Sink.isLineOf stem n.name line

/-- A sink that is enabled sends a line of a lookup for each report of it. -/
theorem sent_eq_count {C : Type} {sink : Metrics.Sink} (h : sink.isEnabled) (loadMs : Nat)
    {m : Note} (hLookup : m.OnLookup) (deeds : List (Deed C)) :
    sent sink loadMs m deeds = (notes deeds).count m := by
  obtain ⟨stem, hStem⟩ := Option.isSome_iff_exists.1 h
  have hLines : lines sink loadMs deeds = (notes deeds).map fun n =>
      Metrics.Sink.line stem n.name (n.metric loadMs).2 := by
    simp only [lines, Metrics.Sink.send, hStem, Option.toList_some, List.map_cons, List.map_nil,
      Note.metric_fst]
    exact List.flatMap_pure_eq_map _ _
  rw [sent, hLines, List.countP_map, List.count, hStem]
  refine List.countP_congr fun n _ => ?_
  rw [Function.comp_apply, Option.any_some,
    Metrics.Sink.isLineOf_line m.colon_not_mem_name n.colon_not_mem_name, decide_eq_true_iff,
    Note.name_eq_iff hLookup, beq_iff_eq]
  exact eq_comm

end Guard

end Tollgate
