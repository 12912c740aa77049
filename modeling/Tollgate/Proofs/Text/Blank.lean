import Tollgate.Text.Blank

/-!
Trimming leaves a text with no white space at its ends, and leaves such a text as it is.
-/

namespace Tollgate.Text

/-- A text without white space at its ends. -/
structure Trimmed (cs : List Char) : Prop where
  head : ∀ c ∈ cs.head?, isBlank c = false
  last : ∀ c ∈ cs.getLast?, isBlank c = false

theorem isBlank_head?_dropWhile (cs : List Char) :
    ∀ c ∈ (cs.dropWhile isBlank).head?, isBlank c = false := by
  intro c hc
  have hNot := List.head?_dropWhile_not isBlank cs
  rw [Option.mem_def.1 hc] at hNot
  exact hNot

theorem trimEnd_prefix (cs : List Char) : trimEnd cs <+: cs := by
  have hSuffix := List.reverse_prefix.2 (List.dropWhile_suffix isBlank (l := cs.reverse))
  rwa [List.reverse_reverse] at hSuffix

theorem trimmed_trim (cs : List Char) : Trimmed (trim cs) where
  head := by
    intro c hc
    obtain ⟨rest, hCons⟩ := List.head?_eq_some_iff.1 hc
    obtain ⟨after, hAfter⟩ := trimEnd_prefix (trimStart cs)
    refine isBlank_head?_dropWhile cs c (Option.mem_def.2 ?_)
    have hWhole : trim cs ++ after = cs.dropWhile isBlank := hAfter
    rw [← hWhole, hCons]
    rfl
  last := by
    intro c hc
    refine isBlank_head?_dropWhile (trimStart cs).reverse c ?_
    rwa [trim, trimEnd, List.getLast?_reverse] at hc

/-- White space only is taken away, and only at the ends. -/
theorem Trimmed.trim_eq {cs : List Char} (h : Trimmed cs) : trim cs = cs := by
  have hDrop {ds : List Char} (hHead : ∀ c ∈ ds.head?, isBlank c = false) :
      ds.dropWhile isBlank = ds := by
    cases ds with
    | nil => rfl
    | cons d ds => exact List.dropWhile_cons_of_neg (by simp [hHead d rfl])
  have hStart : trimStart cs = cs := hDrop h.head
  have hEnd : cs.reverse.dropWhile isBlank = cs.reverse := by
    refine hDrop fun c hc => h.last c ?_
    rwa [List.head?_reverse] at hc
  rw [trim, hStart, trimEnd, hEnd, List.reverse_reverse]

theorem trim_trim (cs : List Char) : trim (trim cs) = trim cs :=
  (trimmed_trim cs).trim_eq

/-- A text without any white space stays as it is. -/
theorem trim_of_forall {cs : List Char} (h : ∀ c ∈ cs, isBlank c = false) : trim cs = cs :=
  Trimmed.trim_eq ⟨fun c hc => h c (List.mem_of_mem_head? hc),
    fun c hc => h c (List.mem_of_getLast? hc)⟩

end Tollgate.Text
