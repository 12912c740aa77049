import Tollgate.Proofs.Guard.Scene

/-!
The account that the deeds of a scene give of its memory. Every entry of a cache was told by the
replica at the time at which it was stored, and its service was not forgotten since.
-/

namespace Tollgate.Guard

variable {C S B A D : Type}

/-- An answer holds a fact: it is the answer about the concern, or a snapshot. -/
inductive Holds (c : Concern) (fact : c.Fact) : (q : Question) → Outcome q.Answer → Prop
  | single {a : c.Answer} (h : c.fact? a = some fact) : Holds c fact (.fact c) (.ok a)
  | joined {snapshot : Snapshot} (h : c.factOf snapshot = fact) :
      Holds c fact .snapshot (.ok (some snapshot))

/-- The deed is an answer of the replica at a time that holds a fact about a service. -/
inductive Tells (g : Guard C S B) (c : Concern) (s : ServiceId) (fact : c.Fact) (time : Nat) :
    Deed C → Prop
  | intro {q : Question} {outcome : Outcome q.Answer} (h : Holds c fact q outcome) :
      Tells g c s fact time (.asked g.replica q s time outcome)

/-- The deed makes the guard forget a service. -/
def Deed.Forgets (s : ServiceId) : Deed C → Prop
  | forgot none => True
  | forgot (some r) => r = s
  | _ => False

/-- Among the deeds of a log the replica told a fact about a service, which was not forgotten since.
The deeds before the answer are `earlier`. -/
def ToldSince (g : Guard C S B) (log earlier : List (Deed C)) (c : Concern) (s : ServiceId)
    (fact : c.Fact) (time : Nat) : Prop :=
  ∃ later d, log = later ++ d :: earlier ∧ g.Tells c s fact time d ∧ ∀ e ∈ later, ¬e.Forgets s

theorem ToldSince.cons {g : Guard C S B} {log earlier : List (Deed C)} {c : Concern}
    {s : ServiceId} {fact : c.Fact} {time : Nat} (h : g.ToldSince log earlier c s fact time)
    {d : Deed C} (hd : ¬d.Forgets s) : g.ToldSince (d :: log) earlier c s fact time := by
  obtain ⟨later, e, rfl, hTells, hLater⟩ := h
  refine ⟨d :: later, e, rfl, hTells, ?_⟩
  intro e' he'
  rcases List.mem_cons.1 he' with rfl | he'
  · exact hd
  · exact hLater e' he'

theorem ToldSince.append {g : Guard C S B} {log earlier : List (Deed C)} {c : Concern}
    {s : ServiceId} {fact : c.Fact} {time : Nat} (h : g.ToldSince log earlier c s fact time)
    {later : List (Deed C)} (hLater : ∀ e ∈ later, ¬e.Forgets s) :
    g.ToldSince (later ++ log) earlier c s fact time := by
  induction later with
  | nil => exact h
  | cons d later ih =>
      exact (ih fun e he => hLater e (List.mem_cons_of_mem d he)).cons
        (hLater d List.mem_cons_self)

/-- An answer that is not among the deeds of some past moment came after all of them. -/
theorem ToldSince.after {g : Guard C S B} {log earlier past : List (Deed C)} {c : Concern}
    {s : ServiceId} {fact : c.Fact} {time : Nat} (h : g.ToldSince log earlier c s fact time)
    (hPast : past <:+ log)
    (hNew : ∀ connection q r outcome, Deed.asked connection q r time outcome ∉ past) :
    past <:+ earlier := by
  obtain ⟨later, d, rfl, hTells, _⟩ := h
  have hAnswer : d ∉ past := by
    cases hTells with
    | intro => exact hNew _ _ _ _
  rcases List.suffix_or_suffix_of_suffix hPast (List.suffix_append later (d :: earlier)) with
    hSuffix | hSuffix
  · rcases List.suffix_cons_iff.1 hSuffix with rfl | hSuffix
    · exact absurd List.mem_cons_self hAnswer
    · exact hSuffix
  · exact absurd (hSuffix.subset List.mem_cons_self) hAnswer

/-- Every entry of the memory is accounted for by the log: the replica told its fact at the time at
which it was stored, and its service was not forgotten since. No answer of the log lies ahead. -/
structure Accounted (g : Guard C S B) (settings : CachesSettings) (m : Memory) (now : Nat)
    (log : List (Deed C)) : Prop where
  ttl : ∀ c, (m.cache c).ttl = (settings.of c).ttl
  timed : ∀ c, ∀ p ∈ (m.cache c).entries, p.2.Timed (settings.of c).ttl
  told : ∀ c, ∀ p ∈ (m.cache c).entries,
    ∃ earlier, g.ToldSince log earlier c p.1 p.2.value p.2.insertedAt
  past : ∀ connection q s time outcome, Deed.asked connection q s time outcome ∈ log → time ≤ now

namespace Accounted

variable {g : Guard C S B} {settings : CachesSettings} {m : Memory} {now : Nat}
  {log : List (Deed C)}

theorem opening : g.Accounted settings (.ofSettings settings) now [] where
  ttl c := by rw [Memory.cache_ofSettings]; rfl
  timed c p hp := by rw [Memory.cache_ofSettings] at hp; cases hp
  told c p hp := by rw [Memory.cache_ofSettings] at hp; cases hp
  past _ _ _ _ _ h := by cases h

theorem mono (h : g.Accounted settings m now log) {later : Nat} (hLater : now ≤ later) :
    g.Accounted settings m later log :=
  { h with past := fun connection q s time outcome hMem =>
      Nat.le_trans (h.past connection q s time outcome hMem) hLater }

/-- A memory of which every entry was there before is as well accounted for. -/
theorem of_subset (h : g.Accounted settings m now log) {m' : Memory}
    (hTtl : ∀ c, (m'.cache c).ttl = (m.cache c).ttl)
    (hEntries : ∀ c, ∀ p ∈ (m'.cache c).entries, p ∈ (m.cache c).entries) :
    g.Accounted settings m' now log where
  ttl c := (hTtl c).trans (h.ttl c)
  timed c p hp := h.timed c p (hEntries c p hp)
  told c p hp := h.told c p (hEntries c p hp)
  past := h.past

/-- Deeds that forget no service of the memory may be added. -/
theorem cons (h : g.Accounted settings m now log) {d : Deed C}
    (hForgets : ∀ c, ∀ p ∈ (m.cache c).entries, ¬d.Forgets p.1)
    (hPast : ∀ connection q s time outcome, d = .asked connection q s time outcome → time ≤ now) :
    g.Accounted settings m now (d :: log) where
  ttl := h.ttl
  timed := h.timed
  told c p hp := by
    obtain ⟨earlier, hTold⟩ := h.told c p hp
    exact ⟨earlier, hTold.cons (hForgets c p hp)⟩
  past connection q s time outcome hMem := by
    rcases List.mem_cons.1 hMem with rfl | hMem
    · exact hPast connection q s time outcome rfl
    · exact h.past connection q s time outcome hMem

theorem noted (h : g.Accounted settings m now log) (n : Note) :
    g.Accounted settings m now (.noted n :: log) :=
  h.cons (fun _ _ _ hForgets => hForgets) (fun _ _ _ _ _ hEq => by cases hEq)

theorem asked (h : g.Accounted settings m now log) (connection : C) (q : Question) (s : ServiceId)
    (outcome : Outcome q.Answer) :
    g.Accounted settings m now (.asked connection q s now outcome :: log) :=
  h.cons (fun _ _ _ hForgets => hForgets) (fun _ _ _ _ _ hEq => by cases hEq; exact Nat.le_refl _)

theorem look (h : g.Accounted settings m now log) (c : Concern) (s : ServiceId) :
    g.Accounted settings (m.look c s now).2 now log := by
  refine h.of_subset (fun d => ?_) (fun d p hp => ?_)
  · by_cases hd : d = c
    · subst d
      rw [Memory.cache_look, Cache.ttl_get]
    · rw [Memory.cache_look_of_ne m s now hd]
  · by_cases hd : d = c
    · subst d
      rw [Memory.cache_look] at hp
      exact Cache.mem_entries_get hp
    · rwa [Memory.cache_look_of_ne m s now hd] at hp

/-- A fact may be remembered if the replica told it at this very time. -/
theorem learn (h : g.Accounted settings m now log) {c : Concern} {s : ServiceId} {fact : c.Fact}
    {earlier : List (Deed C)} (hTold : g.ToldSince log earlier c s fact now) :
    g.Accounted settings (m.learn c s fact now) now log where
  ttl d := by
    by_cases hd : d = c
    · subst d
      rw [Memory.cache_learn, Cache.ttl_put, h.ttl]
    · rw [Memory.cache_learn_of_ne m s fact now hd, h.ttl]
  timed d p hp := by
    by_cases hd : d = c
    · subst d
      rw [Memory.cache_learn] at hp
      rcases Cache.mem_entries_put hp with rfl | ⟨hp, _⟩
      · rw [h.ttl]
        exact Cache.entryAt_timed _ _ _
      · exact h.timed c p hp
    · rw [Memory.cache_learn_of_ne m s fact now hd] at hp
      exact h.timed d p hp
  told d p hp := by
    by_cases hd : d = c
    · subst d
      rw [Memory.cache_learn] at hp
      rcases Cache.mem_entries_put hp with rfl | ⟨hp, _⟩
      · exact ⟨earlier, hTold⟩
      · exact h.told c p hp
    · rw [Memory.cache_learn_of_ne m s fact now hd] at hp
      exact h.told d p hp
  past := h.past

theorem invalidate (h : g.Accounted settings m now log) (s : ServiceId) :
    g.Accounted settings (m.invalidate s now) now (.forgot (some s) :: log) := by
  have hMem : ∀ c, ∀ p ∈ ((m.invalidate s now).cache c).entries,
      p ∈ (m.cache c).entries ∧ p.1 ≠ s := by
    intro c p hp
    rw [Memory.cache_invalidate] at hp
    exact Cache.mem_entries_remove.1 hp
  refine (h.of_subset (fun c => ?_) (fun c p hp => (hMem c p hp).1)).cons
    (fun c p hp hForgets => (hMem c p hp).2 hForgets.symm) (fun _ _ _ _ _ hEq => by cases hEq)
  rw [Memory.cache_invalidate]
  rfl

theorem clear (h : g.Accounted settings m now log) :
    g.Accounted settings m.clear now (.forgot none :: log) := by
  have hMem : ∀ c, ∀ p ∈ (m.clear.cache c).entries, False := by
    intro c p hp
    rw [Memory.cache_clear] at hp
    cases hp
  refine (h.of_subset (fun c => ?_) (fun c p hp => (hMem c p hp).elim)).cons
    (fun c p hp _ => hMem c p hp) (fun _ _ _ _ _ hEq => by cases hEq)
  rw [Memory.cache_clear]
  rfl

end Accounted

end Tollgate.Guard
