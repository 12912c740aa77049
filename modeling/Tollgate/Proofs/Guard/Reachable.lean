import Tollgate.Proofs.Cache.Living
import Tollgate.Proofs.Guard.Remembered

/-!
What is true of the memory of a guard at every moment of every run. Whatever calls under way do, in
whatever order they take turns, they reach the memory only by looking up, learning and forgetting;
so what these keep is kept throughout.
-/

namespace Tollgate.Guard

variable {C S B A : Type}

/-- A property of memories that is kept by all that is done to one. -/
structure Memory.Invariant (P : Memory → Prop) : Prop where
  look : ∀ m c s now, P m → P (m.look c s now).2
  learn : ∀ m c s fact now, P m → P (m.learn c s fact now)
  invalidate : ∀ m s now, P m → P (m.invalidate s now)
  clear : ∀ m, P m → P m.clear

namespace Memory.Invariant

variable {P : Memory → Prop} {g : Guard C S B}

/-- A call that goes on keeps an invariant. -/
theorem proceed (h : Invariant P) (id : TaskId) (p : Plan A) (pass : Option (Pass GateKey))
    {f : Floor C S B} (hf : P f.scene.memory) : P (g.proceed id p pass f).2.scene.memory := by
  induction p generalizing pass f with
  | done outcome => exact hf
  | note n rest ih => exact ih pass (f := { f with scene := f.scene.note n }) hf
  | look c s next ih =>
      exact ih _ pass (f := { f with scene := (f.scene.look c s).2 }) (h.look _ c s _ hf)
  | enter c s rest ih =>
      simp only [Guard.proceed]
      split
      · exact ih _ (f := { f with gates := (f.gates.join (c, s) id).2 }) hf
      · exact hf
  | leave c s rest ih =>
      refine ih none (f := f.release pass) ?_
      rw [Floor.scene_release]
      exact hf
  | ask bind q s next ih =>
      simp only [Guard.proceed]
      split
      · exact ih _ pass hf
      · exact hf
  | learn c s fact rest ih =>
      exact ih pass (f := { f with scene := f.scene.learn c s fact }) (h.learn _ c s fact _ hf)
  | count cmd next ih =>
      exact ih _ pass (f := { f with scene := (f.scene.count g.counters cmd).2 }) hf

theorem turn (h : Invariant P) (id : TaskId) (t : Task C A) {f : Floor C S B}
    (hf : P f.scene.memory) : P (g.turn id t f).2.scene.memory := by
  obtain ⟨phase, pass⟩ := t
  cases phase with
  | ready plan => exact h.proceed id plan pass hf
  | queued place rest =>
      simp only [Guard.turn]
      split
      · exact h.proceed id rest (some place)
          (f := { f with woken := f.woken.filter (· ≠ id) }) hf
      · exact hf
  | asking connection q s next | finished outcome | dropped => exact hf

/-- What becomes of one call keeps an invariant, if it does where that call is there. -/
theorem update {m : Machine C S B A} (hm : P m.floor.scene.memory) (id : TaskId)
    {act : Task C A → Floor C S B → Task C A × Floor C S B}
    (hAct : ∀ t, P (act t m.floor).2.scene.memory) :
    P (m.update id act).floor.scene.memory := by
  cases ht : m.tasks[id]? with
  | none => rwa [Machine.update_of_none ht]
  | some t =>
      rw [Machine.floor_update ht]
      exact hAct t

theorem step (h : Invariant P) {m : Machine C S B A} (hm : P m.floor.scene.memory)
    (event : Event S B (Plan A)) : P (m.step g event).floor.scene.memory := by
  cases event with
  | start plan => exact hm
  | turn id => exact update hm id fun t => h.turn id t hm
  | answer id =>
      refine update hm id fun t => ?_
      unfold Guard.answer
      split <;> exact hm
  | drop id =>
      refine update hm id fun t => ?_
      rwa [scene_drop]
  | invalidate s => exact h.invalidate _ s _ hm
  | clear => exact h.clear _ hm
  | advance span | changeStores change | changeCounts change => exact hm

theorem run (h : Invariant P) {m : Machine C S B A} (hm : P m.floor.scene.memory)
    (events : List (Event S B (Plan A))) : P (m.run g events).floor.scene.memory := by
  induction events generalizing m with
  | nil => exact hm
  | cons event events ih => exact ih (h.step hm event)

end Memory.Invariant

/-- Every cache is proper, and its entries live as long as its settings say. -/
structure Memory.Proper (settings : CachesSettings) (m : Memory) : Prop where
  cache : ∀ c, (m.cache c).Proper
  ttl : ∀ c, (m.cache c).ttl = (settings.of c).ttl

namespace Memory.Proper

theorem ofSettings (settings : CachesSettings) : (Memory.ofSettings settings).Proper settings where
  cache c := by
    rw [Memory.cache_ofSettings]
    exact .empty _ _
  ttl c := by
    rw [Memory.cache_ofSettings]
    rfl

theorem withCache {settings : CachesSettings} {m : Memory} (h : m.Proper settings) {c : Concern}
    {cache : ConcernCache c} (hCache : Cache.Proper cache) (hTtl : cache.ttl = (m.cache c).ttl) :
    (m.withCache c cache).Proper settings where
  cache d := by
    by_cases hd : d = c
    · subst d
      rwa [Memory.cache_withCache]
    · rw [Memory.cache_withCache_of_ne m cache hd]
      exact h.cache d
  ttl d := by
    by_cases hd : d = c
    · subst d
      rw [Memory.cache_withCache, hTtl, h.ttl]
    · rw [Memory.cache_withCache_of_ne m cache hd, h.ttl]

theorem invariant (settings : CachesSettings) : Memory.Invariant (Memory.Proper settings) where
  look _ c s now h := h.withCache ((h.cache c).get s now) (Cache.ttl_get _ _ _)
  learn _ c s fact now h := h.withCache ((h.cache c).put s fact now) (Cache.ttl_put _ _ _ _)
  invalidate m s now h := by
    constructor <;> intro c <;> rw [Memory.cache_invalidate]
    · exact (h.cache c).remove s now
    · exact h.ttl c
  clear m h := by
    constructor <;> intro c <;> rw [Memory.cache_clear]
    · exact (h.cache c).clear
    · exact h.ttl c

/-- The memory is proper at every moment of every run. -/
theorem run (g : Guard C S B) (settings : CachesSettings) (clock : Cache.Clock) (stores : S)
    (counts : B) (events : List (Event S B (Plan A))) :
    (Machine.run g { floor := { scene := opening settings clock stores counts } }
      events).floor.scene.memory.Proper settings :=
  (invariant settings).run (ofSettings settings) events

end Memory.Proper

end Tollgate.Guard
