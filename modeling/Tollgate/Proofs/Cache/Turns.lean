import Mathlib.Data.List.Dedup
import Mathlib.Data.List.TakeWhile
import Tollgate.Proofs.Cache.Queues

/-!
The load gates of one concern once every caller has gone as far as it can. At most one caller has
the gate of a service, nobody waits for a gate that is free, and the table of gates holds the
services with callers and no others. Over a run, callers come to their gate in the order in which
they asked.
-/

namespace Tollgate

/-- The keys of a table are those under which there is a value. -/
theorem Table.mem_keys {K V : Type} [DecidableEq K] (t : Table K V) (k : K) :
    k ∈ t.keys ↔ ∃ v, t.get? k = some v := by
  rw [keys, List.mem_map, ← Option.isSome_iff_exists, get?, Option.isSome_map, List.find?_isSome]
  simp

variable {c : Concern}

namespace ConcernOp

/-- The caller that an operation brings. -/
def asker? : ConcernOp c → Option String
  | .ask id _ => some id
  | _ => none

/-- The caller that an operation brings to the gate of a service. -/
def askerFor? (k : ServiceId) : ConcernOp c → Option String
  | .ask id service => if service = k then some id else none
  | _ => none

end ConcernOp

namespace ConcernSession

/-- The state after operations, each with all that callers then do. -/
def after (s : ConcernSession c) (ops : List (ConcernOp c)) : ConcernSession c :=
  ops.foldl (fun s op => (s.step op).2) s

/-- The states that a state goes through while callers let go, itself left out. -/
def trail : Nat → ConcernSession c → List (ConcernSession c)
  | 0, _ => []
  | n + 1, s => s.letGo?.elim [] fun s' => s' :: trail n s'

/-- The states that operations lead through: one after each, and one after each caller that then
lets go. -/
def moments (s : ConcernSession c) : List (ConcernOp c) → List (ConcernSession c)
  | [] => []
  | op :: ops =>
    let next := (s.apply op).2
    next :: (next.trail next.callers.length ++ moments (s.step op).2 ops)

/-- Who comes to hold something between two moments. -/
def newHolder (before after : Option String) : Option String :=
  if after = before then none else after

/-- Who comes to hold the gate of a service from one state to another. -/
def taker? (k : ServiceId) (s s' : ConcernSession c) : Option String :=
  newHolder ((s.holder? k).map (·.id)) ((s'.holder? k).map (·.id))

/-- Those who come to hold the gate of a service over the states that follow a state, in order. -/
def takers (k : ServiceId) : ConcernSession c → List (ConcernSession c) → List String
  | _, [] => []
  | s, s' :: later => (taker? k s s').toList ++ takers k s' later

/-- The service whose gate an operation is about, if it is about one. -/
def service? (s : ConcernSession c) : ConcernOp c → Option ServiceId
  | .ask _ k => some k
  | .release id | .cancel id => (s.callers.find? (·.id = id)).map (·.service)
  | _ => none

section Operations

variable {s : ConcernSession c} {op : ConcernOp c}

/-- What an operation does to the queue of a service before anybody lets go. -/
theorem queue_apply (s : ConcernSession c) (op : ConcernOp c) (k : ServiceId) :
    (s.apply op).2.queue k =
      match op with
      | .ask id service =>
        s.queue k ++
          if service = k then [{ id, service, lock := (s.gates.join service id).1 }] else []
      | .release id => (s.queue k).map (Caller.tell id)
      | .cancel id => (s.queue k).filter (·.id ≠ id)
      | _ => s.queue k := by
  cases op with
  | get | put | invalidate | clear | advance | info => rfl
  | ask id service =>
      simp only [apply, queue, List.filter_append]
      split_ifs with hk
      · simp [hk]
      · simp [hk]
  | release id =>
      change (s.callers.map (Caller.tell id)).filter _ = _
      rw [List.filter_map]
      simp [queue, Function.comp_def]
  | cancel id =>
      simp only [apply, cancel]
      cases hFound : s.callers.find? (·.id = id) with
      | none =>
          have hNone : ∀ a ∈ s.queue k, a.id ≠ id := by
            intro a ha hId
            exact List.find?_eq_none.1 hFound a (List.mem_of_mem_filter ha) (decide_eq_true hId)
          exact (List.filter_eq_self.2 fun a ha => decide_eq_true (hNone a ha)).symm
      | some a => exact queue_forget s _ id k

/-- The operation brings nobody who is there already. -/
def Admits (s : ConcernSession c) (op : ConcernOp c) : Prop :=
  ∀ id, op.asker? = some id → id ∉ s.callers.map (·.id)

instance (s : ConcernSession c) (op : ConcernOp c) : Decidable (s.Admits op) :=
  inferInstanceAs (Decidable (∀ id ∈ op.asker?, id ∉ s.callers.map (·.id)))

/-- No operation of a run brings somebody who is there at that time. Whoever has gone may ask again.
-/
def AdmitsAll (s : ConcernSession c) : List (ConcernOp c) → Prop
  | [] => True
  | op :: ops => s.Admits op ∧ (s.step op).2.AdmitsAll ops

instance decidableAdmitsAll (s : ConcernSession c) :
    (ops : List (ConcernOp c)) → Decidable (s.AdmitsAll ops)
  | [] => .isTrue trivial
  | op :: ops =>
    have := (s.step op).2.decidableAdmitsAll ops
    inferInstanceAs (Decidable (_ ∧ _))

theorem Queued.apply (h : s.Queued) (hAdmits : s.Admits op) : (s.apply op).2.Queued := by
  cases op with
  | get | put | invalidate | clear | advance | info => exact h.same _ _
  | ask id k => exact h.ask (hAdmits id rfl) k
  | release id => exact h.tell id
  | cancel id =>
      simp only [ConcernSession.apply, cancel]
      cases hFound : s.callers.find? (·.id = id) with
      | none => exact h
      | some a =>
          have ha := List.mem_of_find?_eq_some hFound
          obtain rfl : a.id = id := by simpa using List.find?_some hFound
          simp only
          split_ifs with hHolding
          · exact h.release ha hHolding
          · exact h.abandon ha hHolding

theorem Queued.step (h : s.Queued) (hAdmits : s.Admits op) :
    (s.step op).2.Queued ∧ (s.step op).2.Quiet ∧
      ∀ k, (s.step op).2.queue k = ((s.apply op).2.queue k).dropWhile (·.told) :=
  (h.apply hAdmits).settle (Nat.le_refl _)

theorem callers_settle (s : ConcernSession c) (n : Nat) :
    (s.settle n).callers.Sublist s.callers := by
  induction n generalizing s with
  | zero => exact .refl _
  | succ n ih =>
      rw [settle_succ]
      cases hLet : s.letGo? with
      | none => exact .refl _
      | some s' =>
          obtain ⟨a, _, rfl⟩ := Option.map_eq_some_iff.1 hLet
          exact (ih _).trans List.filter_sublist

/-- Those who are there after an operation were there before it, or came last. -/
theorem ids_step (s : ConcernSession c) (op : ConcernOp c) :
    ((s.step op).2.callers.map (·.id)).Sublist (s.callers.map (·.id) ++ op.asker?.toList) := by
  refine ((callers_settle _ _).map _).trans ?_
  cases op with
  | get | put | invalidate | clear | advance | info => exact List.sublist_append_left _ _
  | ask id k => simp [ConcernOp.asker?]
  | release id =>
      change ((s.callers.map (Caller.tell id)).map (·.id)).Sublist _
      simp [ConcernOp.asker?, Function.comp_def]
  | cancel id =>
      simp only [cancel, ConcernOp.asker?, Option.toList_none, List.append_nil]
      cases s.callers.find? (·.id = id) with
      | none => exact .refl _
      | some a => exact List.filter_sublist.map _

/-- An operation moves nobody at the gates of services that it is not about. -/
theorem Queued.queue_step_of_ne (h : s.Queued) (hQuiet : s.Quiet) (hAdmits : s.Admits op)
    {k : ServiceId} (hk : s.service? op ≠ some k) : (s.step op).2.queue k = s.queue k := by
  have hOther {id : String} (hId : (s.callers.find? (·.id = id)).map (·.service) ≠ some k) :
      ∀ a ∈ s.queue k, a.id ≠ id := by
    rintro a ha rfl
    obtain ⟨hMem, hService⟩ := List.mem_filter.1 ha
    rw [find?_id h.ids hMem] at hId
    exact hId (congrArg some (of_decide_eq_true hService))
  have hApply : (s.apply op).2.queue k = s.queue k := by
    rw [queue_apply]
    cases op with
    | get | put | invalidate | clear | advance | info => rfl
    | ask id service =>
        have hService : service ≠ k := fun hEq => hk (congrArg some hEq)
        simp [hService]
    | release id =>
        have hTell : ∀ a ∈ s.queue k, a.tell id = a := fun a ha => if_neg (hOther hk a ha)
        exact (List.map_congr_left hTell).trans (List.map_id _)
    | cancel id => exact List.filter_eq_self.2 fun a ha => decide_eq_true (hOther hk a ha)
  rw [(h.step hAdmits).2.2, hApply, hQuiet.dropWhile_queue]

/-- Whether callers have their gate can be told from their queue. -/
theorem Queued.isHolding_congr {s' : ConcernSession c} (h : s.Queued) (h' : s'.Queued)
    {k : ServiceId} (hQueue : s'.queue k = s.queue k) {a : Caller} (ha : a ∈ s.queue k) :
    s'.isHolding a = s.isHolding a := by
  obtain ⟨hMem, hService⟩ := List.mem_filter.1 ha
  obtain ⟨hMem', _⟩ := List.mem_filter.1 (hQueue ▸ ha)
  obtain rfl := of_decide_eq_true hService
  rw [Bool.eq_iff_iff, h.isHolding_iff hMem, h'.isHolding_iff hMem', hQueue]

/-- Whoever lets go of its gate, or drops out with it, leaves it to the waiters; those of them that
are told to let go do so when it comes to them. -/
theorem Queued.queue_step_of_isHolding (h : s.Queued) {a : Caller} (ha : a ∈ s.callers)
    (hHolding : s.isHolding a) (hOp : op = .release a.id ∨ op = .cancel a.id) :
    (s.step op).2.queue a.service = (s.waiters a.service).dropWhile (·.told) := by
  have hAdmits : s.Admits op := by rcases hOp with rfl | rfl <;> nofun
  obtain ⟨rest, hQueue⟩ := List.head?_eq_some_iff.1 ((h.isHolding_iff ha).1 hHolding)
  have hRest : (s.queue a.service).filter (·.id ≠ a.id) = rest := by
    have hFirst := h.queue_of_isHolding ha hHolding
    rw [hQueue] at hFirst
    rw [hQueue]
    exact (List.cons.inj hFirst).2.symm
  rw [(h.step hAdmits).2.2, queue_apply, (h.holder?_waiters _).2, hQueue, List.tail_cons]
  rcases hOp with rfl | rfl
  · have hTell : ∀ b ∈ rest, b.tell a.id = b := by
      intro b hb
      rw [← hRest] at hb
      exact if_neg (of_decide_eq_true (List.mem_filter.1 hb).2)
    have hTold : (a.tell a.id).told = true := by simp [Caller.tell]
    show ((a :: rest).map (Caller.tell a.id)).dropWhile (·.told) = _
    rw [List.map_cons, List.dropWhile_cons_of_pos hTold, List.map_congr_left hTell]
    exact congrArg (List.dropWhile _) (List.map_id _)
  · show ((a :: rest).filter (·.id ≠ a.id)).dropWhile (·.told) = _
    rw [← hQueue, hRest]

end Operations

section Order

variable {s : ConcernSession c} {op : ConcernOp c} {ops : List (ConcernOp c)}

/-- The numbers of those at the gate of a service, in the order in which they asked. -/
def line (s : ConcernSession c) (k : ServiceId) : List String :=
  (s.queue k).map (·.id)

theorem Queued.taker?_eq {s' : ConcernSession c} (h : s.Queued) (h' : s'.Queued) (k : ServiceId) :
    taker? k s s' = newHolder (s.line k).head? (s'.line k).head? := by
  rw [taker?, (h.holder?_waiters k).1, (h'.holder?_waiters k).1, line, line, List.head?_map,
    List.head?_map]

/-- When some leave a queue, its next holder is of those who waited. -/
theorem newHolder_of_sublist {before after : List String} (h : after.Sublist before) :
    ((newHolder before.head? after.head?).toList ++ after.tail).Sublist before.tail := by
  cases after with
  | nil => cases before.head? <;> simp [newHolder]
  | cons a after =>
      cases before with
      | nil => cases h
      | cons b before =>
          by_cases hSame : a = b
          · subst a
            simpa [newHolder] using List.cons_sublist_cons.1 h
          · have hRest := (List.sublist_cons_iff.1 h).resolve_right
              fun ⟨_, hFirst, _⟩ => hSame (List.cons.inj hFirst).1
            simpa [newHolder, hSame] using hRest

/-- Somebody who joins a queue is its next holder if there was nobody. -/
theorem newHolder_append (before new : List String) :
    ((newHolder before.head? (before ++ new).head?).toList ++ (before ++ new).tail).Sublist
      (before.tail ++ new) := by
  cases before with
  | nil => cases new <;> simp [newHolder]
  | cons b before => simp [newHolder]

/-- While callers let go, the gate of a service comes to those who wait, in turn. -/
theorem Queued.takers_trail (h : s.Queued) (k : ServiceId) {later : List (ConcernSession c)}
    {asked : List String} (n : Nat)
    (hLater : (takers k (s.settle n) later).Sublist (((s.settle n).line k).tail ++ asked)) :
    (takers k s (s.trail n ++ later)).Sublist ((s.line k).tail ++ asked) := by
  induction n generalizing s with
  | zero => exact hLater
  | succ n ih =>
      rw [settle_succ] at hLater
      simp only [trail]
      cases hLet : s.letGo? with
      | none =>
          rw [hLet] at hLater
          exact hLater
      | some s' =>
          rw [hLet] at hLater
          obtain ⟨h', _, hQueues⟩ := h.letGo hLet
          have hLine : (s'.line k).Sublist (s.line k) := by
            obtain hSame | ⟨a, _, hQueue⟩ := hQueues k
            · rw [line, hSame, ← line]
            · rw [line, line, hQueue]
              exact List.sublist_cons_self _ _
          have hTaker := newHolder_of_sublist hLine
          rw [← h.taker?_eq h'] at hTaker
          have hTakers := (ih h' hLater).append_left (taker? k s s').toList
          rw [← List.append_assoc] at hTakers
          exact hTakers.trans (hTaker.append_right asked)

/-- An operation brings somebody to the end of a queue, or nobody. -/
theorem line_apply (s : ConcernSession c) (op : ConcernOp c) (k : ServiceId) :
    (s.apply op).2.line k = s.line k ++ (op.askerFor? k).toList ∨
      op.askerFor? k = none ∧ ((s.apply op).2.line k).Sublist (s.line k) := by
  unfold line
  rw [queue_apply]
  cases op with
  | get | put | invalidate | clear | advance | info => exact Or.inr ⟨rfl, .refl _⟩
  | ask id service =>
      left
      rw [List.map_append, ConcernOp.askerFor?]
      split_ifs <;> rfl
  | release id => exact Or.inr ⟨rfl, by simp [Function.comp_def]⟩
  | cancel id => exact Or.inr ⟨rfl, List.filter_sublist.map _⟩

theorem filterMap_asker?_cons (op : ConcernOp c) (ops : List (ConcernOp c)) :
    (op :: ops).filterMap ConcernOp.asker? =
      op.asker?.toList ++ ops.filterMap ConcernOp.asker? := by
  simp only [List.filterMap_eq_flatMap_toList, List.flatMap_cons]

/-- Over operations, the gate of a service comes first to those who wait, in turn, and then to those
who ask, in order. -/
theorem Queued.takers_moments (h : s.Queued) (hAll : s.AdmitsAll ops) (k : ServiceId) :
    (takers k s (s.moments ops)).Sublist
      ((s.line k).tail ++ ops.filterMap (ConcernOp.askerFor? k)) := by
  induction ops generalizing s with
  | nil => exact List.nil_sublist _
  | cons op ops ih =>
      -- Whoever takes the gate comes off those who wait, and whoever asks comes to their end.
      obtain ⟨hAdmits, hRest⟩ := hAll
      have hNext := h.apply hAdmits
      have hLater := hNext.takers_trail k _ (ih (h.step hAdmits).1 hRest)
      have hTaker : ((taker? k s (s.apply op).2).toList ++ ((s.apply op).2.line k).tail).Sublist
          ((s.line k).tail ++ (op.askerFor? k).toList) := by
        rw [h.taker?_eq hNext]
        obtain hLine | ⟨hNone, hLine⟩ := line_apply s op k
        · rw [hLine]
          exact newHolder_append _ _
        · rw [hNone, Option.toList_none, List.append_nil]
          exact newHolder_of_sublist hLine
      have hTakers := hLater.append_left (taker? k s (s.apply op).2).toList
      rw [← List.append_assoc] at hTakers
      refine (hTakers.trans (hTaker.append_right _)).trans ?_
      simp only [List.filterMap_eq_flatMap_toList, List.flatMap_cons, List.append_assoc]
      exact .refl _

theorem Queued.after (h : s.Queued) (hQuiet : s.Quiet) (hAll : s.AdmitsAll ops) :
    (s.after ops).Queued ∧ (s.after ops).Quiet := by
  induction ops generalizing s with
  | nil => exact ⟨h, hQuiet⟩
  | cons op ops ih =>
      obtain ⟨hAdmits, hRest⟩ := hAll
      obtain ⟨hStep, hStill, _⟩ := h.step hAdmits
      exact ih hStep hStill hRest

theorem Queued.trail (h : s.Queued) (n : Nat) : ∀ s' ∈ s.trail n, s'.Queued := by
  induction n generalizing s with
  | zero => nofun
  | succ n ih =>
      simp only [ConcernSession.trail]
      cases hLet : s.letGo? with
      | none => nofun
      | some next =>
          have hNext := (h.letGo hLet).1
          intro s' hMem
          rcases List.mem_cons.1 hMem with rfl | hLater
          · exact hNext
          · exact ih hNext s' hLater

theorem Queued.moments (h : s.Queued) (hAll : s.AdmitsAll ops) :
    ∀ s' ∈ s.moments ops, s'.Queued := by
  induction ops generalizing s with
  | nil => nofun
  | cons op ops ih =>
      obtain ⟨hAdmits, hRest⟩ := hAll
      have hNext := h.apply hAdmits
      intro s' hMem
      rcases List.mem_cons.1 hMem with rfl | hMem
      · exact hNext
      · rcases List.mem_append.1 hMem with hTrail | hLater
        · exact hNext.trail _ s' hTrail
        · exact ih (h.step hAdmits).1 hRest s' hLater

/-- Callers stand in the order in which they asked. -/
theorem ids_after (s : ConcernSession c) (ops : List (ConcernOp c)) :
    ((s.after ops).callers.map (·.id)).Sublist
      (s.callers.map (·.id) ++ ops.filterMap ConcernOp.asker?) := by
  induction ops generalizing s with
  | nil => exact List.sublist_append_left _ _
  | cons op ops ih =>
      rw [filterMap_asker?_cons, ← List.append_assoc]
      exact (ih _).trans ((ids_step s op).append_right _)

end Order

/-- The gates of a concern at any moment: callers have names of their own; a service has at most one
holder, and that is who asked first of those who are there; whoever waits, waits for another caller
of the same service; and the table has the services with callers. -/
structure InOrder (s : ConcernSession c) : Prop where
  ids : (s.callers.map (·.id)).Nodup
  firstCome : ∀ k, s.holder? k = (s.queue k).head?
  exclusive : ∀ a ∈ s.callers, ∀ b ∈ s.callers, a.service = b.service → s.isHolding a →
    s.isHolding b → a = b
  awaited : ∀ a ∈ s.callers, ¬s.isHolding a →
    ∃ b ∈ s.callers, b ≠ a ∧ b.service = a.service ∧ s.isHolding b
  entries : ∀ k, k ∈ s.gates.table.keys ↔ ∃ a ∈ s.callers, a.service = k
  loads : s.gates.size = (s.callers.map (·.service)).dedup.length

/-- The gates of a concern once every caller has gone as far as it can. No holder is told to let go;
an operation leaves those who stay in the order in which they asked, and whom it brings comes last;
a holder that lets go or drops out hands over to the first waiter that is not told to let go, past
those that are; and an operation moves nobody at the gates of other services. -/
structure AtRest (s : ConcernSession c) : Prop extends s.InOrder where
  still : ∀ a ∈ s.callers, s.isHolding a → a.told = false
  inTurn : ∀ op, ((s.step op).2.callers.map (·.id)).Sublist
    (s.callers.map (·.id) ++ op.asker?.toList)
  handsOver : ∀ a ∈ s.callers, s.isHolding a → ∀ op, op = .release a.id ∨ op = .cancel a.id →
    (s.step op).2.holder? a.service = (s.waiters a.service).find? (!·.told) ∧
      (s.step op).2.queue a.service = (s.waiters a.service).dropWhile (·.told)
  apart : ∀ op, s.Admits op → ∀ k, s.service? op ≠ some k →
    (s.step op).2.queue k = s.queue k ∧
      ∀ a ∈ s.queue k, (s.step op).2.isHolding a = s.isHolding a

/-- The table of gates holds the services with callers. -/
theorem Queued.mem_keys {s : ConcernSession c} (h : s.Queued) (k : ServiceId) :
    k ∈ s.gates.table.keys ↔ ∃ a ∈ s.callers, a.service = k := by
  rw [Table.mem_keys]
  constructor
  · rintro ⟨l, hTable⟩
    exact h.used k l hTable
  · rintro ⟨a, ha, rfl⟩
    exact ⟨a.lock, h.serves.shared a.id _ (h.places_of_mem ha)⟩

theorem Queued.size_gates {s : ConcernSession c} (h : s.Queued) :
    s.gates.size = (s.callers.map (·.service)).dedup.length := by
  have hSame : s.gates.table.keys.Perm (s.callers.map (·.service)).dedup := by
    refine (List.perm_ext_iff_of_nodup s.gates.table.nodup (List.nodup_dedup _)).2 fun k => ?_
    show k ∈ s.gates.table.keys ↔ _
    rw [h.mem_keys, List.mem_dedup, List.mem_map]
  rw [← hSame.length_eq, Table.keys, List.length_map]
  rfl

theorem Queued.inOrder {s : ConcernSession c} (h : s.Queued) : s.InOrder := by
  constructor
  case ids => exact h.ids
  case firstCome => exact fun k => (h.holder?_waiters k).1
  case exclusive =>
    intro a ha b hb hService hA hB
    rw [h.isHolding_iff ha] at hA
    rw [h.isHolding_iff hb, ← hService, hA] at hB
    exact Option.some.inj hB
  case awaited =>
    intro a ha hWaits
    have hMem : a ∈ s.queue a.service := List.mem_filter.2 ⟨ha, decide_eq_true rfl⟩
    obtain ⟨b, rest, hQueue⟩ := List.exists_cons_of_ne_nil (List.ne_nil_of_mem hMem)
    have hFirst : b ∈ s.queue a.service := hQueue ▸ List.mem_cons_self
    obtain ⟨hb, hService⟩ := List.mem_filter.1 hFirst
    have hHolding : s.isHolding b := (h.isHolding_cons_iff hQueue List.mem_cons_self).2 rfl
    refine ⟨b, hb, ?_, of_decide_eq_true hService, hHolding⟩
    rintro rfl
    exact hWaits hHolding
  case entries => exact h.mem_keys
  case loads => exact h.size_gates

theorem Queued.atRest {s : ConcernSession c} (h : s.Queued) (hQuiet : s.Quiet) : s.AtRest where
  toInOrder := h.inOrder
  still a ha hHolding := hQuiet _ a ((h.isHolding_iff ha).1 hHolding)
  inTurn := ids_step s
  handsOver a ha hHolding op hOp := by
    have hAdmits : s.Admits op := by rcases hOp with rfl | rfl <;> nofun
    have hQueue := h.queue_step_of_isHolding ha hHolding hOp
    refine ⟨?_, hQueue⟩
    rw [((h.step hAdmits).1.holder?_waiters _).1, hQueue]
    exact (List.find?_not_eq_head?_dropWhile _ _).symm
  apart op hAdmits k hk := by
    have hQueue := h.queue_step_of_ne hQuiet hAdmits hk
    exact ⟨hQueue, fun a ha => h.isHolding_congr (h.step hAdmits).1 hQueue ha⟩

/-- Whatever callers of a fresh cache ask for their gates, are told to let go or drop out, in any
order, the gates are in order at every moment, and at rest once all have gone as far as they can;
those who are left stand in the order in which they asked; and those who ever had the gate of a
service had it in that order. -/
theorem gates_at_rest (cache : ConcernCache c) (clock : Cache.Clock) (ops : List (ConcernOp c))
    (hAll : ({ cache, clock } : ConcernSession c).AdmitsAll ops) :
    let start : ConcernSession c := { cache, clock }
    (start.after ops).AtRest ∧ (∀ s ∈ start.moments ops, s.InOrder) ∧
      ((start.after ops).callers.map (·.id)).Sublist (ops.filterMap ConcernOp.asker?) ∧
      ∀ k, (takers k start (start.moments ops)).Sublist
        (ops.filterMap (ConcernOp.askerFor? k)) := by
  intro start
  have hStart : start.Queued := .start cache clock
  have hQuiet : start.Quiet := nofun
  obtain ⟨hEnd, hStill⟩ := hStart.after hQuiet hAll
  refine ⟨hEnd.atRest hStill, ?_, ids_after start ops, hStart.takers_moments hAll⟩
  exact fun s hs => (hStart.moments hAll s hs).inOrder

/-- The gate goes past a waiter that was told to let go, a service without callers leaves the table,
and a caller that has gone may ask again. -/
theorem gates_at_rest_chain :
    let ops : List (ConcernOp .apiKeys) := [.ask "a" default, .ask "b" default, .ask "c" default,
      .ask "d" (.ofNat 1), .release "b", .cancel "a", .release "d", .ask "a" default, .cancel "c"]
    let start : ConcernSession .apiKeys := { cache := .ofSettings ⟨2, 8⟩ }
    takers default start (start.moments ops) = ["a", "b", "c", "a"] ∧ (start.after ops).AtRest ∧
      (start.after ops).gates.size = 1 := by
  intro ops start
  have hAll : start.AdmitsAll ops := by decide +kernel
  obtain ⟨hRest, _⟩ := gates_at_rest (.ofSettings ⟨2, 8⟩) {} ops hAll
  refine ⟨?_, hRest, ?_⟩
  · decide +kernel
  · rw [hRest.loads]
    decide +kernel

end ConcernSession

end Tollgate
