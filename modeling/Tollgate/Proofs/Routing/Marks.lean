import Mathlib.Tactic.SplitIfs
import Tollgate.Proofs.Routing.Registrations
import Tollgate.Routing.Script

/-!
A mark is spent by the next query of its session and by nothing else. What a session is marked with
can be told from the history of operations alone: the name given to it last, unless a query of that
session has been resolved since. Operations on other sessions and on the connections have no part in
it.
-/

namespace Tollgate.Routing

variable {C : Type}

/-- The session that an operation is on, if it is on one. -/
def Op.session? : Op C → Option Nat
  | .mark i _ | .resolve i | .resolveOn i _ | .bindName i => some i
  | .openSession | .get _ | .contains _ | .defaultBind | .describe | .runOnBind .. |
    .withReadReplica _ => none

/-- The number of sessions that are open after a history. One is open from the start. -/
def opened : List (Op C) → Nat
  | [] => 1
  | .openSession :: earlier => opened earlier + 1
  | _ :: earlier => opened earlier

/-- The mark of a session after a history with the newest operation first: the name given last since
the session was opened or its previous query was resolved. -/
def marker (i : Nat) : List (Op C) → Option String
  | [] => none
  | .openSession :: earlier => if opened earlier = i then none else marker i earlier
  | .mark j names :: earlier =>
    if j = i then names.getLast?.or (marker i earlier) else marker i earlier
  | .resolve j :: earlier | .resolveOn j _ :: earlier =>
    if j = i then none else marker i earlier
  | _ :: earlier => marker i earlier

/-- Of several marks given one after another the last stays. -/
theorem mark_foldl_marked (r : RoutingSession) (names : List String) :
    (names.foldl RoutingSession.marked r).mark = names.getLast?.or r.mark := by
  induction names generalizing r with
  | nil => rfl
  | cons name names ih =>
      rw [List.foldl_cons, ih, List.getLast?_cons]
      cases names.getLast? <;> rfl

namespace State

variable {s : State C} {i : Nat}

theorem session_withSession (h : i < s.sessions.length) (r : RoutingSession) :
    (s.withSession i r).session i = r := by
  simp [withSession, session, h]

theorem session_withSession_of_ne {j : Nat} (h : j ≠ i) (r : RoutingSession) :
    (s.withSession j r).session i = s.session i := by
  simp [withSession, session, List.getElem?_set_ne h]

/-- An operation on another session, or on none, leaves a session as it is. -/
theorem session_step_of_ne {op : Op C} (h : op.session? ≠ some i) :
    (s.step op).2.session i = s.session i := by
  cases op with
  | openSession =>
      simp only [step, session, List.getD_eq_getElem?_getD]
      by_cases hOpen : i < s.sessions.length
      · rw [List.getElem?_append_left hOpen]
      · -- A session that is not open yet has no mark, and starts with none.
        rw [List.getElem?_append_right (Nat.not_lt.1 hOpen),
          List.getElem?_eq_none (Nat.not_lt.1 hOpen)]
        cases i - s.sessions.length <;> rfl
  | mark j _ | resolve j | resolveOn j _ =>
      exact session_withSession_of_ne (fun hSame => h (congrArg some hSame)) _
  | bindName | get | contains | defaultBind | describe | runOnBind | withReadReplica => rfl

theorem binds_step (s : State C) (op : Op C) : (s.step op).2.binds = s.binds := by
  cases op <;> rfl

theorem length_step (s : State C) (op : Op C) :
    (s.step op).2.sessions.length =
      match op with
      | .openSession => s.sessions.length + 1
      | _ => s.sessions.length := by
  cases op <;> simp [step, withSession]

/-- A mark and a query at once are the one after the other. -/
theorem step_resolveOn (h : i < s.sessions.length) (name : String) :
    s.step (.resolveOn i name) = (s.step (.mark i [name])).2.step (.resolve i) := by
  simp only [step, session_withSession h]
  simp [withSession, RoutingSession.resolve]

/-- Runs operations one after another. -/
def run (s : State C) (ops : List (Op C)) : State C :=
  ops.foldl (fun s op => (s.step op).2) s

/-- Every open session has the mark that the history tells. -/
structure Follows (s : State C) (binds : Binds C) (history : List (Op C)) : Prop where
  binds : s.binds = binds
  length : s.sessions.length = opened history
  marks : ∀ i < s.sessions.length, (s.session i).mark = marker i history

namespace Follows

variable {binds : Binds C} {history : List (Op C)}

theorem start (binds : Binds C) : Follows { binds } binds [] where
  binds := rfl
  length := rfl
  marks i h := by
    obtain rfl : i = 0 := Nat.lt_one_iff.1 h
    rfl

theorem length_next (h : s.Follows binds history) (op : Op C) :
    (s.step op).2.sessions.length = opened (op :: history) := by
  rw [length_step]
  cases op <;> simp only [opened, h.length]

/-- What an operation makes of the mark of an open session is what the longer history tells. -/
theorem mark_next (h : s.Follows binds history) (op : Op C)
    (hOpen : i < (s.step op).2.sessions.length) :
    ((s.step op).2.session i).mark = marker i (op :: history) := by
  by_cases hOn : op.session? = some i
  · have hThere : i < s.sessions.length := by
      rw [length_step] at hOpen
      cases op with
      | openSession => cases hOn
      | _ => exact hOpen
    cases op with
    | mark j names =>
        obtain rfl : j = i := Option.some.inj hOn
        simp only [step, session_withSession hThere, mark_foldl_marked, marker, if_true,
          h.marks j hThere]
    | resolve j | resolveOn j name =>
        obtain rfl : j = i := Option.some.inj hOn
        simp only [step, RoutingSession.resolve, session_withSession hThere, marker, if_true]
    | bindName j => exact h.marks i hThere
    | openSession | get | contains | defaultBind | describe | runOnBind | withReadReplica =>
        cases hOn
  · rw [session_step_of_ne hOn]
    cases op with
    | openSession =>
        simp only [marker, ← h.length]
        split_ifs with hNew
        · simp [session, ← hNew]
        · refine h.marks i ?_
          rw [length_step] at hOpen
          exact Nat.lt_of_le_of_ne (Nat.le_of_lt_succ hOpen) (Ne.symm hNew)
    | mark j _ | resolve j | resolveOn j _ =>
        have hOther : j ≠ i := fun hSame => hOn (congrArg some hSame)
        rw [length_step] at hOpen
        simp only [marker, if_neg hOther]
        exact h.marks i hOpen
    | bindName | get | contains | defaultBind | describe | runOnBind | withReadReplica =>
        exact h.marks i hOpen

theorem step (h : s.Follows binds history) (op : Op C) :
    (s.step op).2.Follows binds (op :: history) where
  binds := (binds_step s op).trans h.binds
  length := h.length_next op
  marks _ hOpen := h.mark_next op hOpen

theorem run (h : s.Follows binds history) (ops : List (Op C)) :
    (s.run ops).Follows binds (ops.reverse ++ history) := by
  induction ops generalizing s history with
  | nil => exact h
  | cons op ops ih =>
      have hLater := ih (h.step op)
      rw [List.reverse_cons, List.append_assoc]
      exact hLater

end Follows

end State

/-- A mark is spent exactly once. After any operations, a query of an open session goes to the bind
that the session was marked with since its previous query, or to the default one; it gets the
connection registered last under that name, or a failure that names it; and either way the mark is
gone. Nothing but an operation on the session itself touches its mark, and nothing touches the
connections. -/
theorem marks_spent_once (primary : C) (registrations : List (Binds.Registration C))
    (past : List (Op C)) :
    let s : State C := State.run { binds := .built primary registrations } past
    let registered? := Binds.lastRegistered? primary registrations
    ∀ i < s.sessions.length,
      let mark? := marker i past.reverse
      let name := mark?.getD primaryBind
      (s.step (.bindName i)).1 = .text name ∧
        (s.step (.resolve i)).1 =
          .connection ((registered? name).elim (.error (.unknownBind name)) .ok) ∧
        (s.step (.resolve i)).2.session i = {} ∧
        (mark? = none → ∃ connection, registered? primaryBind = some connection ∧
          (s.step (.resolve i)).1 = .connection (.ok connection)) ∧
        (∀ other, s.step (.resolveOn i other) = (s.step (.mark i [other])).2.step (.resolve i)) ∧
        ∀ op, (s.step op).2.binds = s.binds ∧
          (op.session? ≠ some i → (s.step op).2.session i = s.session i) := by
  intro s registered? i hOpen mark? name
  have hFollows : s.Follows (.built primary registrations) past.reverse := by
    have hRun := (State.Follows.start (.built primary registrations)).run past
    rwa [List.append_nil] at hRun
  have hName : (s.session i).bindName = name := by
    rw [RoutingSession.bindName, hFollows.marks i hOpen]
  have hResolved : (s.step (.resolve i)).1 =
      .connection ((registered? name).elim (.error (.unknownBind name)) .ok) := by
    simp only [State.step, RoutingSession.resolve, hName, hFollows.binds, Binds.get_built]
    rfl
  refine ⟨congrArg Reply.text hName, hResolved, State.session_withSession hOpen _, ?_,
    State.step_resolveOn hOpen, fun op => ⟨s.binds_step op, State.session_step_of_ne⟩⟩
  intro hUnmarked
  obtain ⟨connection, hPrimary⟩ := Binds.exists_lastRegistered?_primary primary registrations
  have hDefault : name = primaryBind := by simp only [name, hUnmarked, Option.getD_none]
  refine ⟨connection, hPrimary, ?_⟩
  rw [hResolved, hDefault]
  simp only [registered?, hPrimary, Option.elim_some]

/-- A query that is marked with an unknown name fails and spends its mark all the same; the mark of
the other session stays. -/
theorem marks_spent_once_unknown :
    let registrations : List (Binds.Registration String) :=
      [.replica "old replica", .named "reporting" "reports", .replica "new replica"]
    let past : List (Op String) :=
      [.openSession, .mark 0 ["reporting", "replica"], .resolve 1, .mark 1 ["analytics"]]
    let s := State.run { binds := .built "main" registrations } past
    1 < s.sessions.length ∧
      (s.step (.resolve 1)).1 = .connection (.error (.unknownBind "analytics")) ∧
      (s.step (.resolve 1)).2.session 1 = {} ∧
      (s.step (.resolve 1)).2.session 0 = { mark := some "replica" } ∧
      (s.step (.resolve 0)).1 = .connection (.ok "new replica") := by
  intro registrations past s
  have hFirst : 0 < s.sessions.length := by decide +kernel
  have hSecond : 1 < s.sessions.length := by decide +kernel
  obtain ⟨_, hUnknown, hSpent, _⟩ := marks_spent_once "main" registrations past 1 hSecond
  obtain ⟨_, hReplica, _, _, _, hApart⟩ := marks_spent_once "main" registrations past 0 hFirst
  refine ⟨hSecond, hUnknown, hSpent, ?_, hReplica⟩
  rw [(hApart (.resolve 1)).2 nofun]
  decide +kernel

end Tollgate.Routing
