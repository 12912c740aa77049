import Tollgate.Proofs.Guard.Scene

/-!
The decision of an authorization. It depends on three facts: of each concern the live one in its
cache, or else what the replica answers. A grant needs all three, and whatever goes wrong with any
of them is a refusal.
-/

namespace Tollgate.Guard

variable {C S B : Type}

/-- The fact of a concern on which a call decides, and the stores after it: the live fact of the
cache, or the answer of the replica. -/
def effective (g : Guard C S B) (x : Scene C S B) (c : Concern) (s : ServiceId) (stores : S) :
    Outcome (Option c.Fact) × S :=
  match x.live? c s with
  | some fact => (.ok (some fact), stores)
  | none =>
    ((g.authority g.replica (.fact c) s stores).1.map c.fact?,
      (g.authority g.replica (.fact c) s stores).2)

/-- The effective fact reads nothing of a scene but its clock and the cache of the concern. -/
theorem effective_congr (g : Guard C S B) {x y : Scene C S B} {c : Concern}
    (hClock : y.clock = x.clock) (hCache : y.memory.cache c = x.memory.cache c) (s : ServiceId)
    (stores : S) : g.effective y c s stores = g.effective x c s stores := by
  unfold effective Scene.live?
  rw [hClock, hCache]

theorem settled_stores (x : Scene C S B) (c : Concern) (s : ServiceId)
    (outcome : Outcome c.Answer) : (settled x c s outcome).stores = x.stores := by
  unfold settled
  split
  · rfl
  · split <;> rfl

theorem settled_clock (x : Scene C S B) (c : Concern) (s : ServiceId)
    (outcome : Outcome c.Answer) : (settled x c s outcome).clock = x.clock := by
  unfold settled
  split
  · rfl
  · split <;> rfl

theorem cache_settled_of_ne (x : Scene C S B) {c d : Concern} (h : d ≠ c) (s : ServiceId)
    (outcome : Outcome c.Answer) :
    (settled x c s outcome).memory.cache d = x.memory.cache d := by
  unfold settled
  split
  · rfl
  · split
    · rfl
    · exact Scene.cache_learn_of_ne _ s _ h

theorem cache_missed_of_ne (x : Scene C S B) {c d : Concern} (h : d ≠ c) (s : ServiceId) :
    (missed x c s).memory.cache d = x.memory.cache d :=
  (Scene.cache_look_of_ne _ s h).trans (Scene.cache_look_of_ne x s h)

theorem mem_entries_missed {x : Scene C S B} {c : Concern} {s : ServiceId}
    {p : ServiceId × Cache.Entry c.Fact} (h : p ∈ ((missed x c s).memory.cache c).entries) :
    p ∈ (x.memory.cache c).entries := by
  unfold missed at h
  rw [Scene.cache_look] at h
  have hFirst := Cache.mem_entries_get h
  exact Cache.mem_entries_get ((Scene.cache_look x c s) ▸ hFirst)

theorem alone_lookup_fst (g : Guard C S B) (c : Concern) (s : ServiceId) (x : Scene C S B) :
    (g.alone (Plan.lookup c s) x).1 = (g.effective x c s x.stores).1 := by
  unfold effective
  cases h : x.live? c s with
  | some fact => rw [alone_lookup_of_live g h]
  | none =>
      rw [alone_lookup_of_not_live g h]
      rfl

theorem stores_alone_lookup (g : Guard C S B) (c : Concern) (s : ServiceId) (x : Scene C S B) :
    (g.alone (Plan.lookup c s) x).2.stores = (g.effective x c s x.stores).2 := by
  unfold effective
  cases h : x.live? c s with
  | some fact => rw [alone_lookup_of_live g h]; rfl
  | none =>
      rw [alone_lookup_of_not_live g h]
      exact settled_stores _ _ _ _

theorem clock_alone_lookup (g : Guard C S B) (c : Concern) (s : ServiceId) (x : Scene C S B) :
    (g.alone (Plan.lookup c s) x).2.clock = x.clock := by
  cases h : x.live? c s with
  | some fact => rw [alone_lookup_of_live g h]; rfl
  | none =>
      rw [alone_lookup_of_not_live g h]
      exact settled_clock _ _ _ _

/-- A lookup touches the cache of its own concern only. -/
theorem cache_alone_lookup_of_ne (g : Guard C S B) {c d : Concern} (hd : d ≠ c) (s : ServiceId)
    (x : Scene C S B) :
    (g.alone (Plan.lookup c s) x).2.memory.cache d = x.memory.cache d := by
  cases h : x.live? c s with
  | some fact =>
      rw [alone_lookup_of_live g h]
      exact Scene.cache_look_of_ne x s hd
  | none =>
      rw [alone_lookup_of_not_live g h]
      exact (cache_settled_of_ne _ hd s _).trans (cache_missed_of_ne x hd s)

/-- A lookup whose question fails stores nothing; it may only have dropped what had expired. -/
theorem entries_alone_lookup_of_error {g : Guard C S B} {c : Concern} {s : ServiceId}
    {x : Scene C S B} {f : Failure} (h : (g.effective x c s x.stores).1 = .error f)
    {p : ServiceId × Cache.Entry c.Fact}
    (hp : p ∈ ((g.alone (Plan.lookup c s) x).2.memory.cache c).entries) :
    p ∈ (x.memory.cache c).entries := by
  rw [← alone_lookup_fst] at h
  cases hLive : x.live? c s with
  | some fact =>
      rw [alone_lookup_of_live g hLive] at h
      cases h
  | none =>
      rw [alone_lookup_of_not_live g hLive] at h hp
      cases hOutcome : ((missed x c s).ask g.authority g.replica (.fact c) s).1 with
      | ok answer =>
          rw [hOutcome] at h
          cases h
      | error e =>
          rw [hOutcome] at hp
          exact mem_entries_missed hp

/-- The effective active flag of a service. -/
def activeFact (g : Guard C S B) (x : Scene C S B) (s : ServiceId) : Outcome (Option Bool) × S :=
  g.effective x .serviceActive s x.stores

/-- The effective keys of a service, for a call that has looked up the active flag. -/
def keysFact (g : Guard C S B) (x : Scene C S B) (s : ServiceId) :
    Outcome (Option (List ApiKey)) × S :=
  g.effective x .apiKeys s (g.activeFact x s).2

/-- The effective permissions of a service, for a call that has looked up the other facts. -/
def permissionsFact (g : Guard C S B) (x : Scene C S B) (s : ServiceId) :
    Outcome (Option (List Permission)) × S :=
  g.effective x .permissions s (g.keysFact x s).2

/-- The scene after the look-up of the active flag. -/
def afterActive (g : Guard C S B) (x : Scene C S B) (s : ServiceId) : Scene C S B :=
  (g.alone (Plan.lookup .serviceActive s) x).2

/-- The scene after the look-ups of the active flag and the keys. -/
def afterKeys (g : Guard C S B) (x : Scene C S B) (s : ServiceId) : Scene C S B :=
  (g.alone (Plan.lookup .apiKeys s) (g.afterActive x s)).2

/-- The scene after all three look-ups. -/
def afterPermissions (g : Guard C S B) (x : Scene C S B) (s : ServiceId) : Scene C S B :=
  (g.alone (Plan.lookup .permissions s) (g.afterKeys x s)).2

theorem alone_isActive (g : Guard C S B) (x : Scene C S B) (s : ServiceId) :
    g.alone (Plan.isActive s) x = ((g.activeFact x s).1, g.afterActive x s) := by
  rw [activeFact, ← alone_lookup_fst]
  rfl

theorem effective_afterActive (g : Guard C S B) (x : Scene C S B) (s : ServiceId) :
    g.effective (g.afterActive x s) .apiKeys s (g.afterActive x s).stores = g.keysFact x s := by
  have hStores : (g.afterActive x s).stores = (g.activeFact x s).2 :=
    stores_alone_lookup g .serviceActive s x
  rw [hStores]
  exact effective_congr g (clock_alone_lookup g _ s x)
    (cache_alone_lookup_of_ne g (by decide) s x) s _

theorem alone_apiKeys (g : Guard C S B) (x : Scene C S B) (s : ServiceId) :
    g.alone (Plan.apiKeys s) (g.afterActive x s) =
      ((g.keysFact x s).1.map fun ks => ks.getD [], g.afterKeys x s) := by
  rw [← effective_afterActive, ← alone_lookup_fst]
  exact alone_map g (fun ks : Option (List ApiKey) => ks.getD []) (Plan.lookup .apiKeys s) _

theorem effective_afterKeys (g : Guard C S B) (x : Scene C S B) (s : ServiceId) :
    g.effective (g.afterKeys x s) .permissions s (g.afterKeys x s).stores =
      g.permissionsFact x s := by
  have hStores : (g.afterKeys x s).stores = (g.keysFact x s).2 := by
    rw [afterKeys, stores_alone_lookup, effective_afterActive]
  have hClock : (g.afterKeys x s).clock = x.clock := by
    rw [afterKeys, clock_alone_lookup]
    exact clock_alone_lookup g _ s x
  have hCache : (g.afterKeys x s).memory.cache .permissions = x.memory.cache .permissions := by
    rw [afterKeys, cache_alone_lookup_of_ne g (by decide)]
    exact cache_alone_lookup_of_ne g (by decide) s x
  rw [hStores]
  exact effective_congr g hClock hCache s _

theorem alone_permissions (g : Guard C S B) (x : Scene C S B) (s : ServiceId) :
    g.alone (Plan.permissions s) (g.afterKeys x s) =
      ((g.permissionsFact x s).1.map fun ps => ps.getD [], g.afterPermissions x s) := by
  rw [← effective_afterKeys, ← alone_lookup_fst]
  exact alone_map g (fun ps : Option (List Permission) => ps.getD []) (Plan.lookup .permissions s)
    _

/-- The judgement of an active service with live keys on the outcome of its last look-up. -/
def judgementOfLive (s : ServiceId) (permission : String) (live : List ApiKey) :
    Outcome (Option (List Permission)) → Outcome Plan.Authorized
  | .error e => .error e
  | .ok ps =>
    if (ps.getD []).any (·.grants permission) then
      .ok { service := s, apiKeys := live, permissions := ps.getD [] }
    else .error ((Plan.Denial.lacks permission).failure s)

/-- The judgement of a service on the outcomes of its three look-ups. A failure ends it, and so does
the first fact that speaks against the service. -/
def judgement (now : Timestamp) (s : ServiceId) (permission : String)
    (active : Outcome (Option Bool)) (keys : Outcome (Option (List ApiKey)))
    (permissions : Outcome (Option (List Permission))) : Outcome Plan.Authorized :=
  match active with
  | .error e => .error e
  | .ok none => .error (Plan.Denial.unknown.failure s)
  | .ok (some false) => .error (Plan.Denial.inactive.failure s)
  | .ok (some true) =>
    match keys with
    | .error e => .error e
    | .ok ks =>
      let live := (ks.getD []).filter (·.isLiveAt now)
      if live.isEmpty then .error (Plan.Denial.noLiveKeys.failure s)
      else judgementOfLive s permission live permissions

/-- The scene that a check ends in, by the look-ups that it gets to. -/
def judged (g : Guard C S B) (x : Scene C S B) (now : Timestamp) (s : ServiceId) :
    Scene C S B :=
  match (g.activeFact x s).1 with
  | .ok (some true) =>
    match (g.keysFact x s).1 with
    | .error _ => g.afterKeys x s
    | .ok ks =>
      if ((ks.getD []).filter (·.isLiveAt now)).isEmpty then g.afterKeys x s
      else g.afterPermissions x s
  | _ => g.afterActive x s

theorem alone_evaluate (g : Guard C S B) (x : Scene C S B) (now : Timestamp) (s : ServiceId)
    (permission : String) :
    g.alone (Plan.evaluate now s permission) x =
      (judgement now s permission (g.activeFact x s).1 (g.keysFact x s).1
        (g.permissionsFact x s).1, g.judged x now s) := by
  unfold Plan.evaluate judgement judged
  rw [alone_andThen, alone_isActive]
  cases (g.activeFact x s).1 with
  | error e => rfl
  | ok active =>
      match active with
      | none => rfl
      | some false => rfl
      | some true =>
          simp only
          rw [alone_andThen, alone_apiKeys]
          cases (g.keysFact x s).1 with
          | error e => rfl
          | ok ks =>
              simp only [Except.map]
              split_ifs with hLive
              · rfl
              · rw [alone_andThen, alone_permissions]
                cases (g.permissionsFact x s).1 with
                | error e => rfl
                | ok ps =>
                    simp only [Except.map, judgementOfLive]
                    split_ifs <;> rfl

/-- Failures that an authorization tells as they are. -/
def Passes : Failure → Prop
  | .unknownBind _ | .configuration _ | .unauthorized _ | .limitExceeded _ _ => True
  | _ => False

theorem passes_iff (f : Failure) : Passes f ↔ (f.isConfiguration || f.isDenial) = true := by
  cases f <;> simp [Passes, Failure.isConfiguration, Failure.isDenial]

/-- What an authorization tells of a judgement. -/
def disclosed (s : ServiceId) : Outcome Plan.Authorized → Outcome Plan.Authorized
  | .ok service => .ok service
  | .error e =>
    if e.isConfiguration || e.isDenial then .error e
    else .error (Plan.Denial.unverified.failure s)

theorem alone_authorize (g : Guard C S B) (x : Scene C S B) (now : Timestamp) (s : ServiceId)
    (permission : String) :
    (g.alone (Plan.authorize now s permission) x).1 =
        disclosed s (judgement now s permission (g.activeFact x s).1 (g.keysFact x s).1
          (g.permissionsFact x s).1) ∧
      (g.alone (Plan.authorize now s permission) x).2.memory = (g.judged x now s).memory := by
  unfold Plan.authorize
  rw [alone_followedBy, alone_evaluate]
  cases judgement now s permission (g.activeFact x s).1 (g.keysFact x s).1
      (g.permissionsFact x s).1 with
  | ok service => exact ⟨rfl, rfl⟩
  | error e =>
      simp only [disclosed]
      split_ifs <;> exact ⟨rfl, rfl⟩

/-- Where every answer holds a fact, so does every effective outcome that is no failure. -/
theorem effective_ok {g : Guard C S B} {x : Scene C S B} {c : Concern} {s : ServiceId} {stores : S}
    (hFact : ∀ a : c.Answer, ∃ fact, c.fact? a = some fact) {o : Option c.Fact}
    (h : (g.effective x c s stores).1 = .ok o) : ∃ fact, o = some fact := by
  unfold effective at h
  cases hLive : x.live? c s with
  | some fact =>
      simp only [hLive] at h
      exact ⟨fact, (Except.ok.inj h).symm⟩
  | none =>
      simp only [hLive] at h
      cases hAnswer : (g.authority g.replica (.fact c) s stores).1 with
      | error e => rw [hAnswer] at h; cases h
      | ok a =>
          rw [hAnswer] at h
          obtain ⟨fact, hSome⟩ := hFact a
          exact ⟨fact, (Except.ok.inj h).symm.trans hSome⟩

/-- The grant of an authorization: the service is active, one of its keys has no expiry or one that
lies strictly ahead, and one of its permissions has the name asked for. What is granted are the keys
that live, in their order, and all permissions. -/
structure Grants (g : Guard C S B) (x : Scene C S B) (now : Timestamp) (s : ServiceId)
    (permission : String) (a : Plan.Authorized) : Prop where
  service : a.service = s
  active : (g.activeFact x s).1 = .ok (some true)
  keys : ∃ ks, (g.keysFact x s).1 = .ok (some ks) ∧
    (∃ k ∈ ks, ∀ t, k.expiry = some t → now.rank < t.rank) ∧
    a.apiKeys = ks.filter (·.isLiveAt now)
  permissions : (g.permissionsFact x s).1 = .ok (some a.permissions)
  named : ∃ p ∈ a.permissions, p.name = permission

/-- The load that fails in an authorization. A fact is loaded only once the facts before it have
spoken for the service. -/
inductive LoadFails (g : Guard C S B) (x : Scene C S B) (now : Timestamp) (s : ServiceId) :
    Concern → Failure → Prop
  | active {f : Failure} (h : (g.activeFact x s).1 = .error f) :
      LoadFails g x now s .serviceActive f
  | keys {f : Failure} (hActive : (g.activeFact x s).1 = .ok (some true))
      (h : (g.keysFact x s).1 = .error f) : LoadFails g x now s .apiKeys f
  | permissions {f : Failure} {ks : List ApiKey}
      (hActive : (g.activeFact x s).1 = .ok (some true))
      (hKeys : (g.keysFact x s).1 = .ok (some ks)) (hLive : ∃ k ∈ ks, k.isLiveAt now = true)
      (h : (g.permissionsFact x s).1 = .error f) : LoadFails g x now s .permissions f

theorem isEmpty_filter_isLiveAt {ks : List ApiKey} {now : Timestamp} :
    (ks.filter (·.isLiveAt now)).isEmpty = false ↔ ∃ k ∈ ks, k.isLiveAt now = true := by
  rw [← Bool.not_eq_true, List.isEmpty_iff, List.filter_eq_nil_iff]
  simp

theorem judgement_of_grants {g : Guard C S B} {x : Scene C S B} {now : Timestamp} {s : ServiceId}
    {permission : String} {a : Plan.Authorized} (h : g.Grants x now s permission a) :
    judgement now s permission (g.activeFact x s).1 (g.keysFact x s).1 (g.permissionsFact x s).1 =
      .ok a := by
  obtain ⟨service, apiKeys, permissions⟩ := a
  obtain ⟨hService, hActive, ⟨ks, hKeys, ⟨k, hMem, hExpiry⟩, hFilter⟩, hPermissions, p, hp,
    hName⟩ := h
  simp only at hService hFilter hPermissions hp
  subst hService hFilter
  have hLive : (ks.filter (·.isLiveAt now)).isEmpty = false :=
    isEmpty_filter_isLiveAt.2 ⟨k, hMem, (k.isLiveAt_iff now).2 hExpiry⟩
  have hGranted : permissions.any (·.grants permission) = true :=
    List.any_eq_true.2 ⟨p, hp, (p.grants_iff permission).2 hName⟩
  simp [judgement, judgementOfLive, hActive, hKeys, hPermissions, hLive, hGranted]

theorem judgement_of_loadFails {g : Guard C S B} {x : Scene C S B} {now : Timestamp}
    {s : ServiceId} {c : Concern} {f : Failure} (permission : String)
    (h : g.LoadFails x now s c f) :
    judgement now s permission (g.activeFact x s).1 (g.keysFact x s).1 (g.permissionsFact x s).1 =
      .error f := by
  cases h with
  | active h => simp [judgement, h]
  | keys hActive h => simp [judgement, hActive, h]
  | permissions hActive hKeys hLive h =>
      simp [judgement, judgementOfLive, hActive, hKeys, h, isEmpty_filter_isLiveAt.2 hLive]

/-- The judgement of an active service with a live key hangs on its permissions. -/
theorem judgement_of_live {now : Timestamp} {s : ServiceId} {permission : String}
    {ks : List ApiKey} (hLive : ∃ k ∈ ks, k.isLiveAt now = true)
    (permissions : Outcome (Option (List Permission))) :
    judgement now s permission (.ok (some true)) (.ok (some ks)) permissions =
      judgementOfLive s permission (ks.filter (·.isLiveAt now)) permissions := by
  simp only [judgement, Option.getD_some, isEmpty_filter_isLiveAt.2 hLive]
  rfl

theorem judgement_cases_of_live {g : Guard C S B} {x : Scene C S B} {now : Timestamp}
    {s : ServiceId} {permission : String} {j : Outcome Plan.Authorized} {ks : List ApiKey}
    (hj : j = judgementOfLive s permission (ks.filter (·.isLiveAt now)) (g.permissionsFact x s).1)
    (hActive : (g.activeFact x s).1 = .ok (some true))
    (hKeys : (g.keysFact x s).1 = .ok (some ks)) (hLive : ∃ k ∈ ks, k.isLiveAt now = true) :
    (∃ a, j = .ok a ∧ g.Grants x now s permission a) ∨
      (∃ c f, j = .error f ∧ g.LoadFails x now s c f) ∨
      ∃ d : Plan.Denial, j = .error (d.failure s) := by
  cases hPermissions : (g.permissionsFact x s).1 with
  | error e =>
      rw [hPermissions] at hj
      exact Or.inr (Or.inl ⟨_, e, hj, .permissions hActive hKeys hLive hPermissions⟩)
  | ok granted =>
      obtain ⟨ps, rfl⟩ : ∃ ps : List Permission, granted = some ps :=
        effective_ok (c := .permissions) (fun a => ⟨a, rfl⟩) hPermissions
      rw [hPermissions] at hj
      simp only [judgementOfLive, Option.getD_some] at hj
      split_ifs at hj with hGranted
      · obtain ⟨p, hMem, hGrants⟩ := List.any_eq_true.1 hGranted
        obtain ⟨k, hk, hAlive⟩ := hLive
        refine Or.inl ⟨_, hj, ?_⟩
        exact {
          service := rfl
          active := hActive
          keys := ⟨ks, hKeys, ⟨k, hk, (k.isLiveAt_iff now).1 hAlive⟩, rfl⟩
          permissions := hPermissions
          named := ⟨p, hMem, (p.grants_iff permission).1 hGrants⟩ }
      · exact Or.inr (Or.inr ⟨.lacks permission, hj⟩)

/-- A judgement grants, or tells the failure of a load, or refuses for a reason of its own. -/
theorem judgement_cases (g : Guard C S B) (x : Scene C S B) (now : Timestamp) (s : ServiceId)
    (permission : String) (j : Outcome Plan.Authorized)
    (hj : j = judgement now s permission (g.activeFact x s).1 (g.keysFact x s).1
      (g.permissionsFact x s).1) :
    (∃ a, j = .ok a ∧ g.Grants x now s permission a) ∨
      (∃ c f, j = .error f ∧ g.LoadFails x now s c f) ∨
      ∃ d : Plan.Denial, j = .error (d.failure s) := by
  cases hActive : (g.activeFact x s).1 with
  | error e => exact Or.inr (Or.inl ⟨_, e, by rw [hj, hActive]; rfl, .active hActive⟩)
  | ok active =>
      match active with
      | none => exact Or.inr (Or.inr ⟨.unknown, by rw [hj, hActive]; rfl⟩)
      | some false => exact Or.inr (Or.inr ⟨.inactive, by rw [hj, hActive]; rfl⟩)
      | some true =>
          cases hKeys : (g.keysFact x s).1 with
          | error e =>
              exact Or.inr (Or.inl ⟨_, e, by rw [hj, hActive, hKeys]; rfl, .keys hActive hKeys⟩)
          | ok known =>
              obtain ⟨ks, rfl⟩ : ∃ ks : List ApiKey, known = some ks :=
                effective_ok (c := .apiKeys) (fun a => ⟨a, rfl⟩) hKeys
              rw [hActive, hKeys] at hj
              by_cases hLive : ∃ k ∈ ks, k.isLiveAt now = true
              · rw [judgement_of_live hLive] at hj
                exact judgement_cases_of_live hj hActive hKeys hLive
              · have hEmpty : (ks.filter (·.isLiveAt now)).isEmpty = true := by
                  rw [← isEmpty_filter_isLiveAt, Bool.not_eq_false] at hLive
                  exact hLive
                refine Or.inr (Or.inr ⟨.noLiveKeys, ?_⟩)
                simp only [hj, judgement, Option.getD_some, hEmpty, if_true]

theorem disclosed_eq_ok_iff {s : ServiceId} {j : Outcome Plan.Authorized} {a : Plan.Authorized} :
    disclosed s j = .ok a ↔ j = .ok a := by
  cases j with
  | ok b => rfl
  | error e =>
      simp only [disclosed]
      split_ifs <;> simp

theorem disclosed_of_passes (s : ServiceId) {f : Failure} (h : Passes f) :
    disclosed s (.error f) = .error f :=
  if_pos ((passes_iff f).1 h)

theorem disclosed_eq_error {s : ServiceId} {j : Outcome Plan.Authorized} {f : Failure}
    (h : disclosed s j = .error f) :
    (j = .error f ∧ Passes f) ∨ ∃ reason, f = .unauthorized reason := by
  cases j with
  | ok a => cases h
  | error e =>
      simp only [disclosed] at h
      split_ifs at h with hPasses
      · cases h
        exact Or.inl ⟨rfl, (passes_iff f).2 hPasses⟩
      · cases h
        exact Or.inr ⟨_, rfl⟩

/-- A check ends with the load that fails, and that load stores nothing. -/
theorem entries_judged {g : Guard C S B} {x : Scene C S B} {now : Timestamp} {s : ServiceId}
    {c : Concern} {f : Failure} (h : g.LoadFails x now s c f)
    {p : ServiceId × Cache.Entry c.Fact}
    (hp : p ∈ ((g.judged x now s).memory.cache c).entries) : p ∈ (x.memory.cache c).entries := by
  cases h with
  | active h =>
      simp only [judged, h] at hp
      exact entries_alone_lookup_of_error h hp
  | keys hActive h =>
      simp only [judged, hActive, h] at hp
      rw [← effective_afterActive] at h
      have hBefore := entries_alone_lookup_of_error h hp
      rwa [afterActive, cache_alone_lookup_of_ne g (by decide)] at hBefore
  | permissions hActive hKeys hLive h =>
      simp only [judged, hActive, hKeys, Option.getD_some, isEmpty_filter_isLiveAt.2 hLive] at hp
      rw [← effective_afterKeys] at h
      have hBefore := entries_alone_lookup_of_error h hp
      rwa [afterKeys, cache_alone_lookup_of_ne g (by decide), afterActive,
        cache_alone_lookup_of_ne g (by decide)] at hBefore

theorem authorize_eq_ok_iff (g : Guard C S B) (x : Scene C S B) (now : Timestamp) (s : ServiceId)
    (permission : String) (a : Plan.Authorized) :
    (g.alone (Plan.authorize now s permission) x).1 = .ok a ↔ g.Grants x now s permission a := by
  rw [(alone_authorize g x now s permission).1, disclosed_eq_ok_iff]
  refine ⟨fun h => ?_, judgement_of_grants⟩
  rcases judgement_cases g x now s permission _ rfl with
    ⟨b, hb, hGrants⟩ | ⟨_, _, hError, _⟩ | ⟨_, hError⟩
  · rw [h] at hb
    cases hb
    exact hGrants
  · rw [h] at hError
    cases hError
  · rw [h] at hError
    cases hError

/-- An authorization that grants ends with its third look-up. -/
theorem alone_authorize_of_grants {g : Guard C S B} {x : Scene C S B} {now : Timestamp}
    {s : ServiceId} {permission : String} {a : Plan.Authorized}
    (h : g.Grants x now s permission a) :
    g.alone (Plan.authorize now s permission) x = (.ok a, g.afterPermissions x s) := by
  obtain ⟨ks, hKeys, ⟨k, hMem, hExpiry⟩, _⟩ := h.keys
  have hLive : (ks.filter (·.isLiveAt now)).isEmpty = false :=
    isEmpty_filter_isLiveAt.2 ⟨k, hMem, (k.isLiveAt_iff now).2 hExpiry⟩
  have hJudged : g.judged x now s = g.afterPermissions x s := by
    simp [judged, h.active, hKeys, hLive]
  unfold Plan.authorize
  rw [alone_followedBy, alone_evaluate, judgement_of_grants h, hJudged]
  rfl

/-- What an authorization decides, for any state of the guard and whatever the replica answers to
each of its questions: it grants exactly what the effective facts grant; of failed loads it tells
those of the set-up and refusals unchanged; all else is a refusal, and a failed load leaves nothing
new in the cache of its concern. -/
theorem authorize_decides (g : Guard C S B) (x : Scene C S B) (now : Timestamp) (s : ServiceId)
    (permission : String) :
    (∀ a, (g.alone (Plan.authorize now s permission) x).1 = .ok a ↔
        g.Grants x now s permission a) ∧
      (∀ c f, g.LoadFails x now s c f → Passes f →
        (g.alone (Plan.authorize now s permission) x).1 = .error f) ∧
      (∀ f, (g.alone (Plan.authorize now s permission) x).1 = .error f →
        (Passes f ∧ ∃ c, g.LoadFails x now s c f) ∨ ∃ reason, f = .unauthorized reason) ∧
      ∀ c f, g.LoadFails x now s c f →
        ∀ p ∈ ((g.alone (Plan.authorize now s permission) x).2.memory.cache c).entries,
          p ∈ (x.memory.cache c).entries := by
  refine ⟨authorize_eq_ok_iff g x now s permission, ?_⟩
  obtain ⟨hResult, hMemory⟩ := alone_authorize g x now s permission
  rw [hResult, hMemory]
  refine ⟨fun c f hFails hPasses => ?_, fun f h => ?_,
    fun c f hFails p hp => entries_judged hFails hp⟩
  · rw [judgement_of_loadFails permission hFails]
    exact disclosed_of_passes s hPasses
  · rcases disclosed_eq_error h with ⟨hError, hPasses⟩ | hRefusal
    · rcases judgement_cases g x now s permission _ rfl with
        ⟨b, hb, _⟩ | ⟨c, e, he, hFails⟩ | ⟨d, hd⟩
      · rw [hError] at hb
        cases hb
      · rw [hError] at he
        cases he
        exact Or.inl ⟨hPasses, c, hFails⟩
      · rw [hError] at hd
        cases hd
        exact Or.inr ⟨_, rfl⟩
    · exact Or.inr hRefusal

end Tollgate.Guard
