import UsbIp.Locks

/-
Deadlocks of the lock-level server.  A set of tasks each blocked by another
of the set stays so for ever: none of them can step, and no step of another
task unblocks them.  `remove_device` takes `available_devices.write()` before
`used_devices.read()`, while the import and the release of `handler` take
`used_devices.write()` before `available_devices.write()`; one interleaving of
a removal of an absent id with an import reaches such a set.
-/

namespace UsbIp

namespace Sys

variable {s s' : Sys}

theorem blockedBy_eq_true {t u : Nat} :
    s.blockedBy t u = true ↔ ∃ l m, (s.task t).wants = some (l, m) ∧ t ∈ s.queue l ∧
      (Compatible m ((s.task u).holds l) = false ∨ List.Sublist [u, t] (s.queue l)) := by
  unfold blockedBy
  cases hw : (s.task t).wants with
  | none => simp
  | some lm =>
      obtain ⟨l, m⟩ := lm
      simp only [Option.some.injEq, Bool.and_eq_true, decide_eq_true_eq, Bool.or_eq_true,
        Bool.not_eq_true']
      constructor
      · rintro ⟨hmem, hblock⟩
        exact ⟨l, m, rfl, hmem, hblock⟩
      · rintro ⟨_, _, heq, hmem, hblock⟩
        cases heq
        exact ⟨hmem, hblock⟩

theorem blockedBy_of_queue {t u : Nat} (hb : s.blockedBy t u = true)
    (ht : s'.task t = s.task t) (hu : s'.task u = s.task u)
    (hq : ∀ l, t ∈ s.queue l → t ∈ s'.queue l ∧
      (List.Sublist [u, t] (s.queue l) → List.Sublist [u, t] (s'.queue l))) :
    s'.blockedBy t u = true := by
  obtain ⟨l, m, hw, hmem, hblock⟩ := blockedBy_eq_true.mp hb
  refine blockedBy_eq_true.mpr ⟨l, m, ht ▸ hw, (hq l hmem).1, ?_⟩
  rw [hu]
  exact hblock.imp_right (hq l hmem).2

theorem not_next_of_blockedBy {t u : Nat} (hq : s.QueuesNodup) (hb : s.blockedBy t u = true)
    (hut : u ≠ t) {act : Act} : s.next t act = none := by
  obtain ⟨l, m, hw, hmem, hblock⟩ := blockedBy_eq_true.mp hb
  cases h : s.next t act with
  | none => rfl
  | some s' =>
      rcases next_cases h with ⟨l', m', hw', hnot, -⟩ | ⟨l', m', hw', hhead, hgrant, -⟩ |
        ⟨env, _, _, _, hbody, -⟩
      · rw [hw] at hw'
        cases hw'
        exact absurd hmem hnot
      · rw [hw] at hw'
        cases hw'
        obtain ⟨rest, hqueue⟩ := List.head?_eq_some_iff.mp hhead
        rcases hblock with hinc | hsub
        · simp [compatible_of_grantable hgrant hut] at hinc
        · rw [hqueue] at hsub
          have hnodup := hq l
          rw [hqueue] at hnodup
          rcases List.sublist_cons_iff.mp hsub with hsub | ⟨r, hr, -⟩
          · exact absurd (hsub.subset (by simp)) (List.nodup_cons.mp hnodup).1
          · simp at hr
            exact absurd hr.1 hut
      · simp [Pc.body_eq_none_of_wants hw] at hbody

/-- A deadlock is for ever: a step is another task's, keeps every member's
program counter, and keeps the deadlock. -/
theorem Deadlocked.next {D : List Nat} (hq : s.QueuesNodup) (hd : s.Deadlocked D) {t : Nat}
    {act : Act} (h : s.next t act = some s') :
    t ∉ D ∧ s'.Deadlocked D ∧ ∀ v ∈ D, s'.task v = s.task v := by
  have htD : t ∉ D := fun ht => by
    obtain ⟨u, -, hut, hb⟩ := hd.2 t ht
    simp [not_next_of_blockedBy hq hb hut] at h
  have hsame : ∀ v ∈ D, s'.task v = s.task v := fun v hv => by
    have hvt : v ≠ t := fun hvt => htD (hvt ▸ hv)
    rcases next_cases h with ⟨_, _, _, _, rfl⟩ | ⟨_, _, _, _, _, rfl⟩ | ⟨_, _, _, _, _, rfl⟩
    · rfl
    · exact task_set_ne s _ hvt
    · exact task_set_ne s _ hvt
  refine ⟨htD, ⟨hd.1, fun v hv => ?_⟩, hsame⟩
  obtain ⟨u, hu, huv, hb⟩ := hd.2 v hv
  have hvt : v ≠ t := fun hvt => htD (hvt ▸ hv)
  have hut : u ≠ t := fun hut => htD (hut ▸ hu)
  refine ⟨u, hu, huv, blockedBy_of_queue hb (hsame v hv) (hsame u hu) fun l hmem => ?_⟩
  rcases next_cases h with ⟨l', _, _, _, rfl⟩ | ⟨l', _, _, hhead, _, rfl⟩ | ⟨_, _, _, _, _, rfl⟩
  · by_cases hl : l = l'
    · subst hl
      simpa using ⟨.inl hmem, fun hsub => hsub.trans (List.sublist_append_left _ _)⟩
    · simpa [Function.update_noteq hl] using hmem
  · by_cases hl : l = l'
    · subst hl
      obtain ⟨rest, hqueue⟩ := List.head?_eq_some_iff.mp hhead
      simp only [Function.update_same, hqueue, List.tail_cons]
      rw [hqueue] at hmem
      refine ⟨(List.mem_cons.mp hmem).resolve_left hvt, fun hsub => ?_⟩
      rcases List.sublist_cons_iff.mp hsub with hsub | ⟨r, hr, -⟩
      · exact hsub
      · simp at hr
        exact absurd hr.1 hut
    · simpa [Function.update_noteq hl] using hmem
  · exact ⟨hmem, id⟩

end Sys

/-- Every state reachable from a deadlocked one keeps the deadlock and the
members' program counters. -/
theorem Reachable.deadlocked {s₀ s : Sys} (hreach : Reachable s₀ s) (hq : s₀.QueuesNodup)
    {D : List Nat} (hd : s₀.Deadlocked D) :
    s.QueuesNodup ∧ s.Deadlocked D ∧ ∀ v ∈ D, s.task v = s₀.task v := by
  induction hreach with
  | refl => exact ⟨hq, hd, fun _ _ => rfl⟩
  | step _ hnext ih =>
      obtain ⟨hq', hd', hsame⟩ := ih
      obtain ⟨-, hd'', hsame'⟩ := hd'.next hq' hnext
      exact ⟨hq'.next hnext, hd'', fun v hv => (hsame' v hv).trans (hsame v hv)⟩

theorem Reachable.queues {s₀ s : Sys} (hreach : Reachable s₀ s) (hq : s₀.QueuesNodup)
    (hw : s₀.QueuesWanted) : s.QueuesNodup ∧ s.QueuesWanted := by
  induction hreach with
  | refl => exact ⟨hq, hw⟩
  | step _ hnext ih => exact ⟨ih.1.next hnext, ih.2.next ih.1 hnext⟩

/-- Session 0 takes `used_devices.write()` for an import; task 1,
`remove_device("1-1-1")`, takes `available_devices.write()`, finds no such id
and queues for `used_devices.read()`; the session queues for
`available_devices.write()`. -/
def removeDuringImport : List (Nat × Sys.Act) :=
  [(0, .body envImport), (0, .enqueue), (0, .acquire), (0, .body envImport),
   (0, .enqueue), (0, .acquire), (1, .enqueue), (1, .acquire), (1, .body envImport),
   (1, .enqueue), (0, .enqueue)]

/-- `remove_device` of an id that is not available and an `OP_REQ_IMPORT`
wait for each other for ever: from the state the schedule reaches, no run
moves either task. -/
theorem remove_device_deadlocks_with_import :
    ∃ s, Reachable (Sys.init [testDevice] [.top none, .removeAvailable "1-1-1"]) s ∧
      s.Deadlocked [0, 1] ∧
      ∀ s', Reachable s s' → s'.Deadlocked [0, 1] ∧
        s'.task 0 = .importAvailable testBusid ∧ s'.task 1 = .removeUsed "1-1-1" := by
  obtain ⟨s, hs⟩ : ∃ s,
      (Sys.init [testDevice] [.top none, .removeAvailable "1-1-1"]).run removeDuringImport =
        some s := ⟨_, rfl⟩
  have hcheck := (by decide : ((Sys.init [testDevice] [.top none, .removeAvailable "1-1-1"]).run
    removeDuringImport).map (fun s => decide (s.Deadlocked [0, 1]) &&
      decide (s.task 0 = .importAvailable testBusid) &&
      decide (s.task 1 = .removeUsed "1-1-1")) = some true)
  simp only [hs, Option.map_some', Option.some.injEq, Bool.and_eq_true,
    decide_eq_true_eq] at hcheck
  obtain ⟨⟨hd, h0⟩, h1⟩ := hcheck
  have hreach := Reachable.refl.of_run hs
  have hq := (hreach.queues (Sys.init_queues _ _).1 (Sys.init_queues _ _).2).1
  refine ⟨s, hreach, hd, fun s' hs' => ?_⟩
  obtain ⟨-, hd', hsame⟩ := hs'.deadlocked hq hd
  exact ⟨hd', (hsame 0 (by simp)).trans h0, (hsame 1 (by simp)).trans h1⟩

theorem indexOf_lt_of_sublist_pair {q : List Nat} {u t : Nat} (hnd : q.Nodup) (hut : u ≠ t)
    (hs : List.Sublist [u, t] q) : q.indexOf u < q.indexOf t := by
  induction q with
  | nil => simp at hs
  | cons x q ih =>
      obtain ⟨hx, hnd⟩ := List.nodup_cons.mp hnd
      rcases List.sublist_cons_iff.mp hs with hs | ⟨r, hr, hsub⟩
      · have hxu : x ≠ u := fun h => hx (h ▸ hs.subset (by simp))
        have hxt : x ≠ t := fun h => hx (h ▸ hs.subset (by simp))
        rw [List.indexOf_cons_ne _ hxu, List.indexOf_cons_ne _ hxt]
        exact Nat.succ_lt_succ (ih hnd hs)
      · obtain ⟨rfl, rfl⟩ := List.cons.inj hr
        rw [List.indexOf_cons_self, List.indexOf_cons_ne _ hut]
        exact Nat.succ_pos _

/-- No member of `D` satisfies `Q` when each one that does is preceded, in the
measure `f`, by another member that does. -/
theorem not_of_rank_descent {D : List Nat} {Q : Nat → Prop} (f : Nat → Nat)
    (h : ∀ t ∈ D, Q t → ∃ u ∈ D, Q u ∧ f u < f t) : ∀ t ∈ D, ¬ Q t := by
  have hrank : ∀ n, ∀ t ∈ D, Q t → f t ≠ n := fun n => by
    induction n using Nat.strong_induction_on with
    | _ n ih =>
        intro t ht hq hn
        obtain ⟨u, hu, hqu, hlt⟩ := h t ht hq
        exact ih _ (hn ▸ hlt) u hu hqu rfl
  exact fun t ht hq => hrank _ t ht hq rfl

namespace Sys

variable {s : Sys} {D : List Nat}

/-- Where a waiting task stands in the order the locks can serve it: the queue
of `available_devices` first, then the queue of `used_devices`. -/
def waitRank (s : Sys) (t : Nat) : Nat :=
  match (s.task t).wants with
  | some (.available, _) => (s.queue .available).indexOf t
  | some (.used, _) => (s.queue .available).length + (s.queue .used).indexOf t
  | none => 0

/-- Without a `remove_device` waiting for `used_devices.read()`, every member
of a deadlock is blocked by a member served before it: by one ahead of it in
its queue, or, for a task waiting for `used_devices`, by a holder of it, which
itself waits for `available_devices`. -/
theorem Deadlocked.exists_waitRank_lt (hq : s.QueuesNodup) (hw : s.QueuesWanted)
    (hd : s.Deadlocked D) (hnone : ∀ t ∈ D, ∀ busId, s.task t ≠ .removeUsed busId) {t : Nat}
    (ht : t ∈ D) : ∃ u ∈ D, s.waitRank u < s.waitRank t := by
  obtain ⟨u, hu, hut, hb⟩ := hd.2 t ht
  obtain ⟨l, m, hwant, hmem, hblock⟩ := blockedBy_eq_true.mp hb
  refine ⟨u, hu, ?_⟩
  rcases hblock with hinc | hsub
  · have hheld : (s.task u).holds l ≠ none := fun h => by simp [h, Compatible] at hinc
    obtain ⟨v, -, -, hbu⟩ := hd.2 u hu
    obtain ⟨l', m', hwant', hmem', -⟩ := blockedBy_eq_true.mp hbu
    cases l with
    | available =>
        obtain ⟨b, hb⟩ := Pc.eq_removeUsed_of_holds_available hwant' hheld
        exact absurd hb (hnone u hu b)
    | used =>
        obtain rfl := Pc.wants_available_of_holds_used hwant' hheld
        have hlt := List.indexOf_lt_length.mpr hmem'
        simp only [waitRank, hwant, hwant']
        omega
  · obtain ⟨m', hwant'⟩ := hw l u (hsub.subset (by simp))
    have hlt := indexOf_lt_of_sublist_pair (hq l) hut hsub
    cases l <;> simp only [waitRank, hwant, hwant'] <;> omega

/-- Every deadlock has a `remove_device` in it that holds
`available_devices.write()` and waits for `used_devices.read()`. -/
theorem Deadlocked.exists_removeUsed (hq : s.QueuesNodup) (hw : s.QueuesWanted)
    (hd : s.Deadlocked D) : ∃ t ∈ D, ∃ busId, s.task t = .removeUsed busId := by
  by_contra hnone
  push_neg at hnone
  obtain ⟨t, ht⟩ := List.exists_mem_of_ne_nil D hd.1
  refine @not_of_rank_descent D (fun _ => True) s.waitRank (fun t ht _ => ?_) t ht trivial
  obtain ⟨u, hu, hlt⟩ := hd.exists_waitRank_lt hq hw hnone ht
  exact ⟨u, hu, trivial, hlt⟩

/-- Every deadlock has a member that holds a guard of `used_devices` and waits
for `available_devices`: the member that `used_devices` would serve first is
blocked by such a holder. -/
theorem Deadlocked.exists_used_holder (hq : s.QueuesNodup) (hw : s.QueuesWanted)
    (hd : s.Deadlocked D) :
    ∃ u ∈ D, (s.task u).holds .used ≠ none ∧ ∃ m, (s.task u).wants = some (.available, m) := by
  by_contra hnone
  push_neg at hnone
  have hahead : ∀ t ∈ D, t ∈ s.queue .used → ∃ u ∈ D, u ∈ s.queue .used ∧
      (s.queue .used).indexOf u < (s.queue .used).indexOf t := fun t ht htq => by
    obtain ⟨u, hu, hut, hb⟩ := hd.2 t ht
    obtain ⟨l, m, hwant, -, hblock⟩ := blockedBy_eq_true.mp hb
    obtain ⟨m', hwant'⟩ := hw .used t htq
    cases hwant.symm.trans hwant'
    rcases hblock with hinc | hsub
    · have hheld : (s.task u).holds .used ≠ none := fun h => by simp [h, Compatible] at hinc
      obtain ⟨v, -, -, hbu⟩ := hd.2 u hu
      obtain ⟨l', m'', hwu, -, -⟩ := blockedBy_eq_true.mp hbu
      obtain rfl := Pc.wants_available_of_holds_used hwu hheld
      exact absurd hwu (hnone u hu hheld m'')
    · exact ⟨u, hu, hsub.subset (by simp), indexOf_lt_of_sublist_pair (hq .used) hut hsub⟩
  obtain ⟨t, ht, busId, hrm⟩ := hd.exists_removeUsed hq hw
  obtain ⟨u, -, -, hb⟩ := hd.2 t ht
  obtain ⟨l, m, hwant, hmem, -⟩ := blockedBy_eq_true.mp hb
  rw [hrm] at hwant
  cases hwant
  exact not_of_rank_descent _ hahead t ht hmem

end Sys

/-- In every state reachable from a start state, every deadlocked set of tasks
holds a caller of `remove_device` that holds `available_devices.write()` and
waits for `used_devices.read()`. -/
theorem deadlock_needs_remove_device {devices : List UsbDevice} {tasks : List Pc} {s : Sys}
    {D : List Nat} (hs : Reachable (Sys.init devices tasks) s) (hd : s.Deadlocked D) :
    ∃ t ∈ D, ∃ busId, s.task t = .removeUsed busId :=
  have hqueues := hs.queues (Sys.init_queues _ _).1 (Sys.init_queues _ _).2
  hd.exists_removeUsed hqueues.1 hqueues.2

theorem deadlock_needs_remove_device_removeDuringImport :
    ∃ s, (Sys.init [testDevice] [.top none, .removeAvailable "1-1-1"]).run removeDuringImport =
        some s ∧ s.Deadlocked [0, 1] ∧ ∃ t ∈ [0, 1], ∃ busId, s.task t = .removeUsed busId := by
  obtain ⟨s, hs⟩ : ∃ s,
      (Sys.init [testDevice] [.top none, .removeAvailable "1-1-1"]).run removeDuringImport =
        some s := ⟨_, rfl⟩
  have hcheck := (by decide : ((Sys.init [testDevice] [.top none, .removeAvailable "1-1-1"]).run
    removeDuringImport).map (fun s => decide (s.Deadlocked [0, 1])) = some true)
  simp only [hs, Option.map_some', Option.some.injEq, decide_eq_true_eq] at hcheck
  exact ⟨s, hs, hcheck, deadlock_needs_remove_device (Reachable.refl.of_run hs) hcheck⟩

theorem Reachable.not_isRemove {s₀ s : Sys} (hreach : Reachable s₀ s)
    (h₀ : ∀ t, (s₀.task t).isRemove = false) : ∀ t, (s.task t).isRemove = false :=
  hreach.task_forall (fun p => p.isRemove = false) (fun p hp => (Pc.isRemove_granted p).trans hp)
    (fun hp hb => Bool.eq_false_iff.mpr fun hp' => by simp [Pc.isRemove_of_body hb hp'] at hp) h₀

/-- A server whose devices are never removed never deadlocks: from a start
state without callers of `remove_device`, no reachable state is deadlocked. -/
theorem no_deadlock_without_remove_device {devices : List UsbDevice} {tasks : List Pc} {s : Sys}
    {D : List Nat} (htasks : ∀ p ∈ tasks, p.isRemove = false)
    (hs : Reachable (Sys.init devices tasks) s) : ¬ s.Deadlocked D := by
  intro hd
  have hqueues := hs.queues (Sys.init_queues _ _).1 (Sys.init_queues _ _).2
  obtain ⟨t, -, busId, ht⟩ := hd.exists_removeUsed hqueues.1 hqueues.2
  have hnot := hs.not_isRemove (Sys.init_task_forall (fun p => p.isRemove = false) rfl htasks)
  simpa [ht, Pc.isRemove] using hnot t

/-- A session importing next to a caller of `available_devices`. -/
theorem no_deadlock_without_remove_device_import :
    ∃ s, (Sys.init [testDevice] [.top none, .snapshotAvailable]).run (removeDuringImport.take 6) =
      some s ∧ ∀ D, ¬ s.Deadlocked D := by
  refine ⟨_, rfl, fun D => ?_⟩
  exact @no_deadlock_without_remove_device [testDevice] [.top none, .snapshotAvailable] _ D
    (by decide) (@Reachable.of_run _ _ .refl (removeDuringImport.take 6) _ rfl)

/-- In every state reachable from a start state, every deadlocked set of tasks
also holds a session that holds a guard of `used_devices` and waits for
`available_devices`: an import or a release after its `used_devices.write()`,
or an `OP_REQ_DEVLIST` under the read guard of line 39.  Every deadlock crosses
the two lock orders. -/
theorem deadlock_needs_session_holding_used {devices : List UsbDevice} {tasks : List Pc}
    {s : Sys} {D : List Nat} (hs : Reachable (Sys.init devices tasks) s) (hd : s.Deadlocked D) :
    ∃ u ∈ D, (∃ busid, s.task u = .importAvailable busid) ∨
      (∃ devId result, s.task u = .releaseAvailable devId result) ∨
      ∃ cur, s.task u = .devlistAvailable cur :=
  have hqueues := hs.queues (Sys.init_queues _ _).1 (Sys.init_queues _ _).2
  let ⟨u, hu, hheld, _, hwant⟩ := hd.exists_used_holder hqueues.1 hqueues.2
  ⟨u, hu, Pc.session_of_holds_used hwant hheld⟩

/-- What a session reads: `OP_REQ_DEVLIST`. -/
def envDevlist : Env :=
  ⟨.ok .opReqDevlist, .ok [], .ok ()⟩

/-- Session 0 takes `used_devices.read()` for `OP_REQ_DEVLIST` and keeps it;
task 2, `remove_device("1-1-1")`, takes `available_devices.write()`, finds no
such id and queues for `used_devices.read()` behind session 1, which queued
for `used_devices.write()` to import; session 0 then queues for
`available_devices.read()`.  No task holds `used_devices.write()`. -/
def removeDuringDevlist : List (Nat × Sys.Act) :=
  [(0, .body envDevlist), (0, .enqueue), (0, .acquire), (0, .body envDevlist),
   (2, .enqueue), (2, .acquire), (2, .body envDevlist),
   (1, .body envImport), (1, .enqueue), (1, .acquire), (1, .body envImport),
   (1, .enqueue), (2, .enqueue), (0, .enqueue)]

theorem deadlock_needs_session_holding_used_devlist :
    ∃ s, (Sys.init [testDevice] [.top none, .top none, .removeAvailable "1-1-1"]).run
        removeDuringDevlist = some s ∧ s.Deadlocked [0, 1, 2] ∧
      s.task 0 = .devlistAvailable none ∧ s.task 1 = .importUsed testBusid ∧
      s.task 2 = .removeUsed "1-1-1" ∧
      ∃ u ∈ [0, 1, 2], (∃ busid, s.task u = .importAvailable busid) ∨
        (∃ devId result, s.task u = .releaseAvailable devId result) ∨
        ∃ cur, s.task u = .devlistAvailable cur := by
  obtain ⟨s, hs⟩ : ∃ s, (Sys.init [testDevice] [.top none, .top none, .removeAvailable "1-1-1"]).run
      removeDuringDevlist = some s := ⟨_, rfl⟩
  have hcheck := (by decide : ((Sys.init [testDevice]
    [.top none, .top none, .removeAvailable "1-1-1"]).run removeDuringDevlist).map
      (fun s => decide (s.Deadlocked [0, 1, 2]) && decide (s.task 0 = .devlistAvailable none) &&
        decide (s.task 1 = .importUsed testBusid) &&
        decide (s.task 2 = .removeUsed "1-1-1")) = some true)
  simp only [hs, Option.map_some', Option.some.injEq, Bool.and_eq_true,
    decide_eq_true_eq] at hcheck
  obtain ⟨⟨⟨hd, h0⟩, h1⟩, h2⟩ := hcheck
  exact ⟨s, hs, hd, h0, h1, h2,
    deadlock_needs_session_holding_used (Reachable.refl.of_run hs) hd⟩

theorem Reachable.isAdmin {s₀ s : Sys} (hreach : Reachable s₀ s)
    (h₀ : ∀ t, (s₀.task t).isAdmin = true) : ∀ t, (s.task t).isAdmin = true :=
  hreach.task_forall (fun p => p.isAdmin = true) (fun p hp => (Pc.isAdmin_granted p).trans hp)
    (fun hp hb => (Pc.isAdmin_of_body hp hb).1) h₀

theorem Reachable.usedDevices_of_isAdmin {s₀ s : Sys} (hreach : Reachable s₀ s)
    (h₀ : ∀ t, (s₀.task t).isAdmin = true) : s.server.usedDevices = s₀.server.usedDevices := by
  induction hreach with
  | refl => rfl
  | step hr hnext ih =>
      rcases Sys.next_cases hnext with ⟨_, _, -, -, rfl⟩ | ⟨_, _, -, -, -, rfl⟩ |
        ⟨_, _, _, _, hb, rfl⟩
      · exact ih
      · exact ih
      · exact (Pc.isAdmin_of_body (hr.isAdmin h₀ _) hb).2.trans ih

/-- Callers of `add_device`, `remove_device` and `available_devices` alone, in
any number and any interleaving: no reachable state is deadlocked, no task
panics, and no device is ever in `used_devices`. -/
theorem admin_churn_safe {devices : List UsbDevice} {tasks : List Pc} {s : Sys}
    (htasks : ∀ p ∈ tasks, p.isAdmin = true) (hs : Reachable (Sys.init devices tasks) s) :
    (∀ D, ¬ s.Deadlocked D) ∧ (∀ t, s.task t ≠ .panicked) ∧ s.server.usedDevices = ∅ := by
  have h₀ : ∀ t, ((Sys.init devices tasks).task t).isAdmin = true :=
    Sys.init_task_forall (fun p => p.isAdmin = true) rfl htasks
  have hadmin := hs.isAdmin h₀
  have hqueues := hs.queues (Sys.init_queues _ _).1 (Sys.init_queues _ _).2
  refine ⟨fun D hd => ?_, fun t ht => by simpa [ht, Pc.isAdmin] using hadmin t,
    hs.usedDevices_of_isAdmin h₀⟩
  obtain ⟨u, -, hheld, _, hwant⟩ := hd.exists_used_holder hqueues.1 hqueues.2
  have hu := hadmin u
  rcases Pc.session_of_holds_used hwant hheld with ⟨_, hp⟩ | ⟨_, _, hp⟩ | ⟨_, hp⟩ <;>
    simp [hp, Pc.isAdmin] at hu

/-- Adding a device and removing it while another task takes snapshots. -/
def addThenRemove : List (Nat × Sys.Act) :=
  [(0, .enqueue), (0, .acquire), (2, .enqueue), (0, .body envImport), (2, .acquire),
   (1, .enqueue), (2, .body envImport), (1, .acquire), (1, .body envImport)]

theorem admin_churn_safe_addThenRemove :
    ∃ s, (Sys.init [] [.addAvailable testDevice, .removeAvailable "0-0-0", .snapshotAvailable]).run
        addThenRemove = some s ∧ s.server.availableDevices = [] ∧
      (∀ D, ¬ s.Deadlocked D) ∧ (∀ t, s.task t ≠ .panicked) ∧ s.server.usedDevices = ∅ := by
  refine ⟨_, rfl, rfl, ?_⟩
  exact @admin_churn_safe [] [.addAvailable testDevice, .removeAvailable "0-0-0", .snapshotAvailable]
    _ (by decide) (@Reachable.of_run _ _ .refl addThenRemove _ rfl)

end UsbIp
