import UsbIp.Locks

/-
The lock-level registry refines the atomic one.  Every critical section that
writes the registry holds `available_devices.write()`, so the log of the
lock-level run, replayed one entry at a time on the atomic operations of
`UsbIp.Registry`, gives back the registry and every recorded result, and its
writes come in the order the tasks were granted that lock.  `remove_device`
reads `used_devices` in a second critical section; it still sees the state of
its first, since only a holder of `available_devices.write()` changes the
registry.
-/

namespace UsbIp

namespace Entry

/-- The task of an entry that writes the registry. -/
def writer? : Entry → Option Nat
  | addDevice t _ | removeDevice t .. | importDevice t .. | releaseDevice t .. => some t
  | _ => none

/-- Run one logged operation atomically; `none` when the logged result or
observation is not the atomic one. -/
def replay (server : UsbIpServer) : Entry → Option UsbIpServer
  | addDevice _ device => some (server.addDevice device)
  | removeDevice _ busId result =>
      if (server.removeDevice busId).2 = result then some (server.removeDevice busId).1 else none
  | importDevice _ busid found =>
      if (server.importDevice busid).2 = found then some (server.importDevice busid).1 else none
  | releaseDevice _ devId released =>
      match server.releaseDevice devId, released with
      | some server', true => some server'
      | none, false => some server
      | _, _ => none
  | devlist _ devices | snapshot _ devices =>
      if devices = server.availableDevices then some server else none
  | lookup _ devId device =>
      if devId.bind server.usedDevices.lookup = device then some server else none

end Entry

/-- Replay a log atomically, one entry after the other. -/
def replay (server : UsbIpServer) : List Entry → Option UsbIpServer
  | [] => some server
  | e :: rest => (e.replay server).bind (replay · rest)

theorem replay_append (server : UsbIpServer) (log entries : List Entry) :
    replay server (log ++ entries) = (replay server log).bind (replay · entries) := by
  induction log generalizing server with
  | nil => rfl
  | cons e rest ih =>
      simp only [List.cons_append, replay]
      cases e.replay server <;> simp [ih]

/-- The id of a `remove_device` past a `position` check that did not find it. -/
def Pc.removing : Pc → Option String
  | .removeUsed busId | .removeBody busId => some busId
  | _ => none

theorem Pc.holds_of_removing {p : Pc} {busId : String} (h : p.removing = some busId) :
    p.holds .available = some .write := by
  cases p <;> first | rfl | cases h

/-- What the code between two acquisitions does: it only gives locks up, it
changes the registry only under `available_devices.write()`, its entries
replay to its effect, and it logs one write exactly when it gives up that
guard. -/
structure BodyFacts (t : Nat) (p p' : Pc) (server server' : UsbIpServer)
    (entries : List Entry) : Prop where
  holds : ∀ l, p'.holds l = none ∨ p'.holds l = p.holds l
  registry : p.holds .available ≠ some .write → server' = server
  writers : entries.filterMap Entry.writer? ++
      (if p'.holds .available = some .write then [t] else []) =
    if p.holds .available = some .write then [t] else []
  replay : (∀ busId, p.removing = some busId → ∀ d ∈ server.availableDevices, d.busId ≠ busId) →
    replay server entries = some server'
  pending : ∀ busId, p'.removing = some busId → ∀ d ∈ server'.availableDevices, d.busId ≠ busId

@[simp] theorem afterWrite_toPc_holds (write : Except IoError Unit) (cur : Option String)
    (l : LockId) : (afterWrite write cur).toPc.holds l = none := by
  cases write <;> rfl

@[simp] theorem afterWrite_toPc_removing (write : Except IoError Unit) (cur : Option String) :
    (afterWrite write cur).toPc.removing = none := by
  cases write <;> rfl

theorem Pc.body_facts {t : Nat} {p p' : Pc} {server server' : UsbIpServer} {env : Env}
    {entries : List Entry} (h : p.body t server env = some (server', p', entries)) :
    BodyFacts t p p' server server' entries := by
  cases p with
  | top cur =>
      simp only [Pc.body] at h
      split at h <;> simp only [Option.some.injEq, Prod.mk.injEq] at h <;>
        obtain ⟨rfl, rfl, rfl⟩ := h <;>
        exact ⟨fun l => .inl (by cases l <;> rfl), fun _ => rfl, rfl, fun _ => rfl, nofun⟩
  | releaseBody devId result =>
      simp only [Pc.body] at h
      split at h <;> simp only [Option.some.injEq, Prod.mk.injEq] at h <;>
        obtain ⟨rfl, rfl, rfl⟩ := h <;> rename_i hrel <;>
        exact ⟨fun l => .inl rfl, fun h => absurd rfl h, rfl,
          fun _ => by simp [replay, Entry.replay, hrel], nofun⟩
  | dispatch cur cmd =>
      simp only [Pc.body] at h
      split at h
      all_goals first
        | (simp only [Option.some.injEq, Prod.mk.injEq] at h
           obtain ⟨rfl, rfl, rfl⟩ := h)
        | (split at h <;> simp only [Option.some.injEq, Prod.mk.injEq] at h <;>
             obtain ⟨rfl, rfl, rfl⟩ := h)
      all_goals exact ⟨fun l => by cases l <;> first | exact .inl rfl | exact .inr rfl |
          exact .inl (afterWrite_toPc_holds _ _ _), fun _ => rfl,
        by first | rfl | (rw [afterWrite_toPc_holds]; rfl),
        fun _ => by simp [replay, Entry.replay], fun _ h => by first | cases h | simp at h⟩
  | devlistBody cur =>
      simp only [Pc.body, Option.some.injEq, Prod.mk.injEq] at h
      obtain ⟨rfl, rfl, rfl⟩ := h
      exact ⟨fun _ => .inl (afterWrite_toPc_holds _ _ _), fun _ => rfl,
        by rw [afterWrite_toPc_holds]; rfl, fun _ => by simp [replay, Entry.replay],
        fun _ h => by simp at h⟩
  | importBody busid =>
      simp only [Pc.body] at h
      have hreplay : replay server [.importDevice t busid (server.importDevice busid).2] =
          some (server.importDevice busid).1 := by
        simp [replay, Entry.replay]
      split at h <;> (try split at h) <;> simp only [Option.some.injEq, Prod.mk.injEq] at h <;>
        obtain ⟨rfl, rfl, rfl⟩ := h <;>
        exact ⟨fun l => by cases l <;> first | exact .inl rfl |
            exact .inl (afterWrite_toPc_holds _ _ _), fun h => absurd rfl h,
          by first | rfl | (rw [afterWrite_toPc_holds]; rfl), fun _ => hreplay,
          fun _ h => by first | cases h | simp at h⟩
  | addBody device =>
      simp only [Pc.body, Option.some.injEq, Prod.mk.injEq] at h
      obtain ⟨rfl, rfl, rfl⟩ := h
      exact ⟨fun l => .inl rfl, fun h => absurd rfl h, rfl,
        fun _ => by simp [replay, Entry.replay], nofun⟩
  | removeCheck busId =>
      simp only [Pc.body] at h
      split at h <;> simp only [Option.some.injEq, Prod.mk.injEq] at h <;>
        obtain ⟨rfl, rfl, rfl⟩ := h
      · rename_i d hfind
        exact ⟨fun l => .inl rfl, fun h => absurd rfl h, rfl, fun _ => by
          simp [replay, Entry.replay, UsbIpServer.removeDevice_of_find?_some hfind], nofun⟩
      · rename_i hfind
        refine ⟨fun l => .inr (by cases l <;> rfl), fun _ => rfl, rfl, fun _ => rfl, ?_⟩
        rintro b ⟨⟩ d hd
        simpa using List.find?_eq_none.mp hfind d hd
  | removeBody busId =>
      simp only [Pc.body, Option.some.injEq, Prod.mk.injEq] at h
      obtain ⟨rfl, rfl, rfl⟩ := h
      refine ⟨fun l => .inl rfl, fun h => absurd rfl h, rfl, fun hpending => ?_, nofun⟩
      have hfind : server.availableDevices.find? (·.busId == busId) = none := by
        simpa using hpending busId rfl
      simp [replay, Entry.replay, UsbIpServer.removeDevice_of_find?_none hfind]
  | snapshotBody =>
      simp only [Pc.body, Option.some.injEq, Prod.mk.injEq] at h
      obtain ⟨rfl, rfl, rfl⟩ := h
      exact ⟨fun l => .inl rfl, fun _ => rfl, rfl, fun _ => by simp [replay, Entry.replay],
        nofun⟩
  | _ => simp [Pc.body] at h

theorem Pc.removing_of_granted {p : Pc} {busId : String} (h : p.granted.removing = some busId) :
    p.removing = some busId := by
  cases p <;> exact h

theorem Pc.Initial.holds {p : Pc} (hp : p.Initial) (l : LockId) : p.holds l = none := by
  cases p <;> first | rfl | exact hp.elim

namespace Sys

/-- The invariant of the runs from `new_simulated(devices)`. -/
structure LInv (devices : List UsbDevice) (s : Sys) : Prop where
  /-- A write guard excludes every other guard on its lock. -/
  exclusive : ∀ {t u : Nat} {l : LockId}, t ≠ u → (s.task t).holds l = some .write →
    (s.task u).holds l = none
  /-- A `remove_device` that found its id not available still does not. -/
  pending : ∀ {t : Nat} {busId : String}, (s.task t).removing = some busId →
    ∀ d ∈ s.server.availableDevices, d.busId ≠ busId
  /-- The log replays atomically to the registry. -/
  replay : replay (.newSimulated devices) s.log = some s.server
  /-- The writers of the log, then the holder of `available_devices.write()`,
  are the tasks in the order they were granted it. -/
  writeOrder : ∃ o : Option Nat,
    (∀ t, (s.task t).holds .available = some .write ↔ o = some t) ∧
      s.log.filterMap Entry.writer? ++ o.toList = s.writeOrder

variable {devices : List UsbDevice} {s s' : Sys} {t : Nat}

theorem LInv.init {tasks : List Pc} (htasks : ∀ p ∈ tasks, p.Initial) :
    (Sys.init devices tasks).LInv devices := by
  have hnone : ∀ u l, ((Sys.init devices tasks).task u).holds l = none :=
    Sys.init_task_forall (fun p => ∀ l, p.holds l = none) (fun _ => rfl)
      fun p hp => (htasks p hp).holds
  refine ⟨fun _ h => by simp [hnone] at h, fun h => ?_, rfl, ⟨none, by simp [hnone], rfl⟩⟩
  simpa [hnone] using Pc.holds_of_removing h

/-- Taking a lock: the guard is compatible with every other holder, and the
grant order gains the task exactly when the lock is `available_devices.write()`. -/
theorem LInv.acquire (hi : s.LInv devices) {l : LockId} {m : Mode} (ht : t < s.tasks.length)
    (hw : (s.task t).wants = some (l, m)) (hg : s.grantable t l m = true) :
    LInv devices { s with
      tasks := s.tasks.set t (s.task t).granted
      queue := Function.update s.queue l (s.queue l).tail
      writeOrder := if (l, m) = (.available, .write) then s.writeOrder ++ [t]
        else s.writeOrder } := by
  have hholds : ∀ q w u l', ((Sys.mk s.server (s.tasks.set t (s.task t).granted) q s.log
      w).task u).holds l' = if u = t ∧ l' = l then some m else (s.task u).holds l' :=
    fun q w u l' => by
      rw [task_set s _ ht]
      by_cases hu : u = t <;> simp [hu, Pc.holds_granted hw]
  have hfree := Pc.holds_of_wants hw
  refine ⟨fun {u v l'} huv hu => ?_, fun {u b} hu => ?_, hi.replay, ?_⟩
  · rw [hholds] at hu ⊢
    by_cases hv : v = t ∧ l' = l
    · obtain ⟨rfl, rfl⟩ := hv
      rw [if_neg fun h => huv h.1] at hu
      simpa [hu] using compatible_of_grantable hg huv
    · rw [if_neg hv]
      by_cases hu' : u = t ∧ l' = l
      · obtain ⟨rfl, rfl⟩ := hu'
        rw [if_pos ⟨rfl, rfl⟩] at hu
        cases hu
        simpa using compatible_of_grantable hg (Ne.symm huv)
      · rw [if_neg hu'] at hu
        exact hi.exclusive huv hu
  · rw [task_set s _ ht] at hu
    split_ifs at hu with hut
    · exact hi.pending (hut ▸ Pc.removing_of_granted hu)
    · exact hi.pending hu
  · obtain ⟨o, ho, horder⟩ := hi.writeOrder
    by_cases hlm : (l, m) = (.available, .write)
    · obtain ⟨rfl, rfl⟩ := Prod.mk.inj hlm
      have ho_none : o = none := by
        cases o with
        | none => rfl
        | some u =>
            have hu := (ho u).mpr rfl
            have hut : u ≠ t := fun h => by simp [h, hfree] at hu
            simpa [hu] using compatible_of_grantable hg hut
      subst ho_none
      refine ⟨some t, fun u => ?_, by simpa using horder⟩
      rw [hholds]
      by_cases hu : u = t
      · simp [hu]
      · rw [if_neg fun h => hu h.1, ho u]
        simp [Ne.symm hu]
    · refine ⟨o, fun u => ?_, by simpa [hlm] using horder⟩
      rw [hholds, ← ho u]
      split_ifs with hu
      · obtain ⟨rfl, rfl⟩ := hu
        cases m
        · simp [hfree]
        · exact absurd rfl hlm
      · rfl

/-- Running the code between two acquisitions. -/
theorem LInv.body (hi : s.LInv devices) {env : Env} {server' : UsbIpServer} {p' : Pc}
    {entries : List Entry} (ht : t < s.tasks.length)
    (hbody : (s.task t).body t s.server env = some (server', p', entries)) :
    LInv devices { s with
      server := server'
      tasks := s.tasks.set t p'
      log := s.log ++ entries } := by
  have hb := Pc.body_facts hbody
  have htask := task_set s p' ht server' s.queue (s.log ++ entries) s.writeOrder
  refine ⟨fun {u v l} huv hu => ?_, fun {u b} hu => ?_, ?_, ?_⟩
  · rw [htask] at hu ⊢
    by_cases hv : v = t
    · rw [if_pos hv]
      rw [if_neg fun h => huv (h.trans hv.symm)] at hu
      subst hv
      rcases hb.holds l with h | h
      · exact h
      · exact h.trans (hi.exclusive huv hu)
    · rw [if_neg hv]
      split_ifs at hu with hu'
      · subst hu'
        exact hi.exclusive huv (((hb.holds l).resolve_left (by simp [hu])) ▸ hu)
      · exact hi.exclusive huv hu
  · rw [htask] at hu
    split_ifs at hu with hut
    · exact hb.pending b hu
    · have hwrite := Pc.holds_of_removing hu
      rw [hb.registry fun h => by simp [hi.exclusive hut hwrite] at h]
      exact hi.pending hu
  · rw [replay_append, hi.replay]
    exact hb.replay fun b hp => hi.pending hp
  · obtain ⟨o, ho, horder⟩ := hi.writeOrder
    have hwriters := hb.writers
    by_cases hp : (s.task t).holds .available = some .write
    · obtain rfl : o = some t := (ho t).mp hp
      refine ⟨if p'.holds .available = some .write then some t else none, fun u => ?_, ?_⟩
      · rw [htask]
        by_cases hu : u = t
        · subst hu
          split_ifs <;> simp_all
        · simpa [hu, Ne.symm hu] using ho u
      · rw [hp, if_pos rfl] at hwriters
        rw [← horder, List.filterMap_append, List.append_assoc]
        split_ifs at hwriters ⊢ <;> simpa using hwriters
    · simp only [hp, ite_false, List.append_eq_nil, ite_eq_right_iff] at hwriters
      refine ⟨o, fun u => ?_, by simpa [hwriters.1] using horder⟩
      rw [htask]
      split_ifs with hu
      · subst hu
        rw [← ho u]
        exact ⟨fun h => absurd (hwriters.2 h) (List.cons_ne_nil _ _), fun h => absurd h hp⟩
      · exact ho u

/-- One step of any task keeps the invariant. -/
theorem LInv.next (hi : s.LInv devices) {act : Act} (h : s.next t act = some s') :
    s'.LInv devices := by
  have ht := lt_length_of_next h
  rcases next_cases h with ⟨_, _, -, -, rfl⟩ | ⟨_, _, hw, -, hg, rfl⟩ |
    ⟨_, _, _, _, hbody, rfl⟩
  · exact ⟨hi.1, hi.2, hi.3, hi.4⟩
  · exact hi.acquire ht hw hg
  · exact hi.body ht hbody

end Sys

theorem Reachable.lInv {devices : List UsbDevice} {s₀ s : Sys} (hreach : Reachable s₀ s)
    (hi : s₀.LInv devices) : s.LInv devices := by
  induction hreach with
  | refl => exact hi
  | step _ hnext ih => exact ih.next hnext

/-- A step only appends, to the log and to the grant order. -/
theorem Sys.next_extends {s s' : Sys} {t : Nat} {act : Sys.Act} (h : s.next t act = some s') :
    s.log <+: s'.log ∧ s.writeOrder <+: s'.writeOrder := by
  rcases Sys.next_cases h with ⟨_, _, -, -, rfl⟩ | ⟨_, _, -, -, -, rfl⟩ | ⟨_, _, _, _, -, rfl⟩
  · exact ⟨List.prefix_rfl, List.prefix_rfl⟩
  · refine ⟨List.prefix_rfl, ?_⟩
    split_ifs
    · exact List.prefix_append _ _
    · exact List.prefix_rfl
  · exact ⟨List.prefix_append _ _, List.prefix_rfl⟩

theorem Reachable.extends {s s' : Sys} (h : Reachable s s') :
    s.log <+: s'.log ∧ s.writeOrder <+: s'.writeOrder := by
  induction h with
  | refl => exact ⟨List.prefix_rfl, List.prefix_rfl⟩
  | step _ hnext ih =>
      have hstep := Sys.next_extends hnext
      exact ⟨ih.1.trans hstep.1, ih.2.trans hstep.2⟩

/-- The lock-level server refines the atomic registry.  In every run of
sessions and callers of `add_device`, `remove_device` and
`available_devices`, from `new_simulated(devices)`: the log replays
atomically to the registry, each operation returning what it returned and
each device list and lookup seeing the registry it saw; its writes are the
tasks in the order they were granted `available_devices.write()`, followed by
the task holding it now; and every later state extends the log by entries that
replay from the current registry to the later one. -/
theorem linearizable {devices : List UsbDevice} {tasks : List Pc}
    (htasks : ∀ p ∈ tasks, p.Initial) {s : Sys} (hs : Reachable (Sys.init devices tasks) s) :
    replay (.newSimulated devices) s.log = some s.server ∧
    (∃ o : Option Nat, (∀ t, (s.task t).holds .available = some .write ↔ o = some t) ∧
      s.log.filterMap Entry.writer? ++ o.toList = s.writeOrder) ∧
    ∀ s', Reachable s s' → ∃ rest, s.log ++ rest = s'.log ∧
      replay s.server rest = some s'.server ∧ s.writeOrder <+: s'.writeOrder := by
  have hi := hs.lInv (Sys.LInv.init htasks)
  refine ⟨hi.replay, hi.writeOrder, fun s' hs' => ?_⟩
  obtain ⟨⟨rest, hrest⟩, horder⟩ := hs'.extends
  have hreplay := ((hs.trans hs').lInv (Sys.LInv.init htasks)).replay
  rw [← hrest, replay_append, hi.replay] at hreplay
  exact ⟨rest, hrest, hreplay, horder⟩

/-- A session imports `0-0-0` while a `remove_device("0-0-0")` waits; the
removal then takes both locks in turn and finds the device in use. -/
def importThenRemove : List (Nat × Sys.Act) :=
  [(0, .body envImport), (0, .enqueue), (0, .acquire), (0, .body envImport),
   (0, .enqueue), (0, .acquire), (0, .enqueue), (0, .acquire), (0, .body envImport),
   (1, .enqueue), (1, .acquire), (1, .body envImport), (1, .enqueue), (1, .acquire),
   (1, .body envImport)]

theorem linearizable_importThenRemove :
    ∃ s, (Sys.init [testDevice] [.top none, .removeAvailable "0-0-0"]).run importThenRemove =
        some s ∧ s.writeOrder = [0, 1] ∧
      s.task 1 = .finished (.error ⟨.other, "Device 0-0-0 is in use"⟩) ∧
      replay (.newSimulated [testDevice]) s.log = some s.server := by
  refine ⟨_, rfl, rfl, rfl, ?_⟩
  exact (@linearizable [testDevice] [.top none, .removeAvailable "0-0-0"]
    (by simp [Pc.Initial]) _ (@Reachable.of_run _ _ .refl importThenRemove _ rfl)).1

end UsbIp
