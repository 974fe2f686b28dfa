import UsbIp.Handler

/-
The server at lock granularity.  The two `tokio::sync::RwLock`s of
`UsbIpServer` are fair: a request waits in a FIFO queue and is granted at its
head once it is compatible with the holders.  Every task is a program counter
over its acquisitions: a session in `handler`, a caller of `add_device`,
`remove_device` or `available_devices`.  Who holds a lock is read off the
program counters; the queues are state.  The critical sections run the
registry operations of `UsbIp.Registry` and append what they did to a log,
which `UsbIp.Linearizable` replays atomically.
-/

namespace UsbIp

/-- The two locks of `UsbIpServer`. -/
inductive LockId
  | available
  | used
deriving DecidableEq, Repr

inductive Mode
  | read
  | write
deriving DecidableEq, Repr

/-- Whether a request in mode `m` can be granted next to a holder in mode `held`. -/
def Compatible (m : Mode) : Option Mode → Bool
  | none => true
  | some .read => m == .read
  | some .write => false

/-- Where a task stands.  Constructors ending in a lock name wait for that
lock; the others run the code between two acquisitions. -/
inductive Pc
  /-- `handler`'s loop head, about to read a command. -/
  | top (cur : Option String)
  /-- The release block of lines 22-29: `used_devices.write()`, then
  `available_devices.write()`, then the move. -/
  | releaseUsed (devId : String) (result : Except IoError Unit)
  | releaseAvailable (devId : String) (result : Except IoError Unit)
  | releaseBody (devId : String) (result : Except IoError Unit)
  /-- `used_devices.read()` at line 39, then the match on the command. -/
  | lookup (cur : Option String) (cmd : UsbIpCommand)
  | dispatch (cur : Option String) (cmd : UsbIpCommand)
  /-- `OP_REQ_DEVLIST`: `available_devices.read()` under the read guard. -/
  | devlistAvailable (cur : Option String)
  | devlistBody (cur : Option String)
  /-- `OP_REQ_IMPORT` after dropping the read guard: `used_devices.write()`,
  then `available_devices.write()`, then the loop of lines 66-75. -/
  | importUsed (busid : Busid)
  | importAvailable (busid : Busid)
  | importBody (busid : Busid)
  /-- `add_device`. -/
  | addAvailable (device : UsbDevice)
  | addBody (device : UsbDevice)
  /-- `remove_device`: `available_devices.write()`, the `position` check, and
  for an id not available `used_devices.read()`. -/
  | removeAvailable (busId : String)
  | removeCheck (busId : String)
  | removeUsed (busId : String)
  | removeBody (busId : String)
  /-- `available_devices()`. -/
  | snapshotAvailable
  | snapshotBody
  | finished (result : Except IoError Unit)
  | panicked
deriving DecidableEq

namespace Pc

/-- The lock a program counter waits for, and in which mode. -/
def wants : Pc → Option (LockId × Mode)
  | releaseUsed .. => some (.used, .write)
  | releaseAvailable .. => some (.available, .write)
  | lookup .. => some (.used, .read)
  | devlistAvailable _ => some (.available, .read)
  | importUsed _ => some (.used, .write)
  | importAvailable _ => some (.available, .write)
  | addAvailable _ => some (.available, .write)
  | removeAvailable _ => some (.available, .write)
  | removeUsed _ => some (.used, .read)
  | snapshotAvailable => some (.available, .read)
  | _ => none

/-- The program counter once the awaited lock is granted. -/
def granted : Pc → Pc
  | releaseUsed devId result => releaseAvailable devId result
  | releaseAvailable devId result => releaseBody devId result
  | lookup cur cmd => dispatch cur cmd
  | devlistAvailable cur => devlistBody cur
  | importUsed busid => importAvailable busid
  | importAvailable busid => importBody busid
  | addAvailable device => addBody device
  | removeAvailable busId => removeCheck busId
  | removeUsed busId => removeBody busId
  | snapshotAvailable => snapshotBody
  | pc => pc

/-- The guards a program counter holds. -/
def holds : Pc → LockId → Option Mode
  | releaseAvailable .., .used => some .write
  | releaseBody .., _ => some .write
  | dispatch .., .used => some .read
  | devlistAvailable _, .used => some .read
  | devlistBody _, _ => some .read
  | importAvailable _, .used => some .write
  | importBody _, _ => some .write
  | addBody _, .available => some .write
  | removeCheck _, .available => some .write
  | removeUsed _, .available => some .write
  | removeBody _, .available => some .write
  | removeBody _, .used => some .read
  | snapshotBody, .available => some .read
  | _, _ => none

@[simp] theorem compatible_write {held : Option Mode} :
    Compatible .write held = true ↔ held = none := by
  cases held with
  | none => simp [Compatible]
  | some m => cases m <;> simp [Compatible]

@[simp] theorem compatible_some_write (m : Mode) : Compatible m (some .write) = false := rfl

theorem holds_granted {p : Pc} {l : LockId} {m : Mode} (h : p.wants = some (l, m))
    (l' : LockId) : p.granted.holds l' = if l' = l then some m else p.holds l' := by
  cases p <;> cases h <;> cases l' <;> rfl

theorem holds_of_wants {p : Pc} {l : LockId} {m : Mode} (h : p.wants = some (l, m)) :
    p.holds l = none := by
  cases p <;> cases h <;> rfl

theorem eq_removeUsed_of_holds_available {p : Pc} {lm : LockId × Mode} (hw : p.wants = some lm)
    (hh : p.holds .available ≠ none) : ∃ busId, p = removeUsed busId := by
  cases p <;> first | exact ⟨_, rfl⟩ | exact absurd rfl hh | cases hw

theorem wants_available_of_holds_used {p : Pc} {l : LockId} {m : Mode}
    (hw : p.wants = some (l, m)) (hh : p.holds .used ≠ none) : l = .available := by
  cases p <;> first | exact absurd rfl hh | (cases hw <;> rfl)

theorem session_of_holds_used {p : Pc} {m : Mode} (hw : p.wants = some (.available, m))
    (hh : p.holds .used ≠ none) :
    (∃ busid, p = importAvailable busid) ∨ (∃ devId result, p = releaseAvailable devId result) ∨
      ∃ cur, p = devlistAvailable cur := by
  cases p <;> first | exact absurd rfl hh | cases hw <;> first | exact .inl ⟨_, rfl⟩ |
    exact .inr (.inl ⟨_, _, rfl⟩) | exact .inr (.inr ⟨_, rfl⟩)

/-- Whether a program counter is inside `remove_device`. -/
def isRemove : Pc → Bool
  | removeAvailable _ | removeCheck _ | removeUsed _ | removeBody _ => true
  | _ => false

@[simp] theorem isRemove_granted (p : Pc) : p.granted.isRemove = p.isRemove := by
  cases p <;> rfl

/-- Whether a program counter is a caller of `add_device`, `remove_device` or
`available_devices`, or has returned. -/
def isAdmin : Pc → Bool
  | addAvailable _ | addBody _ | removeAvailable _ | removeCheck _ | removeUsed _
  | removeBody _ | snapshotAvailable | snapshotBody | finished _ => true
  | _ => false

@[simp] theorem isAdmin_granted (p : Pc) : p.granted.isAdmin = p.isAdmin := by
  cases p <;> rfl

end Pc

/-- One registry operation or observation, in the order the critical sections
ran, with the task that ran it and what it returned. -/
inductive Entry
  | addDevice (task : Nat) (device : UsbDevice)
  | removeDevice (task : Nat) (busId : String) (result : Except IoError Unit)
  | importDevice (task : Nat) (busid : Busid) (found : Option UsbDevice)
  | releaseDevice (task : Nat) (devId : String) (released : Bool)
  | devlist (task : Nat) (devices : List UsbDevice)
  | lookup (task : Nat) (devId : Option String) (device : Option UsbDevice)
  | snapshot (task : Nat) (devices : List UsbDevice)
deriving DecidableEq

/-- What the environment answers at a step of a task: the command read at the
loop head, what `handle_urb` returns, and how the reply write ends. -/
structure Env where
  read : Except IoError UsbIpCommand
  urb : Except IoError (List UInt8)
  write : Except IoError Unit

/-- What the session reads: `OP_REQ_IMPORT` for the test device. -/
def envImport : Env :=
  ⟨.ok (.opReqImport testBusid), .ok [], .ok ()⟩

def Outcome.toPc : Outcome → Pc
  | .next cur => .top cur
  | .done result => .finished result
  | .panicked => .panicked

@[simp] theorem Outcome.toPc_next (cur : Option String) : (Outcome.next cur).toPc = .top cur :=
  rfl

@[simp] theorem Outcome.toPc_done (result : Except IoError Unit) :
    (Outcome.done result).toPc = .finished result :=
  rfl

@[simp] theorem Outcome.toPc_panicked : Outcome.panicked.toPc = .panicked :=
  rfl

namespace Pc

/-- The code a task runs between two acquisitions, as task `t`: the new
registry, the next program counter, and the log entries of the step.  `none`
for a program counter that waits for a lock or has ended. -/
def body (t : Nat) (server : UsbIpServer) (env : Env) : Pc → Option (UsbIpServer × Pc × List Entry)
  | top cur =>
      match env.read, cur with
      | .error err, some devId => some (server, releaseUsed devId (readErrorResult err), [])
      | .error err, none => some (server, finished (readErrorResult err), [])
      | .ok cmd, _ => some (server, lookup cur cmd, [])
  | releaseBody devId result =>
      match server.releaseDevice devId with
      | some server' => some (server', finished result, [.releaseDevice t devId true])
      | none => some (server, panicked, [.releaseDevice t devId false])
  | dispatch cur cmd =>
      let device := cur.bind server.usedDevices.lookup
      let seen := [Entry.lookup t cur device]
      match cmd with
      | .opReqDevlist => some (server, devlistAvailable cur, seen)
      | .opReqImport busid => some (server, importUsed busid, seen)
      | .usbipCmdSubmit _ =>
          match device with
          | none => some (server, panicked, seen)
          | some _ => some (server, (afterWrite env.write cur).toPc, seen)
      | .usbipCmdUnlink _ => some (server, (afterWrite env.write cur).toPc, seen)
  | devlistBody cur =>
      some (server, (afterWrite env.write cur).toPc, [.devlist t server.availableDevices])
  | importBody busid =>
      let (server', found) := server.importDevice busid
      let entry := Entry.importDevice t busid found
      match found with
      | some dev =>
          match server'.usedDevices.lookup dev.busId with
          | some _ => some (server', (afterWrite env.write (some dev.busId)).toPc, [entry])
          | none => some (server', panicked, [entry])
      | none => some (server', (afterWrite env.write none).toPc, [entry])
  | addBody device => some (server.addDevice device, finished (.ok ()), [.addDevice t device])
  | removeCheck busId =>
      match server.availableDevices.find? (·.busId == busId) with
      | some _ =>
          some ({ server with
              availableDevices := server.availableDevices.eraseP (·.busId == busId) },
            finished (.ok ()), [.removeDevice t busId (.ok ())])
      | none => some (server, removeUsed busId, [])
  | removeBody busId =>
      some (server, finished (server.removeInUse busId),
        [.removeDevice t busId (server.removeInUse busId)])
  | snapshotBody => some (server, finished (.ok ()), [.snapshot t server.availableDevices])
  | _ => none

theorem body_eq_none_of_wants {p : Pc} {lm : LockId × Mode} (h : p.wants = some lm)
    (t : Nat) (server : UsbIpServer) (env : Env) : p.body t server env = none := by
  cases p <;> first | rfl | cases h

end Pc

@[simp] theorem afterWrite_toPc_isRemove (write : Except IoError Unit) (cur : Option String) :
    (afterWrite write cur).toPc.isRemove = false := by
  cases write <;> rfl

theorem Pc.isRemove_of_body {p p' : Pc} {t : Nat} {server server' : UsbIpServer} {env : Env}
    {entries : List Entry} (h : p.body t server env = some (server', p', entries))
    (hp' : p'.isRemove = true) : p.isRemove = true := by
  cases p <;> try rfl
  all_goals
    simp only [Pc.body] at h
    repeat' split at h
  all_goals
    simp only [Option.some.injEq, Prod.mk.injEq, reduceCtorEq] at h
  all_goals
    obtain ⟨-, rfl, -⟩ := h
    first | cases hp' | simp at hp'

theorem Pc.isAdmin_of_body {p p' : Pc} {t : Nat} {server server' : UsbIpServer} {env : Env}
    {entries : List Entry} (hp : p.isAdmin = true)
    (h : p.body t server env = some (server', p', entries)) :
    p'.isAdmin = true ∧ server'.usedDevices = server.usedDevices := by
  cases p <;> (try cases hp) <;> simp only [Pc.body] at h
  all_goals first | (split at h <;> cases h) | cases h
  all_goals exact ⟨rfl, rfl⟩

/-- The lock-level state: the registry, the program counter of every task, the
queue of every lock, the log, and a history variable recording the tasks in
the order they were granted `available_devices.write()`. -/
structure Sys where
  server : UsbIpServer
  tasks : List Pc
  queue : LockId → List Nat
  log : List Entry
  writeOrder : List Nat

namespace Sys

/-- The program counter of task `t`; a task that does not exist has ended. -/
def task (s : Sys) (t : Nat) : Pc :=
  s.tasks.getD t (.finished (.ok ()))

/-- Whether every task other than `t` holds lock `l` compatibly with mode `m`. -/
def grantable (s : Sys) (t : Nat) (l : LockId) (m : Mode) : Bool :=
  (List.range s.tasks.length).all fun u => u == t || Compatible m ((s.task u).holds l)

/-- What a scheduler can let task `t` do. -/
inductive Act
  | enqueue
  | acquire
  | body (env : Env)

/-- Task `t` takes one step: it queues for the lock it waits for, takes that
lock at the head of the queue, or runs its code. -/
def next (s : Sys) (t : Nat) : Act → Option Sys
  | .enqueue =>
      match (s.task t).wants with
      | some (l, _) =>
          if t ∈ s.queue l then none
          else some { s with queue := Function.update s.queue l (s.queue l ++ [t]) }
      | none => none
  | .acquire =>
      match (s.task t).wants with
      | some (l, m) =>
          if (s.queue l).head? = some t ∧ s.grantable t l m then
            some { s with
              tasks := s.tasks.set t (s.task t).granted
              queue := Function.update s.queue l (s.queue l).tail
              writeOrder := if (l, m) = (.available, .write) then s.writeOrder ++ [t]
                else s.writeOrder }
          else none
      | none => none
  | .body env =>
      match (s.task t).body t s.server env with
      | some (server', pc', entries) =>
          some { s with server := server', tasks := s.tasks.set t pc', log := s.log ++ entries }
      | none => none

/-- A start state: the registry of `new_simulated devices` and tasks that have
not taken a step. -/
def init (devices : List UsbDevice) (tasks : List Pc) : Sys :=
  ⟨.newSimulated devices, tasks, fun _ => [], [], []⟩

end Sys

/-- A program counter a task can start from. -/
def Pc.Initial : Pc → Prop
  | .top none | .addAvailable _ | .removeAvailable _ | .snapshotAvailable => True
  | _ => False

/-- The states reachable from `s₀` by any interleaving of task steps. -/
inductive Reachable (s₀ : Sys) : Sys → Prop
  | refl : Reachable s₀ s₀
  | step {s s' : Sys} {t : Nat} {act : Sys.Act} :
      Reachable s₀ s → s.next t act = some s' → Reachable s₀ s'

namespace Sys

/-- Task `t` is queued for a lock that `u` holds incompatibly or is queued for
ahead of it. -/
def blockedBy (s : Sys) (t u : Nat) : Bool :=
  match (s.task t).wants with
  | some (l, m) =>
      decide (t ∈ s.queue l) &&
        (!Compatible m ((s.task u).holds l) || decide (List.Sublist [u, t] (s.queue l)))
  | none => false

/-- A deadlock: a nonempty set of tasks, each blocked by another task of the
set. -/
def Deadlocked (s : Sys) (D : List Nat) : Prop :=
  D ≠ [] ∧ ∀ t ∈ D, ∃ u ∈ D, u ≠ t ∧ s.blockedBy t u = true

instance (s : Sys) (D : List Nat) : Decidable (s.Deadlocked D) :=
  inferInstanceAs (Decidable (_ ∧ _))

/-- No task is queued twice for one lock. -/
def QueuesNodup (s : Sys) : Prop :=
  ∀ l, (s.queue l).Nodup

end Sys

namespace Sys

variable {s s' : Sys} {t : Nat}

theorem task_of_length_le {u : Nat} (hu : s.tasks.length ≤ u) : s.task u = .finished (.ok ()) := by
  simp [task, List.getElem?_eq_none hu]

theorem task_set_ne (s : Sys) (p : Pc) {u : Nat} (hu : u ≠ t) :
    (s.tasks.set t p).getD u (.finished (.ok ())) = s.task u := by
  simp [task, List.getElem?_set_ne (Ne.symm hu)]

theorem task_set (s : Sys) (p : Pc) (ht : t < s.tasks.length) (server : UsbIpServer)
    (queue : LockId → List Nat) (log : List Entry) (writeOrder : List Nat) (u : Nat) :
    (Sys.mk server (s.tasks.set t p) queue log writeOrder).task u =
      if u = t then p else s.task u := by
  split_ifs with hu
  · simp [task, hu, List.getElem?_set_self ht]
  · exact task_set_ne s p hu

theorem compatible_of_grantable {l : LockId} {m : Mode} (hg : s.grantable t l m = true)
    {u : Nat} (hut : u ≠ t) : Compatible m ((s.task u).holds l) = true := by
  by_cases hu : u < s.tasks.length
  · simpa [hut] using List.all_eq_true.mp hg u (List.mem_range.mpr hu)
  · rw [task_of_length_le (not_lt.mp hu)]
    rfl

/-- What one step of task `t` can do: join the queue of the lock it waits
for, take that lock at the head of the queue, or run its code. -/
theorem next_cases {act : Act} (h : s.next t act = some s') :
    (∃ l m, (s.task t).wants = some (l, m) ∧ t ∉ s.queue l ∧
      s' = { s with queue := Function.update s.queue l (s.queue l ++ [t]) }) ∨
    (∃ l m, (s.task t).wants = some (l, m) ∧ (s.queue l).head? = some t ∧
      s.grantable t l m = true ∧
      s' = { s with
        tasks := s.tasks.set t (s.task t).granted
        queue := Function.update s.queue l (s.queue l).tail
        writeOrder := if (l, m) = (.available, .write) then s.writeOrder ++ [t]
          else s.writeOrder }) ∨
    (∃ env server' pc' entries, (s.task t).body t s.server env = some (server', pc', entries) ∧
      s' = { s with server := server', tasks := s.tasks.set t pc', log := s.log ++ entries }) := by
  cases act with
  | enqueue =>
      simp only [next] at h
      split at h
      · rename_i l m hw
        split at h
        · cases h
        · exact .inl ⟨l, m, hw, ‹_›, (Option.some.inj h).symm⟩
      · cases h
  | acquire =>
      simp only [next] at h
      split at h
      · rename_i l m hw
        split at h
        · rename_i hok
          exact .inr (.inl ⟨l, m, hw, hok.1, hok.2, (Option.some.inj h).symm⟩)
        · cases h
      · cases h
  | body env =>
      simp only [next] at h
      split at h
      · rename_i server' pc' entries hbody
        exact .inr (.inr ⟨env, server', pc', entries, hbody, (Option.some.inj h).symm⟩)
      · cases h

theorem lt_length_of_next {act : Act} (h : s.next t act = some s') : t < s.tasks.length := by
  by_contra hlen
  rcases next_cases h with ⟨_, _, hw, -⟩ | ⟨_, _, hw, -⟩ | ⟨_, _, _, _, hw, -⟩ <;>
    rw [task_of_length_le (not_lt.mp hlen)] at hw <;> cases hw

theorem QueuesNodup.next (hq : s.QueuesNodup) {act : Act} (h : s.next t act = some s') :
    s'.QueuesNodup := by
  rcases next_cases h with ⟨l, m, -, hnot, rfl⟩ | ⟨l, m, -, -, -, rfl⟩ | ⟨_, _, _, _, -, rfl⟩
  · intro l'
    by_cases hl : l' = l
    · subst hl
      simpa [List.nodup_append, hnot] using hq l'
    · simpa [Function.update_noteq hl] using hq l'
  · intro l'
    by_cases hl : l' = l
    · subst hl
      simpa using (hq l').sublist (List.tail_sublist _)
    · simpa [Function.update_noteq hl] using hq l'
  · exact hq

/-- Every queued task waits for the lock of its queue. -/
def QueuesWanted (s : Sys) : Prop :=
  ∀ l, ∀ u ∈ s.queue l, ∃ m, (s.task u).wants = some (l, m)

theorem init_queues (devices : List UsbDevice) (tasks : List Pc) :
    (Sys.init devices tasks).QueuesNodup ∧ (Sys.init devices tasks).QueuesWanted :=
  ⟨fun _ => List.nodup_nil, fun _ _ h => absurd h (List.not_mem_nil _)⟩

theorem QueuesWanted.next (hq : s.QueuesNodup) (hw : s.QueuesWanted) {act : Act}
    (h : s.next t act = some s') : s'.QueuesWanted := by
  have ht := lt_length_of_next h
  rcases next_cases h with ⟨l, m, hwant, -, rfl⟩ | ⟨l, m, hwant, hhead, -, rfl⟩ |
    ⟨_, _, _, _, hbody, rfl⟩
  · intro l' u hu
    by_cases hl : l' = l
    · subst hl
      simp only [Function.update_same, List.mem_append, List.mem_singleton] at hu
      rcases hu with hu | rfl
      · exact hw l' u hu
      · exact ⟨m, hwant⟩
    · simpa [Function.update_noteq hl] using hw l' u (by simpa [Function.update_noteq hl] using hu)
  · intro l' u hu
    obtain ⟨rest, hqueue⟩ := List.head?_eq_some_iff.mp hhead
    have hu' : u ∈ s.queue l' := by
      by_cases hl : l' = l
      · subst hl
        simp only [Function.update_same] at hu
        exact List.mem_of_mem_tail hu
      · simpa [Function.update_noteq hl] using hu
    have hut : u ≠ t := by
      rintro rfl
      by_cases hl : l' = l
      · subst hl
        have hnd := hq l'
        simp only [Function.update_same, hqueue, List.tail_cons] at hu
        rw [hqueue] at hnd
        exact (List.nodup_cons.mp hnd).1 hu
      · obtain ⟨m', hm'⟩ := hw l' u hu'
        rw [hwant] at hm'
        exact hl (Prod.mk.inj (Option.some.inj hm')).1.symm
    rw [task_set s _ ht, if_neg hut]
    exact hw l' u hu'
  · intro l' u hu
    have hut : u ≠ t := by
      rintro rfl
      obtain ⟨m', hm'⟩ := hw l' u hu
      simp [Pc.body_eq_none_of_wants hm'] at hbody
    rw [task_set s _ ht, if_neg hut]
    exact hw l' u hu

end Sys

namespace Sys

/-- Let the tasks of a schedule take their steps in order. -/
def run (s : Sys) : List (Nat × Act) → Option Sys
  | [] => some s
  | (t, act) :: rest => (s.next t act).bind (·.run rest)

end Sys

theorem Reachable.of_run {s₀ s : Sys} (hs : Reachable s₀ s) :
    ∀ {schedule : List (Nat × Sys.Act)} {s' : Sys}, s.run schedule = some s' → Reachable s₀ s'
  | [], _, h => by cases h; exact hs
  | (t, act) :: rest, s', h => by
      simp only [Sys.run] at h
      cases hnext : s.next t act with
      | none => simp [hnext] at h
      | some s₁ =>
          simp only [hnext, Option.bind_some] at h
          exact (Reachable.step hs hnext).of_run h

theorem Reachable.trans {s₀ s s' : Sys} (h₁ : Reachable s₀ s) (h₂ : Reachable s s') :
    Reachable s₀ s' := by
  induction h₂ with
  | refl => exact h₁
  | step _ hnext ih => exact ih.step hnext

/-- A property of program counters that every grant and every critical section
keeps holds of every task along every run. -/
theorem Reachable.task_forall {s₀ s : Sys} (hreach : Reachable s₀ s) (P : Pc → Prop)
    (hgrant : ∀ p, P p → P p.granted)
    (hbody : ∀ {t server env p server' p' entries}, P p →
      Pc.body t server env p = some (server', p', entries) → P p')
    (h₀ : ∀ t, P (s₀.task t)) : ∀ t, P (s.task t) := by
  induction hreach with
  | refl => exact h₀
  | step _ hnext ih =>
      intro u
      have ht := Sys.lt_length_of_next hnext
      rcases Sys.next_cases hnext with ⟨_, _, -, -, rfl⟩ | ⟨_, _, -, -, -, rfl⟩ |
        ⟨_, _, _, _, hb, rfl⟩
      · exact ih u
      all_goals
        rw [Sys.task_set _ _ ht]
        split_ifs with hu
        · subst hu
          first | exact hgrant _ (ih _) | exact hbody (ih _) hb
        · exact ih u

theorem Sys.init_task_forall {devices : List UsbDevice} {tasks : List Pc} (P : Pc → Prop)
    (hfinished : P (.finished (.ok ()))) (htasks : ∀ p ∈ tasks, P p) :
    ∀ t, P ((Sys.init devices tasks).task t) := fun t => by
  simp only [Sys.init, Sys.task, List.getD_eq_getElem?_getD]
  cases h : tasks[t]? with
  | none => exact hfinished
  | some p => exact htasks p (List.getElem?_mem h)

end UsbIp
