import UsbIp.Sessions
import UsbIp.Locks

/-
The lock level refines the atomic server of `UsbIp.Sessions`, step by step.
A lock-level state stands for an atomic world when the registries agree and
every task stands where its atomic state lets it (`Sys.Simulates`).  From a
start state, each step of a task either leaves the atomic world alone or is
one atomic event of that task, taken in the critical section where the turn
or the call has its effect.  The callers of `add_device` keep the promise of
`Event.Admissible` call by call: the bus id is new to the registry when the
critical section of the add runs.  What the atomic runs guarantee, single
ownership first, then holds of the lock-level sessions.
-/

namespace UsbIp

/-- The atomic state of a session whose task stands at `p`.  A turn takes
effect in one critical section; until then the session is still running with
the binding the turn started from.  `OP_REQ_IMPORT` clears that binding at
line 57, before its critical section, so there only "running" is known. -/
def Pc.Abstracts : Pc → SessionState → Prop
  | .top cur, st | .lookup cur _, st | .dispatch cur _, st
  | .devlistAvailable cur, st | .devlistBody cur, st => st = .running cur
  | .importUsed _, st | .importAvailable _, st | .importBody _, st => ∃ cur, st = .running cur
  | .releaseUsed devId result, st | .releaseAvailable devId result, st
  | .releaseBody devId result, st =>
      st = .running (some devId) ∧ ∃ err, readErrorResult err = result
  | .finished result, st => st = .finished result
  | .panicked, st => st = .panicked
  | _, _ => False

theorem Outcome.abstracts_toPc (outcome : Outcome) : outcome.toPc.Abstracts outcome.toState := by
  cases outcome <;> exact rfl

namespace Pc

variable {p p' : Pc} {st : SessionState} {t : Nat} {server server' : UsbIpServer} {env : Env}
  {entries : List Entry}

theorem Abstracts.granted (hp : p.Abstracts st) : p.granted.Abstracts st := by
  cases p <;> exact hp

/-- What the code of a session between two acquisitions does to its atomic
state: nothing, or the whole turn `handlerStep` from the binding the turn
started from. -/
theorem Abstracts.body (hp : p.Abstracts st)
    (h : p.body t server env = some (server', p', entries)) :
    (server' = server ∧ p'.Abstracts st) ∨
      ∃ cur input, st = .running cur ∧ (handlerStep server cur input).1 = server' ∧
        (handlerStep server cur input).2.1.toPc = p' := by
  cases p
  case top cur =>
    simp only [Pc.body] at h
    split at h <;> cases h
    · exact .inl ⟨rfl, hp, _, rfl⟩
    · exact .inr ⟨none, .readError _, hp, rfl, rfl⟩
    · exact .inl ⟨rfl, hp⟩
  case releaseBody devId result =>
    obtain ⟨hst, err, rfl⟩ := hp
    refine .inr ⟨some devId, .readError err, hst, ?_⟩
    simp only [Pc.body] at h
    split at h <;> cases h <;> rename_i hrel <;> simp [handlerStep, hrel]
  case dispatch cur cmd =>
    cases cmd with
    | opReqDevlist => cases h; exact .inl ⟨rfl, hp⟩
    | opReqImport busid => cases h; exact .inl ⟨rfl, cur, hp⟩
    | usbipCmdSubmit header =>
        refine .inr ⟨cur, .command (.usbipCmdSubmit header) env.urb env.write, hp, ?_⟩
        simp only [Pc.body] at h
        split at h <;> cases h <;> rename_i hlookup <;> simp [handlerStep, hlookup]
    | usbipCmdUnlink header =>
        cases h
        exact .inr ⟨cur, .command (.usbipCmdUnlink header) env.urb env.write, hp, rfl, rfl⟩
  case devlistBody cur =>
    cases h
    exact .inr ⟨cur, .command .opReqDevlist env.urb env.write, hp, rfl, rfl⟩
  case importBody busid =>
    obtain ⟨cur, hst⟩ := hp
    refine .inr ⟨cur, .command (.opReqImport busid) env.urb env.write, hst, ?_⟩
    rcases himp : server.importDevice busid with ⟨server'', _ | dev⟩
    · simp only [Pc.body, himp] at h
      cases h
      simp [handlerStep, himp]
    · cases hlookup : server''.usedDevices.lookup dev.busId <;>
        simp only [Pc.body, himp, hlookup] at h <;> cases h <;> simp [handlerStep, himp, hlookup]
  all_goals first | exact hp.elim | cases h

/-- Where a task started at `p₀` can stand, with the atomic state of its
connection: a session as `Pc.Abstracts` says, a caller of `add_device`,
`remove_device` or `available_devices` along its own code. -/
def Stage : Pc → Pc → SessionState → Prop
  | top none, p, st => p.Abstracts st
  | addAvailable d, p, _ => p = addAvailable d ∨ p = addBody d ∨ p = finished (.ok ())
  | removeAvailable b, p, _ =>
      p = removeAvailable b ∨ p = removeCheck b ∨ p = removeUsed b ∨ p = removeBody b ∨
        ∃ result, p = finished result
  | snapshotAvailable, p, _ => p = snapshotAvailable ∨ p = snapshotBody ∨ p = finished (.ok ())
  | _, _, _ => False

theorem Stage.cases {p₀ : Pc} (h : p₀.Stage p st) :
    (p₀ = top none ∧ p.Abstracts st) ∨ (∃ d, p₀ = addAvailable d) ∨
      (∃ b, p₀ = removeAvailable b) ∨ p₀ = snapshotAvailable := by
  unfold Pc.Stage at h
  split at h
  exacts [.inl ⟨rfl, h⟩, .inr (.inl ⟨_, rfl⟩), .inr (.inr (.inl ⟨_, rfl⟩)), .inr (.inr (.inr rfl)),
    h.elim]

theorem Initial.stage {p₀ : Pc} (h : p₀.Initial) : p₀.Stage p₀ (.running none) := by
  unfold Pc.Initial at h
  split at h
  · exact rfl
  all_goals first | exact .inl rfl | exact h.elim

theorem Stage.granted {p₀ : Pc} (h : p₀.Stage p st) : p₀.Stage p.granted st := by
  unfold Pc.Stage at h ⊢
  split at h
  · exact Abstracts.granted h
  all_goals first
    | exact h.elim
    | (rcases h with rfl | rfl | rfl | rfl | ⟨_, rfl⟩ <;> simp [Pc.granted])

theorem Stage.body_add {d : UsbDevice} (h : (addAvailable d).Stage p st)
    (hb : p.body t server env = some (server', p', entries)) :
    p = addBody d ∧ p' = finished (.ok ()) ∧ server' = server.addDevice d := by
  rcases h with rfl | rfl | rfl <;> cases hb
  exact ⟨rfl, rfl, rfl⟩

theorem Stage.body_remove {b : String} (h : (removeAvailable b).Stage p st)
    (hb : p.body t server env = some (server', p', entries)) :
    (removeAvailable b).Stage p' st ∧ (server' = server ∨ server' = (server.removeDevice b).1) := by
  rcases h with rfl | rfl | rfl | rfl | ⟨_, rfl⟩
  · cases hb
  · simp only [Pc.body] at hb
    split at hb <;> cases hb
    · rename_i hfind
      exact ⟨.inr (.inr (.inr (.inr ⟨_, rfl⟩))),
        .inr (by rw [UsbIpServer.removeDevice_of_find?_some hfind])⟩
    · exact ⟨.inr (.inr (.inl rfl)), .inl rfl⟩
  · cases hb
  · cases hb
    exact ⟨.inr (.inr (.inr (.inr ⟨_, rfl⟩))), .inl rfl⟩
  · cases hb

theorem Stage.body_snapshot (h : snapshotAvailable.Stage p st)
    (hb : p.body t server env = some (server', p', entries)) :
    p' = finished (.ok ()) ∧ server' = server := by
  rcases h with rfl | rfl | rfl <;> cases hb
  exact ⟨rfl, rfl⟩

/-- The bus id a session holds at lock level: its `current_import_device_id`,
or the id its release block is giving back. -/
def holding : Pc → Option String
  | top cur | lookup cur _ | dispatch cur _ | devlistAvailable cur | devlistBody cur => cur
  | releaseUsed devId _ | releaseAvailable devId _ | releaseBody devId _ => some devId
  | _ => none

theorem Abstracts.holding {b : String} (hp : p.Abstracts st) (h : p.holding = some b) :
    st = .running (some b) := by
  cases p <;> first | (cases h; exact hp) | (cases h; exact hp.1) | cases h

theorem afterWrite_toPc_ne_panicked (write : Except IoError Unit) (cur : Option String) :
    (afterWrite write cur).toPc ≠ panicked := by
  cases write <;> nofun

theorem granted_ne_panicked {lm : LockId × Mode} (hw : p.wants = some lm) :
    p.granted ≠ panicked := by
  cases p <;> first | (cases hw; done) | nofun

/-- The three places where the code of a session panics: the `unwrap` of
`USBIP_CMD_SUBMIT` without a device, the `unreachable!()` of the release
block, and the lookup of the device just imported. -/
theorem body_eq_panicked (h : p.body t server env = some (server', panicked, entries)) :
    (∃ cur header, p = dispatch cur (.usbipCmdSubmit header) ∧
      cur.bind server.usedDevices.lookup = none) ∨
    (∃ devId result, p = releaseBody devId result ∧ server.releaseDevice devId = none) ∨
    (∃ busid dev, p = importBody busid ∧ (server.importDevice busid).2 = some dev ∧
      (server.importDevice busid).1.usedDevices.lookup dev.busId = none) := by
  have hne := afterWrite_toPc_ne_panicked env.write
  cases p
  case releaseBody devId result =>
    simp only [Pc.body] at h
    split at h <;> cases h
    exact .inr (.inl ⟨devId, result, rfl, ‹_›⟩)
  case dispatch cur cmd =>
    cases cmd with
    | usbipCmdSubmit header =>
        simp only [Pc.body] at h
        split at h <;> simp only [Option.some.injEq, Prod.mk.injEq] at h
        · exact .inl ⟨cur, header, rfl, ‹_›⟩
        · exact absurd h.2.1 (hne cur)
    | usbipCmdUnlink header =>
        exact absurd (Prod.mk.inj (Prod.mk.inj (Option.some.inj h)).2).1 (hne cur)
    | _ => cases h
  case importBody busid =>
    rcases himp : server.importDevice busid with ⟨server'', _ | dev⟩
    · simp only [Pc.body, himp, Option.some.injEq, Prod.mk.injEq] at h
      exact absurd h.2.1 (hne none)
    · cases hlookup : server''.usedDevices.lookup dev.busId <;>
        simp only [Pc.body, himp, hlookup, Option.some.injEq, Prod.mk.injEq] at h
      · exact .inr (.inr ⟨busid, dev, rfl, by rw [himp], by rw [himp]; exact hlookup⟩)
      · exact absurd h.2.1 (hne _)
  case devlistBody cur => exact absurd (Prod.mk.inj (Prod.mk.inj (Option.some.inj h)).2).1 (hne cur)
  case top cur =>
    simp only [Pc.body] at h
    split at h <;> cases h
  all_goals first | cases h | (simp only [Pc.body] at h; split at h <;> cases h)

end Pc


/-- Whether the step of task `t` keeps the promise of a caller of
`add_device`: the critical section of the add runs with a bus id new to the
registry, as `Event.Admissible` asks of an atomic add. -/
def Sys.fresh (s : Sys) (t : Nat) : Sys.Act → Bool
  | .body _ =>
      match s.task t with
      | .addBody d => decide (d.busId ∉ s.server.busIds)
      | _ => true
  | _ => true

/-- The states reachable from `s₀` by interleavings in which every caller of
`add_device` keeps its promise. -/
inductive FreshReachable (s₀ : Sys) : Sys → Prop
  | refl : FreshReachable s₀ s₀
  | step {s s' : Sys} {t : Nat} {act : Sys.Act} :
      FreshReachable s₀ s → s.fresh t act = true → s.next t act = some s' →
      FreshReachable s₀ s'

/-- Let the tasks of a schedule take their steps in order, as long as every
caller of `add_device` keeps its promise. -/
def Sys.freshRun (s : Sys) : List (Nat × Sys.Act) → Option Sys
  | [] => some s
  | (t, act) :: rest => if s.fresh t act then (s.next t act).bind (·.freshRun rest) else none

theorem FreshReachable.of_freshRun {s₀ s : Sys} (hs : FreshReachable s₀ s) :
    ∀ {schedule : List (Nat × Sys.Act)} {s' : Sys}, s.freshRun schedule = some s' →
      FreshReachable s₀ s'
  | [], _, h => by cases h; exact hs
  | (t, act) :: rest, s', h => by
      cases hf : s.fresh t act
      · simp [Sys.freshRun, hf] at h
      cases hnext : s.next t act with
      | none => simp [Sys.freshRun, hf, hnext] at h
      | some s₁ =>
          simp only [Sys.freshRun, hf, hnext, ite_true, Option.bind_some] at h
          exact (FreshReachable.step hs hf hnext).of_freshRun h

/-- The atomic events a step of task `t` may take: a turn of session `t`, or
the call of the caller that task `t` started as. -/
def Event.TakenBy (tasks : List Pc) (t : Nat) : Event → Prop
  | .turn i _ => i = t
  | .addDevice d => tasks[t]? = some (.addAvailable d)
  | .removeDevice b => tasks[t]? = some (.removeAvailable b)

variable {devices : List UsbDevice} {tasks : List Pc}

/-- A lock-level state and an atomic run whose image it is: the same registry,
and every task where its start lets it stand, with its connection at the
matching atomic state. -/
structure Sys.Simulates (devices : List UsbDevice) (tasks : List Pc) (s : Sys)
    (events : List Event) (w : World) : Prop where
  run : Run devices events w
  server : w.server = s.server
  length : s.tasks.length = tasks.length
  stage : ∀ (t : Nat) (p₀ : Pc), tasks[t]? = some p₀ → p₀.Stage (s.task t) (w.sessions t)

namespace Sys

variable {s : Sys} {events : List Event} {w : World}

theorem simulates_init (htasks : ∀ p ∈ tasks, p.Initial) :
    (Sys.init devices tasks).Simulates devices tasks [] (World.init devices) where
  run := .nil
  server := rfl
  length := rfl
  stage t p₀ h := by
    have htask : (Sys.init devices tasks).task t = p₀ := by
      simp [Sys.task, Sys.init, List.getD_eq_getElem?_getD, h]
    exact htask ▸ (htasks p₀ (List.getElem?_mem h)).stage

theorem next_body {s s' : Sys} {t : Nat} {env : Env} (h : s.next t (.body env) = some s') :
    ∃ server' p' entries, (s.task t).body t s.server env = some (server', p', entries) ∧
      s' = { s with server := server', tasks := s.tasks.set t p', log := s.log ++ entries } := by
  simp only [next] at h
  split at h
  · exact ⟨_, _, _, ‹_›, (Option.some.inj h).symm⟩
  · cases h

theorem Simulates.body (hsim : s.Simulates devices tasks events w) {t : Nat}
    (ht : t < s.tasks.length) {p₀ : Pc} (hp₀ : tasks[t]? = some p₀) {env : Env}
    {server' : UsbIpServer} {p' : Pc} {entries : List Entry}
    (hb : (s.task t).body t s.server env = some (server', p', entries)) {events' : List Event}
    {w' : World} (hrun : Run devices events' w') (hserver : w'.server = server')
    (hstage : p₀.Stage p' (w'.sessions t)) (hother : ∀ u ≠ t, w'.sessions u = w.sessions u) :
    (Sys.mk server' (s.tasks.set t p') s.queue (s.log ++ entries) s.writeOrder).Simulates
      devices tasks events' w' := by
  refine ⟨hrun, hserver, by rw [List.length_set, hsim.length], fun u q₀ hu => ?_⟩
  rw [task_set s p' ht]
  split_ifs with hut
  · subst hut
    exact (Option.some.inj (hu.symm.trans hp₀)) ▸ hstage
  · exact hother u hut ▸ hsim.stage u q₀ hu

/-- One lock-level step is a stutter of the atomic run or one atomic event of
its task: queueing and taking a lock stutter, and the code between two
acquisitions is a turn of the session, the add of a caller of `add_device`
keeping its promise, the removal of a caller of `remove_device`, or a
stutter. -/
theorem Simulates.next (hsim : s.Simulates devices tasks events w) {s' : Sys} {t : Nat}
    {act : Act} (hfresh : s.fresh t act = true) (h : s.next t act = some s') :
    s'.Simulates devices tasks events w ∨
      ∃ env ev w', act = .body env ∧ ev.TakenBy tasks t ∧ ev.Admissible w ∧
        w.step ev = some w' ∧ s'.Simulates devices tasks (events ++ [ev]) w' := by
  have ht := lt_length_of_next h
  obtain ⟨p₀, hp₀⟩ : ∃ p₀, tasks[t]? = some p₀ :=
    ⟨_, List.getElem?_eq_getElem (hsim.length ▸ ht : t < tasks.length)⟩
  cases act with
  | body env =>
    obtain ⟨server', p', entries, hb, rfl⟩ := next_body h
    have hframe : ∀ u ≠ t, w.sessions u = w.sessions u := fun _ _ => rfl
    rcases (hsim.stage t p₀ hp₀).cases with ⟨rfl, hst⟩ | ⟨d, rfl⟩ | ⟨b, rfl⟩ | rfl
    · rcases hst.body hb with ⟨rfl, hp'⟩ | ⟨cur, input, hcur, hserver, hpc⟩
      · exact .inl (hsim.body ht hp₀ hb hsim.run hsim.server hp' hframe)
      · have hstep : w.step (.turn t input) = some { w with
            server := (handlerStep w.server cur input).1
            sessions := Function.update w.sessions t (handlerStep w.server cur input).2.1.toState } := by
          simp [World.step, hcur]
        refine .inr ⟨env, .turn t input, _, rfl, rfl, trivial, hstep, hsim.body ht hp₀ hb
          (hsim.run.snoc trivial hstep) (by rw [hsim.server]; exact hserver) ?_
          fun u hu => Function.update_noteq hu _ _⟩
        show p'.Abstracts (Function.update w.sessions t _ t)
        rw [Function.update_same, ← hpc, ← hsim.server]
        exact Outcome.abstracts_toPc _
    · obtain ⟨hpc, rfl, rfl⟩ := (hsim.stage t _ hp₀).body_add hb
      have hadm : Event.Admissible w (.addDevice d) := by
        show d.busId ∉ w.server.busIds
        rw [hsim.server]
        simpa [Sys.fresh, hpc] using hfresh
      exact .inr ⟨env, .addDevice d, _, rfl, hp₀, hadm, rfl, hsim.body ht hp₀ hb
        (hsim.run.snoc hadm rfl) (by simp [hsim.server]) (.inr (.inr rfl)) hframe⟩
    · obtain ⟨hstage, rfl | hrem⟩ := (hsim.stage t _ hp₀).body_remove hb
      · exact .inl (hsim.body ht hp₀ hb hsim.run hsim.server hstage hframe)
      · exact .inr ⟨env, .removeDevice b, _, rfl, hp₀, trivial, rfl, hsim.body ht hp₀ hb
          (hsim.run.snoc (show Event.Admissible w (.removeDevice b) from trivial) rfl)
          (by simp [hsim.server, hrem]) hstage hframe⟩
    · obtain ⟨rfl, rfl⟩ := (hsim.stage t _ hp₀).body_snapshot hb
      exact .inl (hsim.body ht hp₀ hb hsim.run hsim.server (.inr (.inr rfl)) hframe)
  | _ =>
    obtain ⟨lm, hw⟩ := Option.ne_none_iff_exists'.mp fun hw : (s.task t).wants = none => by
      simp only [Sys.next, hw, reduceCtorEq] at h
    rcases next_cases h with ⟨_, _, -, -, rfl⟩ | ⟨_, _, -, -, -, rfl⟩ | ⟨_, _, _, _, hb, -⟩
    · exact .inl ⟨hsim.run, hsim.server, hsim.length, hsim.stage⟩
    · refine .inl ⟨hsim.run, hsim.server, by rw [List.length_set, hsim.length], fun u q₀ hu => ?_⟩
      rw [task_set _ _ ht]
      split_ifs with hut
      · exact hut ▸ (hsim.stage u q₀ hu).granted
      · exact hsim.stage u q₀ hu
    · simp [Pc.body_eq_none_of_wants hw] at hb

end Sys

/-- The run lemma: every state of an interleaving in which the callers of
`add_device` keep their promise is the image of an atomic run. -/
theorem FreshReachable.simulates (htasks : ∀ p ∈ tasks, p.Initial) {s : Sys}
    (hs : FreshReachable (Sys.init devices tasks) s) :
    ∃ events w, s.Simulates devices tasks events w := by
  induction hs with
  | refl => exact ⟨[], _, Sys.simulates_init htasks⟩
  | step _ hfresh hnext ih =>
      obtain ⟨events, w, hsim⟩ := ih
      rcases hsim.next hfresh hnext with hsim' | ⟨_, _, _, -, -, -, -, hsim'⟩
      exacts [⟨events, w, hsim'⟩, ⟨_, _, hsim'⟩]

/-- The lock level refines the atomic server step by step: a start state
stands for the atomic start world, and from any state that stands for an
atomic world, each step of a task either stands for the same world, or takes
one atomic event of that task, in the critical section where the event has
its effect, provided a caller of `add_device` adds a bus id new to the
registry. -/
theorem lock_level_refines_atomic (htasks : ∀ p ∈ tasks, p.Initial) :
    (Sys.init devices tasks).Simulates devices tasks [] (World.init devices) ∧
    ∀ {s s' : Sys} {events : List Event} {w : World} {t : Nat} {act : Sys.Act},
      s.Simulates devices tasks events w → s.fresh t act = true → s.next t act = some s' →
      s'.Simulates devices tasks events w ∨
        ∃ env ev w', act = .body env ∧ ev.TakenBy tasks t ∧ ev.Admissible w ∧
          w.step ev = some w' ∧ s'.Simulates devices tasks (events ++ [ev]) w' :=
  ⟨Sys.simulates_init htasks, fun hsim hfresh h => hsim.next hfresh h⟩

/-- A caller removes the test device, a second caller adds it back, and a
session then imports it. -/
def readdTasks : List Pc :=
  [.removeAvailable "0-0-0", .addAvailable testDevice, .top none]

def readdThenImport : List (Nat × Sys.Act) :=
  [(0, .enqueue), (0, .acquire), (0, .body envImport), (1, .enqueue), (1, .acquire),
   (1, .body envImport), (2, .body envImport), (2, .enqueue), (2, .acquire),
   (2, .body envImport), (2, .enqueue), (2, .acquire), (2, .enqueue), (2, .acquire),
   (2, .body envImport)]

theorem lock_level_refines_atomic_readd :
    ∃ s s', (Sys.init [testDevice] readdTasks).freshRun (readdThenImport.take 5) = some s ∧
      s.next 1 (.body envImport) = some s' ∧ ∃ events w,
        s.Simulates [testDevice] readdTasks events w ∧
        (s'.Simulates [testDevice] readdTasks events w ∨
          ∃ env ev w', Sys.Act.body envImport = .body env ∧ ev.TakenBy readdTasks 1 ∧
            ev.Admissible w ∧ w.step ev = some w' ∧
            s'.Simulates [testDevice] readdTasks (events ++ [ev]) w') := by
  refine ⟨_, _, rfl, rfl, ?_⟩
  have htasks : ∀ p ∈ readdTasks, p.Initial := by simp [readdTasks, Pc.Initial]
  obtain ⟨events, w, hsim⟩ :=
    (@FreshReachable.of_freshRun (Sys.init [testDevice] readdTasks) _ .refl
      (readdThenImport.take 5) _ rfl).simulates htasks
  exact ⟨events, w, hsim, (lock_level_refines_atomic htasks).2 hsim rfl rfl⟩

/-- Single ownership at lock level, in every state of every interleaving from
distinct devices in which each caller of `add_device` adds a bus id new to the
registry: bus ids stay distinct across both collections, the id a session
holds is imported, and no two sessions hold the same id. -/
theorem lock_level_single_ownership (htasks : ∀ p ∈ tasks, p.Initial)
    (hdevices : (devices.map (·.busId)).Nodup) {s : Sys}
    (hs : FreshReachable (Sys.init devices tasks) s) :
    s.server.busIds.Nodup ∧
    (∀ t b, tasks[t]? = some (.top none) → (s.task t).holding = some b →
      b ∈ s.server.usedDevices) ∧
    ∀ t u b, tasks[t]? = some (.top none) → tasks[u]? = some (.top none) →
      (s.task t).holding = some b → (s.task u).holding = some b → t = u := by
  obtain ⟨events, w, hsim⟩ := hs.simulates htasks
  obtain ⟨⟨hw, hown⟩, -⟩ := hsim.run.inv hdevices
  rw [← hsim.server]
  exact ⟨hw.busIds_nodup, fun t _ ht hb => hown.bound_used ((hsim.stage t _ ht).holding hb),
    fun t u _ ht hu hbt hbu =>
      hown.bound_unique ((hsim.stage t _ ht).holding hbt) ((hsim.stage u _ hu).holding hbu)⟩

theorem lock_level_single_ownership_readd :
    ∃ s, (Sys.init [testDevice] readdTasks).freshRun readdThenImport = some s ∧
      (s.task 2).holding = some "0-0-0" ∧
      s.server.busIds.Nodup ∧
      (∀ t b, readdTasks[t]? = some (.top none) → (s.task t).holding = some b →
        b ∈ s.server.usedDevices) ∧
      ∀ t u b, readdTasks[t]? = some (.top none) → readdTasks[u]? = some (.top none) →
        (s.task t).holding = some b → (s.task u).holding = some b → t = u := by
  refine ⟨_, rfl, rfl, ?_⟩
  exact @lock_level_single_ownership [testDevice] readdTasks
    (by simp [readdTasks, Pc.Initial]) (by decide) _
    (@FreshReachable.of_freshRun _ _ .refl readdThenImport _ rfl)

/-- At lock level a session panics only at the `unwrap` of `USBIP_CMD_SUBMIT`
with no device bound, in every interleaving from distinct devices in which
each caller of `add_device` adds a bus id new to the registry: the
`unreachable!()` of the release block and the lookup after an import never
fire. -/
theorem lock_level_panics_only_on_unbound_submit (htasks : ∀ p ∈ tasks, p.Initial)
    (hdevices : (devices.map (·.busId)).Nodup) {s s' : Sys}
    (hs : FreshReachable (Sys.init devices tasks) s) {t : Nat} (ht : tasks[t]? = some (.top none))
    {act : Sys.Act} (h : s.next t act = some s') (hp : s'.task t = .panicked) :
    ∃ header, s.task t = .dispatch none (.usbipCmdSubmit header) := by
  obtain ⟨events, w, hsim⟩ := hs.simulates htasks
  obtain ⟨⟨-, hown⟩, -⟩ := hsim.run.inv hdevices
  have habs : (s.task t).Abstracts (w.sessions t) := hsim.stage t _ ht
  have hused : ∀ {b}, w.sessions t = .running (some b) →
      ∃ d, s.server.usedDevices.lookup b = some d := fun hb =>
    Option.isSome_iff_exists.mp (AList.lookup_isSome.mpr (hsim.server ▸ hown.bound_used hb))
  have hlt := Sys.lt_length_of_next h
  rcases Sys.next_cases h with ⟨_, _, hw, -, rfl⟩ | ⟨_, _, hw, -, -, rfl⟩ |
    ⟨env, server', p', entries, hb, rfl⟩
  · rw [show s.task t = .panicked from hp] at hw
    cases hw
  · rw [Sys.task_set _ _ hlt, if_pos rfl] at hp
    exact absurd hp (Pc.granted_ne_panicked hw)
  · rw [Sys.task_set _ _ hlt, if_pos rfl] at hp
    subst hp
    rcases Pc.body_eq_panicked hb with ⟨cur, header, hpc, hnone⟩ | ⟨devId, _, hpc, hrel⟩ |
      ⟨busid, dev, -, hdev, hnone⟩
    · rw [hpc] at habs ⊢
      cases cur with
      | none => exact ⟨header, rfl⟩
      | some b =>
          obtain ⟨d, hd⟩ := hused habs
          simp [hd] at hnone
    · rw [hpc] at habs
      obtain ⟨d, hd⟩ := hused habs.1
      simp [UsbIpServer.releaseDevice, hd] at hrel
    · obtain ⟨d, hd⟩ := Option.isSome_iff_exists.mp
        (AList.lookup_isSome.mpr (UsbIpServer.importDevice_found hdev).2)
      simp [hd] at hnone

/-- What a session reads: a `USBIP_CMD_SUBMIT`. -/
def envSubmit : Env :=
  ⟨.ok (.usbipCmdSubmit ⟨1, 1, 0, 1, 0⟩), .ok [], .ok ()⟩

/-- A `USBIP_CMD_SUBMIT` as the first command of a connection, up to its
dispatch under `used_devices.read()`. -/
def submitFirst : List (Nat × Sys.Act) :=
  [(0, .body envSubmit), (0, .enqueue), (0, .acquire)]

theorem lock_level_panics_only_on_unbound_submit_first :
    ∃ s s', (Sys.init [testDevice] [.top none]).freshRun submitFirst = some s ∧
      s.next 0 (.body envSubmit) = some s' ∧ s'.task 0 = .panicked ∧
      ∃ header, s.task 0 = .dispatch none (.usbipCmdSubmit header) := by
  refine ⟨_, _, rfl, rfl, rfl, ?_⟩
  exact @lock_level_panics_only_on_unbound_submit [testDevice] [.top none]
    (by simp [Pc.Initial]) (by decide) _ _ (@FreshReachable.of_freshRun _ _ .refl submitFirst _ rfl) 0 rfl
    (.body envSubmit) rfl rfl

end UsbIp
