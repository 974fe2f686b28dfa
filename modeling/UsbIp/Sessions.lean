import UsbIp.Handler

/-
The server as a whole at the granularity of its critical sections: one
registry shared by every session the acceptor spawns, each session running
`handler` turn by turn, interleaved in any order with `add_device` and
`remove_device` calls.  `UsbIp.Linearizable` shows that the lock-level
interleavings of `UsbIp.Locks` produce exactly such atomic histories of the
registry.
-/

namespace UsbIp

/-- A session task: still in `handler`'s loop with its binding, returned, or
panicked. -/
inductive SessionState
  | running (currentImportDeviceId : Option String)
  | finished (result : Except IoError Unit)
  | panicked
deriving DecidableEq

def Outcome.toState : Outcome → SessionState
  | .next cur => .running cur
  | .done result => .finished result
  | .panicked => .panicked

/-- The registry and every session the acceptor can spawn, indexed by
connection; a session not yet connected has not read its first command.
`removed` is a history variable: the devices dropped by successful
`remove_device` calls, in order. -/
structure World where
  server : UsbIpServer
  sessions : Nat → SessionState
  removed : List UsbDevice

/-- One atomic step of the system. -/
inductive Event
  | turn (session : Nat) (input : Input)
  | addDevice (device : UsbDevice)
  | removeDevice (busId : String)

namespace World

def init (devices : List UsbDevice) : World :=
  ⟨.newSimulated devices, fun _ => .running none, []⟩

def step (w : World) : Event → Option World
  | .turn i input =>
      match w.sessions i with
      | .running cur =>
          let r := handlerStep w.server cur input
          some { w with server := r.1, sessions := Function.update w.sessions i r.2.1.toState }
      | _ => none
  | .addDevice d => some { w with server := w.server.addDevice d }
  | .removeDevice busId =>
      some { w with
        server := (w.server.removeDevice busId).1
        removed := w.removed ++ (w.server.availableDevices.find? (·.busId == busId)).toList }

end World

/-- The caller's promise to `add_device`: the bus id is new to the registry. -/
def Event.Admissible (w : World) : Event → Prop
  | .addDevice d => d.busId ∉ w.server.busIds
  | _ => True

/-- The devices a sequence of events adds. -/
def addedBy (events : List Event) : List UsbDevice :=
  events.filterMap fun
    | .addDevice d => some d
    | _ => none

/-- The runs from `new_simulated devices`, with every `add_device` admissible. -/
inductive Run (devices : List UsbDevice) : List Event → World → Prop
  | nil : Run devices [] (World.init devices)
  | snoc {events : List Event} {w w' : World} {ev : Event} :
      Run devices events w → ev.Admissible w → w.step ev = some w' →
      Run devices (events ++ [ev]) w'

namespace World

/-- Single ownership: a running session's binding is an imported bus id, and
no two running sessions hold the same one. -/
structure Owned (w : World) : Prop where
  bound_used : ∀ {i id}, w.sessions i = .running (some id) → id ∈ w.server.usedDevices
  bound_unique : ∀ {i j id}, w.sessions i = .running (some id) →
    w.sessions j = .running (some id) → i = j

/-- The invariant of every reachable world. -/
structure Inv (w : World) : Prop where
  wellFormed : w.server.WellFormed
  owned : w.Owned

theorem inv_init {devices : List UsbDevice} (h : (devices.map (·.busId)).Nodup) :
    (init devices).Inv :=
  ⟨UsbIpServer.wellFormed_newSimulated h, ⟨by simp [init], by simp [init]⟩⟩

end World

theorem Outcome.toState_eq_running {outcome : Outcome} {b : Option String}
    (h : outcome.toState = .running b) : outcome = .next b := by
  cases outcome <;> simp_all [Outcome.toState]

theorem update_eq_running {f : Nat → SessionState} {i j : Nat} {s : SessionState}
    {id : String} (h : Function.update f i s j = .running (some id)) :
    (j = i ∧ s = .running (some id)) ∨ (j ≠ i ∧ f j = .running (some id)) := by
  by_cases hj : j = i
  · subst hj
    exact .inl ⟨rfl, by simpa using h⟩
  · exact .inr ⟨hj, by simpa [Function.update_noteq hj] using h⟩

namespace World

variable {w : World}

/-- A turn of a running session keeps the invariant. -/
theorem Inv.turn (hinv : w.Inv) {i : Nat} {cur : Option String} {input : Input}
    (hi : w.sessions i = .running cur) {server' : UsbIpServer} {outcome : Outcome}
    {reply : Option UsbIpResponse}
    (h : handlerStep w.server cur input = (server', outcome, reply)) :
    Inv { w with server := server', sessions := Function.update w.sessions i outcome.toState } := by
  obtain ⟨hw, ⟨hused, huniq⟩⟩ := hinv
  rcases handlerStep_cases h with ⟨rfl, hnext⟩ | ⟨devId, rfl, hrel, hend⟩ |
    ⟨busid, rfl, hnext⟩
  · have hold : ∀ {j id}, Function.update w.sessions i outcome.toState j =
        .running (some id) → w.sessions j = .running (some id) := fun hj => by
      rcases update_eq_running hj with ⟨rfl, hs⟩ | ⟨-, hj⟩
      · rwa [← hnext _ (Outcome.toState_eq_running hs)] at hi
      · exact hj
    exact ⟨hw, ⟨fun hj => hused (hold hj), fun hj hk => huniq (hold hj) (hold hk)⟩⟩
  · have hgone : ∀ {j id}, Function.update w.sessions i outcome.toState j =
        .running (some id) → j ≠ i ∧ w.sessions j = .running (some id) := fun hj => by
      rcases update_eq_running hj with ⟨rfl, hs⟩ | hj
      · exact absurd (Outcome.toState_eq_running hs) (hend _)
      · exact hj
    obtain ⟨dev, -, rfl⟩ := UsbIpServer.releaseDevice_eq_some hrel
    refine ⟨hw.releaseDevice hrel, ⟨fun hj => ?_, fun hj hk => huniq (hgone hj).2 (hgone hk).2⟩⟩
    obtain ⟨hji, hj⟩ := hgone hj
    refine AList.mem_erase.mpr ⟨fun hid => hji (huniq hj (hid ▸ hi)), hused hj⟩
  · have hfresh : ∀ {dev : UsbDevice}, (w.server.importDevice busid).2 = some dev →
        ∀ j, w.sessions j ≠ .running (some dev.busId) := fun hdev _ hj =>
      UsbIpServer.not_mem_usedDevices_of_nodup hw.busIds_nodup
        (UsbIpServer.importDevice_found hdev).1 (hused hj)
    refine ⟨hw.importDevice busid, ⟨fun hj => ?_, fun hj hk => ?_⟩⟩
    · rcases update_eq_running hj with ⟨rfl, hs⟩ | ⟨-, hj⟩
      · obtain ⟨dev, hdev, hid⟩ := Option.map_eq_some'.mp
          (hnext _ (Outcome.toState_eq_running hs)).symm
        exact hid ▸ (UsbIpServer.importDevice_found hdev).2
      · exact UsbIpServer.mem_importDevice_usedDevices (hused hj)
    · have hnew : ∀ {j id}, Function.update w.sessions i outcome.toState j =
          .running (some id) → j ≠ i → w.sessions j = .running (some id) := fun hj hji => by
        rcases update_eq_running hj with ⟨rfl, -⟩ | ⟨-, hj⟩
        · exact absurd rfl hji
        · exact hj
      have hbound : ∀ {id}, outcome.toState = .running (some id) →
          ∀ j, w.sessions j ≠ .running (some id) := fun hs => by
        obtain ⟨dev, hdev, rfl⟩ := Option.map_eq_some'.mp
          (hnext _ (Outcome.toState_eq_running hs)).symm
        exact hfresh hdev
      rename_i j k id
      by_cases hji : j = i <;> by_cases hki : k = i
      · exact hji.trans hki.symm
      · subst hji
        exact absurd (hnew hk hki) (hbound (by simpa using hj) k)
      · subst hki
        exact absurd (hnew hj hji) (hbound (by simpa using hk) j)
      · exact huniq (hnew hj hji) (hnew hk hki)

theorem Inv.step (hinv : w.Inv) {ev : Event} (hadm : ev.Admissible w) {w' : World}
    (h : w.step ev = some w') : w'.Inv := by
  cases ev with
  | turn i input =>
      simp only [World.step] at h
      split at h
      · rename_i cur hi
        cases h
        exact hinv.turn hi rfl
      · cases h
  | addDevice d =>
      cases h
      exact ⟨hinv.wellFormed.addDevice hadm, ⟨hinv.owned.bound_used, hinv.owned.bound_unique⟩⟩
  | removeDevice busId =>
      cases h
      refine ⟨hinv.wellFormed.removeDevice busId, ⟨fun hj => ?_, hinv.owned.bound_unique⟩⟩
      simpa using hinv.owned.bound_used hj

/-- Every step moves devices between the collections, except that `add_device`
brings one in and a successful `remove_device` records the one it drops. -/
theorem devices_step (hw : w.server.WellFormed) {ev : Event} {w' : World}
    (h : w.step ev = some w') :
    w'.server.devices + ↑w'.removed = w.server.devices + ↑w.removed + ↑(addedBy [ev]) := by
  cases ev with
  | turn i input =>
      simp only [step] at h
      split at h
      · rename_i cur hi
        cases h
        have hdev : (handlerStep w.server cur input).1.devices = w.server.devices := by
          rcases handlerStep_cases (Prod.mk.eta.symm.trans (congrArg id rfl)) with
            ⟨heq, -⟩ | ⟨devId, -, hrel, -⟩ | ⟨busid, heq, -⟩
          · rw [heq]
          · exact UsbIpServer.devices_releaseDevice hrel
          · rw [← heq, hw.devices_importDevice]
        simp [hdev, addedBy]
      · cases h
  | addDevice d =>
      cases h
      simp only [UsbIpServer.devices_addDevice, addedBy, List.filterMap_cons,
        List.filterMap_nil, Multiset.coe_singleton, ← Multiset.singleton_add]
      ac_rfl
  | removeDevice busId =>
      cases h
      rw [← @UsbIpServer.devices_removeDevice w.server busId]
      simp only [addedBy, List.filterMap_cons, List.filterMap_nil, ← Multiset.coe_add,
        Multiset.coe_nil, add_zero]
      ac_rfl

end World

/-- The invariant holds along every run, and devices are conserved. -/
theorem Run.inv {devices : List UsbDevice} (hdevices : (devices.map (·.busId)).Nodup)
    {events : List Event} {w : World} (hrun : Run devices events w) :
    w.Inv ∧ w.server.devices + ↑w.removed = ↑devices + ↑(addedBy events) := by
  induction hrun with
  | nil => exact ⟨World.inv_init hdevices, by simp [World.init, UsbIpServer.devices,
      UsbIpServer.usedValues, addedBy]⟩
  | snoc _ hadm hstep ih =>
      refine ⟨ih.1.step hadm hstep, ?_⟩
      rw [World.devices_step ih.1.wellFormed hstep, ih.2]
      simp [addedBy, List.filterMap_append, add_assoc]



namespace World

/-- Run a list of events in order. -/
def run (w : World) : List Event → Option World
  | [] => some w
  | ev :: rest => (w.step ev).bind (·.run rest)

end World

/-- The session an event is a turn of. -/
def Event.session? : Event → Option Nat
  | .turn i _ => some i
  | _ => none

def Event.isAdd : Event → Bool
  | .addDevice _ => true
  | _ => false

def SessionState.returned : SessionState → Bool
  | .finished _ => true
  | _ => false

theorem Event.admissible_of_isAdd_eq_false {ev : Event} (h : ev.isAdd = false) (w : World) :
    ev.Admissible w := by
  cases ev <;> simp_all [Event.isAdd, Event.Admissible]

/-- A step leaves every session it is not a turn of as it was. -/
theorem World.step_sessions_of_ne {w w' : World} {ev : Event} (h : w.step ev = some w')
    {i : Nat} (hi : ev.session? ≠ some i) : w'.sessions i = w.sessions i := by
  cases ev with
  | turn j input =>
      simp only [World.step] at h
      split at h
      · cases h
        exact Function.update_noteq (fun hij => hi (by simp [Event.session?, hij])) _ _
      · cases h
  | addDevice d => cases h; rfl
  | removeDevice b => cases h; rfl

/-- A trace without `add_device` calls extends a run, and leaves the sessions
it does not drive as they were. -/
theorem Run.append_run {devices : List UsbDevice} {trace : List Event} :
    ∀ {events : List Event} {w w' : World}, Run devices events w →
      (∀ ev ∈ trace, ev.isAdd = false) → w.run trace = some w' →
      Run devices (events ++ trace) w' ∧
        ∀ i, (∀ ev ∈ trace, ev.session? ≠ some i) → w'.sessions i = w.sessions i := by
  induction trace with
  | nil =>
      intro events w w' hrun _ h
      cases h
      exact ⟨by simpa using hrun, fun _ _ => rfl⟩
  | cons ev rest ih =>
      intro events w w' hrun hadd h
      simp only [World.run] at h
      cases hstep : w.step ev with
      | none => simp [hstep] at h
      | some w₁ =>
          simp only [hstep, Option.bind_some] at h
          have hrun₁ := Run.snoc hrun
            (Event.admissible_of_isAdd_eq_false (hadd ev (by simp)) w) hstep
          obtain ⟨hrun', hframe⟩ := ih hrun₁ (fun e he => hadd e (by simp [he])) h
          refine ⟨by simpa using hrun', fun i hi => ?_⟩
          rw [hframe i (fun e he => hi e (by simp [he])),
            World.step_sessions_of_ne hstep (hi ev (by simp))]

/-- Where a trace without adds from `new_simulated devices` ends, checked by a
Boolean observation of the final world. -/
theorem Run.of_run {devices : List UsbDevice} {trace : List Event} {p : World → Bool}
    (hadd : trace.all (fun ev => !ev.isAdd) = true)
    (h : ((World.init devices).run trace).map p = some true) :
    ∃ w, Run devices trace w ∧ p w = true ∧
      ∀ i, (∀ ev ∈ trace, ev.session? ≠ some i) → w.sessions i = .running none := by
  cases hw : (World.init devices).run trace with
  | none => simp [hw] at h
  | some w =>
      simp only [hw, Option.map_some', Option.some.injEq] at h
      obtain ⟨hrun, hframe⟩ := Run.append_run Run.nil (by simpa using hadd) hw
      exact ⟨w, by simpa using hrun, h, hframe⟩

/-- Single ownership along every run from pairwise distinct devices: bus ids
stay distinct across both collections, each imported device sits under its own
bus id, no device is lost or duplicated, and the bindings of running sessions
are imported and held by one session each. -/
theorem single_ownership {devices : List UsbDevice} (hdevices : (devices.map (·.busId)).Nodup)
    {events : List Event} {w : World} (hrun : Run devices events w) :
    w.server.busIds.Nodup ∧
    (∀ k d, w.server.usedDevices.lookup k = some d → d.busId = k) ∧
    w.server.devices + ↑w.removed = ↑devices + ↑(addedBy events) ∧
    (∀ i id, w.sessions i = .running (some id) → id ∈ w.server.usedDevices) ∧
    (∀ i j id, w.sessions i = .running (some id) → w.sessions j = .running (some id) →
      i = j) :=
  let ⟨⟨hw, hown⟩, hdev⟩ := hrun.inv hdevices
  ⟨hw.busIds_nodup, fun _ _ => hw.lookup_busId, hdev, fun _ _ => hown.bound_used,
    fun _ _ _ => hown.bound_unique⟩

theorem single_ownership_after_import :
    ∃ w, Run [testDevice] [.turn 0 (.command (.opReqImport testBusid) (.ok []) (.ok ()))] w ∧
      w.server.busIds.Nodup ∧
      ∀ i j id, w.sessions i = .running (some id) → w.sessions j = .running (some id) →
        i = j := by
  obtain ⟨w, hrun⟩ : ∃ w, Run [testDevice]
      [.turn 0 (.command (.opReqImport testBusid) (.ok []) (.ok ()))] w :=
    ⟨_, Run.snoc Run.nil trivial rfl⟩
  have h := single_ownership (by decide) hrun
  exact ⟨w, hrun, h.1, h.2.2.2.2⟩

/-- Connection 0 imports the test device, sends the same import again, and
closes. -/
def reimportThenClose : List Event :=
  [.turn 0 (.command (.opReqImport testBusid) (.ok []) (.ok ())),
   .turn 0 (.command (.opReqImport testBusid) (.ok []) (.ok ())),
   .turn 0 (.readError ⟨.unexpectedEof, "early eof"⟩)]

/-- Connection 0 imports the test device, and the reply cannot be written. -/
def importWriteFails : List Event :=
  [.turn 0 (.command (.opReqImport testBusid) (.ok []) (.error ⟨.brokenPipe, "broken pipe"⟩))]

/-- An imported device that no running session holds, after `handler` of
connection 0 has returned: once after a second `OP_REQ_IMPORT` dropped the
binding at line 58 and a clean EOF, once after the `?` of a failed reply
write.  Its id stays `in use` for `remove_device`. -/
theorem imported_device_outlives_handler :
    (∃ w, Run [testDevice] reimportThenClose w ∧ (w.sessions 0).returned = true ∧
      "0-0-0" ∈ w.server.usedDevices ∧ (∀ i, w.sessions i ≠ .running (some "0-0-0")) ∧
      (w.server.removeDevice "0-0-0").2 = .error ⟨.other, "Device 0-0-0 is in use"⟩) ∧
    (∃ w, Run [testDevice] importWriteFails w ∧ (w.sessions 0).returned = true ∧
      "0-0-0" ∈ w.server.usedDevices ∧ ∀ i, w.sessions i ≠ .running (some "0-0-0")) := by
  have hnot : ∀ {s : SessionState}, s.returned = true → s ≠ .running (some "0-0-0") := by
    rintro s h rfl
    cases h
  have hothers : ∀ {w : World} {trace : List Event},
      (∀ i, (∀ ev ∈ trace, ev.session? ≠ some i) → w.sessions i = .running none) →
      (∀ ev ∈ trace, ev.session? = some 0) → (w.sessions 0).returned = true →
      ∀ i, w.sessions i ≠ .running (some "0-0-0") := fun hframe htrace h0 i => by
    by_cases hi : i = 0
    · exact hi ▸ hnot h0
    · rw [hframe i fun ev hev => by simpa [htrace ev hev] using Ne.symm hi]
      simp
  constructor
  · obtain ⟨w, hrun, hp, hframe⟩ := @Run.of_run [testDevice] reimportThenClose (fun w =>
      (w.sessions 0).returned && decide ("0-0-0" ∈ w.server.usedDevices) &&
        decide ((w.server.removeDevice "0-0-0").2 = .error ⟨.other, "Device 0-0-0 is in use"⟩))
      (by decide) (by decide)
    simp only [Bool.and_eq_true, decide_eq_true_eq] at hp
    exact ⟨w, hrun, hp.1.1, hp.1.2,
      hothers hframe (by simp [reimportThenClose, Event.session?]) hp.1.1, hp.2⟩
  · obtain ⟨w, hrun, hp, hframe⟩ := @Run.of_run [testDevice] importWriteFails (fun w =>
      (w.sessions 0).returned && decide ("0-0-0" ∈ w.server.usedDevices)) (by decide) (by decide)
    simp only [Bool.and_eq_true, decide_eq_true_eq] at hp
    exact ⟨w, hrun, hp.1, hp.2,
      hothers hframe (by simp [importWriteFails, Event.session?]) hp.1⟩

theorem Outcome.toState_eq_panicked {outcome : Outcome} :
    outcome.toState = .panicked ↔ outcome = .panicked := by
  cases outcome <;> simp [Outcome.toState]

/-- In a reachable world, a turn panics exactly when it is a
`USBIP_CMD_SUBMIT` to a session with no bound device. -/
theorem Run.turn_panics_iff {devices : List UsbDevice} (hdevices : (devices.map (·.busId)).Nodup)
    {events : List Event} {w : World} (hrun : Run devices events w) {i : Nat}
    {cur : Option String} (hi : w.sessions i = .running cur) (input : Input) :
    (w.step (.turn i input)).map (·.sessions i) = some .panicked ↔
      cur = none ∧ ∃ header urb write, input = .command (.usbipCmdSubmit header) urb write := by
  have hcur : ∀ id, cur = some id → id ∈ w.server.usedDevices := fun id hid =>
    (hrun.inv hdevices).1.owned.bound_used (hid ▸ hi)
  simp only [World.step, hi, Option.map_some', Function.update_same, Option.some.injEq,
    Outcome.toState_eq_panicked]
  exact handlerStep_panicked_iff hcur

/-- A running session that holds no device, before any import or after a
failed one, panics on `USBIP_CMD_SUBMIT` at `current_import_device.unwrap()`. -/
theorem turn_panics_iff_fresh_submit :
    ((World.init [testDevice]).step
        (.turn 0 (.command (.usbipCmdSubmit ⟨1, 1, 0, 1, 0⟩) (.ok []) (.ok ())))).map
      (·.sessions 0) = some .panicked ↔
    (none : Option String) = none ∧ ∃ header urb write,
      Input.command (.usbipCmdSubmit ⟨1, 1, 0, 1, 0⟩) (.ok []) (.ok ()) =
        .command (.usbipCmdSubmit header) urb write :=
  Run.turn_panics_iff (by decide) Run.nil rfl _

theorem submit_without_import_panics {w : World} {i : Nat} (hi : w.sessions i = .running none)
    (header : UsbIpHeaderBasic) (urb : Except IoError (List UInt8))
    (write : Except IoError Unit) :
    (w.step (.turn i (.command (.usbipCmdSubmit header) urb write))).map (·.sessions i) =
      some .panicked := by
  simp [World.step, hi, handlerStep_submit_unbound, Outcome.toState]

/-- The first PDU on a new connection is the test suite's `GET_DESCRIPTOR`
submit, with no import before it. -/
theorem submit_first_on_connection_panics :
    (World.init [testDevice]).sessions 0 = .running none ∧
    ((World.init [testDevice]).step
        (.turn 0 (.command (.usbipCmdSubmit ⟨1, 1, 0, 1, 0⟩) (.ok []) (.ok ())))).map
      (·.sessions 0) = some .panicked :=
  ⟨rfl, submit_without_import_panics rfl ⟨1, 1, 0, 1, 0⟩ (.ok []) (.ok ())⟩

end UsbIp
