import Mathlib.Data.List.Chain
import UsbIp.Sessions

/-
The history of one bus id.  Section 8 of the spec asks that at most one
session observe a successful `OP_REP_IMPORT` for a bus id between successive
releases.  Along every run the events that import a bus id successfully and
the events that release it alternate, beginning with an import: an import
needs the id out of `used_devices`, and only the release block of `handler`
takes it out again.  The leaks of `imported_device_outlives_handler` do not
break this; they end the history of their id.
-/

namespace UsbIp

section Turn

@[simp] theorem submitReply_ne_opRepImportSuccess (device : UsbDevice) (header : UsbIpHeaderBasic)
    (urb : Except IoError (List UInt8)) (d : UsbDevice) :
    submitReply device header urb ≠ .opRepImportSuccess d := by
  unfold submitReply
  dsimp only
  split <;> (try split) <;> nofun

variable {server : UsbIpServer} {cur : Option String}

/-- Releasing an imported id moves its device to the end of
`available_devices`. -/
theorem releaseDevice_of_mem {devId : String} (h : devId ∈ server.usedDevices) :
    ∃ dev, server.usedDevices.lookup devId = some dev ∧ server.releaseDevice devId =
      some ⟨server.availableDevices ++ [dev], server.usedDevices.erase devId⟩ := by
  obtain ⟨dev, hdev⟩ := Option.isSome_iff_exists.mp (AList.lookup_isSome.mpr h)
  exact ⟨dev, hdev, by simp [UsbIpServer.releaseDevice, hdev]⟩

/-- What a turn does to one bus id in `used_devices`: a successful import adds
it, the release of the session's binding after a failed read removes it, and
nothing else changes it. -/
theorem handlerStep_usedDevices (hw : server.WellFormed)
    (hcur : ∀ id, cur = some id → id ∈ server.usedDevices) (input : Input) (b : String) :
    ((∃ d, (handlerStep server cur input).2.2 = some (.opRepImportSuccess d) ∧ d.busId = b) ↔
      b ∉ server.usedDevices ∧ b ∈ (handlerStep server cur input).1.usedDevices) ∧
    ((∃ err, input = .readError err ∧ cur = some b) ↔
      b ∈ server.usedDevices ∧ b ∉ (handlerStep server cur input).1.usedDevices) := by
  rcases input with err | ⟨cmd, urb, write⟩
  · rcases cur with _ | devId
    · simp [handlerStep]
    · obtain ⟨dev, -, hrel⟩ := releaseDevice_of_mem (hcur devId rfl)
      simp only [handlerStep, hrel, AList.mem_erase, Option.some.injEq, exists_eq_left',
        reduceCtorEq, false_and, exists_false, false_iff, true_and, Input.readError.injEq,
        exists_eq_left]
      refine ⟨fun ⟨hnot, _, hb⟩ => hnot hb, ⟨fun h => ?_, fun ⟨hb, hnot⟩ => ?_⟩⟩
      · subst h
        exact ⟨hcur _ rfl, fun h => h.1 rfl⟩
      · by_contra hne
        exact hnot ⟨Ne.symm hne, hb⟩
  · cases cmd with
    | opReqImport busid =>
        cases hfind : server.availableDevices.find? (UsbIpServer.importMatches busid) with
        | none => simp [handlerStep, UsbIpServer.importDevice_of_find?_none hfind]
        | some dev =>
            have hfresh := UsbIpServer.not_mem_usedDevices_of_nodup hw.busIds_nodup
              (List.mem_of_find?_eq_some hfind)
            simp only [handlerStep, UsbIpServer.importDevice_of_find?_some hfind,
              AList.lookup_insert, AList.mem_insert, Option.some.injEq, UsbIpResponse.opRepImportSuccess.injEq,
              exists_eq_left', reduceCtorEq, false_and, exists_false, false_iff, not_or, not_and,
              not_not]
            exact ⟨⟨by rintro rfl; exact ⟨hfresh, .inl rfl⟩,
              by rintro ⟨hnot, rfl | hb⟩ <;> first | rfl | exact absurd hb hnot⟩,
              fun hb _ => hb⟩
    | opReqDevlist => simp [handlerStep]
    | usbipCmdSubmit header =>
        simp only [handlerStep]
        split <;> simp [submitReply_ne_opRepImportSuccess]
    | usbipCmdUnlink header => simp [handlerStep]

end Turn

namespace World

/-- The reply an event writes: the one of a turn of a running session. -/
def reply? (w : World) : Event → Option UsbIpResponse
  | .turn i input =>
      match w.sessions i with
      | .running cur => (handlerStep w.server cur input).2.2
      | _ => none
  | _ => none

/-- Whether an event, in world `w`, imports bus id `b` successfully. -/
def importsOk (w : World) (b : String) (ev : Event) : Bool :=
  match w.reply? ev with
  | some (.opRepImportSuccess d) => d.busId == b
  | _ => false

/-- Whether an event, in world `w`, is the release of `b` by the session bound
to it, after a failed read. -/
def releases (w : World) (b : String) : Event → Bool
  | .turn i (.readError _) => w.sessions i == .running (some b)
  | _ => false

/-- What happens to bus id `b` along events from `w`: `true` for a
successful import, `false` for a release. -/
def ownership (w : World) (b : String) : List Event → List Bool
  | [] => []
  | ev :: rest =>
      match w.step ev with
      | some w' =>
          (if w.importsOk b ev then [true] else if w.releases b ev then [false] else []) ++
            w'.ownership b rest
      | none => []

variable {w w' : World} {ev : Event}

theorem importsOk_eq_true {b : String} :
    w.importsOk b ev = true ↔ ∃ d, w.reply? ev = some (.opRepImportSuccess d) ∧ d.busId = b := by
  unfold importsOk
  split <;> simp_all

/-- A step of a world that keeps the invariant adds bus id `b` to
`used_devices` exactly when it imports `b` successfully, and removes it exactly
when it releases `b`. -/
theorem Inv.step_usedDevices (hinv : w.Inv) (h : w.step ev = some w') (b : String) :
    (w.importsOk b ev = true ↔ b ∉ w.server.usedDevices ∧ b ∈ w'.server.usedDevices) ∧
    (w.releases b ev = true ↔ b ∈ w.server.usedDevices ∧ b ∉ w'.server.usedDevices) := by
  cases ev with
  | turn i input =>
      simp only [World.step] at h
      split at h
      · rename_i cur hi
        cases h
        have hturn := handlerStep_usedDevices hinv.wellFormed
          (fun id (hid : cur = some id) => hinv.owned.bound_used (hid ▸ hi)) input b
        rw [importsOk_eq_true]
        simp only [reply?, hi]
        refine ⟨hturn.1, Iff.trans ?_ hturn.2⟩
        cases input <;> simp [releases, hi]
      · cases h
  | addDevice d =>
      cases h
      simp [importsOk, reply?, releases]
  | removeDevice busId =>
      cases h
      simp [importsOk, reply?, releases]

theorem run_append (w : World) (xs ys : List Event) :
    w.run (xs ++ ys) = (w.run xs).bind (·.run ys) := by
  induction xs generalizing w with
  | nil => rfl
  | cons ev rest ih =>
      simp only [List.cons_append, run]
      cases w.step ev <;> simp [ih]

theorem ownership_append (w : World) (b : String) (xs ys : List Event) :
    w.ownership b (xs ++ ys) = w.ownership b xs ++ ((w.run xs).map (·.ownership b ys)).getD [] := by
  induction xs generalizing w with
  | nil => simp [ownership, run]
  | cons ev rest ih =>
      simp only [List.cons_append, ownership, run]
      cases w.step ev <;> simp [ih]

end World

theorem Run.run_eq {devices : List UsbDevice} {events : List Event} {w : World}
    (hrun : Run devices events w) : (World.init devices).run events = some w := by
  induction hrun with
  | nil => rfl
  | snoc _ _ hstep ih => simp [World.run_append, ih, World.run, hstep]

/-- An entry unlike the last one keeps a history alternating. -/
theorem chain'_snoc {l : List Bool} {x : Bool} (hl : List.Chain' (· ≠ ·) (false :: l))
    (hx : (false :: l).getLast (List.cons_ne_nil _ _) ≠ x) :
    List.Chain' (· ≠ ·) (false :: l ++ [x]) := by
  refine List.chain'_append.mpr ⟨hl, List.chain'_singleton _, fun y hy z hz => ?_⟩
  rw [List.getLast?_eq_getLast _ (List.cons_ne_nil _ _), Option.mem_def, Option.some.injEq] at hy
  simp only [List.head?_cons, Option.mem_def, Option.some.injEq] at hz
  exact hy ▸ hz ▸ hx

/-- The history of a bus id along a run: its imports and releases alternate
from a leading `false`, and the last of them says whether it is imported. -/
theorem Run.ownership {devices : List UsbDevice} (hdevices : (devices.map (·.busId)).Nodup)
    {events : List Event} {w : World} (hrun : Run devices events w) (b : String) :
    List.Chain' (· ≠ ·) (false :: (World.init devices).ownership b events) ∧
      ((false :: (World.init devices).ownership b events).getLast (List.cons_ne_nil _ _) =
        true ↔ b ∈ w.server.usedDevices) := by
  induction hrun with
  | nil => simp [World.ownership, World.init, List.chain'_singleton]
  | @snoc events w₀ w₁ ev hrun₀ _ hstep ih =>
      have hused := ((hrun₀.inv hdevices).1.step_usedDevices hstep b)
      rw [World.ownership_append, hrun₀.run_eq]
      simp only [Option.map_some', Option.getD_some, World.ownership, hstep, List.append_nil]
      by_cases himp : w₀.importsOk b ev = true
      · obtain ⟨hout, hin⟩ := hused.1.mp himp
        simp only [himp, if_true, ← List.cons_append]
        exact ⟨chain'_snoc ih.1 (by simpa [hout] using ih.2), by simp [hin]⟩
      · by_cases hrel : w₀.releases b ev = true
        · obtain ⟨hin, hout⟩ := hused.2.mp hrel
          simp only [himp, hrel, if_true, ← List.cons_append, Bool.false_eq_true, if_false]
          exact ⟨chain'_snoc ih.1 (by simpa [hin] using ih.2), by simp [hout]⟩
        · have hsame : b ∈ w₁.server.usedDevices ↔ b ∈ w₀.server.usedDevices :=
            ⟨fun h => not_not.mp fun hn => himp (hused.1.mpr ⟨hn, h⟩),
              fun h => not_not.mp fun hn => hrel (hused.2.mpr ⟨h, hn⟩)⟩
          simp only [Bool.not_eq_true] at himp hrel
          simp only [himp, hrel, Bool.false_eq_true, if_false, List.append_nil, hsame]
          exact ih

/-- Section 8, invariant 3 of the spec: along every run from pairwise distinct
devices, the successful imports and the releases of a bus id alternate,
beginning with an import, so no two sessions see a successful `OP_REP_IMPORT`
for one bus id without a release of it in between. -/
theorem imports_alternate_with_releases {devices : List UsbDevice}
    (hdevices : (devices.map (·.busId)).Nodup) {events : List Event} {w : World}
    (hrun : Run devices events w) (b : String) :
    List.Chain' (· ≠ ·) (false :: (World.init devices).ownership b events) :=
  (hrun.ownership hdevices b).1

/-- Connection 0 imports the test device and closes; connection 1 then
imports it. -/
def importCloseReimport : List Event :=
  [.turn 0 (.command (.opReqImport testBusid) (.ok []) (.ok ())),
   .turn 0 (.readError ⟨.unexpectedEof, "early eof"⟩),
   .turn 1 (.command (.opReqImport testBusid) (.ok []) (.ok ()))]

theorem imports_alternate_with_releases_reimport :
    (World.init [testDevice]).ownership "0-0-0" importCloseReimport = [true, false, true] ∧
    ∃ w, Run [testDevice] importCloseReimport w ∧
      List.Chain' (· ≠ ·)
        (false :: (World.init [testDevice]).ownership "0-0-0" importCloseReimport) := by
  obtain ⟨w, hrun, -, -⟩ :=
    @Run.of_run [testDevice] importCloseReimport (fun _ => true) (by decide) (by decide)
  exact ⟨by decide, w, hrun, imports_alternate_with_releases (by decide) hrun "0-0-0"⟩

section Bound

variable {devices : List UsbDevice} {events : List Event} {w : World} {i : Nat} {b : String}

/-- `USBIP_CMD_SUBMIT` in a session bound to `b` (server.rs lines 85-137), in
every reachable state: the registry is untouched, the session keeps `b` unless
the reply cannot be written, and the reply is the `USBIP_RET_SUBMIT` built from
the imported device of `b`; nothing panics. -/
theorem submit_bound_replies (hdevices : (devices.map (·.busId)).Nodup)
    (hrun : Run devices events w) (hi : w.sessions i = .running (some b))
    (header : UsbIpHeaderBasic) (urb : Except IoError (List UInt8))
    (write : Except IoError Unit) :
    ∃ device, device.busId = b ∧ w.server.usedDevices.lookup b = some device ∧
      w.step (.turn i (.command (.usbipCmdSubmit header) urb write)) =
        some { w with sessions := Function.update w.sessions i (afterWrite write (some b)).toState } ∧
      w.reply? (.turn i (.command (.usbipCmdSubmit header) urb write)) =
        some (submitReply device header urb) := by
  obtain ⟨⟨hw, hown⟩, -⟩ := hrun.inv hdevices
  obtain ⟨dev, hdev, -⟩ := releaseDevice_of_mem (hown.bound_used hi)
  exact ⟨dev, hw.lookup_busId hdev, hdev,
    by simp [World.step, hi, handlerStep, hdev], by simp [World.reply?, hi, handlerStep, hdev]⟩

/-- Connection 0 after importing the test device. -/
theorem bound_after_import :
    ∃ w, Run [testDevice] [.turn 0 (.command (.opReqImport testBusid) (.ok []) (.ok ()))] w ∧
      w.sessions 0 = .running (some "0-0-0") := by
  obtain ⟨w, hrun, hbound, -⟩ :=
    @Run.of_run [testDevice] [.turn 0 (.command (.opReqImport testBusid) (.ok []) (.ok ()))]
      (fun w => w.sessions 0 == .running (some "0-0-0")) (by decide) (by decide)
  exact ⟨w, hrun, by simpa using hbound⟩

theorem submit_bound_replies_after_import :
    ∃ w, Run [testDevice] [.turn 0 (.command (.opReqImport testBusid) (.ok []) (.ok ()))] w ∧
      ∃ device, device.busId = "0-0-0" ∧ w.server.usedDevices.lookup "0-0-0" = some device ∧
        w.step (.turn 0 (.command (.usbipCmdSubmit ⟨1, 1, 0, 1, 0⟩) (.ok []) (.ok ()))) =
          some { w with sessions := Function.update w.sessions 0 (.running (some "0-0-0")) } ∧
        w.reply? (.turn 0 (.command (.usbipCmdSubmit ⟨1, 1, 0, 1, 0⟩) (.ok []) (.ok ()))) =
          some (submitReply device ⟨1, 1, 0, 1, 0⟩ (.ok [])) := by
  obtain ⟨w, hrun, hbound⟩ := bound_after_import
  exact ⟨w, hrun, submit_bound_replies (by decide) hrun hbound ⟨1, 1, 0, 1, 0⟩ (.ok []) (.ok ())⟩

end Bound

section Withdrawal

namespace World

variable {w w' : World} {ev : Event}

/-- A step only appends to the history of removed devices. -/
theorem removed_step (h : w.step ev = some w') : ∃ r, w'.removed = w.removed ++ r := by
  cases ev with
  | turn i input =>
      simp only [step] at h
      split at h
      · cases h
        exact ⟨[], (List.append_nil _).symm⟩
      · cases h
  | addDevice d =>
      cases h
      exact ⟨[], (List.append_nil _).symm⟩
  | removeDevice busId =>
      cases h
      exact ⟨_, rfl⟩

/-- A step brings no device into the registry but the one it adds. -/
theorem devices_le_step (hw : w.server.WellFormed) (h : w.step ev = some w') :
    w'.server.devices ≤ w.server.devices + ↑(addedBy [ev]) := by
  obtain ⟨r, hr⟩ := removed_step h
  have hdev := devices_step hw h
  rw [hr, ← Multiset.coe_add] at hdev
  have hsum : w'.server.devices + ↑r = w.server.devices + ↑(addedBy [ev]) := by
    refine (add_left_inj (↑w.removed : Multiset UsbDevice)).mp ?_
    calc w'.server.devices + ↑r + ↑w.removed
        = w'.server.devices + (↑w.removed + ↑r) := by ac_rfl
      _ = w.server.devices + ↑w.removed + ↑(addedBy [ev]) := hdev
      _ = w.server.devices + ↑(addedBy [ev]) + ↑w.removed := by ac_rfl
  exact hsum ▸ Multiset.le_add_right _ _

/-- A step that keeps the invariant does not bring back a bus id absent from
the registry unless it adds a device with that id, and it neither imports nor
releases the id. -/
theorem Inv.step_absent (hinv : w.Inv) (hadm : ev.Admissible w) (h : w.step ev = some w')
    {b : String} (hb : b ∉ w.server.busIds) (hadd : ∀ d ∈ addedBy [ev], d.busId ≠ b) :
    b ∉ w'.server.busIds ∧ w.importsOk b ev = false ∧ w.releases b ev = false := by
  have hout : b ∉ w'.server.busIds := fun hb' => by
    obtain ⟨dev, hdev, rfl⟩ := (hinv.step hadm h).wellFormed.exists_mem_devices hb'
    rcases Multiset.mem_add.mp (Multiset.mem_of_le (devices_le_step hinv.wellFormed h) hdev) with
      hdev | hdev
    · exact hb (hinv.wellFormed.busId_mem_busIds hdev)
    · exact hadd dev (Multiset.mem_coe.mp hdev) rfl
  have hused := hinv.step_usedDevices h b
  refine ⟨hout, Bool.eq_false_iff.mpr fun himp => ?_, Bool.eq_false_iff.mpr fun hrel => ?_⟩
  · exact hout (UsbIpServer.mem_busIds_of_mem_usedDevices (hused.1.mp himp).2)
  · exact hb (UsbIpServer.mem_busIds_of_mem_usedDevices (hused.2.mp hrel).1)

end World

variable {devices : List UsbDevice}

theorem Run.of_snoc {events : List Event} {ev : Event} {w' : World}
    (h : Run devices (events ++ [ev]) w') :
    ∃ w, Run devices events w ∧ ev.Admissible w ∧ w.step ev = some w' := by
  generalize htrace : events ++ [ev] = trace at h
  cases h with
  | nil => simp at htrace
  | snoc hrun hadm hstep =>
      obtain ⟨rfl, hev⟩ := List.append_inj' htrace rfl
      cases hev
      exact ⟨_, hrun, hadm, hstep⟩

/-- Along the events after a reachable world from which bus id `b` is absent,
`b` stays absent and nothing happens to it, as long as no device with id `b`
is added. -/
theorem Run.stays_absent (hdevices : (devices.map (·.busId)).Nodup) {events : List Event}
    {w : World} (hrun : Run devices events w) {b : String} (hb : b ∉ w.server.busIds)
    (later : List Event) : ∀ {w' : World}, Run devices (events ++ later) w' →
      (∀ d ∈ addedBy later, d.busId ≠ b) → b ∉ w'.server.busIds ∧ w.ownership b later = [] := by
  induction later using List.reverseRecOn with
  | nil =>
      intro w' hrun' _
      rw [List.append_nil] at hrun'
      cases Option.some.inj (hrun.run_eq.symm.trans hrun'.run_eq)
      exact ⟨hb, rfl⟩
  | append_singleton later ev ih =>
      intro w' hrun' hadd
      have hadded : addedBy (later ++ [ev]) = addedBy later ++ addedBy [ev] := by
        simp only [addedBy, List.filterMap_append]
      rw [← List.append_assoc] at hrun'
      obtain ⟨w₁, hrun₁, hadm, hstep⟩ := hrun'.of_snoc
      obtain ⟨hb₁, hown⟩ :=
        ih hrun₁ fun d hd => hadd d (hadded ▸ List.mem_append_left _ hd)
      obtain ⟨hb', himp, hrel⟩ := (hrun₁.inv hdevices).1.step_absent hadm hstep hb₁
        fun d hd => hadd d (hadded ▸ List.mem_append_right _ hd)
      have hw₁ : w.run later = some w₁ := by
        simpa [World.run_append, hrun.run_eq] using hrun₁.run_eq
      refine ⟨hb', ?_⟩
      rw [World.ownership_append, hw₁, hown]
      simp [World.ownership, hstep, himp, hrel]

/-- `remove_device` withdraws a device for good (usbip_server.rs lines 37-42):
after a successful `remove_device b` in a reachable world, `b` is in neither
collection, and no later event imports or releases it, until a device with bus
id `b` is added again. -/
theorem removed_device_stays_removed (hdevices : (devices.map (·.busId)).Nodup)
    {events later : List Event} {w w' : World} {b : String}
    (hrun : Run devices events w) (hok : (w.server.removeDevice b).2 = .ok ())
    (hlater : Run devices (events ++ .removeDevice b :: later) w')
    (hnoadd : ∀ d ∈ addedBy later, d.busId ≠ b) :
    b ∉ w'.server.busIds ∧
      (World.init devices).ownership b (events ++ .removeDevice b :: later) =
        (World.init devices).ownership b events := by
  obtain ⟨w₁, hstep⟩ : ∃ w₁, w.step (.removeDevice b) = some w₁ := ⟨_, rfl⟩
  have hrun₁ := hrun.snoc (show Event.Admissible w (.removeDevice b) from trivial) hstep
  have hb : b ∉ w₁.server.busIds := by
    cases hstep
    exact (hrun.inv hdevices).1.wellFormed.not_mem_busIds_removeDevice hok
  rw [← List.singleton_append, ← List.append_assoc] at hlater ⊢
  obtain ⟨hb', hown⟩ := hrun₁.stays_absent hdevices hb later hlater hnoadd
  refine ⟨hb', ?_⟩
  rw [World.ownership_append, hrun₁.run_eq, Option.map_some', Option.getD_some, hown,
    World.ownership_append, hrun.run_eq]
  simp [World.ownership, hstep, World.importsOk, World.reply?, World.releases]

/-- Connection 0 imports the test device and closes. -/
def importClose : List Event :=
  [.turn 0 (.command (.opReqImport testBusid) (.ok []) (.ok ())),
   .turn 0 (.readError ⟨.unexpectedEof, "early eof"⟩)]

theorem removed_device_stays_removed_importClose :
    ∃ w w', Run [testDevice] importClose w ∧ (w.server.removeDevice "0-0-0").2 = .ok () ∧
      Run [testDevice] (importClose ++ .removeDevice "0-0-0" ::
        [.turn 1 (.command (.opReqImport testBusid) (.ok []) (.ok ()))]) w' ∧
      "0-0-0" ∉ w'.server.busIds ∧
      (World.init [testDevice]).ownership "0-0-0" (importClose ++ .removeDevice "0-0-0" ::
        [.turn 1 (.command (.opReqImport testBusid) (.ok []) (.ok ()))]) =
        (World.init [testDevice]).ownership "0-0-0" importClose := by
  obtain ⟨w, hrun, hok, -⟩ := @Run.of_run [testDevice] importClose
    (fun w => decide ((w.server.removeDevice "0-0-0").2 = .ok ())) (by decide) (by decide)
  obtain ⟨w', hrun', -, -⟩ := @Run.of_run [testDevice] (importClose ++ .removeDevice "0-0-0" ::
    [.turn 1 (.command (.opReqImport testBusid) (.ok []) (.ok ()))]) (fun _ => true)
    (by decide) (by decide)
  have hok' := of_decide_eq_true hok
  exact ⟨w, w', hrun, hok', hrun', removed_device_stays_removed (by decide) hrun hok' hrun'
    (by simp [addedBy])⟩

end Withdrawal

end UsbIp
