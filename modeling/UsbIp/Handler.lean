import UsbIp.Registry

/-
One turn of the loop of `handler` (server.rs lines 19-151): read a command,
run its arm against the registry, write the reply.  The registry operations
are the atomic critical sections of `UsbIp.Registry`; the socket and the
device handler are the environment, and what they answer in a turn is the
turn's `Input`.
-/

namespace UsbIp

/-- What the socket and the device handler answer during one turn. -/
inductive Input
  | readError (err : IoError)
  | command (cmd : UsbIpCommand) (urb : Except IoError (List UInt8))
      (write : Except IoError Unit)

/-- How a turn ends: the loop goes on with a binding, `handler` returns, or
the task panics. -/
inductive Outcome
  | next (currentImportDeviceId : Option String)
  | done (result : Except IoError Unit)
  | panicked
deriving DecidableEq

/-- `write_to_socket(..).await?`, then the next turn with the binding `cur`. -/
def afterWrite (write : Except IoError Unit) (cur : Option String) : Outcome :=
  match write with
  | .ok () => .next cur
  | .error err => .done (.error err)

/-- What `handler` returns after a failed read: `Ok` on a clean EOF. -/
def readErrorResult (err : IoError) : Except IoError Unit :=
  if err.kind = .unexpectedEof then .ok () else .error err

/-- The `USBIP_RET_SUBMIT` reply of lines 95-134 for a URB on `device`, given
what `handle_urb` answers. -/
def submitReply (device : UsbDevice) (header : UsbIpHeaderBasic)
    (urb : Except IoError (List UInt8)) : UsbIpResponse :=
  let out := header.direction == 0
  let realEp := if out then header.ep else header.ep ||| 0x80
  let header := { header with command := USBIP_RET_SUBMIT }
  match device.findEp realEp.toUInt8 with
  | none => .usbipRetSubmitFail header
  | some _ =>
      match urb with
      | .ok resp => .usbipRetSubmitSuccess header 0 0 resp
      | .error _ => .usbipRetSubmitFail header

/-- One turn of `handler` from the binding `currentImportDeviceId`: the new
registry, how the turn ends, and the reply it writes. -/
def handlerStep (server : UsbIpServer) (currentImportDeviceId : Option String) :
    Input → UsbIpServer × Outcome × Option UsbIpResponse
  | .readError err =>
      match currentImportDeviceId with
      | none => (server, .done (readErrorResult err), none)
      | some devId =>
          match server.releaseDevice devId with
          | some server' => (server', .done (readErrorResult err), none)
          | none => (server, .panicked, none)
  | .command cmd urb write =>
      match cmd with
      | .opReqDevlist =>
          (server, afterWrite write currentImportDeviceId,
            some (.opRepDevlist server.availableDevices))
      | .opReqImport busid =>
          match server.importDevice busid with
          | (server', some dev) =>
              match server'.usedDevices.lookup dev.busId with
              | some dev' =>
                  (server', afterWrite write (some dev.busId), some (.opRepImportSuccess dev'))
              | none => (server', .panicked, none)
          | (server', none) => (server', afterWrite write none, some .opRepImportFail)
      | .usbipCmdSubmit header =>
          match currentImportDeviceId.bind server.usedDevices.lookup with
          | none => (server, .panicked, none)
          | some device =>
              (server, afterWrite write currentImportDeviceId,
                some (submitReply device header urb))
      | .usbipCmdUnlink header =>
          (server, afterWrite write currentImportDeviceId,
            some (.usbipRetUnlinkSuccess { header with command := USBIP_RET_UNLINK }))

theorem afterWrite_eq_next {write : Except IoError Unit} {cur b : Option String}
    (h : afterWrite write cur = .next b) : b = cur := by
  cases write <;> simp_all [afterWrite]

/-- What a turn can do to the registry and the binding: nothing to the
registry while keeping the binding or ending, a release that ends the
session, or an import whose result becomes the binding. -/
theorem handlerStep_cases {server server' : UsbIpServer} {cur : Option String} {input : Input}
    {outcome : Outcome} {reply : Option UsbIpResponse}
    (h : handlerStep server cur input = (server', outcome, reply)) :
    (server' = server ∧ ∀ b, outcome = .next b → b = cur) ∨
    (∃ devId, cur = some devId ∧ server.releaseDevice devId = some server' ∧
      ∀ b, outcome ≠ .next b) ∨
    (∃ busid, (server.importDevice busid).1 = server' ∧
      ∀ b, outcome = .next b → b = (server.importDevice busid).2.map (·.busId)) := by
  rcases input with err | ⟨cmd, urb, write⟩
  · rcases cur with _ | devId
    · simp only [handlerStep, Prod.mk.injEq] at h
      obtain ⟨rfl, rfl, -⟩ := h
      exact .inl ⟨rfl, by simp⟩
    · simp only [handlerStep] at h
      split at h
      · rename_i server₁ hrel
        simp only [Prod.mk.injEq] at h
        obtain ⟨rfl, rfl, -⟩ := h
        exact .inr (.inl ⟨devId, rfl, hrel, by simp⟩)
      · simp only [Prod.mk.injEq] at h
        obtain ⟨rfl, rfl, -⟩ := h
        exact .inl ⟨rfl, by simp⟩
  · cases cmd with
    | opReqImport busid =>
        refine .inr (.inr ⟨busid, ?_⟩)
        simp only [handlerStep] at h
        split at h
        · rename_i server₁ dev himport
          rw [himport]
          split at h <;> simp only [Prod.mk.injEq] at h <;> obtain ⟨rfl, rfl, -⟩ := h
          · exact ⟨rfl, fun b hb => by simpa using afterWrite_eq_next hb⟩
          · exact ⟨rfl, by simp⟩
        · rename_i server₁ himport
          rw [himport]
          simp only [Prod.mk.injEq] at h
          obtain ⟨rfl, rfl, -⟩ := h
          exact ⟨rfl, fun b hb => by simpa using afterWrite_eq_next hb⟩
    | opReqDevlist =>
        simp only [handlerStep, Prod.mk.injEq] at h
        obtain ⟨rfl, rfl, -⟩ := h
        exact .inl ⟨rfl, fun b hb => afterWrite_eq_next hb⟩
    | usbipCmdSubmit header =>
        simp only [handlerStep] at h
        split at h <;> simp only [Prod.mk.injEq] at h <;> obtain ⟨rfl, rfl, -⟩ := h
        · exact .inl ⟨rfl, by simp⟩
        · exact .inl ⟨rfl, fun b hb => afterWrite_eq_next hb⟩
    | usbipCmdUnlink header =>
        simp only [handlerStep, Prod.mk.injEq] at h
        obtain ⟨rfl, rfl, -⟩ := h
        exact .inl ⟨rfl, fun b hb => afterWrite_eq_next hb⟩

theorem importMatches_eq (busid : Busid) (d : UsbDevice) :
    UsbIpServer.importMatches busid d = (asBytes d.busId == busid.bytes.takeWhile (· != 0)) := by
  rw [UsbIpServer.importMatches, Busid.compare_eq_takeWhile, Bool.beq_comm]

/-- `OP_REQ_IMPORT` moves the first available device whose bus id bytes equal
the busid field up to its first NUL into `used_devices`, binds the session to
it and replies with it; with no such device nothing changes, the session is
unbound and the reply is a failure. -/
theorem handlerStep_opReqImport (server : UsbIpServer) (hids : server.busIds.Nodup)
    (cur : Option String) (busid : Busid) (urb : Except IoError (List UInt8))
    (write : Except IoError Unit) :
    ((∃ d ∈ server.availableDevices, asBytes d.busId = busid.bytes.takeWhile (· != 0)) →
      ∃ l₁ dev l₂, server.availableDevices = l₁ ++ dev :: l₂ ∧
        asBytes dev.busId = busid.bytes.takeWhile (· != 0) ∧
        (∀ x ∈ l₁, asBytes x.busId ≠ busid.bytes.takeWhile (· != 0)) ∧
        (server.usedDevices.insert dev.busId dev).entries =
          ⟨dev.busId, dev⟩ :: server.usedDevices.entries ∧
        handlerStep server cur (.command (.opReqImport busid) urb write) =
          (⟨l₁ ++ l₂, server.usedDevices.insert dev.busId dev⟩,
            afterWrite write (some dev.busId), some (.opRepImportSuccess dev))) ∧
    ((∀ d ∈ server.availableDevices, asBytes d.busId ≠ busid.bytes.takeWhile (· != 0)) →
      handlerStep server cur (.command (.opReqImport busid) urb write) =
        (server, afterWrite write none, some .opRepImportFail)) := by
  refine ⟨fun ⟨d, hd, hbytes⟩ => ?_, fun hnone => ?_⟩
  · obtain ⟨dev, hfind⟩ : ∃ dev,
        server.availableDevices.find? (UsbIpServer.importMatches busid) = some dev :=
      Option.isSome_iff_exists.mp
        (List.find?_isSome.mpr ⟨d, hd, by simp [importMatches_eq, hbytes]⟩)
    obtain ⟨l₁, l₂, hsplit, hdev, hl₁, herase⟩ := UsbIpServer.find?_eq_some_split hfind
    have hfresh := UsbIpServer.not_mem_usedDevices_of_nodup hids
      (List.mem_of_find?_eq_some hfind)
    refine ⟨l₁, dev, l₂, hsplit, by simpa [importMatches_eq] using hdev,
      fun x hx => by simpa [importMatches_eq] using hl₁ x hx,
      AList.insert_entries_of_neg hfresh, ?_⟩
    simp [handlerStep, UsbIpServer.importDevice_of_find?_some hfind, herase,
      AList.lookup_insert]
  · have hfind : server.availableDevices.find? (UsbIpServer.importMatches busid) = none := by
      simpa [importMatches_eq] using hnone
    simp [handlerStep, UsbIpServer.importDevice_of_find?_none hfind]

/-- The device of the integration tests, `UsbDevice::new(0)`. -/
def testDevice : UsbDevice :=
  ⟨"0-0-0", ⟨0x80⟩, ⟨0x00⟩, []⟩

/-- `op_req_import("0-0-0")` of the integration tests: the id padded with NUL
bytes to 32. -/
def testBusid : Busid :=
  ⟨asBytes "0-0-0" ++ List.replicate 27 0, by decide⟩

theorem handlerStep_opReqImport_testDevice :
    (UsbIpServer.newSimulated [testDevice]).busIds.Nodup ∧
    ∃ l₁ dev l₂, [testDevice] = l₁ ++ dev :: l₂ ∧
      handlerStep (.newSimulated [testDevice]) none
          (.command (.opReqImport testBusid) (.ok []) (.ok ())) =
        (⟨l₁ ++ l₂, (∅ : AList fun _ : String => UsbDevice).insert dev.busId dev⟩,
          .next (some dev.busId), some (.opRepImportSuccess dev)) := by
  have hids : (UsbIpServer.newSimulated [testDevice]).busIds.Nodup := by decide
  obtain ⟨l₁, dev, l₂, hsplit, -, -, -, hstep⟩ :=
    (handlerStep_opReqImport _ hids none testBusid (.ok []) (.ok ())).1
      ⟨testDevice, List.mem_singleton_self _, by decide⟩
  exact ⟨hids, l₁, dev, l₂, hsplit, hstep⟩

/-- On a session whose binding, if any, is imported, the only turn that
panics is a `USBIP_CMD_SUBMIT` with no binding: the `unreachable!()` of the
release and the `unwrap()` after the import never fire. -/
theorem handlerStep_panicked_iff {server : UsbIpServer} {cur : Option String} {input : Input}
    (hcur : ∀ id, cur = some id → id ∈ server.usedDevices) :
    (handlerStep server cur input).2.1 = .panicked ↔
      cur = none ∧ ∃ header urb write, input = .command (.usbipCmdSubmit header) urb write := by
  have hlookup : ∀ id, cur = some id → ∃ d, server.usedDevices.lookup id = some d := fun id hid =>
    Option.isSome_iff_exists.mp (AList.lookup_isSome.mpr (hcur id hid))
  rcases input with err | ⟨cmd, urb, write⟩
  · rcases cur with _ | devId
    · simp [handlerStep]
    · obtain ⟨d, hd⟩ := hlookup devId rfl
      simp [handlerStep, UsbIpServer.releaseDevice, hd]
  · cases cmd with
    | opReqImport busid =>
        simp only [handlerStep]
        split
        · rename_i server₁ dev himport
          have hmem := (UsbIpServer.importDevice_found (congrArg Prod.snd himport)).2
          rw [himport] at hmem
          obtain ⟨d, hd⟩ := Option.isSome_iff_exists.mp (AList.lookup_isSome.mpr hmem)
          cases write <;> simp [hd, afterWrite]
        · cases write <;> simp [afterWrite]
    | usbipCmdSubmit header =>
        rcases cur with _ | devId
        · simp [handlerStep]
        · obtain ⟨d, hd⟩ := hlookup devId rfl
          cases write <;> simp [handlerStep, hd, afterWrite]
    | opReqDevlist => cases write <;> simp [handlerStep, afterWrite]
    | usbipCmdUnlink header => cases write <;> simp [handlerStep, afterWrite]

/-- `USBIP_CMD_SUBMIT` on a session that holds no device reaches
`current_import_device.unwrap()` on `None`. -/
theorem handlerStep_submit_unbound (server : UsbIpServer) (header : UsbIpHeaderBasic)
    (urb : Except IoError (List UInt8)) (write : Except IoError Unit) :
    handlerStep server none (.command (.usbipCmdSubmit header) urb write) =
      (server, .panicked, none) := rfl

end UsbIp
