import Mathlib.Data.List.AList
import Mathlib.Data.Multiset.Basic
import UsbIp.Basic

/-
The registry `UsbIpServer` of `usbip_server.rs`: the devices ready to export
and the devices imported by a session, keyed by bus id.  Besides `add_device`
and `remove_device`, the two critical sections that `handler` runs on it (the
`OP_REQ_IMPORT` arm and the release on a read error) are registry operations
of their own here.  Each is the atomic effect of one critical
section; `UsbIp.Locks` adds the locks around them.
-/

namespace UsbIp

/-- `UsbIpServer`.  The `HashMap` of imported devices is an association list
with distinct keys. -/
structure UsbIpServer where
  availableDevices : List UsbDevice
  usedDevices : AList (fun _ : String => UsbDevice)

namespace UsbIpServer

/-- `UsbIpServer::new_simulated`. -/
def newSimulated (devices : List UsbDevice) : UsbIpServer :=
  ⟨devices, ∅⟩

/-- `used_devices.values()`. -/
def usedValues (server : UsbIpServer) : List UsbDevice :=
  server.usedDevices.entries.map Sigma.snd

/-- `UsbIpServer::add_device`. -/
def addDevice (server : UsbIpServer) (device : UsbDevice) : UsbIpServer :=
  { server with availableDevices := server.availableDevices ++ [device] }

/-- The `else` branches of `UsbIpServer::remove_device`, run under
`used_devices.read()`: the error says whether an imported device has the id. -/
def removeInUse (server : UsbIpServer) (busId : String) : Except IoError Unit :=
  match server.usedValues.find? (·.busId == busId) with
  | some device => .error ⟨.other, "Device " ++ device.busId ++ " is in use"⟩
  | none => .error ⟨.notFound, "Device " ++ busId ++ " not found"⟩

/-- `UsbIpServer::remove_device`: the first available device with the bus id
is dropped; otherwise the registry is left as it is. -/
def removeDevice (server : UsbIpServer) (busId : String) :
    UsbIpServer × Except IoError Unit :=
  match server.availableDevices.find? (·.busId == busId) with
  | some _ =>
      ({ server with
          availableDevices := server.availableDevices.eraseP (·.busId == busId) }, .ok ())
  | none => (server, server.removeInUse busId)

/-- Whether an available device answers an `OP_REQ_IMPORT` for `busid`. -/
def importMatches (busid : Busid) (device : UsbDevice) : Bool :=
  busid.compare == asBytes device.busId

/-- The critical section of `handler`'s `OP_REQ_IMPORT` arm (server.rs lines
62-75): the first matching available device moves into `used_devices` under
its bus id, and is returned. -/
def importDevice (server : UsbIpServer) (busid : Busid) :
    UsbIpServer × Option UsbDevice :=
  match server.availableDevices.find? (importMatches busid) with
  | some dev =>
      (⟨server.availableDevices.eraseP (importMatches busid),
        server.usedDevices.insert dev.busId dev⟩, some dev)
  | none => (server, none)

/-- The release block of `handler` (server.rs lines 22-29): the imported device
goes back to the end of `available_devices`; `none` is the `unreachable!()`. -/
def releaseDevice (server : UsbIpServer) (devId : String) : Option UsbIpServer :=
  match server.usedDevices.lookup devId with
  | some dev => some ⟨server.availableDevices ++ [dev], server.usedDevices.erase devId⟩
  | none => none

/-- Every bus id of the registry, available ones first. -/
def busIds (server : UsbIpServer) : List String :=
  server.availableDevices.map (·.busId) ++ server.usedDevices.keys

/-- All devices the registry holds, in either collection. -/
def devices (server : UsbIpServer) : Multiset UsbDevice :=
  ↑(server.availableDevices ++ server.usedValues)

@[simp] theorem newSimulated_availableDevices (devices : List UsbDevice) :
    (newSimulated devices).availableDevices = devices := rfl

@[simp] theorem newSimulated_usedDevices (devices : List UsbDevice) :
    (newSimulated devices).usedDevices = ∅ := rfl

@[simp] theorem addDevice_availableDevices (server : UsbIpServer) (device : UsbDevice) :
    (server.addDevice device).availableDevices = server.availableDevices ++ [device] := rfl

@[simp] theorem addDevice_usedDevices (server : UsbIpServer) (device : UsbDevice) :
    (server.addDevice device).usedDevices = server.usedDevices := rfl

/-- `position` followed by `remove`: the first element satisfying `p` splits
the list, and erasing it joins the two sides. -/
theorem find?_eq_some_split {α : Type} {p : α → Bool} {l : List α} {a : α}
    (h : l.find? p = some a) :
    ∃ l₁ l₂, l = l₁ ++ a :: l₂ ∧ p a ∧ (∀ x ∈ l₁, p x = false) ∧
      l.eraseP p = l₁ ++ l₂ := by
  induction l with
  | nil => simp at h
  | cons x rest ih =>
      by_cases hx : p x
      · simp only [List.find?_cons, hx, Option.some.injEq] at h
        subst h
        exact ⟨[], rest, rfl, hx, by simp, by simp [hx]⟩
      · simp only [List.find?_cons, hx] at h
        obtain ⟨l₁, l₂, rfl, ha, hl₁, herase⟩ := ih h
        refine ⟨x :: l₁, l₂, rfl, ha, ?_, by simp [hx, herase]⟩
        simpa [hx] using hl₁

theorem removeDevice_of_find?_some {server : UsbIpServer} {busId : String} {d : UsbDevice}
    (h : server.availableDevices.find? (·.busId == busId) = some d) :
    server.removeDevice busId =
      ({ server with
          availableDevices := server.availableDevices.eraseP (·.busId == busId) }, .ok ()) := by
  simp [removeDevice, h]

theorem removeDevice_of_find?_none {server : UsbIpServer} {busId : String}
    (h : server.availableDevices.find? (·.busId == busId) = none) :
    server.removeDevice busId = (server, server.removeInUse busId) := by
  simp [removeDevice, h]

theorem removeInUse_eq (server : UsbIpServer) (busId : String) :
    server.removeInUse busId =
      .error (if ∃ d ∈ server.usedValues, d.busId = busId then
        ⟨.other, "Device " ++ busId ++ " is in use"⟩
      else ⟨.notFound, "Device " ++ busId ++ " not found"⟩) := by
  unfold removeInUse
  split
  · rename_i d hd
    have hd' : d.busId = busId := by simpa using List.find?_some hd
    rw [if_pos ⟨d, List.mem_of_find?_eq_some hd, hd'⟩, hd']
  · rename_i hnone
    simp only [List.find?_eq_none, beq_iff_eq] at hnone
    rw [if_neg (fun ⟨d, hd, heq⟩ => hnone d hd heq)]

/-- Adding a device with a new bus id and removing that id gives back the
available list. -/
theorem removeDevice_addDevice (server : UsbIpServer) (d : UsbDevice)
    (hfresh : ∀ x ∈ server.availableDevices, x.busId ≠ d.busId) :
    (server.addDevice d).removeDevice d.busId =
      (server, .ok ()) := by
  have hnone : server.availableDevices.find? (·.busId == d.busId) = none := by
    simpa using hfresh
  have hfind : (server.addDevice d).availableDevices.find? (·.busId == d.busId) = some d := by
    simp [hnone]
  rw [removeDevice_of_find?_some hfind]
  simp only [addDevice_availableDevices]
  rw [List.eraseP_append_right _ (by simpa using hfresh)]
  simp [addDevice]

/-- `remove_device` succeeds exactly on an available bus id and drops the first
device with it; otherwise it changes nothing, and its error is `Other` exactly
when an imported device has the id.  Removing a freshly added id undoes the
add. -/
theorem removeDevice_spec (server : UsbIpServer) (busId : String) :
    ((server.removeDevice busId).2 = .ok () ↔ ∃ d ∈ server.availableDevices, d.busId = busId) ∧
    ((∃ d ∈ server.availableDevices, d.busId = busId) →
      ∃ l₁ d l₂, server.availableDevices = l₁ ++ d :: l₂ ∧ d.busId = busId ∧
        (∀ x ∈ l₁, x.busId ≠ busId) ∧
        (server.removeDevice busId).1.availableDevices = l₁ ++ l₂ ∧
        (server.removeDevice busId).1.usedDevices = server.usedDevices) ∧
    ((∀ d ∈ server.availableDevices, d.busId ≠ busId) →
      (server.removeDevice busId).1 = server ∧
      ∃ err : IoError, (server.removeDevice busId).2 = .error err ∧
        err.kind = if ∃ d ∈ server.usedValues, d.busId = busId then .other else .notFound) ∧
    ∀ d : UsbDevice, (∀ x ∈ server.availableDevices, x.busId ≠ d.busId) →
      ((server.addDevice d).removeDevice d.busId).2 = .ok () ∧
      ((server.addDevice d).removeDevice d.busId).1.availableDevices =
        server.availableDevices := by
  refine ⟨?_, ?_, ?_, fun d hfresh => by simp [removeDevice_addDevice server d hfresh]⟩
  · cases hfind : server.availableDevices.find? (·.busId == busId) with
    | some d =>
        have hd : d.busId = busId := by simpa using List.find?_some hfind
        simp only [removeDevice_of_find?_some hfind, true_iff]
        exact ⟨d, List.mem_of_find?_eq_some hfind, hd⟩
    | none =>
        simp only [List.find?_eq_none, beq_iff_eq] at hfind
        simp only [removeDevice_of_find?_none (by simpa using hfind), removeInUse_eq,
          reduceCtorEq, false_iff, not_exists, not_and]
        exact hfind
  · rintro ⟨d, hd, hbus⟩
    obtain ⟨x, hx⟩ : ∃ x, server.availableDevices.find? (·.busId == busId) = some x :=
      Option.isSome_iff_exists.mp (List.find?_isSome.mpr ⟨d, hd, by simpa using hbus⟩)
    obtain ⟨l₁, l₂, hsplit, hxb, hl₁, herase⟩ := find?_eq_some_split hx
    refine ⟨l₁, x, l₂, hsplit, by simpa using hxb, fun y hy => by simpa using hl₁ y hy, ?_⟩
    simp [removeDevice_of_find?_some hx, herase]
  · intro hnot
    have hnone : server.availableDevices.find? (·.busId == busId) = none := by simpa using hnot
    simp only [removeDevice_of_find?_none hnone, removeInUse_eq, true_and]
    exact ⟨_, rfl, by split <;> rfl⟩

theorem importDevice_of_find?_some {server : UsbIpServer} {busid : Busid} {dev : UsbDevice}
    (h : server.availableDevices.find? (importMatches busid) = some dev) :
    server.importDevice busid =
      (⟨server.availableDevices.eraseP (importMatches busid),
        server.usedDevices.insert dev.busId dev⟩, some dev) := by
  simp [importDevice, h]

theorem importDevice_of_find?_none {server : UsbIpServer} {busid : Busid}
    (h : server.availableDevices.find? (importMatches busid) = none) :
    server.importDevice busid = (server, none) := by
  simp [importDevice, h]

theorem releaseDevice_eq_some {server server' : UsbIpServer} {devId : String}
    (h : server.releaseDevice devId = some server') :
    ∃ dev, server.usedDevices.lookup devId = some dev ∧
      server' = ⟨server.availableDevices ++ [dev], server.usedDevices.erase devId⟩ := by
  unfold releaseDevice at h
  split at h
  · rename_i dev hdev
    exact ⟨dev, hdev, (Option.some.inj h).symm⟩
  · cases h

@[simp] theorem removeDevice_usedDevices (server : UsbIpServer) (busId : String) :
    (server.removeDevice busId).1.usedDevices = server.usedDevices := by
  unfold removeDevice
  split <;> rfl

theorem mem_importDevice_usedDevices {server : UsbIpServer} {busid : Busid} {k : String}
    (hk : k ∈ server.usedDevices) : k ∈ (server.importDevice busid).1.usedDevices := by
  unfold importDevice
  split
  · exact AList.mem_insert _ |>.mpr (.inr hk)
  · exact hk

/-- The device an import returns was available and is now imported. -/
theorem importDevice_found {server : UsbIpServer} {busid : Busid} {dev : UsbDevice}
    (h : (server.importDevice busid).2 = some dev) :
    dev ∈ server.availableDevices ∧ dev.busId ∈ (server.importDevice busid).1.usedDevices := by
  unfold importDevice at h ⊢
  split at h
  · rename_i dev' hfind
    cases h
    exact ⟨List.mem_of_find?_eq_some hfind, AList.mem_insert _ |>.mpr (.inl rfl)⟩
  · cases h

/-- The entry a lookup finds can be taken out in front of the erased map. -/
theorem entries_perm_erase {m : AList (fun _ : String => UsbDevice)} {k : String}
    {d : UsbDevice} (h : m.lookup k = some d) :
    m.entries.Perm (⟨k, d⟩ :: (m.erase k).entries) := by
  rw [← AList.insert_entries_of_neg (AList.lookup_eq_none.mp (AList.lookup_erase k m))]
  refine List.lookup_ext m.nodupKeys ((m.erase k).insert k d).nodupKeys fun x y => ?_
  change y ∈ m.lookup x ↔ y ∈ ((m.erase k).insert k d).lookup x
  by_cases hx : x = k
  · subst hx
    rw [h, AList.lookup_insert]
  · rw [AList.lookup_insert_ne hx, AList.lookup_erase_ne hx]

/-- The registry invariant: bus ids are distinct across both collections, and
every imported device sits under its own bus id. -/
structure WellFormed (server : UsbIpServer) : Prop where
  busIds_nodup : server.busIds.Nodup
  lookup_busId : ∀ {k d}, server.usedDevices.lookup k = some d → d.busId = k

section WellFormed

variable {server : UsbIpServer}

theorem not_mem_usedDevices_of_nodup (hids : server.busIds.Nodup) {dev : UsbDevice}
    (hdev : dev ∈ server.availableDevices) : dev.busId ∉ server.usedDevices := by
  have hdisj := (List.nodup_append.mp hids).2.2
  exact fun hused => hdisj (List.mem_map_of_mem _ hdev) (AList.mem_keys.mp hused)

theorem wellFormed_newSimulated {devices : List UsbDevice}
    (h : (devices.map (·.busId)).Nodup) : (newSimulated devices).WellFormed :=
  ⟨by simpa [busIds] using h, by simp [AList.lookup_empty]⟩

theorem WellFormed.addDevice (hw : server.WellFormed) {d : UsbDevice}
    (hfresh : d.busId ∉ server.busIds) : (server.addDevice d).WellFormed where
  busIds_nodup := by
    have hperm : (server.addDevice d).busIds.Perm (d.busId :: server.busIds) := by
      simp [busIds, List.perm_middle]
    exact hperm.nodup_iff.mpr (List.nodup_cons.mpr ⟨hfresh, hw.busIds_nodup⟩)
  lookup_busId := hw.lookup_busId

theorem WellFormed.removeDevice (hw : server.WellFormed) (busId : String) :
    (server.removeDevice busId).1.WellFormed := by
  cases hfind : server.availableDevices.find? (·.busId == busId) with
  | none => simp [removeDevice_of_find?_none hfind, hw]
  | some d =>
      rw [removeDevice_of_find?_some hfind]
      refine ⟨hw.busIds_nodup.sublist ?_, hw.lookup_busId⟩
      exact ((List.eraseP_sublist _).map _).append_right _

theorem WellFormed.importDevice (hw : server.WellFormed) (busid : Busid) :
    (server.importDevice busid).1.WellFormed := by
  cases hfind : server.availableDevices.find? (importMatches busid) with
  | none => simpa [importDevice_of_find?_none hfind] using hw
  | some dev =>
      rw [importDevice_of_find?_some hfind]
      have hfresh := not_mem_usedDevices_of_nodup hw.busIds_nodup (List.mem_of_find?_eq_some hfind)
      obtain ⟨l₁, l₂, hsplit, -, -, herase⟩ := find?_eq_some_split hfind
      refine ⟨?_, fun {k d} hk => ?_⟩
      · have hperm : ((l₁ ++ l₂).map (·.busId) ++ dev.busId :: server.usedDevices.keys).Perm
            server.busIds := by
          rw [busIds, hsplit]
          simpa using List.Perm.append_left _ List.perm_middle
        simpa [busIds, herase, AList.keys_insert,
          List.erase_of_not_mem (AList.mem_keys.not.mp hfresh)] using
          hperm.nodup_iff.mpr hw.busIds_nodup
      · by_cases hkd : k = dev.busId
        · subst hkd
          rw [AList.lookup_insert] at hk
          rw [← Option.some.inj hk]
        · exact hw.lookup_busId (by rwa [AList.lookup_insert_ne hkd] at hk)

theorem WellFormed.releaseDevice (hw : server.WellFormed) {server' : UsbIpServer}
    {devId : String} (h : server.releaseDevice devId = some server') : server'.WellFormed := by
  obtain ⟨dev, hdev, rfl⟩ := releaseDevice_eq_some h
  have hkey : devId ∈ server.usedDevices.keys :=
    AList.mem_keys.mp (AList.lookup_isSome.mp (by simp [hdev]))
  refine ⟨?_, fun {k d} hk => ?_⟩
  · have hperm : (server.availableDevices.map (·.busId) ++
        devId :: server.usedDevices.keys.erase devId).Perm server.busIds :=
      List.Perm.append_left _ (List.perm_cons_erase hkey).symm
    simpa [busIds, AList.keys_erase, hw.lookup_busId hdev] using
      hperm.nodup_iff.mpr hw.busIds_nodup
  · have hne : k ≠ devId := by
      rintro rfl
      simp [AList.lookup_erase] at hk
    exact hw.lookup_busId (by rwa [AList.lookup_erase_ne hne] at hk)

theorem devices_addDevice (d : UsbDevice) :
    (server.addDevice d).devices = d ::ₘ server.devices := by
  simp only [devices, usedValues, addDevice_availableDevices, addDevice_usedDevices,
    Multiset.cons_coe, Multiset.coe_eq_coe, List.append_assoc, List.singleton_append]
  exact List.perm_middle

/-- The device a successful `remove_device` drops, and nothing else, leaves
the registry. -/
theorem devices_removeDevice (busId : String) :
    (server.removeDevice busId).1.devices +
      ↑(server.availableDevices.find? (·.busId == busId)).toList = server.devices := by
  cases hfind : server.availableDevices.find? (·.busId == busId) with
  | none => simp [removeDevice_of_find?_none hfind]
  | some d =>
      obtain ⟨l₁, l₂, hsplit, -, -, herase⟩ := find?_eq_some_split hfind
      simp only [removeDevice_of_find?_some hfind, devices, usedValues, herase,
        Option.toList_some, Multiset.coe_add, Multiset.coe_eq_coe]
      rw [hsplit]
      refine (List.perm_append_singleton d _).trans ?_
      simpa only [List.append_assoc, List.cons_append] using List.perm_middle.symm

theorem WellFormed.devices_importDevice (hw : server.WellFormed) (busid : Busid) :
    (server.importDevice busid).1.devices = server.devices := by
  cases hfind : server.availableDevices.find? (importMatches busid) with
  | none => simp [importDevice_of_find?_none hfind]
  | some dev =>
      have hfresh := not_mem_usedDevices_of_nodup hw.busIds_nodup (List.mem_of_find?_eq_some hfind)
      obtain ⟨l₁, l₂, hsplit, -, -, herase⟩ := find?_eq_some_split hfind
      simp only [importDevice_of_find?_some hfind, devices, usedValues, herase,
        AList.insert_entries_of_neg hfresh, Multiset.coe_eq_coe, List.map_cons]
      rw [hsplit]
      simpa only [List.append_assoc, List.cons_append] using
        List.Perm.append_left l₁ List.perm_middle

theorem devices_releaseDevice {server' : UsbIpServer} {devId : String}
    (h : server.releaseDevice devId = some server') : server'.devices = server.devices := by
  obtain ⟨dev, hdev, rfl⟩ := releaseDevice_eq_some h
  simp only [devices, usedValues, Multiset.coe_eq_coe, List.append_assoc,
    List.singleton_append]
  exact List.Perm.append_left _ (by simpa using ((entries_perm_erase hdev).map Sigma.snd).symm)

/-- Every bus id of a well-formed registry is the id of one of its devices. -/
theorem WellFormed.exists_mem_devices (hw : server.WellFormed) {b : String}
    (hb : b ∈ server.busIds) : ∃ dev ∈ server.devices, dev.busId = b := by
  rcases List.mem_append.mp hb with hb | hb
  · obtain ⟨dev, hdev, rfl⟩ := List.mem_map.mp hb
    exact ⟨dev, Multiset.mem_coe.mpr (List.mem_append_left _ hdev), rfl⟩
  · obtain ⟨dev, hdev⟩ := Option.isSome_iff_exists.mp
      (AList.lookup_isSome.mpr (AList.mem_keys.mp hb))
    refine ⟨dev, Multiset.mem_coe.mpr (List.mem_append_right _ ?_), hw.lookup_busId hdev⟩
    exact List.mem_map.mpr ⟨⟨b, dev⟩, AList.mem_lookup_iff.mp hdev, rfl⟩

/-- The bus id of every device of a well-formed registry is one of its bus ids. -/
theorem WellFormed.busId_mem_busIds (hw : server.WellFormed) {dev : UsbDevice}
    (hdev : dev ∈ server.devices) : dev.busId ∈ server.busIds := by
  rcases List.mem_append.mp (Multiset.mem_coe.mp hdev) with hdev | hdev
  · exact List.mem_append_left _ (List.mem_map_of_mem _ hdev)
  · obtain ⟨⟨k, d⟩, hkd, rfl⟩ := List.mem_map.mp hdev
    rw [hw.lookup_busId (AList.mem_lookup_iff.mpr hkd)]
    exact List.mem_append_right _ (List.mem_map_of_mem Sigma.fst hkd)

theorem mem_busIds_of_mem_usedDevices {b : String} (hb : b ∈ server.usedDevices) :
    b ∈ server.busIds :=
  List.mem_append_right _ (AList.mem_keys.mpr hb)

/-- A successful `remove_device` takes its bus id out of a well-formed
registry: the device it drops was the only one with that id. -/
theorem WellFormed.not_mem_busIds_removeDevice (hw : server.WellFormed) {busId : String}
    (hok : (server.removeDevice busId).2 = .ok ()) :
    busId ∉ (server.removeDevice busId).1.busIds := by
  cases hfind : server.availableDevices.find? (·.busId == busId) with
  | none => simp [removeDevice_of_find?_none hfind, removeInUse_eq] at hok
  | some d =>
      obtain ⟨l₁, l₂, hsplit, hd, -, herase⟩ := find?_eq_some_split hfind
      have hperm : server.busIds.Perm (busId :: (server.removeDevice busId).1.busIds) := by
        rw [removeDevice_of_find?_some hfind, busIds, busIds]
        dsimp only
        rw [herase, hsplit]
        simp only [List.map_append, List.map_cons, List.append_assoc, List.cons_append,
          (beq_iff_eq.mp hd : d.busId = busId)]
        exact List.perm_middle
      exact (List.nodup_cons.mp (hperm.nodup_iff.mp hw.busIds_nodup)).1

end WellFormed

end UsbIpServer

end UsbIp
