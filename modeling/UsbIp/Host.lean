import Mathlib.Data.Nat.Digits
import UsbIp.Registry

/-
The host back ends of `rusb_impl.rs` and `nusb_impl.rs`: the constructors that
turn the USB devices of the host into exported devices.  Both walk the host's
devices in order, skip a device whose descriptors cannot be read, panic at an
`unwrap` on some others, and name every device they keep by its position on the
host, `format!("{}-{}-{}", bus, address, port)`.  The name reads back to the
position, so distinct host devices get distinct bus ids, and the registry that
`new_from_host` builds meets the precondition of single ownership.
-/

namespace UsbIp

/-- The `bus_id` both back ends write, `format!("{}-{}-{}", bus, address, port)`. -/
def hostBusId (bus address port : UInt8) : String :=
  toString bus ++ "-" ++ toString address ++ "-" ++ toString port

/-- One more decimal digit. -/
def decimalStep (n : Nat) (c : Char) : Nat :=
  10 * n + (c.toNat - '0'.toNat)

/-- The number a string of decimal digits spells. -/
def ofDecimal (digits : List Char) : Nat :=
  digits.foldl decimalStep 0

/-- A bus id read back: the numbers between its dashes. -/
def parseHostBusId (busId : String) : List Nat :=
  (busId.data.splitOn '-').map ofDecimal

theorem digitChar_of_lt_ten : ∀ k < 10, (Nat.digitChar k).toNat - '0'.toNat = k ∧
    Nat.digitChar k ≠ '-' := by
  decide

/-- `Nat.toDigitsCore` pushes the digits of `n` in front of `ds`, most
significant first, when the fuel exceeds `n`. -/
theorem foldl_toDigitsCore : ∀ (fuel n : Nat) (ds : List Char), n < fuel →
    (Nat.toDigitsCore 10 fuel n ds).foldl decimalStep 0 = ds.foldl decimalStep n
  | 0, _, _, h => absurd h (Nat.not_lt_zero _)
  | fuel + 1, n, ds, h => by
      have hstep : decimalStep (n / 10) (Nat.digitChar (n % 10)) = n := by
        rw [decimalStep, (digitChar_of_lt_ten (n % 10) (Nat.mod_lt _ (by decide))).1]
        omega
      simp only [Nat.toDigitsCore]
      split_ifs with h0
      · rw [List.foldl_cons, ← h0, hstep]
      · rw [foldl_toDigitsCore fuel (n / 10) _ (by omega), List.foldl_cons, hstep]

theorem dash_not_mem_toDigitsCore : ∀ (fuel n : Nat) {ds : List Char}, '-' ∉ ds →
    '-' ∉ Nat.toDigitsCore 10 fuel n ds
  | 0, _, _, h => h
  | fuel + 1, n, ds, h => by
      have hd : '-' ∉ Nat.digitChar (n % 10) :: ds := by
        simp only [List.mem_cons, not_or]
        exact ⟨(digitChar_of_lt_ten _ (Nat.mod_lt _ (by decide))).2.symm, h⟩
      simp only [Nat.toDigitsCore]
      split_ifs
      · exact hd
      · exact dash_not_mem_toDigitsCore fuel _ hd

theorem ofDecimal_toDigits (n : Nat) : ofDecimal (Nat.toDigits 10 n) = n :=
  foldl_toDigitsCore (n + 1) n [] (Nat.lt_succ_self n)

theorem dash_not_mem_toDigits (n : Nat) : '-' ∉ Nat.toDigits 10 n :=
  dash_not_mem_toDigitsCore (n + 1) n (List.not_mem_nil _)

theorem hostBusId_data (bus address port : UInt8) : (hostBusId bus address port).data =
    ['-'].intercalate [Nat.toDigits 10 bus.toNat, Nat.toDigits 10 address.toNat,
      Nat.toDigits 10 port.toNat] := by
  simp [hostBusId, List.intercalate, toString, Nat.repr, List.asString]

/-- A bus id of the host back ends reads back to the bus, the address and the
port it was made of. -/
theorem parseHostBusId_hostBusId (bus address port : UInt8) :
    parseHostBusId (hostBusId bus address port) = [bus.toNat, address.toNat, port.toNat] := by
  rw [parseHostBusId, hostBusId_data,
    List.splitOn_intercalate _ '-' (by simp [dash_not_mem_toDigits]) (by simp)]
  simp [ofDecimal_toDigits]

example : hostBusId 1 12 3 = "1-12-3" := by decide

theorem hostBusId_injective {bus address port bus' address' port' : UInt8}
    (h : hostBusId bus address port = hostBusId bus' address' port') :
    bus = bus' ∧ address = address' ∧ port = port' := by
  have hparse := congrArg parseHostBusId h
  simp only [parseHostBusId_hostBusId, List.cons.injEq, and_true] at hparse
  exact ⟨UInt8.toNat.inj hparse.1, UInt8.toNat.inj hparse.2.1, UInt8.toNat.inj hparse.2.2⟩

/-- The loop both back ends run over the host's devices: `build` is what its
body does with one device, skip it (`some none`), keep a device
(`some (some d)`), or panic at an `unwrap` (`none`). -/
def hostDevices {α : Type} (build : α → Option (Option UsbDevice)) :
    List α → Option (List UsbDevice)
  | [] => some []
  | x :: rest => do
      let kept ← build x
      let devices ← hostDevices build rest
      pure (kept.toList ++ devices)

section HostDevices

variable {α : Type} {build : α → Option (Option UsbDevice)}

theorem hostDevices_isSome_iff (l : List α) :
    (hostDevices build l).isSome ↔ ∀ x ∈ l, (build x).isSome := by
  induction l with
  | nil => simp [hostDevices]
  | cons x rest ih =>
      rw [List.forall_mem_cons, ← ih]
      cases hx : build x <;> cases hrest : hostDevices build rest <;> simp [hostDevices, hx, hrest]

theorem hostDevices_eq_some {l : List α} {devices : List UsbDevice}
    (h : hostDevices build l = some devices) : devices = l.filterMap fun x => (build x).join := by
  induction l generalizing devices with
  | nil => cases h; rfl
  | cons x rest ih =>
      cases hx : build x with
      | none => simp [hostDevices, hx] at h
      | some kept =>
          cases hrest : hostDevices build rest with
          | none => simp [hostDevices, hx, hrest] at h
          | some devices' =>
              simp only [hostDevices, hx, hrest] at h
              cases h
              cases kept <;> simp [hx, ih hrest]

theorem hostDevices_busIds_sublist {name : α → String}
    (hname : ∀ x d, build x = some (some d) → d.busId = name x) {l : List α}
    {devices : List UsbDevice} (h : hostDevices build l = some devices) :
    List.Sublist (devices.map (·.busId)) (l.map name) := by
  rw [hostDevices_eq_some h]
  clear h
  induction l with
  | nil => exact List.Sublist.slnil
  | cons x rest ih =>
      cases hx : (build x).join with
      | none =>
          simp only [List.filterMap_cons, hx, List.map_cons]
          exact ih.cons _
      | some d =>
          simp only [List.filterMap_cons, hx, List.map_cons, hname x d (Option.join_eq_some.mp hx)]
          exact ih.cons₂ _

end HostDevices

/-- An interface of the active configuration as `rusb` reports it: the
endpoint addresses of each alternate setting, in order. -/
structure RusbInterface where
  altSettings : List (List UInt8)

/-- A device of the host as `rusb` reports it: its position, whether
`open()` succeeds, and the two descriptors, each `none` when it cannot be
read.  The device descriptor carries the reads of the manufacturer, product
and serial strings it has an index for. -/
structure RusbDevice where
  busNumber : UInt8
  address : UInt8
  portNumber : UInt8
  opens : Bool
  deviceDescriptor : Option (List (Option String))
  activeConfigDescriptor : Option (List RusbInterface)

/-- The interface `with_rusb_device_handles` builds: the endpoints of the first
alternate setting; `none` is the panic of `descriptors().next().unwrap()`. -/
def RusbInterface.toUsbInterface? (intf : RusbInterface) : Option UsbInterface :=
  intf.altSettings.head?.map fun addresses => ⟨addresses.map UsbEndpoint.mk⟩

/-- The body of the loop of `with_rusb_device_handles` for one device: skip it
when a descriptor cannot be read; panic on an interface without an alternate
setting or on a string descriptor that cannot be read. -/
def RusbDevice.toUsbDevice? (dev : RusbDevice) : Option (Option UsbDevice) :=
  match dev.deviceDescriptor, dev.activeConfigDescriptor with
  | some strings, some cfg => do
      let interfaces ← cfg.mapM RusbInterface.toUsbInterface?
      if strings.all Option.isSome then
        pure (some ⟨hostBusId dev.busNumber dev.address dev.portNumber, ⟨0x80⟩, ⟨0x00⟩,
          interfaces⟩)
      else none
  | _, _ => some none

/-- `UsbIpServer::with_rusb_device_handles`. -/
def withRusbDeviceHandles (devices : List RusbDevice) : Option (List UsbDevice) :=
  hostDevices RusbDevice.toUsbDevice? devices

/-- An interface of the active configuration as `nusb` reports it: whether
`claim_interface` succeeds, and the endpoint addresses of each alternate
setting. -/
structure NusbInterface where
  claims : Bool
  altSettings : List (List UInt8)

/-- A device of the host as `nusb` reports it: its position, whether
`open()` succeeds, its speed if known, and its active configuration, `none`
when it cannot be read. -/
structure NusbDeviceInfo where
  busNumber : UInt8
  deviceAddress : UInt8
  speed : Option Nat
  opens : Bool
  activeConfiguration : Option (List NusbInterface)

/-- The interface `with_nusb_devices` builds; `none` is the panic of
`claim_interface(..).unwrap()` or of `descriptors().next().unwrap()`. -/
def NusbInterface.toUsbInterface? (intf : NusbInterface) : Option UsbInterface :=
  if intf.claims then intf.altSettings.head?.map fun addresses => ⟨addresses.map UsbEndpoint.mk⟩
  else none

/-- The body of the loop of `with_nusb_devices` for one device: skip it when it
cannot be opened or its configuration cannot be read; panic on an interface
it cannot claim or without an alternate setting, or on an unknown speed. -/
def NusbDeviceInfo.toUsbDevice? (info : NusbDeviceInfo) : Option (Option UsbDevice) :=
  if info.opens then
    match info.activeConfiguration with
    | some cfg => do
        let interfaces ← cfg.mapM NusbInterface.toUsbInterface?
        let _ ← info.speed
        pure (some ⟨hostBusId info.busNumber info.deviceAddress 0, ⟨0x80⟩, ⟨0x00⟩, interfaces⟩)
    | none => some none
  else some none

/-- `UsbIpServer::with_nusb_devices`. -/
def withNusbDevices (infos : List NusbDeviceInfo) : Option (List UsbDevice) :=
  hostDevices NusbDeviceInfo.toUsbDevice? infos

theorem mapM_isSome_iff {β γ : Type} (f : β → Option γ) (l : List β) :
    (l.mapM f).isSome ↔ ∀ x ∈ l, (f x).isSome := by
  induction l with
  | nil => exact ⟨fun _ _ h => absurd h (List.not_mem_nil _), fun _ => rfl⟩
  | cons x rest ih =>
      rw [List.mapM_cons, List.forall_mem_cons, ← ih]
      cases hx : f x <;> cases hrest : rest.mapM f <;> simp [hx, hrest]

theorem head?_map_isSome {β : Type} (f : List UInt8 → β) (settings : List (List UInt8)) :
    (settings.head?.map f).isSome ↔ settings ≠ [] := by
  cases settings <;> simp

theorem RusbInterface.toUsbInterface?_isSome_iff (intf : RusbInterface) :
    intf.toUsbInterface?.isSome ↔ intf.altSettings ≠ [] :=
  head?_map_isSome _ _

theorem NusbInterface.toUsbInterface?_isSome_iff (intf : NusbInterface) :
    intf.toUsbInterface?.isSome ↔ intf.claims = true ∧ intf.altSettings ≠ [] := by
  unfold NusbInterface.toUsbInterface?
  cases intf.claims <;> simp [head?_map_isSome]

section Rusb

theorem RusbDevice.toUsbDevice?_isSome_iff (dev : RusbDevice) :
    dev.toUsbDevice?.isSome ↔ ∀ strings cfg, dev.deviceDescriptor = some strings →
      dev.activeConfigDescriptor = some cfg →
      (∀ intf ∈ cfg, intf.altSettings ≠ []) ∧ ∀ s ∈ strings, s.isSome := by
  unfold RusbDevice.toUsbDevice?
  cases dev.deviceDescriptor with
  | none => simp
  | some strings =>
      cases dev.activeConfigDescriptor with
      | none => simp
      | some cfg =>
          have hcfg := mapM_isSome_iff RusbInterface.toUsbInterface? cfg
          simp only [RusbInterface.toUsbInterface?_isSome_iff] at hcfg
          cases hm : cfg.mapM RusbInterface.toUsbInterface? <;>
            simp_all [List.all_eq_true]

theorem RusbDevice.busId_of_toUsbDevice? {dev : RusbDevice} {d : UsbDevice}
    (h : dev.toUsbDevice? = some (some d)) :
    d.busId = hostBusId dev.busNumber dev.address dev.portNumber := by
  unfold RusbDevice.toUsbDevice? at h
  split at h
  · obtain ⟨_, -, h⟩ := Option.bind_eq_some.mp h
    split at h <;> cases h
    rfl
  · cases h

theorem withRusbDeviceHandles_isSome_iff (devices : List RusbDevice) :
    (withRusbDeviceHandles devices).isSome ↔ ∀ dev ∈ devices, ∀ strings cfg,
      dev.deviceDescriptor = some strings → dev.activeConfigDescriptor = some cfg →
      (∀ intf ∈ cfg, intf.altSettings ≠ []) ∧ ∀ s ∈ strings, s.isSome := by
  simp only [withRusbDeviceHandles, hostDevices_isSome_iff, RusbDevice.toUsbDevice?_isSome_iff]

example : withRusbDeviceHandles [⟨1, 2, 1, true, some [], some [⟨[]⟩]⟩] = none := rfl

end Rusb

section Nusb

theorem NusbDeviceInfo.toUsbDevice?_isSome_iff (info : NusbDeviceInfo) :
    info.toUsbDevice?.isSome ↔ info.opens = true → ∀ cfg, info.activeConfiguration = some cfg →
      (∀ intf ∈ cfg, intf.claims = true ∧ intf.altSettings ≠ []) ∧ info.speed.isSome := by
  unfold NusbDeviceInfo.toUsbDevice?
  cases info.opens with
  | false => simp
  | true =>
      cases info.activeConfiguration with
      | none => simp
      | some cfg =>
          have hcfg := mapM_isSome_iff NusbInterface.toUsbInterface? cfg
          simp only [NusbInterface.toUsbInterface?_isSome_iff] at hcfg
          cases hm : cfg.mapM NusbInterface.toUsbInterface? <;> cases info.speed <;> simp_all

theorem NusbDeviceInfo.busId_of_toUsbDevice? {info : NusbDeviceInfo} {d : UsbDevice}
    (h : info.toUsbDevice? = some (some d)) :
    d.busId = hostBusId info.busNumber info.deviceAddress 0 := by
  unfold NusbDeviceInfo.toUsbDevice? at h
  split at h
  · split at h
    · obtain ⟨_, -, h⟩ := Option.bind_eq_some.mp h
      obtain ⟨_, -, h⟩ := Option.bind_eq_some.mp h
      cases h
      rfl
    · cases h
  · cases h

theorem withNusbDevices_isSome_iff (infos : List NusbDeviceInfo) :
    (withNusbDevices infos).isSome ↔ ∀ info ∈ infos, info.opens = true →
      ∀ cfg, info.activeConfiguration = some cfg →
      (∀ intf ∈ cfg, intf.claims = true ∧ intf.altSettings ≠ []) ∧ info.speed.isSome := by
  simp only [withNusbDevices, hostDevices_isSome_iff, NusbDeviceInfo.toUsbDevice?_isSome_iff]

/-- The devices `with_nusb_devices` returns have pairwise distinct bus ids when
the host's devices have distinct bus numbers and addresses: `nusb` names every
device with port 0. -/
theorem withNusbDevices_distinct {infos : List NusbDeviceInfo} {devices : List UsbDevice}
    (hinfos : (infos.map fun info => (info.busNumber, info.deviceAddress)).Nodup)
    (h : withNusbDevices infos = some devices) : (devices.map (·.busId)).Nodup := by
  have hinj : Function.Injective fun q : UInt8 × UInt8 => hostBusId q.1 q.2 0 :=
    fun ⟨_, _⟩ ⟨_, _⟩ h => by
      obtain ⟨rfl, rfl, -⟩ := hostBusId_injective h
      rfl
  have hnames := hinfos.map hinj
  rw [List.map_map] at hnames
  exact hnames.sublist
    (hostDevices_busIds_sublist (fun _ _ => NusbDeviceInfo.busId_of_toUsbDevice?) h)

/-- A host with a high-speed device `nusb` shares and one it cannot open. -/
def twoNusbDevices : List NusbDeviceInfo :=
  [⟨1, 2, some 480, true, some [⟨true, [[0x81]]⟩]⟩, ⟨1, 3, none, false, none⟩]

theorem withNusbDevices_distinct_twoNusbDevices :
    ∃ devices, withNusbDevices twoNusbDevices = some devices ∧ (devices.map (·.busId)).Nodup :=
  ⟨_, rfl, @withNusbDevices_distinct twoNusbDevices _ (by decide) rfl⟩

end Nusb

end UsbIp
