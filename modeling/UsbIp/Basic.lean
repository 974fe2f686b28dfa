import Mathlib.Data.List.Basic

/-
The data the USB/IP server moves around: devices as the registry and the
command loop see them, the decoded commands a session reads, the replies it
writes, and the `std::io` errors of its socket and its registry.  Only the
fields that `handler`, `add_device` and `remove_device` read are kept; the
codec of `usbip_protocol` is not part of this development.
-/

namespace UsbIp

/-- The `std::io::ErrorKind`s the server inspects or produces.  A socket can
fail with any other kind; `handler` only compares with `unexpectedEof`. -/
inductive ErrorKind
  | notFound
  | other
  | unexpectedEof
  | invalidData
  | brokenPipe
deriving DecidableEq, Repr

/-- A `std::io::Error`: its kind and its message. -/
structure IoError where
  kind : ErrorKind
  message : String
deriving DecidableEq, Repr

/-- Results of `std::io` calls compare constructor and payload. -/
instance decEqExcept {ε α : Type} [DecidableEq ε] [DecidableEq α] : DecidableEq (Except ε α)
  | .ok a, .ok b => decidable_of_iff (a = b) ⟨congrArg _, Except.ok.inj⟩
  | .error a, .error b => decidable_of_iff (a = b) ⟨congrArg _, Except.error.inj⟩
  | .ok _, .error _ => isFalse nofun
  | .error _, .ok _ => isFalse nofun

/-- An endpoint record.  `find_ep` compares addresses only. -/
structure UsbEndpoint where
  address : UInt8
deriving DecidableEq, Repr

/-- An interface record: its endpoints in order. -/
structure UsbInterface where
  endpoints : List UsbEndpoint
deriving DecidableEq, Repr

/-- An exported device.  The registry keys devices by `busId`; a submitted URB
is routed through the two endpoint-0 records and the interfaces. -/
structure UsbDevice where
  busId : String
  ep0In : UsbEndpoint
  ep0Out : UsbEndpoint
  interfaces : List UsbInterface
deriving DecidableEq, Repr

/-- Modelled from the spec: `UsbDevice::find_ep` (its `device.rs` is not in
the source).  Endpoint 0 answers first; then the interfaces are walked in
order and the first endpoint with the address wins. -/
def UsbDevice.findEp (device : UsbDevice) (ep : UInt8) :
    Option (UsbEndpoint × Option UsbInterface) :=
  if ep = device.ep0In.address then some (device.ep0In, none)
  else if ep = device.ep0Out.address then some (device.ep0Out, none)
  else device.interfaces.findSome? fun intf =>
    (intf.endpoints.find? (·.address = ep)).map fun e => (e, some intf)

/-- The bytes of a Rust `String`, as `as_bytes` returns them. -/
def asBytes (s : String) : List UInt8 :=
  s.toUTF8.data.toList

/-- The 32-byte, NUL-padded `busid` field of `OP_REQ_IMPORT`. -/
structure Busid where
  bytes : List UInt8
  length_eq : bytes.length = 32
deriving DecidableEq

/-- `&busid[..busid.iter().position(|&x| x == 0).unwrap_or(busid.len())]`. -/
def Busid.compare (busid : Busid) : List UInt8 :=
  busid.bytes.take ((busid.bytes.findIdx? (· == 0)).getD busid.bytes.length)

/-- The 48-byte header every command-phase PDU begins with. -/
structure UsbIpHeaderBasic where
  command : UInt32
  seqnum : UInt32
  devid : UInt32
  direction : UInt32
  ep : UInt32
deriving DecidableEq, Repr

def USBIP_RET_SUBMIT : UInt32 := 3

def USBIP_RET_UNLINK : UInt32 := 4

/-- A decoded PDU, as `UsbIpCommand::read_from_socket` returns it.  The fields
`handler` ignores (`status`, and the URB payload it only hands to the device
handler) are left out. -/
inductive UsbIpCommand
  | opReqDevlist
  | opReqImport (busid : Busid)
  | usbipCmdSubmit (header : UsbIpHeaderBasic)
  | usbipCmdUnlink (header : UsbIpHeaderBasic)
deriving DecidableEq

/-- The replies `handler` builds, one constructor per `UsbIpResponse`
constructor function it calls, with the arguments it passes. -/
inductive UsbIpResponse
  | opRepDevlist (devices : List UsbDevice)
  | opRepImportSuccess (device : UsbDevice)
  | opRepImportFail
  | usbipRetSubmitSuccess (header : UsbIpHeaderBasic) (startFrame numberOfPackets : UInt32)
      (transferBuffer : List UInt8)
  | usbipRetSubmitFail (header : UsbIpHeaderBasic)
  | usbipRetUnlinkSuccess (header : UsbIpHeaderBasic)
deriving DecidableEq

theorem Busid.compare_eq_takeWhile (busid : Busid) :
    busid.compare = busid.bytes.takeWhile (· != 0) := by
  have hgetD : (busid.bytes.findIdx? (· == 0)).getD busid.bytes.length =
      busid.bytes.findIdx (· == 0) := by
    rw [List.findIdx?_eq_guard_findIdx_lt]
    have hle : busid.bytes.findIdx (· == 0) ≤ busid.bytes.length := List.findIdx_le_length _
    by_cases h : busid.bytes.findIdx (· == 0) < busid.bytes.length
    · simp [Option.guard, h]
    · simp only [Option.guard, h, ↓reduceIte, Option.getD_none]
      omega
  rw [Busid.compare, hgetD, List.takeWhile_eq_take_findIdx_not]
  simp [bne]

end UsbIp
