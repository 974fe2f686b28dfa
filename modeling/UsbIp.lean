import UsbIp.Basic
import UsbIp.Registry
import UsbIp.Handler
import UsbIp.Sessions
import UsbIp.History
import UsbIp.Descriptor
import UsbIp.Locks
import UsbIp.Deadlock
import UsbIp.Linearizable
import UsbIp.Turn
import UsbIp.Refinement
import UsbIp.Host
