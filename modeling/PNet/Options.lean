import Mathlib.Algebra.Ring.Nat
import Mathlib.Tactic.Common

/-! # Build options

The sizes the stack is built with, at the values `CMakeLists.txt` gives them.
Definitions that depend on a size name the option, never the number.
-/

namespace PNet

def PNET_MAX_AR : ℕ := 2
def PNET_MAX_CR : ℕ := 2
def PNET_MAX_API : ℕ := 1
def PNET_MAX_SLOTS : ℕ := 5
def PNET_MAX_SUBSLOTS : ℕ := 3
def PNET_MAX_PHYSICAL_PORTS : ℕ := 1

/-- The build refuses more than 65534. -/
def PNET_MAX_DIAG_ITEMS : ℕ := 200

def PNET_MAX_DIAG_MANUF_DATA_SIZE : ℕ := 16
def PNET_MAX_LOG_BOOK_ENTRIES : ℕ := 16
def PNET_MAX_ALARMS : ℕ := 6
def PNET_MAX_ALARM_PAYLOAD_DATA_SIZE : ℕ := 28

/-- The build refuses more than `UINT16_MAX`. -/
def PNET_MAX_SESSION_BUFFER_SIZE : ℕ := 4500

def PF_MAX_UDP_PAYLOAD_SIZE : ℕ := 1440
def PF_FRAME_BUFFER_SIZE : ℕ := 1500

/-- Two for each AR, and a spare one. -/
def PF_MAX_SESSION : ℕ := 2 * PNET_MAX_AR + 1

/-- Two timers for each communication relation, two for each port, nine more. -/
def PF_MAX_TIMEOUTS : ℕ :=
  2 * PNET_MAX_AR * PNET_MAX_CR + 2 * PNET_MAX_PHYSICAL_PORTS + 9

end PNet
