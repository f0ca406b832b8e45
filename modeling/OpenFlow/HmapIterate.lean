import Mathlib
import OpenFlow.HmapRun

/-! The iteration of lib/hmap.h. -/
namespace OpenFlow.HashMap
open Linked Search World

variable {ι ν : Type}

section Next
variable {w : World ι ν} {s : Slot ι} {cs : Nat → List ν}

end Next

section WithHash
variable {w : World ι ν} {s : Slot ι} {cs : Nat → List ν} (h : UInt64)

end WithHash

section Safe
variable [DecidableEq ι] [DecidableEq ν] {i : ι}

end Safe

section Runs
variable [DecidableEq ι] [DecidableEq ν] {w : World ι ν} {c : ι → List ν}

end Runs

end OpenFlow.HashMap
