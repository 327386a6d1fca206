import DemandPaging.BootOptions.Basic
import DemandPaging.VirtualMemory.Basic

/-!
Setting up the virtual memory at boot: the swap device is claimed from the registry, and the
pool and the algorithms are as the options say.
-/
namespace DemandPaging

/-- What a boot leaves behind and what it announces. -/
structure Boot (δ : Type) where
  result : Except MemoryError (VirtualMemory δ StandardPlacement StandardReplacement)
  registry : DeviceRegistry δ
  transcript : Transcript

namespace VirtualMemory

variable {δ : Type}

def boot (options : BootOptions) (registry : DeviceRegistry δ) : Except Halt (Boot δ) := do
  match SwapArea.claim? registry options.swapDevice with
  | none =>
    return { result := .error .noSwapDevice, registry,
             transcript := .errorLine "VM: no swap device found" }
  | some (swap, registry) =>
    let notice := "VM: " ++ toString options.userFrames ++ " user frames, " ++
      options.placement.label ++ " placement, " ++ options.replacement.label ++ " eviction"
    let pool ← FramePool.new options.userFrames
    let vm := new swap pool (StandardPlacement.ofName options.placement)
      (StandardReplacement.ofName options.replacement) options.stackLimit
    return { result := .ok vm, registry, transcript := swap.notice ++ .line notice }

end VirtualMemory

end DemandPaging
