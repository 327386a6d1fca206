import DemandPaging.AnonPage.Basic
import DemandPaging.SwapArea.Error

/-!
Moving a page between its frame and the swap area, and the end of a page. A move that fails
leaves the page where it was.
-/
namespace DemandPaging.AnonPage

variable {δ : Type} [BlockDriver δ]

/-- Reads the page back into `frame`, which is allocated already, and frees its slot. -/
def pageIn (page : AnonPage) (store : PageStore δ) (frame : FrameNumber) :
    Except Halt (Except PagingError Unit × AnonPage × PageStore δ) :=
  match page.location with
  | .resident _ => .ok (.error .notSwappedOut, page, store)
  | .swappedOut slot => do
    let contents := (← store.pool.frame frame).contents
    let (result, data, swap) ← store.swap.loadPage slot contents.toList
    let pool ← store.pool.setContents frame (contents.overwrite 0 data)
    match result with
    | .error error => return (.error (.block error), page, { store with swap, pool })
    | .ok () =>
      let swap ← swap.release slot
      return (.ok (), { page with location := .resident frame }, { store with swap, pool })

/-- Writes the page to a fresh slot, clears its mapping and frees its frame. The mapping goes only
when the write is complete, and the frame only after that. -/
def pageOut (page : AnonPage) (store : PageStore δ) :
    Except Halt (Except PagingError SwapSlot × AnonPage × PageStore δ) :=
  match page.location with
  | .swappedOut _ => .ok (.error .notResident, page, store)
  | .resident frame => do
    let (slot, swap) ← store.swap.acquire
    let contents := (← store.pool.frame frame).contents
    match ← swap.storePage slot contents.toList with
    | (.error error, swap) =>
      let swap ← swap.release slot
      return (.error (.block error), page, { store with swap })
    | (.ok (), swap) =>
      let cleared := store.tables.setFlag .present page.key.owner page.key.base false
      let tables := cleared.setFlag .dirty page.key.owner page.key.base false
      let pool ← store.pool.free frame
      return (.ok slot, { page with location := .swappedOut slot }, { swap, pool, tables })

/-- Releases the frame or the slot of a page whose table entry is gone. -/
def destroy (page : AnonPage) (store : PageStore δ) : Except Halt (PageStore δ) :=
  match page.location with
  | .resident frame => do
    let pool ← store.pool.free frame
    return { store with pool }
  | .swappedOut slot => do
    let swap ← store.swap.release slot
    return { store with swap }

end DemandPaging.AnonPage
