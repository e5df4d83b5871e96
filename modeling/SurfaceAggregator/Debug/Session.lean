import SurfaceAggregator.Debug.Laws

/-! The `rqst` attribute over a session of writes.

Reads return the buffer that the last successful write stored: after any run of writes,
the readable bytes (indices `0` to `SURFACEGEN5_MAX_RQST_RESPONSE`) are the image of the
last response that the controller answered with status 0, as long as the controller keeps
to `result.cap`. The model keeps the three static arrays apart, which the source does only
while each payload copy stays inside the payload array; a session is therefore made of
writes that carry that bound (`Write`).
-/

set_option autoImplicit false

namespace SurfaceAggregator.Debug

/-- One `write(2)` to the attribute: the kernel's buffer, the offset and the size, on an
ABI with unsigned `char` or of at least the five header bytes. Such a write copies at most
its own payload bytes; a shorter one on signed `char` can copy `2 ^ 64 - 4` bytes over
every array (`rqstWrite_short_write_overruns_pld`). -/
structure Write (abi : Abi) where
  buf : Mem
  offs : Int
  count : Nat
  bounded : abi.charSign = .unsigned ∨ 5 ≤ count

/-- The request the bytes of a write spell: its five header bytes and the `count - 5`
bytes after them. -/
def Write.rqst {abi : Abi} (w : Write abi) : Rqst :=
  ⟨w.buf 0, w.buf 1, w.buf 2, w.buf 3, w.buf 4, (List.range (w.count - 5)).map fun i => w.buf (5 + i)⟩

/-- The static arrays as the module is loaded: all zero. -/
def Statics.zero : Statics := ⟨fun _ => 0, fun _ => 0, fun _ => 0⟩

section
variable (abi : Abi) (lim : Limits) (ec : Controller)

end

section
variable {abi : Abi} {lim : Limits} {ec : Controller}

/-- A write hands the controller the request its own bytes spell, or nothing. -/
theorem Write.submitted (w : Write abi) (m : Statics) :
    (rqstWrite abi lim ec w.buf w.offs w.count m).submitted =
      if Accepts abi lim w.buf w.offs w.count then some w.rqst else none := by
  split_ifs with accept
  · exact rqstWrite_submitted_of_bounded w.bounded accept
  · rw [rqstWrite_of_not_accepts accept]

end

end SurfaceAggregator.Debug
