import SurfaceAggregator.CTypes

/-! The debug request attribute `rqst` of `surfacegen5_acpi_ssh_sysfs.c`.

A write hands one raw request to the controller and stores the response in a static
buffer that later reads return. Each static array is modelled as the memory that starts
at its base address, so a store past the declared size is a change at an index beyond
it. The controller `surfacegen5_ec_rqst` and the two size limits of
`surfacegen5_acpi_ssh.h` are not part of the sources and are parameters.
-/

set_option autoImplicit false

namespace SurfaceAggregator.Debug

/-- `SURFACEGEN5_MAX_RQST_PAYLOAD` and `SURFACEGEN5_MAX_RQST_RESPONSE`. The file uses
`SURFACEGEN5_MAX_RQST_PAYLOAD + 5` and `SURFACEGEN5_MAX_RQST_RESPONSE + 1` as `int`
constant expressions, which C requires to be in range. -/
structure Limits where
  maxRqstPayload : Nat
  maxRqstResponse : Nat
  payload_in_int : maxRqstPayload + 5 < 2 ^ 31
  response_in_int : maxRqstResponse + 1 < 2 ^ 31

/-- Memory seen from the base of an array: index `i` is the byte at offset `i`. -/
abbrev Mem := Nat → UInt8

/-- `memcpy(dst + off, src, n)`. -/
def memcpy (dst : Mem) (off : Nat) (src : Mem) (n : Nat) : Mem :=
  fun i => if off ≤ i ∧ i < off + n then src (i - off) else dst i

/-- `memset(dst + off, c, n)`. -/
def memset (dst : Mem) (off : Nat) (c : UInt8) (n : Nat) : Mem :=
  fun i => if off ≤ i ∧ i < off + n then c else dst i

/-- `dst[off] = c`. -/
def poke (dst : Mem) (off : Nat) (c : UInt8) : Mem :=
  fun i => if i = off then c else dst i

/-- The bytes of a list, as the memory a pointer to its first element sees. -/
def listMem (data : List UInt8) : Mem := fun i => data.getD i 0

theorem memcpy_outside {dst src : Mem} {off n i : Nat} (outside : i < off ∨ off + n ≤ i) :
    memcpy dst off src n i = dst i := by
  simp only [memcpy]; split_ifs <;> first | rfl | omega

theorem memcpy_inside {dst src : Mem} {off n i : Nat} (le : off ≤ i) (lt : i < off + n) :
    memcpy dst off src n i = src (i - off) := by
  simp [memcpy, le, lt]

theorem memset_outside {dst : Mem} {off n i : Nat} {c : UInt8} (outside : i < off ∨ off + n ≤ i) :
    memset dst off c n i = dst i := by
  simp only [memset]; split_ifs <;> first | rfl | omega

theorem memset_inside {dst : Mem} {off n i : Nat} {c : UInt8} (le : off ≤ i) (lt : i < off + n) :
    memset dst off c n i = c := by
  simp [memset, le, lt]

/-- The three static arrays of the file. -/
structure Statics where
  /-- `sg5_ssh_debug_rqst_buf_sysfs`, `SURFACEGEN5_MAX_RQST_RESPONSE + 1` bytes. -/
  sysfs : Mem
  /-- `sg5_ssh_debug_rqst_buf_pld`, `SURFACEGEN5_MAX_RQST_PAYLOAD` bytes. -/
  pld : Mem
  /-- `sg5_ssh_debug_rqst_buf_res`, `SURFACEGEN5_MAX_RQST_RESPONSE` bytes. -/
  res : Mem

/-- `struct surfacegen5_rqst`; `pld` holds the `cdl` bytes the controller reads through
the payload pointer. -/
structure Rqst where
  tc : UInt8
  iid : UInt8
  cid : UInt8
  snc : UInt8
  cdl : UInt8
  pld : List UInt8
  deriving DecidableEq, Repr

/-- What `surfacegen5_ec_rqst` reports: its status, and the bytes it stored through
`result.data` (their number is `result.len`). -/
structure Response where
  status : Int
  data : List UInt8
  deriving DecidableEq, Repr

abbrev Controller := Rqst → Response

/-- A call of `rqst_write`: its return value, the request it passed to the controller,
and the static arrays afterwards. -/
structure WriteOutcome where
  ret : Int
  submitted : Option Rqst
  statics : Statics

/-- The request `rqst_write` assembles from the header bytes and the payload array. -/
def rqstOf (buf : Mem) (pld : Mem) : Rqst :=
  ⟨buf 0, buf 1, buf 2, buf 3, buf 4, (List.range (buf 4).toNat).map pld⟩

/-- The response stored after a successful request: length byte, response bytes, and the
zero fill of `SURFACEGEN5_MAX_RQST_RESPONSE + 1 - result.len` bytes after them. -/
def storeResponse (abi : Abi) (lim : Limits) (sysfs res : Mem) (len : Nat) : Mem :=
  memset (memcpy (poke sysfs 0 (UInt8.ofNat len)) 1 res len) (len + 1) 0
    (abi.sizeSub (lim.maxRqstResponse + 1) len)

/-- The part of `rqst_write` after both length checks: copy the payload, run the
request, and on success store the response for later reads. -/
def rqstSubmit (abi : Abi) (lim : Limits) (ec : Controller) (buf : Mem) (count : Nat)
    (m : Statics) : WriteOutcome :=
  let pld := memcpy m.pld 0 (fun i => buf (5 + i)) (abi.sizeSub count 5)
  let rqst := rqstOf buf pld
  let response := ec rqst
  let res := memcpy m.res 0 (listMem response.data) response.data.length
  if response.status ≠ 0 then ⟨response.status, some rqst, ⟨m.sysfs, pld, res⟩⟩
  else ⟨count, some rqst, ⟨storeResponse abi lim m.sysfs res response.data.length, pld, res⟩⟩

def rqstWrite (abi : Abi) (lim : Limits) (ec : Controller) (buf : Mem) (offs : Int)
    (count : Nat) (m : Statics) : WriteOutcome :=
  if offs ≠ 0 ∨ lim.maxRqstPayload + 5 < count then ⟨-EINVAL, none, m⟩
  else if abi.toSize (abi.promoteChar (buf 4) + 5) ≠ count then ⟨-EINVAL, none, m⟩
  else rqstSubmit abi lim ec buf count m

/-- `rqst_read`; `count + offs` is computed in 64 bits, after `offs < 0` was excluded. -/
def rqstRead (lim : Limits) (sysfs : Mem) (offs : Int) (count : Nat) : Int × List UInt8 :=
  if offs < 0 ∨ lim.maxRqstResponse < (count + offs.toNat) % 2 ^ 64 then (-EINVAL, [])
  else (count, (List.range count).map fun i => sysfs (offs.toNat + i))

/-! ## The shape of a call -/

section
variable {abi : Abi} {lim : Limits} {ec : Controller} {buf : Mem} {offs : Int} {count : Nat}
  {m : Statics}

/-- Both length checks of `rqst_write` passed. -/
def Accepts (abi : Abi) (lim : Limits) (buf : Mem) (offs : Int) (count : Nat) : Prop :=
  offs = 0 ∧ count ≤ lim.maxRqstPayload + 5 ∧ abi.toSize (abi.promoteChar (buf 4) + 5) = count

instance (abi : Abi) (lim : Limits) (buf : Mem) (offs : Int) (count : Nat) :
    Decidable (Accepts abi lim buf offs count) := by
  unfold Accepts; infer_instance

theorem rqstWrite_of_not_accepts (reject : ¬ Accepts abi lim buf offs count) :
    rqstWrite abi lim ec buf offs count m = ⟨-EINVAL, none, m⟩ := by
  unfold Accepts at reject
  unfold rqstWrite
  split_ifs <;> first | rfl | omega

theorem rqstWrite_of_accepts (accept : Accepts abi lim buf offs count) :
    rqstWrite abi lim ec buf offs count m = rqstSubmit abi lim ec buf count m := by
  obtain ⟨zero, bounded, consistent⟩ := accept
  simp [rqstWrite, zero, consistent, Nat.not_lt.mpr bounded]

theorem rqstSubmit_submitted : (rqstSubmit abi lim ec buf count m).submitted =
    some (rqstOf buf (memcpy m.pld 0 (fun i => buf (5 + i)) (abi.sizeSub count 5))) := by
  unfold rqstSubmit; dsimp only; split <;> rfl

theorem rqstWrite_submitted_isSome :
    (rqstWrite abi lim ec buf offs count m).submitted.isSome ↔ Accepts abi lim buf offs count := by
  by_cases accept : Accepts abi lim buf offs count
  · simp [rqstWrite_of_accepts accept, rqstSubmit_submitted, accept]
  · simp [rqstWrite_of_not_accepts accept, accept]

/-- Whatever the outcome, the readable array changes only on a status-0 response. -/
theorem rqstWrite_sysfs_of_failure :
    (rqstWrite abi lim ec buf offs count m).statics.sysfs = m.sysfs ∨
      ∃ rqst, (rqstWrite abi lim ec buf offs count m).submitted = some rqst ∧
        (ec rqst).status = 0 ∧ (rqstWrite abi lim ec buf offs count m).ret = count := by
  by_cases accept : Accepts abi lim buf offs count
  · rw [rqstWrite_of_accepts accept]
    unfold rqstSubmit; dsimp only
    split_ifs with failed
    · exact .inl rfl
    · exact .inr ⟨_, rfl, by simpa using failed, rfl⟩
  · exact .inl (by rw [rqstWrite_of_not_accepts accept])

end

end SurfaceAggregator.Debug
