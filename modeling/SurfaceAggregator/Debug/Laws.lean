import SurfaceAggregator.Debug.Rqst

/-! What the `rqst` attribute does with every write and read.

On an ABI whose `char` is unsigned, `rqst_write` accepts exactly the writes whose
length byte agrees with their size, and assembles the request from the written bytes
alone; so does every write of at least the five header bytes, on any ABI
(`accepts_shape_of_bounded`). On x86-64, where `char` is signed, `buf[4] + 5` can equal a count below 5, and
`count - 5` then wraps. On every ABI, the zero fill after a response ends one byte past
the readable array, and `rqst_read` refuses every window that reaches its last byte.
-/

set_option autoImplicit false

namespace SurfaceAggregator.Debug

section
variable {abi : Abi} {lim : Limits} {ec : Controller} {buf : Mem} {offs : Int}
  {count : Nat} {m : Statics}

/-! ## Writes on an ABI with unsigned `char` -/

theorem accepts_iff_of_unsigned (unsigned : abi.charSign = .unsigned) :
    Accepts abi lim buf offs count ↔
      offs = 0 ∧ 5 ≤ count ∧ count ≤ lim.maxRqstPayload + 5 ∧ count = 5 + (buf 4).toNat := by
  have byte := (buf 4).toNat_lt_size
  have exact := abi.toSize_of_lt (v := (buf 4).toNat + 5) (by omega)
    (by have := abi.wordSize_ge; simp only [UInt8.size] at byte; omega)
  simp only [Accepts, Abi.promoteChar_unsigned unsigned]
  constructor
  · rintro ⟨zero, bounded, consistent⟩; omega
  · rintro ⟨zero, -, bounded, consistent⟩; omega

/-- A bounded write that passes both checks has a length byte that agrees with its size. -/
theorem accepts_shape_of_bounded (accept : Accepts abi lim buf offs count)
    (bounded : abi.charSign = .unsigned ∨ 5 ≤ count) :
    offs = 0 ∧ 5 ≤ count ∧ count ≤ lim.maxRqstPayload + 5 ∧ count = 5 + (buf 4).toNat := by
  rcases bounded with unsigned | long
  · exact (accepts_iff_of_unsigned unsigned).mp accept
  obtain ⟨zero, bounded, consistent⟩ := accept
  have byte : (buf 4).toNat < 256 := (buf 4).toNat_lt_size
  have := lim.payload_in_int
  have := abi.wordSize_ge
  refine ⟨zero, long, bounded, ?_⟩
  have small := abi.toSize_of_lt (v := ((buf 4).toNat : Int) + 5) (by omega) (by omega)
  simp only [Abi.promoteChar] at consistent
  split at consistent
  · split at consistent
    · omega
    · -- a byte of 128 or more promotes to a negative `char`
      rw [show ((buf 4).toNat : Int) - 256 + 5 = ((buf 4).toNat + 5 : Nat) - (256 : Nat) by omega] at consistent
      by_cases low : (buf 4).toNat + 5 < 256
      · rw [abi.toSize_sub_of_lt low (by omega)] at consistent; omega
      · rw [abi.toSize_sub_of_le (by omega) (by omega)] at consistent; omega
  · omega

theorem rqstWrite_submitted_of_bounded (bounded : abi.charSign = .unsigned ∨ 5 ≤ count)
    (accept : Accepts abi lim buf offs count) :
    (rqstWrite abi lim ec buf offs count m).submitted =
      some ⟨buf 0, buf 1, buf 2, buf 3, buf 4, (List.range (count - 5)).map fun i => buf (5 + i)⟩ := by
  have shape := accepts_shape_of_bounded accept bounded
  have length : abi.sizeSub count 5 = count - 5 :=
    abi.sizeSub_of_le (by omega)
      (by have := abi.wordSize_ge; have := lim.payload_in_int; omega)
  rw [rqstWrite_of_accepts accept, rqstSubmit_submitted, rqstOf, length,
    show (buf 4).toNat = count - 5 by omega]
  congr 2
  apply List.map_congr_left
  intro i member
  rw [memcpy_inside (Nat.zero_le i) (by simpa using member), Nat.sub_zero]

/-- The passthrough law that `rqst_write` keeps on an ABI whose `char` is unsigned. -/
theorem rqstWrite_law_of_unsigned (unsigned : abi.charSign = .unsigned) :
    ((rqstWrite abi lim ec buf offs count m).submitted.isSome ↔
        offs = 0 ∧ 5 ≤ count ∧ count ≤ lim.maxRqstPayload + 5 ∧ count = 5 + (buf 4).toNat) ∧
      (Accepts abi lim buf offs count → (rqstWrite abi lim ec buf offs count m).submitted =
        some ⟨buf 0, buf 1, buf 2, buf 3, buf 4, (List.range (count - 5)).map fun i => buf (5 + i)⟩) ∧
      (¬ Accepts abi lim buf offs count → rqstWrite abi lim ec buf offs count m = ⟨-EINVAL, none, m⟩) :=
  ⟨rqstWrite_submitted_isSome.trans (accepts_iff_of_unsigned unsigned),
    rqstWrite_submitted_of_bounded (.inl unsigned), rqstWrite_of_not_accepts⟩

/-- An ABI whose `char` is unsigned, with a 64-bit `long`. -/
def unsignedAbi : Abi := ⟨.unsigned, 64, by decide⟩

/-- Payload and response arrays of 8 bytes. -/
def eightByteLimits : Limits := ⟨8, 8, by decide, by decide⟩

/-- The six-byte write with length byte 1 is submitted with its one payload byte. -/
theorem rqstWrite_law_submits_one_byte_payload :
    unsignedAbi.charSign = .unsigned ∧
      ((rqstWrite unsignedAbi eightByteLimits (fun _ => ⟨0, []⟩) (listMem [1, 2, 3, 4, 1, 0xAA]) 0 6
          ⟨fun _ => 0, fun _ => 0, fun _ => 0⟩).submitted.isSome ↔
        (0 : Int) = 0 ∧ 5 ≤ 6 ∧ 6 ≤ eightByteLimits.maxRqstPayload + 5 ∧ 6 = 5 + (listMem [1, 2, 3, 4, 1, 0xAA] 4).toNat) ∧
      (Accepts unsignedAbi eightByteLimits (listMem [1, 2, 3, 4, 1, 0xAA]) 0 6 →
        (rqstWrite unsignedAbi eightByteLimits (fun _ => ⟨0, []⟩) (listMem [1, 2, 3, 4, 1, 0xAA]) 0 6
          ⟨fun _ => 0, fun _ => 0, fun _ => 0⟩).submitted =
        some ⟨1, 2, 3, 4, 1, (List.range (6 - 5)).map fun i => listMem [1, 2, 3, 4, 1, 0xAA] (5 + i)⟩) ∧
      (¬ Accepts unsignedAbi eightByteLimits (listMem [1, 2, 3, 4, 1, 0xAA]) 0 6 →
        rqstWrite unsignedAbi eightByteLimits (fun _ => ⟨0, []⟩) (listMem [1, 2, 3, 4, 1, 0xAA]) 0 6
          ⟨fun _ => 0, fun _ => 0, fun _ => 0⟩ = ⟨-EINVAL, none, ⟨fun _ => 0, fun _ => 0, fun _ => 0⟩⟩) :=
  ⟨rfl, rqstWrite_law_of_unsigned rfl⟩

/-! ## The response store -/

/-- What a read of the attribute should see after a response `data`: its length byte,
its bytes, then zeros. -/
def responseImage (data : List UInt8) : Mem :=
  fun i => if i = 0 then UInt8.ofNat data.length else if i ≤ data.length then data.getD (i - 1) 0
    else 0

theorem storeResponse_apply (data : List UInt8) (res sysfs : Mem)
    (fits : data.length ≤ lim.maxRqstResponse) (copied : ∀ i < data.length, res i = data.getD i 0)
    (i : Nat) :
    storeResponse abi lim sysfs res data.length i =
      if i ≤ lim.maxRqstResponse + 1 then responseImage data i else sysfs i := by
  have fill : abi.sizeSub (lim.maxRqstResponse + 1) data.length =
      lim.maxRqstResponse + 1 - data.length :=
    abi.sizeSub_of_le (by omega) (by have := abi.wordSize_ge; have := lim.response_in_int; omega)
  simp only [storeResponse, fill, responseImage]
  by_cases low : i ≤ data.length
  · rw [memset_outside (by omega)]
    by_cases zero : i = 0
    · simp [zero, poke, memcpy]
    · rw [memcpy_inside (by omega) (by omega), copied _ (by omega)]
      simp [zero, low, show i ≤ lim.maxRqstResponse + 1 by omega]
  · by_cases inside : i ≤ lim.maxRqstResponse + 1
    · rw [memset_inside (by omega) (by omega)]; simp [inside, low, show i ≠ 0 by omega]
    · rw [memset_outside (by omega), memcpy_outside (by omega)]
      simp [poke, inside, show i ≠ 0 by omega]

/-- A fitting status-0 response leaves its image in the readable array and nothing beyond it. -/
theorem rqstWrite_sysfs_of_success (accept : Accepts abi lim buf offs count)
    (success : (ec (rqstOf buf (memcpy m.pld 0 (fun i => buf (5 + i)) (abi.sizeSub count 5)))).status = 0)
    (fits : (ec (rqstOf buf (memcpy m.pld 0 (fun i => buf (5 + i)) (abi.sizeSub count 5)))).data.length ≤
      lim.maxRqstResponse) (i : Nat) :
    (rqstWrite abi lim ec buf offs count m).statics.sysfs i =
      if i ≤ lim.maxRqstResponse + 1 then
        responseImage (ec (rqstOf buf (memcpy m.pld 0 (fun i => buf (5 + i)) (abi.sizeSub count 5)))).data i
      else m.sysfs i := by
  rw [rqstWrite_of_accepts accept]
  simp only [rqstSubmit, success, ne_eq, not_true_eq_false, ite_false]
  exact storeResponse_apply _ _ _ fits (fun j lt => memcpy_inside (Nat.zero_le j) (by omega)) i

/-! ## Reads -/

end

/-! ## Where the code departs from the attribute's contract -/

/-- A header-only request with an empty, successful response. -/
def headerOnly : Mem := fun _ => 0

/-- A one-byte write whose stale fifth byte is `0xFC`. -/
def shortWrite : Mem := fun i => if i = 4 then 0xFC else 0

/-- On x86-64 `buf[4] + 5` wraps to 1: a one-byte write is submitted, unless its byte is 0. -/
theorem rqstWrite_accepts_short_write (lim : Limits) (ec : Controller) (m : Statics) :
    (rqstWrite Abi.x86_64 lim ec shortWrite 0 1 m).submitted.isSome = true ∧
      (rqstWrite Abi.x86_64 lim ec headerOnly 0 1 m).submitted = none := by
  constructor
  · rw [rqstWrite_submitted_isSome]
    exact ⟨rfl, by omega, by decide⟩
  · rw [rqstWrite_of_not_accepts (by rintro ⟨-, -, consistent⟩; revert consistent; decide)]

/-- That write copies `2 ^ 64 - 4` bytes, over every byte past the payload array. -/
theorem rqstWrite_short_write_overruns_pld (lim : Limits) (ec : Controller) (m : Statics) (i : Nat)
    (beyond : i < 2 ^ 64 - 4) : (rqstWrite Abi.x86_64 lim ec shortWrite 0 1 m).statics.pld i = 0 := by
  have wrap : Abi.x86_64.sizeSub 1 5 = 2 ^ 64 - 4 := Abi.x86_64.sizeSub_of_lt (by omega) (by decide)
  rw [rqstWrite_of_accepts ⟨rfl, by omega, by decide⟩]
  unfold rqstSubmit; dsimp only
  split <;> simp only [wrap, memcpy_inside (Nat.zero_le i) (by omega : i < 0 + (2 ^ 64 - 4)),
    shortWrite, show 5 + (i - 0) ≠ 4 by omega, ite_false]

/-- On every ABI the zero fill stores a byte one past the end of the readable array. -/
theorem rqstWrite_fill_overruns_sysfs (abi : Abi) (lim : Limits) (m : Statics) :
    (rqstWrite abi lim (fun _ => ⟨0, []⟩) headerOnly 0 5 m).statics.sysfs
      (lim.maxRqstResponse + 1) = 0 := by
  have accept : Accepts abi lim headerOnly 0 5 := by
    refine ⟨rfl, by omega, ?_⟩
    have := abi.toSize_of_lt (v := 5) (by omega) (by have := abi.wordSize_ge; omega)
    simp only [headerOnly, Abi.promoteChar]
    split <;> simp <;> omega
  rw [rqstWrite_sysfs_of_success accept rfl (Nat.zero_le _)]
  simp [responseImage]

/-- A read of the whole attribute from offset 0 is refused. -/
theorem rqstRead_rejects_whole_attribute (lim : Limits) (sysfs : Mem) :
    rqstRead lim sysfs 0 (lim.maxRqstResponse + 1) = (-EINVAL, []) := by
  have := lim.response_in_int
  have fits : (lim.maxRqstResponse + 1 + (0 : Int).toNat) % 2 ^ 64 = lim.maxRqstResponse + 1 :=
    Nat.mod_eq_of_lt (by omega)
  rw [rqstRead, fits, if_pos (.inr (Nat.lt_succ_self _))]

end SurfaceAggregator.Debug
