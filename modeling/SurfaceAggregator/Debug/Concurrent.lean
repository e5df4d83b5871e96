import SurfaceAggregator.Debug.Session

/-! Concurrent writes to the `rqst` attribute.

sysfs serialises the calls made through one open file, but not those made through
different ones, and `rqst_write` keeps the payload and the response in static arrays
without a lock. Here a write is three atomic steps: the checks and the copy of the
payload into `sg5_ssh_debug_rqst_buf_pld`; the request, which reads the payload through
`rqst.pld` and has the controller store its response in `sg5_ssh_debug_rqst_buf_res`;
and the copy of the response into the readable array. Run with no other write in
between, the steps are `rqst_write` (`Attr.run_turnsOf`). Interleaved, a request can carry
another write's payload and a read can return a response the controller never sent, but no
byte comes from anywhere but the writes and the responses (`Attr.run_provenance`).
-/

set_option autoImplicit false

namespace SurfaceAggregator.Debug

/-- Where a write stands: not started, payload copied, answered by the controller, or
returned. -/
inductive WritePc
  | start
  | copied
  | answered (status : Int) (len : Nat)
  | done (ret : Int)
  deriving DecidableEq, Repr

/-- One `write(2)` in flight. -/
structure Writer where
  buf : Mem
  offs : Int
  count : Nat
  pc : WritePc

section
variable (abi : Abi) (lim : Limits) (ec : Controller)

/-- The next step of a write on the static arrays, with the request it hands to the
controller, if any; `none` once it has returned. -/
def Writer.step (w : Writer) (m : Statics) : Option (Writer × Statics × Option Rqst) :=
  match w.pc with
  | .start =>
    if Accepts abi lim w.buf w.offs w.count then
      some ({ w with pc := .copied },
        { m with pld := memcpy m.pld 0 (fun i => w.buf (5 + i)) (abi.sizeSub w.count 5) }, none)
    else some ({ w with pc := .done (-EINVAL) }, m, none)
  | .copied =>
    let rqst := rqstOf w.buf m.pld
    let response := ec rqst
    some ({ w with pc := .answered response.status response.data.length },
      { m with res := memcpy m.res 0 (listMem response.data) response.data.length }, some rqst)
  | .answered status len =>
    if status ≠ 0 then some ({ w with pc := .done status }, m, none)
    else some ({ w with pc := .done w.count }, { m with sysfs := storeResponse abi lim m.sysfs m.res len }, none)
  | .done _ => none

/-- The attribute with the writes in flight, and the requests sent so far. -/
structure Attr where
  writers : List Writer
  statics : Statics
  sent : List Rqst

/-- Write `i` takes its next step. -/
def Attr.step (a : Attr) (i : Nat) : Option Attr :=
  match a.writers[i]? with
  | none => none
  | some w => (w.step abi lim ec a.statics).map fun (w', m, rqst) =>
      ⟨a.writers.set i w', m, a.sent ++ rqst.toList⟩

def Attr.run : Attr → List Nat → Option Attr
  | a, [] => some a
  | a, i :: turns => (a.step abi lim ec i).bind fun a' => a'.run turns

end

/-- A write that has not started. -/
def Write.fresh {abi : Abi} (w : Write abi) : Writer := ⟨w.buf, w.offs, w.count, .start⟩

section
variable {abi : Abi} {lim : Limits} {ec : Controller}

/-- A write of the request `tc = 1, iid = 1, cid = 1, snc = 1` with the payload `AA AA`,
and one with command ID 2 and the payload `BB`. -/
def twoWrites : List (Write Abi.x86_64) :=
  [⟨listMem [1, 1, 1, 1, 2, 0xAA, 0xAA], 0, 7, .inr (by decide)⟩, ⟨listMem [1, 1, 2, 1, 1, 0xBB], 0, 6, .inr (by decide)⟩]

end

/-! ## What every interleaving keeps -/

/-- A payload array each of whose bytes is zero, as the module loads it, or the byte at the
same offset of the payload that one of the writes `ws` provides. -/
def PayloadOf {abi : Abi} (ws : List (Write abi)) (pld : Mem) : Prop :=
  ∀ i, pld i = 0 ∨ ∃ w ∈ ws, 5 + i < w.count ∧ pld i = w.buf (5 + i)

/-- A byte that is zero or the byte at offset `i` of the controller's response to one of
the requests `sent`. -/
def ResponseByte (ec : Controller) (sent : List Rqst) (i : Nat) (b : UInt8) : Prop :=
  b = 0 ∨ ∃ rqst ∈ sent, b = (ec rqst).data.getD i 0

/-- Where the data of the attribute comes from in a run of the writes `ws`: each request
carries the header of one write, whose length byte agrees with its size, and a payload
array of the writes; the response array and the readable bytes hold response bytes at
their own offsets, and the readable length byte is a response's length. -/
structure Provenance {abi : Abi} (ec : Controller) (ws : List (Write abi)) (a : Attr) : Prop where
  writers : ∀ w ∈ a.writers, ∃ w₀ ∈ ws, w.buf = w₀.buf ∧ w.count = w₀.count ∧
    (w.pc = .copied → w.count = 5 + (w.buf 4).toNat)
  answered : ∀ w ∈ a.writers, ∀ status len, w.pc = .answered status len →
    ∃ rqst ∈ a.sent, len = (ec rqst).data.length
  sent : ∀ rqst ∈ a.sent, ∃ w ∈ ws, w.count = 5 + (w.buf 4).toNat ∧ ∃ pld, PayloadOf ws pld ∧ rqst = rqstOf w.buf pld
  pld : PayloadOf ws a.statics.pld
  res : ∀ i, ResponseByte ec a.sent i (a.statics.res i)
  length : a.statics.sysfs 0 = 0 ∨ ∃ rqst ∈ a.sent, a.statics.sysfs 0 = UInt8.ofNat (ec rqst).data.length
  shown : ∀ i, ResponseByte ec a.sent i (a.statics.sysfs (i + 1))

section
variable {abi : Abi} {lim : Limits} {ec : Controller} {ws : List (Write abi)}

theorem ResponseByte.mono {sent sent' : List Rqst} (sub : ∀ rqst ∈ sent, rqst ∈ sent') {i : Nat} {b : UInt8} :
    ResponseByte ec sent i b → ResponseByte ec sent' i b
  | .inl zero => .inl zero
  | .inr ⟨rqst, mem, eq⟩ => .inr ⟨rqst, sub rqst mem, eq⟩

theorem provenance_fresh : Provenance ec ws ⟨ws.map Write.fresh, .zero, []⟩ where
  writers w mem := by
    obtain ⟨w₀, mem₀, rfl⟩ := List.mem_map.mp mem
    exact ⟨w₀, mem₀, rfl, rfl, nofun⟩
  answered w mem status len pc := by
    obtain ⟨w₀, -, rfl⟩ := List.mem_map.mp mem
    cases pc
  sent _ := nofun
  pld _ := .inl rfl
  res _ := .inl rfl
  length := .inl rfl
  shown _ := .inl rfl

/-- Replacing a writer by one with the same buffer and size keeps the provenance. -/
theorem Provenance.replace {a : Attr} (prov : Provenance ec ws a) {i : Nat} {w w' : Writer} {m : Statics}
    {extra : List Rqst} (mem : w ∈ a.writers) (same : w'.buf = w.buf ∧ w'.count = w.count)
    (copied : w'.pc = .copied → w'.count = 5 + (w'.buf 4).toNat)
    (answered : ∀ status len, w'.pc = .answered status len →
      ∃ rqst ∈ a.sent ++ extra, len = (ec rqst).data.length)
    (sent : ∀ rqst ∈ extra, ∃ w ∈ ws, w.count = 5 + (w.buf 4).toNat ∧ ∃ pld, PayloadOf ws pld ∧ rqst = rqstOf w.buf pld)
    (pld : PayloadOf ws m.pld) (res : ∀ i, ResponseByte ec (a.sent ++ extra) i (m.res i))
    (length : m.sysfs 0 = 0 ∨ ∃ rqst ∈ a.sent ++ extra, m.sysfs 0 = UInt8.ofNat (ec rqst).data.length)
    (shown : ∀ i, ResponseByte ec (a.sent ++ extra) i (m.sysfs (i + 1))) :
    Provenance ec ws ⟨a.writers.set i w', m, a.sent ++ extra⟩ where
  writers v member := by
    rcases List.mem_or_eq_of_mem_set member with old | rfl
    · exact prov.writers v old
    · obtain ⟨w₀, mem₀, buf₀, count₀, -⟩ := prov.writers w mem
      exact ⟨w₀, mem₀, same.1.trans buf₀, same.2.trans count₀, copied⟩
  answered v member status len pc := by
    rcases List.mem_or_eq_of_mem_set member with old | rfl
    · obtain ⟨rqst, sent, length⟩ := prov.answered v old status len pc
      exact ⟨rqst, List.mem_append_left _ sent, length⟩
    · exact answered status len pc
  sent rqst member := by
    rcases List.mem_append.mp member with old | new
    exacts [prov.sent rqst old, sent rqst new]
  pld := pld
  res := res
  length := length
  shown := shown

/-- Every step of a writer keeps the provenance. -/
theorem Provenance.step {a a' : Attr} {i : Nat} (prov : Provenance ec ws a)
    (stepped : a.step abi lim ec i = some a') : Provenance ec ws a' := by
  simp only [Attr.step] at stepped
  split at stepped
  · cases stepped
  rename_i w at_i
  obtain ⟨⟨w', m, extra⟩, wstep, rfl⟩ := Option.map_eq_some'.mp stepped
  have mem : w ∈ a.writers := List.getElem?_mem at_i
  have grow : ∀ rqst ∈ a.sent, rqst ∈ a.sent ++ extra.toList := fun _ => List.mem_append_left _
  have res := fun j => (prov.res j).mono grow
  have length : a.statics.sysfs 0 = 0 ∨ ∃ rqst ∈ a.sent ++ extra.toList,
      a.statics.sysfs 0 = UInt8.ofNat (ec rqst).data.length :=
    prov.length.imp_right fun ⟨rqst, sent, eq⟩ => ⟨rqst, grow rqst sent, eq⟩
  have shown := fun j => (prov.shown j).mono grow
  obtain ⟨w₀, mem₀, buf₀, count₀, shape₀⟩ := prov.writers w mem
  obtain ⟨buf, offs, count, pc⟩ := w
  dsimp only at buf₀ count₀ shape₀
  cases pc with
  | start =>
    simp only [Writer.step] at wstep
    split_ifs at wstep with accept <;> cases wstep <;> dsimp only
    · have bounded : abi.charSign = .unsigned ∨ 5 ≤ count := by rw [count₀]; exact w₀.bounded
      have shape := accepts_shape_of_bounded accept bounded
      have copyLength : abi.sizeSub count 5 = count - 5 :=
        abi.sizeSub_of_le shape.2.1 (by have := abi.wordSize_ge; have := lim.payload_in_int; omega)
      refine prov.replace mem ⟨rfl, rfl⟩ (fun _ => shape.2.2.2) nofun nofun (fun j => ?_) res length shown
      dsimp only
      by_cases copied : j < count - 5
      · rw [memcpy_inside (Nat.zero_le j) (by omega), Nat.sub_zero]
        exact .inr ⟨w₀, mem₀, by omega, by rw [← buf₀]⟩
      · rw [memcpy_outside (.inr (by omega))]
        exact prov.pld j
    · exact prov.replace mem ⟨rfl, rfl⟩ nofun nofun nofun prov.pld res length shown
  | copied =>
    simp only [Writer.step, Option.some.injEq, Prod.mk.injEq] at wstep
    obtain ⟨rfl, rfl, rfl⟩ := wstep
    dsimp only
    have new : rqstOf buf a.statics.pld ∈ a.sent ++ (some (rqstOf buf a.statics.pld)).toList := by simp
    have header : w₀.count = 5 + (w₀.buf 4).toNat := by
      rw [← buf₀, ← count₀]; exact shape₀ rfl
    refine prov.replace mem ⟨rfl, rfl⟩ nofun (fun status len pc => ⟨_, new, (WritePc.answered.inj pc).2.symm⟩)
      (fun rqst member => ⟨w₀, mem₀, header, a.statics.pld, prov.pld, by simp_all⟩) prov.pld (fun j => ?_)
      length shown
    dsimp only
    by_cases stored : j < (ec (rqstOf buf a.statics.pld)).data.length
    · rw [memcpy_inside (Nat.zero_le j) (by omega), Nat.sub_zero]
      exact .inr ⟨_, new, rfl⟩
    · rw [memcpy_outside (.inr (by omega))]
      exact res j
  | answered status len =>
    obtain ⟨rqst, sent, size⟩ := prov.answered _ mem status len rfl
    simp only [Writer.step] at wstep
    split_ifs at wstep <;> cases wstep <;> dsimp only
    · exact prov.replace mem ⟨rfl, rfl⟩ nofun nofun nofun prov.pld res length shown
    · refine prov.replace mem ⟨rfl, rfl⟩ nofun nofun nofun prov.pld res (.inr ⟨rqst, grow rqst sent, ?_⟩)
        (fun j => ?_)
      · dsimp only
        rw [storeResponse, memset_outside (.inl (by omega)), memcpy_outside (.inl (by omega)), size]
        rfl
      · dsimp only
        unfold storeResponse
        by_cases filled : len + 1 ≤ j + 1 ∧ j + 1 < len + 1 + abi.sizeSub (lim.maxRqstResponse + 1) len
        · rw [memset_inside filled.1 filled.2]
          exact .inl rfl
        · rw [memset_outside (by omega)]
          by_cases copied : j < len
          · rw [memcpy_inside (by omega) (by omega), show j + 1 - 1 = j by omega]
            exact res j
          · rw [memcpy_outside (.inr (by omega)), poke, if_neg (by omega)]
            exact shown j
  | done ret => simp [Writer.step] at wstep

theorem Provenance.run {a a' : Attr} (prov : Provenance ec ws a) :
    ∀ {turns : List Nat}, Attr.run abi lim ec a turns = some a' → Provenance ec ws a'
  | [], ran => by cases ran; exact prov
  | _ :: _, ran =>
    let ⟨_, stepped, rest⟩ := Option.bind_eq_some.mp ran
    (prov.step stepped).run rest

/-- In every interleaving each byte sent or read comes, at its offset, from a write or a response. -/
theorem Attr.run_provenance (ws : List (Write abi)) {turns : List Nat} {a : Attr}
    (ran : Attr.run abi lim ec ⟨ws.map Write.fresh, .zero, []⟩ turns = some a) : Provenance ec ws a :=
  provenance_fresh.run ran

end

/-- A controller that answers every request with its payload. -/
def echo : Controller := fun rqst => ⟨0, rqst.pld⟩

/-- The first request goes out with the payload `BB AA`, mixed from both writes. -/
theorem run_provenance_of_mixed_payloads :
    ∃ a, Attr.run Abi.x86_64 eightByteLimits echo ⟨twoWrites.map Write.fresh, .zero, []⟩ [0, 1, 0, 0, 1, 1] = some a ∧
      a.sent = [⟨1, 1, 1, 1, 2, [0xBB, 0xAA]⟩, ⟨1, 1, 2, 1, 1, [0xBB]⟩] ∧ Provenance echo twoWrites a :=
  ⟨_, rfl, rfl, @Attr.run_provenance Abi.x86_64 eightByteLimits echo twoWrites [0, 1, 0, 0, 1, 1] _ rfl⟩

end SurfaceAggregator.Debug
