import Mathlib.Data.Nat.Bitwise
import Mathlib.Data.Vector.Basic
import Mathlib.Data.List.FinRange
import SurfaceAggregator.Thermal.Sensor

/-! The hwmon driver `surface_temp`, which `surface_sam_sid_power.c` carries after the power
driver.

Its probe reads the EC's mask of available sensors into an `s16`, asks the EC for the name
of each available sensor (channel `c` is instance ID `c + 1`) and copies it with `strscpy`
into the channel's 18-byte slot, warning when a name fills its whole field; then it
registers a hwmon device with 16 temperature channels. The hwmon core asks `is_visible`
about these 16 channels and reads the value and the label of the visible ones through
`read` and `read_string`. The retries of `ssam_retry` are not modelled: a reply is the
outcome after them. `strscpy` is the kernel's own, from `lib/string.c`.
-/

set_option autoImplicit false

namespace SurfaceAggregator.Hwmon

abbrev ssamTmpSensorMaxCount : Nat := 16
abbrev ssamTmpSensorNameLength : Nat := 18

/-- A `char name[SSAM_TMP_SENSOR_NAME_LENGTH]`. -/
abbrev NameBuf := Mathlib.Vector UInt8 ssamTmpSensorNameLength

/-! ## C strings -/

/-- The C string a buffer holds: its bytes before the first NUL. -/
def cString (buf : List UInt8) : List UInt8 := buf.takeWhile (· ≠ 0)

/-- `strscpy(dest, src, count)` on buffers of `count` bytes: the string of `src`, cut to
`count - 1` bytes, then a NUL; the bytes of `dest` after the NUL stay. It returns the
length it copied, or `-E2BIG` when it cut the string short or `count` is 0. -/
def strscpy {count : Nat} (dest src : Mathlib.Vector UInt8 count) : Mathlib.Vector UInt8 count × Int :=
  if zero : count = 0 then (dest, -E2BIG) else
  let len := (cString src.toList).length
  if fits : len < count then
    (⟨src.toList.take len ++ 0 :: dest.toList.drop (len + 1), by simp; omega⟩, len)
  else
    (⟨src.toList.take (count - 1) ++ 0 :: dest.toList.drop count, by simp; omega⟩, -E2BIG)

theorem cString_nonzero (buf : List UInt8) : ∀ b ∈ cString buf, b ≠ 0 := fun _ mem => by
  simpa using List.mem_takeWhile_imp mem

theorem cString_append_nul {head : List UInt8} (rest : List UInt8) (nonzero : ∀ b ∈ head, b ≠ 0) :
    cString (head ++ 0 :: rest) = head := by
  rw [cString, List.takeWhile_append_of_pos (by simpa using nonzero)]
  simp

theorem take_cString (buf : List UInt8) : buf.take (cString buf).length = cString buf :=
  (List.prefix_iff_eq_take.mp (List.takeWhile_prefix _)).symm

/-- A buffer whose string runs to its end has no NUL. -/
theorem cString_eq_self {buf : List UInt8} (whole : buf.length ≤ (cString buf).length) :
    cString buf = buf :=
  (List.takeWhile_prefix _).eq_of_length (Nat.le_antisymm (List.takeWhile_prefix _).length_le whole)

theorem cString_cons (b : UInt8) (rest : List UInt8) :
    cString (b :: rest) = if b = 0 then [] else b :: cString rest := by
  by_cases zero : b = 0 <;> simp [cString, List.takeWhile_cons, zero]

theorem nul_mem_iff (buf : List UInt8) : (0 : UInt8) ∈ buf ↔ (cString buf).length < buf.length := by
  induction buf with
  | nil => simp [cString]
  | cons b rest ih =>
    by_cases zero : b = 0
    · simp [cString_cons, zero]
    · simp [cString_cons, zero, Ne.symm zero, ih]

/-- A zeroed slot holds the empty string. -/
theorem cString_zero_slot (count : Nat) : cString (Mathlib.Vector.replicate count (0 : UInt8)).toList = [] := by
  cases count with
  | zero => rfl
  | succ count =>
    show cString (0 :: List.replicate count 0) = []
    rw [cString_cons, if_pos rfl]

section
variable {count : Nat} (dest src : Mathlib.Vector UInt8 count)

/-- The slot holds the string of `src`, cut to `count - 1` bytes. -/
theorem strscpy_cString (positive : 0 < count) :
    cString (strscpy dest src).1.toList = (cString src.toList).take (count - 1) := by
  have within : (cString src.toList).length ≤ count :=
    le_of_le_of_eq (List.takeWhile_prefix _).length_le src.toList_length
  unfold strscpy
  rw [dif_neg (show count ≠ 0 by omega)]
  dsimp only
  split_ifs with fits
  · rw [Mathlib.Vector.toList_mk, take_cString, cString_append_nul _ (cString_nonzero _),
      List.take_of_length_le (by omega)]
  · have whole : cString src.toList = src.toList := cString_eq_self (by simp; omega)
    have nonzero : ∀ b ∈ src.toList.take (count - 1), b ≠ 0 := fun b mem =>
      cString_nonzero src.toList b (by rw [whole]; exact List.mem_of_mem_take mem)
    rw [Mathlib.Vector.toList_mk, cString_append_nul _ nonzero, whole]

/-- The slot is NUL-terminated inside its `count` bytes. -/
theorem strscpy_terminated (positive : 0 < count) : (0 : UInt8) ∈ (strscpy dest src).1.toList := by
  unfold strscpy
  rw [dif_neg (show count ≠ 0 by omega)]
  dsimp only
  split_ifs <;> simp

/-- `strscpy` reports an error exactly when `src` holds no NUL. -/
theorem strscpy_status_neg_iff (positive : 0 < count) :
    (strscpy dest src).2 < 0 ↔ (0 : UInt8) ∉ src.toList := by
  rw [nul_mem_iff, src.toList_length]
  unfold strscpy
  rw [dif_neg (show count ≠ 0 by omega)]
  dsimp only
  split_ifs with fits
  · simp only [fits, not_true_eq_false, iff_false, not_lt]
    exact Int.natCast_nonneg _
  · simp only [fits, not_false_eq_true, iff_true]
    decide

/-- A name that fills its 18 bytes loses its last byte to the NUL, and is reported. -/
example : strscpy (Mathlib.Vector.replicate 18 0) (Mathlib.Vector.replicate 18 65) =
    (⟨List.replicate 17 65 ++ [0], by decide⟩, -E2BIG) := by
  decide

end

/-! ## The mask of available sensors -/

/-- `le16_to_cpu` stored into an `s16`: GCC's modular conversion. -/
def s16OfU16 (u : UInt16) : Int := if u.toNat < 2 ^ 15 then u.toNat else u.toNat - 2 ^ 16

/-- `ssam_tmp_get_available_sensors`, into an `s16`. -/
def ssamTmpGetAvailableSensors (r : Reply UInt16) : Reply Int := r.map s16OfU16

/-- `sensors & BIT(channel)` for an `s16` mask: C converts the mask to `unsigned long`,
extending its sign. `BIT(channel)` is defined, as a channel is below 16. -/
def maskTest (abi : Abi) (sensors : Int) (channel : Fin ssamTmpSensorMaxCount) : Nat :=
  abi.toSize sensors &&& 2 ^ channel.val

theorem maskTest_bit (abi : Abi) (channel : Fin ssamTmpSensorMaxCount) :
    Thermal.bit abi channel.val = some (2 ^ channel.val) :=
  if_pos (by have := abi.long_wide; have : channel.val < 16 := channel.isLt; omega)

/-- The mask's sign extension reaches no channel: each is tested against its own bit. -/
theorem maskTest_ne_zero_iff (abi : Abi) (u : UInt16) (channel : Fin ssamTmpSensorMaxCount) :
    maskTest abi (s16OfU16 u) channel ≠ 0 ↔ u.toNat.testBit channel = true := by
  have small : u.toNat < 2 ^ 16 := u.toNat_lt_size
  have low : s16OfU16 u % 2 ^ 16 = u.toNat := by unfold s16OfU16; split_ifs <;> omega
  have dvd : (2 ^ 16 : Int) ∣ (abi.wordSize : Int) := by
    rw [Abi.wordSize, Int.natCast_pow]
    exact pow_dvd_pow 2 (by have := abi.long_wide; omega)
  have residue : abi.toSize (s16OfU16 u) % 2 ^ 16 = u.toNat := by
    have := abi.toSize_eq (s16OfU16 u)
    have := Int.emod_emod_of_dvd (s16OfU16 u) dvd
    omega
  rw [maskTest, Nat.and_two_pow, ← residue, Nat.testBit_mod_two_pow]
  cases (abi.toSize (s16OfU16 u)).testBit channel <;> simp [channel.isLt]

/-! ## Probe -/

/-- `struct ssam_temp`: the mask of available sensors and one name slot per channel. -/
structure SsamTemp where
  sensors : Int
  names : Fin ssamTmpSensorMaxCount → NameBuf

/-- The driver data as `devm_kzalloc` returns it. -/
def SsamTemp.zero : SsamTemp := ⟨0, fun _ => .replicate _ 0⟩

/-- The probe's loop so far: the driver data, the instance IDs whose names it asked for,
and whether a `WARN_ON` fired. -/
structure Probing where
  temp : SsamTemp
  asked : List Nat
  warned : Bool

section
variable (abi : Abi) (sensors : Int) (ec : Nat → Reply NameBuf)

/-- The loop of `ssam_temp_probe` over `channels`: ask for the name of each available
sensor and copy it into its slot, stopping at the first failed request. -/
def retrieveNames : List (Fin ssamTmpSensorMaxCount) → Probing → Reply Unit × Probing
  | [], s => (.ok (), s)
  | channel :: channels, s =>
    if maskTest abi sensors channel = 0 then retrieveNames channels s else
    let s := { s with asked := s.asked ++ [channel.val + 1] }
    match ec (channel.val + 1) with
    | .error e => (.error e, s)
    | .ok rsp =>
      -- Copy the name in the internal buffer.
      let copied := strscpy (s.temp.names channel) rsp
      retrieveNames channels
        { s with temp := { s.temp with names := Function.update s.temp.names channel copied.1 },
                 warned := s.warned || decide (copied.2 < 0) }

end

section
variable {abi : Abi} {sensors : Int} {ec : Nat → Reply NameBuf}

/-- The loop succeeds exactly when the name request of every available channel is answered. -/
theorem retrieveNames_isOk_iff (channels : List (Fin ssamTmpSensorMaxCount)) (s : Probing) :
    (retrieveNames abi sensors ec channels s).1.isOk ↔
      ∀ c ∈ channels, maskTest abi sensors c ≠ 0 → (ec (c.val + 1)).isOk := by
  induction channels generalizing s with
  | nil => simp [retrieveNames, Except.isOk, Except.toBool]
  | cons channel channels ih =>
    unfold retrieveNames
    split_ifs with unavailable
    · simp [ih, unavailable]
    · cases answer : ec (channel.val + 1) with
      | error e => simp [answer, unavailable, Except.isOk, Except.toBool]
      | ok rsp =>
        simp only [answer, ih, List.forall_mem_cons]
        exact ⟨fun rest => ⟨fun _ => rfl, rest⟩, And.right⟩

/-- An answered loop fills each available slot in channel order and warns on each unterminated name. -/
theorem retrieveNames_ok (name : Fin ssamTmpSensorMaxCount → NameBuf)
    {channels : List (Fin ssamTmpSensorMaxCount)} (nodup : channels.Nodup)
    (answered : ∀ c ∈ channels, maskTest abi sensors c ≠ 0 → ec (c.val + 1) = .ok (name c)) (s : Probing) :
    retrieveNames abi sensors ec channels s =
      (.ok (),
        { temp :=
            { s.temp with
              names := fun c =>
                if c ∈ channels ∧ maskTest abi sensors c ≠ 0 then (strscpy (s.temp.names c) (name c)).1
                else s.temp.names c },
          asked := s.asked ++ (channels.filter fun c => maskTest abi sensors c ≠ 0).map (·.val + 1),
          warned := s.warned || channels.any fun c =>
            decide (maskTest abi sensors c ≠ 0) && decide ((0 : UInt8) ∉ (name c).toList) }) := by
  induction channels generalizing s with
  | nil => simp [retrieveNames]
  | cons channel channels ih =>
    obtain ⟨fresh, nodup⟩ := List.nodup_cons.mp nodup
    have rest := ih nodup fun c mem => answered c (List.mem_cons_of_mem _ mem)
    unfold retrieveNames
    split_ifs with unavailable
    · rw [rest]
      simp only [Prod.mk.injEq, Probing.mk.injEq, SsamTemp.mk.injEq, true_and]
      refine ⟨funext fun c => ?_, by simp [List.filter_cons, unavailable], by simp [unavailable]⟩
      by_cases same : c = channel
      · subst same; simp [unavailable]
      · simp [same]
    · rw [answered channel (List.mem_cons_self _ _) unavailable]
      dsimp only
      rw [rest]
      simp only [Prod.mk.injEq, Probing.mk.injEq, SsamTemp.mk.injEq, true_and]
      refine ⟨funext fun c => ?_, by simp [List.filter_cons, unavailable], ?_⟩
      · by_cases same : c = channel
        · subst same; simp [fresh, unavailable]
        · simp [same]
      · simp [strscpy_status_neg_iff _ _ (show 0 < ssamTmpSensorNameLength by decide), unavailable,
          Bool.or_assoc]

end

/-- The answers during one `ssam_temp_probe`: the mask, the allocation, the EC's name for
each instance ID, and the hwmon registration. -/
structure ProbeAnswers where
  sensors : Reply UInt16
  alloc : Bool
  names : Nat → Reply NameBuf
  register : Reply Unit

/-- `ssam_temp_probe`: the driver data when it binds, the name requests it sent, and
whether it warned. -/
def ssamTempProbe (abi : Abi) (r : ProbeAnswers) : Reply SsamTemp × List Nat × Bool :=
  match ssamTmpGetAvailableSensors r.sensors with
  | .error e => (.error e, [], false)
  | .ok sensors =>
    if !r.alloc then (.error ⟨-ENOMEM, by decide⟩, [], false) else
    -- Retrieve the name for each sensor.
    let loop := retrieveNames abi sensors r.names (List.finRange ssamTmpSensorMaxCount) ⟨.zero, [], false⟩
    match loop.1, r.register with
    | .error e, _ => (.error e, loop.2.asked, loop.2.warned)
    | .ok (), .error e => (.error e, loop.2.asked, loop.2.warned)
    | .ok (), .ok () => (.ok { loop.2.temp with sensors }, loop.2.asked, loop.2.warned)

/-! ## The hwmon callbacks -/

/-- A `long` result of C arithmetic, `none` when it overflows. -/
def checkedLong (abi : Abi) (v : Int) : Option Int :=
  if -2 ^ (abi.bitsPerLong - 1) ≤ v ∧ v < 2 ^ (abi.bitsPerLong - 1) then some v else none

/-- `ssam_tmp_get_temperature` into a `long`: `(le16_to_cpu(temp_le) - 2731) * 100L`, the
difference in `int` after the `u16` is promoted, the product in `long`. -/
def ssamTmpGetTemperature (abi : Abi) (r : Reply UInt16) : Reply (Option Int) :=
  r.map fun raw => (Thermal.checkedInt ((raw.toNat : Int) - 2731)).bind fun deci => checkedLong abi (deci * 100)

/-- `ssam_temp_hwmon_is_visible` for one of the 16 channels: the mode `0444` or `0`. -/
def ssamTempHwmonIsVisible (abi : Abi) (temp : SsamTemp) (channel : Fin ssamTmpSensorMaxCount) : Nat :=
  if maskTest abi temp.sensors channel ≠ 0 then 0o444 else 0

/-- `ssam_temp_hwmon_read`, with the EC's temperature reading of each instance ID. -/
def ssamTempHwmonRead (abi : Abi) (ec : Nat → Reply UInt16) (channel : Fin ssamTmpSensorMaxCount) :
    Reply (Option Int) :=
  ssamTmpGetTemperature abi (ec (channel.val + 1))

/-- `ssam_temp_hwmon_read_string`: the channel's name slot. -/
def ssamTempHwmonReadString (temp : SsamTemp) (channel : Fin ssamTmpSensorMaxCount) : NameBuf :=
  temp.names channel

/-! ## What the hwmon core sees -/

/-- The probe binds exactly when every request and allocation it makes succeeds. -/
theorem ssamTempProbe_binds_iff (abi : Abi) (r : ProbeAnswers) :
    (ssamTempProbe abi r).1.isOk ↔ ∃ mask, r.sensors = .ok mask ∧ r.alloc = true ∧
      (∀ c : Fin ssamTmpSensorMaxCount, mask.toNat.testBit c = true → (r.names (c.val + 1)).isOk) ∧
      r.register.isOk := by
  obtain ⟨sensors, alloc, names, register⟩ := r
  cases sensors with
  | error e => simp [ssamTempProbe, ssamTmpGetAvailableSensors, Except.map, Except.isOk, Except.toBool]
  | ok mask =>
    have loop := @retrieveNames_isOk_iff abi (s16OfU16 mask) names
      (List.finRange ssamTmpSensorMaxCount) ⟨.zero, [], false⟩
    simp only [maskTest_ne_zero_iff, List.mem_finRange, true_implies] at loop
    cases alloc <;> [simp [ssamTempProbe, ssamTmpGetAvailableSensors, Except.map, Except.isOk, Except.toBool]; skip]
    simp only [ssamTempProbe, ssamTmpGetAvailableSensors, Except.map, Bool.not_true, Bool.false_eq_true, if_false,
      Except.ok.injEq, exists_eq_left', true_and]
    rcases outcome : retrieveNames abi (s16OfU16 mask) names (List.finRange ssamTmpSensorMaxCount)
      ⟨.zero, [], false⟩ with ⟨_ | _, s⟩ <;> rw [outcome] at loop <;> cases register <;>
      simp_all [Except.isOk, Except.toBool]

/-- What a probe that gets every answer returns, for the EC's mask and its names: the
driver data, with the slot of each channel in the mask holding the channel's name as
`strscpy` copies it and the other slots zero; the name requests, in the order of the
channels; and whether one of those names has no NUL. -/
def boundOutcome (mask : UInt16) (name : Fin ssamTmpSensorMaxCount → NameBuf) :
    Reply SsamTemp × List Nat × Bool :=
  (.ok ⟨s16OfU16 mask, fun c => if mask.toNat.testBit c then (strscpy (.replicate _ 0) (name c)).1 else .replicate _ 0⟩,
    ((List.finRange ssamTmpSensorMaxCount).filter fun c : Fin ssamTmpSensorMaxCount => mask.toNat.testBit c).map
      (·.val + 1),
    (List.finRange ssamTmpSensorMaxCount).any fun c : Fin ssamTmpSensorMaxCount =>
      mask.toNat.testBit c && decide ((0 : UInt8) ∉ (name c).toList))

/-- A probe whose requests are all answered returns the bound outcome. -/
theorem ssamTempProbe_of_answered (abi : Abi) {r : ProbeAnswers} {mask : UInt16}
    (name : Fin ssamTmpSensorMaxCount → NameBuf) (read : r.sensors = .ok mask) (alloc : r.alloc = true)
    (answered : ∀ c : Fin ssamTmpSensorMaxCount, mask.toNat.testBit c = true → r.names (c.val + 1) = .ok (name c))
    (register : r.register = .ok ()) :
    ssamTempProbe abi r = boundOutcome mask name := by
  have loop := @retrieveNames_ok abi (s16OfU16 mask) r.names name _
    (List.nodup_finRange _) (fun c _ avail => answered c ((maskTest_ne_zero_iff abi mask c).mp avail))
    ⟨.zero, [], false⟩
  simp only [ssamTempProbe, ssamTmpGetAvailableSensors, read, Except.map, alloc, Bool.not_true,
    Bool.false_eq_true, ite_false, loop, register]
  simp [boundOutcome, maskTest_ne_zero_iff, SsamTemp.zero]

/-- A probe that binds had every request answered. -/
theorem ssamTempProbe_of_bound {abi : Abi} {r : ProbeAnswers} {mask : UInt16} {temp : SsamTemp}
    {log : List Nat × Bool} (read : r.sensors = .ok mask) (bound : ssamTempProbe abi r = (.ok temp, log)) :
    ∃ name : Fin ssamTmpSensorMaxCount → NameBuf,
      (∀ c : Fin ssamTmpSensorMaxCount, mask.toNat.testBit c = true → r.names (c.val + 1) = .ok (name c)) ∧
      ssamTempProbe abi r = boundOutcome mask name := by
  obtain ⟨mask', read', alloc, named, registered⟩ :=
    (ssamTempProbe_binds_iff abi r).mp (by rw [bound]; rfl)
  cases read.symm.trans read'
  have answered : ∀ c : Fin ssamTmpSensorMaxCount, mask.toNat.testBit c = true →
      r.names (c.val + 1) = .ok (((r.names (c.val + 1)).toOption).getD (.replicate _ 0)) := by
    intro c avail
    have := named c avail
    revert this
    cases r.names (c.val + 1) <;> simp [Except.isOk, Except.toBool, Except.toOption]
  refine ⟨_, answered, ssamTempProbe_of_answered abi _ read alloc answered ?_⟩
  revert registered
  cases r.register <;> simp [Except.isOk, Except.toBool]

/-- An EC with sensors 1 and 3: the name of sensor 1 fills its 18 bytes with `B` and no NUL,
that of sensor 3 is `CPU`. -/
def twoSensors : ProbeAnswers where
  sensors := .ok 5
  alloc := true
  names id := .ok (if id = 1 then .replicate _ 66 else ⟨[67, 80, 85, 0, 0, 0, 0, 0, 0, 0, 0, 0, 0, 0, 0, 0, 0, 0], rfl⟩)
  register := .ok ()

/-- A bound device shows the mask's channels, labelled with the EC's names cut to 17 bytes. -/
theorem ssamTempProbe_channels {abi : Abi} {r : ProbeAnswers} {mask : UInt16} {temp : SsamTemp}
    {log : List Nat × Bool} (read : r.sensors = .ok mask) (bound : ssamTempProbe abi r = (.ok temp, log))
    (c : Fin ssamTmpSensorMaxCount) :
    ssamTempHwmonIsVisible abi temp c = (if mask.toNat.testBit c then 0o444 else 0) ∧
      (∀ name, r.names (c.val + 1) = .ok name → mask.toNat.testBit c = true →
        cString (ssamTempHwmonReadString temp c).toList = (cString name.toList).take 17) ∧
      (mask.toNat.testBit c = false → cString (ssamTempHwmonReadString temp c).toList = []) := by
  obtain ⟨names, answered, closed⟩ := ssamTempProbe_of_bound read bound
  rw [bound, boundOutcome] at closed
  cases (Except.ok.inj (Prod.mk.inj closed).1)
  refine ⟨by simp [ssamTempHwmonIsVisible, maskTest_ne_zero_iff], fun name given avail => ?_, fun absent => ?_⟩
  · have same : names c = name := Except.ok.inj ((answered c avail).symm.trans given)
    simp only [ssamTempHwmonReadString, avail, ite_true, same]
    exact strscpy_cString _ _ (by decide)
  · simp only [ssamTempHwmonReadString, absent, Bool.false_eq_true, ite_false]
    exact cString_zero_slot _

/-- The label of sensor 1 is its name cut to 17 bytes. -/
theorem ssamTempProbe_channels_of_unterminated_name :
    ∃ temp log, (twoSensors.sensors = .ok 5 ∧ ssamTempProbe Abi.x86_64 twoSensors = (.ok temp, log)) ∧
      (ssamTempHwmonIsVisible Abi.x86_64 temp 0 = (if (5 : UInt16).toNat.testBit (0 : Fin ssamTmpSensorMaxCount) then 0o444 else 0) ∧
        (∀ name, twoSensors.names ((0 : Fin ssamTmpSensorMaxCount).val + 1) = .ok name →
          (5 : UInt16).toNat.testBit (0 : Fin ssamTmpSensorMaxCount) = true →
          cString (ssamTempHwmonReadString temp 0).toList = (cString name.toList).take 17) ∧
        ((5 : UInt16).toNat.testBit (0 : Fin ssamTmpSensorMaxCount) = false →
          cString (ssamTempHwmonReadString temp 0).toList = [])) :=
  ⟨_, _, ⟨rfl, rfl⟩, @ssamTempProbe_channels Abi.x86_64 twoSensors 5 _ _ rfl rfl 0⟩

/-- Every name slot of a bound device, visible or not, holds a NUL. -/
theorem ssamTempProbe_slots_terminated {abi : Abi} {r : ProbeAnswers} {mask : UInt16} {temp : SsamTemp}
    {log : List Nat × Bool} (read : r.sensors = .ok mask) (bound : ssamTempProbe abi r = (.ok temp, log))
    (c : Fin ssamTmpSensorMaxCount) : (0 : UInt8) ∈ (ssamTempHwmonReadString temp c).toList := by
  obtain ⟨names, -, closed⟩ := ssamTempProbe_of_bound read bound
  rw [bound, boundOutcome] at closed
  cases (Except.ok.inj (Prod.mk.inj closed).1)
  by_cases avail : mask.toNat.testBit c = true
  · simp only [ssamTempHwmonReadString, avail, ite_true]
    exact strscpy_terminated _ _ (by decide)
  · simp only [ssamTempHwmonReadString, avail, ite_false]
    exact List.mem_replicate.mpr ⟨by decide, rfl⟩

/-- The slot of the unterminated name holds a NUL all the same. -/
theorem ssamTempProbe_slot_terminated_of_unterminated_name :
    ∃ temp log, (twoSensors.sensors = .ok 5 ∧ ssamTempProbe Abi.x86_64 twoSensors = (.ok temp, log)) ∧
      (0 : UInt8) ∈ (ssamTempHwmonReadString temp 0).toList :=
  ⟨_, _, ⟨rfl, rfl⟩, @ssamTempProbe_slots_terminated Abi.x86_64 twoSensors 5 _ _ rfl rfl 0⟩

/-- A bound probe asked for the mask's names in channel order and warned on each unterminated one. -/
theorem ssamTempProbe_log {abi : Abi} {r : ProbeAnswers} {mask : UInt16} {temp : SsamTemp}
    {asked : List Nat} {warned : Bool} (read : r.sensors = .ok mask)
    (bound : ssamTempProbe abi r = (.ok temp, asked, warned)) :
    asked = ((List.finRange ssamTmpSensorMaxCount).filter fun c : Fin ssamTmpSensorMaxCount => mask.toNat.testBit c).map (·.val + 1) ∧
      (warned = true ↔ ∃ c : Fin ssamTmpSensorMaxCount, ∃ name, mask.toNat.testBit c = true ∧
        r.names (c.val + 1) = .ok name ∧ (0 : UInt8) ∉ name.toList) := by
  obtain ⟨names, answered, closed⟩ := ssamTempProbe_of_bound read bound
  rw [bound, boundOutcome] at closed
  obtain ⟨-, rest⟩ := Prod.mk.inj_iff.mp closed
  obtain ⟨rfl, rfl⟩ := Prod.mk.inj_iff.mp rest
  refine ⟨rfl, ?_⟩
  simp only [List.any_eq_true, List.mem_finRange, true_and, Bool.and_eq_true, decide_eq_true_eq]
  constructor
  · rintro ⟨c, avail, empty⟩
    exact ⟨c, names c, avail, answered c avail, empty⟩
  · rintro ⟨c, name, avail, given, empty⟩
    exact ⟨c, avail, Except.ok.inj ((answered c avail).symm.trans given) ▸ empty⟩

/-- With two sensors the probe asks for IDs 1 and 3 and warns for the name of sensor 1. -/
theorem ssamTempProbe_log_of_unterminated_name :
    ∃ temp asked warned, (twoSensors.sensors = .ok 5 ∧ ssamTempProbe Abi.x86_64 twoSensors = (.ok temp, asked, warned)) ∧
      (asked = ((List.finRange ssamTmpSensorMaxCount).filter fun c : Fin ssamTmpSensorMaxCount =>
          (5 : UInt16).toNat.testBit c).map (·.val + 1) ∧
        (warned = true ↔ ∃ c : Fin ssamTmpSensorMaxCount, ∃ name, (5 : UInt16).toNat.testBit c = true ∧
          twoSensors.names (c.val + 1) = .ok name ∧ (0 : UInt8) ∉ name.toList)) :=
  ⟨_, _, _, ⟨rfl, rfl⟩, @ssamTempProbe_log Abi.x86_64 twoSensors 5 _ _ _ rfl rfl⟩

end SurfaceAggregator.Hwmon
