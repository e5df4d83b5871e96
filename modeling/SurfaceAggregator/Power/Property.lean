import Mathlib.Data.List.GetD
import SurfaceAggregator.Power.Cache

/-! The power-supply properties and the `alarm` attribute of the battery.

`spwr_battery_get_property` refreshes the cache (serving it when fresh) and reads one
property off it. Capacities and voltages are `u32` fields multiplied by `1000` in
`unsigned int` arithmetic and stored in an `int`. The alarm attribute prints
`bat->alarm * 1000` with `%d`, and a store passes `value / 1000` to a `u32` parameter.
-/

set_option autoImplicit false

namespace SurfaceAggregator.Power

open BatM

/-- The members of `enum power_supply_property` the battery answers; `other` stands for the
rest of the enumeration. -/
inductive Psp
  | status
  | present
  | technology
  | cycleCount
  | voltageMinDesign
  | voltageNow
  | currentNow
  | powerNow
  | chargeFullDesign
  | energyFullDesign
  | chargeFull
  | energyFull
  | chargeNow
  | energyNow
  | capacity
  | capacityLevel
  | modelName
  | manufacturer
  | serialNumber
  | other (id : Nat)
  deriving DecidableEq, Repr

inductive PowerSupplyStatus
  | unknown
  | charging
  | discharging
  | notCharging
  | full
  deriving DecidableEq, Repr

inductive PowerSupplyTechnology
  | unknown
  | nimh
  | lion
  | lipo
  | nicd
  deriving DecidableEq, Repr

inductive PowerSupplyCapacityLevel
  | critical
  | low
  | normal
  | full
  deriving DecidableEq, Repr

/-- The string fields of `struct spwr_bix` that the driver hands out. -/
inductive BixString
  | model
  | serial
  | oemInfo
  deriving DecidableEq, Repr

/-- `union power_supply_propval` as the driver fills it: an `int` (which also carries the
enumerations) or a pointer to a field of the cached `bix`. -/
inductive Propval
  | intval (v : Int)
  | status (s : PowerSupplyStatus)
  | technology (t : PowerSupplyTechnology)
  | capacityLevel (l : PowerSupplyCapacityLevel)
  | strval (field : BixString)
  deriving DecidableEq, Repr

/-! ## C strings -/

/-- ASCII `tolower`. -/
def tolower (c : UInt8) : UInt8 := if 65 ≤ c.toNat ∧ c.toNat ≤ 90 then c + 32 else c

/-- Whether `strncasecmp` returns 0 on the strings at `s1` and `s2` seen from index `i`:
it stops at the first difference, after a common NUL, or after `n` characters. -/
def strncasecmpZero (s1 s2 : Nat → UInt8) : Nat → Nat → Bool
  | 0, _ => true
  | n + 1, i =>
    if tolower (s1 i) != tolower (s2 i) then false
    else if s1 i == 0 then true
    else strncasecmpZero s1 s2 n (i + 1)

/-- `strncasecmp` reads `s2` only below `i + n`. -/
theorem strncasecmpZero_congr (s1 : Nat → UInt8) {s2 s2' : Nat → UInt8} {n : Nat} :
    ∀ {i : Nat}, (∀ j < n, s2 (i + j) = s2' (i + j)) →
      strncasecmpZero s1 s2 n i = strncasecmpZero s1 s2' n i := by
  induction n with
  | zero => intro _ _; rfl
  | succ n ih =>
    intro i same
    have here : s2 i = s2' i := same 0 n.succ_pos
    have later : ∀ j < n, s2 (i + 1 + j) = s2' (i + 1 + j) := fun j lt => by
      rw [Nat.add_assoc, Nat.add_comm 1 j]
      exact same (j + 1) (by omega)
    simp only [strncasecmpZero, here, ih later]

/-- A string literal, with its terminating NUL. -/
def literal (s : String) : Nat → UInt8 := fun i => (s.toList.map (·.toNat.toUInt8)).getD i 0

/-- `strcasecmp(lit, s) == 0`: the literal's NUL ends the comparison by its own length. -/
def strcasecmpZero (lit : String) (s : Nat → UInt8) : Bool :=
  strncasecmpZero (literal lit) s (lit.length + 1) 0

/-- The bytes from `bix.type` on: `type`, then `oem_info`, then the packed `bst` that
follows `bix` in the device structure (little-endian). No comparison below reads further. -/
def typeBytes (bix : Bix) (bst : Bst) : Nat → UInt8 := fun i =>
  (bix.type.toList ++ bix.oemInfo.toList ++
    ([bst.state, bst.presentRate, bst.remainingCap, bst.presentVoltage].flatMap fun v =>
      [v.toUInt8, (v >>> 8).toUInt8, (v >>> 16).toUInt8, (v >>> 24).toUInt8])).getD i 0

/-- The first six bytes from `type` on: the five of `type`, then the first of `oem_info`. -/
theorem typeBytes_lt_six (bix : Bix) (bst : Bst) {j : Nat} (lt : j < 6) :
    typeBytes bix bst j = (bix.type.toList ++ [bix.oemInfo.head]).getD j 0 := by
  have five : bix.type.toList.length = 5 := bix.type.toList_length
  unfold typeBytes
  rw [List.append_assoc]
  by_cases inType : j < 5
  · rw [List.getD_append _ _ _ _ (by omega), List.getD_append _ _ _ _ (by omega)]
  · rw [List.getD_append_right bix.type.toList _ 0 j (by omega),
      List.getD_append_right bix.type.toList [bix.oemInfo.head] 0 j (by omega), five, show j - 5 = 0 by omega]
    obtain ⟨_ | ⟨first, rest⟩, length⟩ := bix.oemInfo
    · cases length
    · rfl

/-! ## Property helpers -/

def spwrBatteryPropStatus (bat : Battery) : PowerSupplyStatus :=
  if bat.bst.state &&& samBatteryStateDischarging != 0 then .discharging
  else if bat.bst.state &&& samBatteryStateCharging != 0 then .charging
  else if bat.bix.lastFullChargeCap == bat.bst.remainingCap then .full
  else if bat.bst.presentRate == 0 then .notCharging
  else .unknown

def spwrBatteryPropTechnology (bat : Battery) : PowerSupplyTechnology :=
  let type := typeBytes bat.bix bat.bst
  if strcasecmpZero "NiCd" type then .nicd
  else if strcasecmpZero "NiMH" type then .nimh
  else if strcasecmpZero "LION" type then .lion
  else if strncasecmpZero (literal "LI-ION") type 6 0 then .lion
  else if strcasecmpZero "LiP" type then .lipo
  else .unknown

/-- `spwr_battery_prop_technology` reads only `type` and the first byte of `oem_info`. -/
theorem spwrBatteryPropTechnology_congr {bat bat' : Battery} (type : bat.bix.type = bat'.bix.type)
    (next : bat.bix.oemInfo.head = bat'.bix.oemInfo.head) :
    spwrBatteryPropTechnology bat = spwrBatteryPropTechnology bat' := by
  have agree : ∀ s1 n, n ≤ 6 → strncasecmpZero s1 (typeBytes bat.bix bat.bst) n 0 =
      strncasecmpZero s1 (typeBytes bat'.bix bat'.bst) n 0 := fun s1 n le =>
    strncasecmpZero_congr s1 fun j lt => by
      rw [Nat.zero_add, typeBytes_lt_six _ _ (by omega), typeBytes_lt_six _ _ (by omega), type, next]
  simp only [spwrBatteryPropTechnology, strcasecmpZero, agree _ _ (show "NiCd".length + 1 ≤ 6 by decide),
    agree _ _ (show "NiMH".length + 1 ≤ 6 by decide), agree _ _ (show "LION".length + 1 ≤ 6 by decide),
    agree _ 6 le_rfl, agree _ _ (show "LiP".length + 1 ≤ 6 by decide)]

/-- A battery whose `type` is the unterminated `LI-IO` and whose `oem_info` is `N` followed
by twenty bytes `rest`. -/
def unterminatedLiIo (rest : UInt8) : Battery :=
  { Battery.zero with bix := { Bix.zero with type := ⟨[76, 73, 45, 73, 79], rfl⟩,
                                             oemInfo := ⟨78 :: List.replicate 20 rest, rfl⟩ } }

/-- Batteries that differ after the first byte of `oem_info` report the same technology. -/
theorem spwrBatteryPropTechnology_unterminated_liIo :
    ((unterminatedLiIo 0).bix.type = (unterminatedLiIo 0xff).bix.type ∧
      (unterminatedLiIo 0).bix.oemInfo.head = (unterminatedLiIo 0xff).bix.oemInfo.head) ∧
      spwrBatteryPropTechnology (unterminatedLiIo 0) = spwrBatteryPropTechnology (unterminatedLiIo 0xff) :=
  ⟨⟨rfl, rfl⟩, spwrBatteryPropTechnology_congr rfl rfl⟩

def spwrBatteryPropCapacity (bat : Battery) : Int :=
  if bat.bst.remainingCap != 0 && bat.bix.lastFullChargeCap != 0 then
    u32ToInt (bat.bst.remainingCap * 100 / bat.bix.lastFullChargeCap)
  else 0

def spwrBatteryPropCapacityLevel (bat : Battery) : PowerSupplyCapacityLevel :=
  if bat.bst.state &&& samBatteryStateCritical != 0 then .critical
  else if bat.bst.remainingCap ≥ bat.bix.lastFullChargeCap then .full
  else if bat.bst.remainingCap ≤ bat.alarm then .low
  else .normal

/-- The `switch` of `spwr_battery_get_property`, on a battery found present (or asked
for `PRESENT`). -/
def propertyOf (bat : Battery) : Psp → Reply Propval
  | .status => .ok (.status (spwrBatteryPropStatus bat))
  | .present => .ok (.intval (if spwrBatteryPresent bat then 1 else 0))
  | .technology => .ok (.technology (spwrBatteryPropTechnology bat))
  | .cycleCount => .ok (.intval (u32ToInt bat.bix.cycleCount))
  | .voltageMinDesign => .ok (.intval (u32ToInt (bat.bix.designVoltage * 1000)))
  | .voltageNow => .ok (.intval (u32ToInt (bat.bst.presentVoltage * 1000)))
  | .currentNow | .powerNow => .ok (.intval (u32ToInt (bat.bst.presentRate * 1000)))
  | .chargeFullDesign | .energyFullDesign => .ok (.intval (u32ToInt (bat.bix.designCap * 1000)))
  | .chargeFull | .energyFull => .ok (.intval (u32ToInt (bat.bix.lastFullChargeCap * 1000)))
  | .chargeNow | .energyNow => .ok (.intval (u32ToInt (bat.bst.remainingCap * 1000)))
  | .capacity => .ok (.intval (spwrBatteryPropCapacity bat))
  | .capacityLevel => .ok (.capacityLevel (spwrBatteryPropCapacityLevel bat))
  | .modelName => .ok (.strval .model)
  | .manufacturer => .ok (.strval .oemInfo)
  | .serialNumber => .ok (.strval .serial)
  | .other _ => .error .inval

def spwrBatteryGetProperty (cfg : Config) (jiffies : Nat) (r : UpdateReplies) (psp : Psp) :
    BatM Propval := do
  spwrBatteryUpdateBstUnlocked cfg jiffies r true
  let bat ← get
  if !spwrBatteryPresent bat && psp != .present then throw .nodev
  lift (propertyOf bat psp)

/-! ## The alarm attribute -/

/-- `spwr_battery_alarm_show`. -/
def spwrBatteryAlarmShow (bat : Battery) : String := toString (u32ToInt (bat.alarm * 1000)) ++ "\n"

/-- `spwr_battery_alarm_store`; `parsed` is what `kstrtoul(buf, 0, &value)` reports. -/
def spwrBatteryAlarmStore (count : Nat) (parsed : Reply Nat) (r : Reply Unit) : BatM Int := do
  let value ← lift parsed
  if !spwrBatteryPresent (← get) then throw .nodev
  spwrBatterySetAlarm (UInt32.ofNat (value / 1000)) r
  return count

/-! ## Reported values -/

/-- The exact value a numeric property stands for, by the formulas of the battery
interface; `none` for the properties that are not numbers of the cache. -/
def propertyFormula (bix : Bix) (bst : Bst) : Psp → Option Nat
  | .cycleCount => some bix.cycleCount.toNat
  | .voltageMinDesign => some (1000 * bix.designVoltage.toNat)
  | .voltageNow => some (1000 * bst.presentVoltage.toNat)
  | .currentNow | .powerNow => some (1000 * bst.presentRate.toNat)
  | .chargeFullDesign | .energyFullDesign => some (1000 * bix.designCap.toNat)
  | .chargeFull | .energyFull => some (1000 * bix.lastFullChargeCap.toNat)
  | .chargeNow | .energyNow => some (1000 * bst.remainingCap.toNat)
  | .capacity =>
    some (if bst.remainingCap.toNat = 0 ∨ bix.lastFullChargeCap.toNat = 0 then 0
      else 100 * bst.remainingCap.toNat / bix.lastFullChargeCap.toNat)
  | _ => none

/-- The `int` a value computed in `unsigned int` arithmetic becomes. -/
def wrap32 (x : Nat) : Int := u32ToInt (UInt32.ofNat x)

theorem wrap32_of_lt {x : Nat} (small : x < 2 ^ 31) : wrap32 x = x := by
  rw [wrap32, u32ToInt_of_lt] <;> rw [UInt32.toNat_ofNat_eq, Nat.mod_eq_of_lt (by omega)]
  exact small

theorem u32ToInt_mul_eq (a : UInt32) (k : Nat) (small : k < 2 ^ 32) :
    u32ToInt (a * UInt32.ofNat k) = wrap32 (k * a.toNat) := by
  congr 1
  apply UInt32.toNat.inj
  rw [UInt32.toNat_mul_eq, UInt32.toNat_ofNat_eq, UInt32.toNat_ofNat_eq, Nat.mod_eq_of_lt small,
    Nat.mul_comm]

/-- Every scaled property is its formula modulo `2 ^ 32`, read as an `int`. -/
theorem propertyOf_scaled (bat : Battery) (psp : Psp) (x : Nat) (v : Int)
    (formula : propertyFormula bat.bix bat.bst psp = some x) (other : psp ≠ .capacity)
    (reported : propertyOf bat psp = .ok (.intval v)) : v = wrap32 x := by
  cases psp <;> simp only [propertyFormula, propertyOf, Option.some.injEq, Except.ok.injEq,
    Propval.intval.injEq, reduceCtorEq] at formula reported other ⊢ <;> subst formula reported
  case capacity => exact absurd rfl other
  case cycleCount => rw [wrap32, UInt32.ofNat_toNat_eq]
  all_goals exact u32ToInt_mul_eq _ 1000 (by decide)

theorem spwrBatteryPropCapacity_exact (bat : Battery) (positive : 0 < bat.bst.remainingCap.toNat)
    (le : bat.bst.remainingCap.toNat ≤ bat.bix.lastFullChargeCap.toNat)
    (small : 100 * bat.bst.remainingCap.toNat < 2 ^ 32) :
    spwrBatteryPropCapacity bat = (100 * bat.bst.remainingCap.toNat / bat.bix.lastFullChargeCap.toNat : Nat) ∧
      100 * bat.bst.remainingCap.toNat / bat.bix.lastFullChargeCap.toNat ≤ 100 := by
  have bound : 100 * bat.bst.remainingCap.toNat / bat.bix.lastFullChargeCap.toNat ≤ 100 :=
    Nat.div_le_of_le_mul (Nat.mul_le_mul_left 100 le |>.trans_eq (Nat.mul_comm _ _))
  have nonzero : bat.bst.remainingCap ≠ 0 := fun zero => by simp [zero] at positive
  have full : bat.bix.lastFullChargeCap ≠ 0 := fun zero => by simp [zero] at le; omega
  refine ⟨?_, bound⟩
  rw [spwrBatteryPropCapacity, if_pos (by simp [nonzero, full]), u32ToInt_of_lt] <;>
    rw [UInt32.toNat_div, UInt32.toNat_mul_eq, show (100 : UInt32).toNat = 100 from rfl,
      Nat.mod_eq_of_lt (by omega), Nat.mul_comm]
  omega

/-- A successful `get_property` reads the property off the refreshed cache. -/
theorem spwrBatteryGetProperty_ok {cfg : Config} {jiffies : Nat} {r : UpdateReplies} {psp : Psp}
    {bat bat' : Battery} {p : Propval}
    (reported : spwrBatteryGetProperty cfg jiffies r psp bat = (.ok p, bat')) :
    propertyOf bat' psp = .ok p ∧ (spwrBatteryPresent bat' = true ∨ psp = .present) ∧
      spwrBatteryUpdateBstUnlocked cfg jiffies r true bat = (.ok (), bat') := by
  unfold spwrBatteryGetProperty at reported
  rcases update : spwrBatteryUpdateBstUnlocked cfg jiffies r true bat with ⟨_ | u, refreshed⟩
  · simp [update] at reported
  · by_cases answered : spwrBatteryPresent refreshed = true ∨ psp = .present
    · have kept : (!spwrBatteryPresent refreshed && psp != .present) = false := by
        cases answered <;> simp_all
      simp only [bind_apply, update, get_apply, kept, Bool.false_eq_true, ite_false, lift_apply,
        Prod.mk.injEq] at reported
      exact ⟨reported.2 ▸ reported.1, reported.2 ▸ answered, reported.2 ▸ rfl⟩
    · simp only [not_or, Bool.not_eq_true] at answered
      simp [update, answered] at reported

/-- A reported numeric property is its formula in `unsigned int`, read as an `int`. -/
theorem spwrBatteryGetProperty_reports_formula {cfg : Config} {jiffies : Nat} {r : UpdateReplies}
    {psp : Psp} {bat bat' : Battery} {v : Int}
    (reported : spwrBatteryGetProperty cfg jiffies r psp bat = (.ok (.intval v), bat')) :
    (∀ x, propertyFormula bat'.bix bat'.bst psp = some x → psp ≠ .capacity →
      v = wrap32 x ∧ (x < 2 ^ 31 → v = x)) ∧
    (psp = .capacity →
      (bat'.bst.remainingCap.toNat = 0 ∨ bat'.bix.lastFullChargeCap.toNat = 0 → v = 0) ∧
      (0 < bat'.bst.remainingCap.toNat →
        bat'.bst.remainingCap.toNat ≤ bat'.bix.lastFullChargeCap.toNat →
        100 * bat'.bst.remainingCap.toNat < 2 ^ 32 →
        v = (100 * bat'.bst.remainingCap.toNat / bat'.bix.lastFullChargeCap.toNat : Nat) ∧
          100 * bat'.bst.remainingCap.toNat / bat'.bix.lastFullChargeCap.toNat ≤ 100)) := by
  have read := (spwrBatteryGetProperty_ok reported).1
  refine ⟨fun x formula other => ?_, fun capacity => ?_⟩
  · have scaled := propertyOf_scaled bat' psp x v formula other read
    exact ⟨scaled, fun small => scaled.trans (wrap32_of_lt small)⟩
  · subst capacity
    simp only [propertyOf, Except.ok.injEq, Propval.intval.injEq] at read
    subst read
    refine ⟨fun zero => ?_, fun positive le small => spwrBatteryPropCapacity_exact bat' positive le small⟩
    rcases zero with zero | zero <;>
      simp [spwrBatteryPropCapacity, (UInt32.toNat.inj zero : _ = (0 : UInt32))]

/-- A present battery, freshly cached at jiffies 1, whose `design_voltage` is the unknown
value `0xFFFFFFFF`. -/
def unknownVoltageBattery : Battery :=
  { Battery.zero with timestamp := 1, sta := 0x1f, bix := { Bix.zero with designVoltage := 0xFFFFFFFF } }

/-- `VOLTAGE_MIN_DESIGN` of that battery is reported as `-1000`, not `1000 * 0xFFFFFFFF`. -/
theorem spwrBatteryGetProperty_wraps_unknown_voltage :
    spwrBatteryGetProperty x86Config 2 staThenFail .voltageMinDesign unknownVoltageBattery =
        (.ok (.intval (-1000)), unknownVoltageBattery) ∧
      propertyFormula unknownVoltageBattery.bix unknownVoltageBattery.bst .voltageMinDesign =
        some (1000 * 0xFFFFFFFF) :=
  ⟨rfl, rfl⟩

theorem spwrBatteryGetProperty_reports_formula_at_unknown_voltage :
    spwrBatteryGetProperty x86Config 2 staThenFail .voltageMinDesign unknownVoltageBattery =
        (.ok (.intval (-1000)), unknownVoltageBattery) ∧
      (-1000 : Int) = wrap32 (1000 * 0xFFFFFFFF) :=
  ⟨rfl, ((@spwrBatteryGetProperty_reports_formula x86Config 2 staThenFail .voltageMinDesign
    unknownVoltageBattery unknownVoltageBattery (-1000) (by rfl)).1 _ rfl (by decide)).1⟩

/-! ## Stores and shows -/

theorem spwrBatteryAlarmStore_apply (count : Nat) (parsed : Reply Nat) (r : Reply Unit) (bat : Battery) :
    spwrBatteryAlarmStore count parsed r bat =
      match parsed with
      | .error e => (.error e, bat)
      | .ok value =>
        if spwrBatteryPresent bat then
          (r.map (fun _ => (count : Int)), bat.withAlarm (UInt32.ofNat (value / 1000)))
        else (.error .nodev, bat) := by
  cases parsed with
  | error e => rfl
  | ok value =>
    cases present : spwrBatteryPresent bat <;> cases r <;>
      simp [spwrBatteryAlarmStore, spwrBatterySetAlarm, spwrBatterySetAlarmUnlocked_apply, present,
        Except.map, Battery.withAlarm]

/-- `show` prints `1000 * alarm` computed modulo `2 ^ 32` and read as an `int`. -/
theorem spwrBatteryAlarmShow_eq (bat : Battery) :
    spwrBatteryAlarmShow bat = toString (wrap32 (1000 * bat.alarm.toNat)) ++ "\n" := by
  rw [spwrBatteryAlarmShow, show (1000 : UInt32) = UInt32.ofNat 1000 from rfl,
    u32ToInt_mul_eq _ 1000 (by decide)]

end SurfaceAggregator.Power
