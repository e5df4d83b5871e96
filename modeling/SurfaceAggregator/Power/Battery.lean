import Mathlib.Data.Vector.Basic
import SurfaceAggregator.CTypes

/-! The battery device of `surface_sam_sid_power.c` and its cache routines.

A routine runs on the device structure and returns a status; an error return keeps every
store made before it, as in C. Each EC request and each fallible kernel call takes its
outcome as an argument, so every reply sequence is one choice of arguments. The mutex
only serialises: operations of this model are atomic, so the locked and unlocked
variants of a routine coincide. Releasing a kernel object the battery does not hold is
recorded in `misuse` (a double release, or a use of a freed power supply).
-/

set_option autoImplicit false

namespace SurfaceAggregator.Power

def samBatteryStaOk : UInt32 := 0x0f
def samBatteryStaPresent : UInt32 := 0x10
def samBatteryStateDischarging : UInt32 := 0x01
def samBatteryStateCharging : UInt32 := 0x02
def samBatteryStateCritical : UInt32 := 0x04
def samBatteryPowerUnitMa : UInt32 := 1

/-- `struct spwr_bix`, the data of ACPI `_BIX`, with the fields the driver reads. -/
structure Bix where
  powerUnit : UInt32
  designCap : UInt32
  lastFullChargeCap : UInt32
  designVoltage : UInt32
  designCapWarn : UInt32
  cycleCount : UInt32
  model : Mathlib.Vector UInt8 21
  serial : Mathlib.Vector UInt8 11
  type : Mathlib.Vector UInt8 5
  oemInfo : Mathlib.Vector UInt8 21
  deriving DecidableEq

/-- `struct spwr_bst`, the data of ACPI `_BST`. -/
structure Bst where
  state : UInt32
  presentRate : UInt32
  remainingCap : UInt32
  presentVoltage : UInt32
  deriving DecidableEq

def Bix.zero : Bix :=
  ⟨0, 0, 0, 0, 0, 0, .replicate 21 0, .replicate 11 0, .replicate 5 0, .replicate 21 0⟩

def Bst.zero : Bst := ⟨0, 0, 0, 0⟩

/-- The requests of the SAM battery interface that the driver sends. -/
inductive Request
  | getSta
  | getBix
  | getBst
  | setBtp (value : UInt32)
  deriving DecidableEq, Repr

/-- `struct spwr_battery_device`, with the state of the objects it registers and the EC
requests sent on its behalf, oldest first. -/
structure Battery where
  timestamp : Nat
  sta : UInt32
  bix : Bix
  bst : Bst
  alarm : UInt32
  lock : Bool
  psy : Bool
  notif : Bool
  alarmFile : Bool
  workPending : Bool
  workRunning : Bool
  misuse : Bool
  sent : List Request

/-- The device as `devm_kzalloc` returns it. -/
def Battery.zero : Battery :=
  ⟨0, 0, .zero, .zero, 0, false, false, false, false, false, false, false, []⟩

/-- A routine of the driver on one battery. -/
def BatM (α : Type) := Battery → Reply α × Battery

namespace BatM

variable {α β : Type}

instance : Monad BatM where
  pure a := fun bat => (.ok a, bat)
  bind x f := fun bat =>
    match x bat with
    | (.ok a, bat') => f a bat'
    | (.error e, bat') => (.error e, bat')

def get : BatM Battery := fun bat => (.ok bat, bat)

def modify (f : Battery → Battery) : BatM Unit := fun bat => (.ok (), f bat)

def throw (e : Errno) : BatM α := fun bat => (.error e, bat)

/-- An outcome that the routine does not produce but receives. -/
def lift (r : Reply α) : BatM α := fun bat => (r, bat)

@[simp] theorem pure_apply (a : α) (bat : Battery) : (pure a : BatM α) bat = (.ok a, bat) := rfl

@[simp] theorem bind_apply (x : BatM α) (f : α → BatM β) (bat : Battery) :
    (x >>= f) bat = match x bat with
      | (.ok a, bat') => f a bat'
      | (.error e, bat') => (.error e, bat') := rfl

@[simp] theorem get_apply (bat : Battery) : get bat = (.ok bat, bat) := rfl

@[simp] theorem modify_apply (f : Battery → Battery) (bat : Battery) :
    modify f bat = (.ok (), f bat) := rfl

@[simp] theorem throw_apply (e : Errno) (bat : Battery) : (throw e : BatM α) bat = (.error e, bat) :=
  rfl

@[simp] theorem lift_apply (r : Reply α) (bat : Battery) : lift r bat = (r, bat) := rfl

@[simp] theorem ite_apply (c : Prop) [Decidable c] (x y : BatM α) (bat : Battery) :
    (if c then x else y) bat = if c then x bat else y bat := by
  split <;> rfl

theorem bind_ok {x : BatM α} {f : α → BatM β} {bat bat' : Battery} {a : α} (first : x bat = (.ok a, bat')) :
    (x >>= f) bat = f a bat' := by
  simp [first]

theorem bind_error {x : BatM α} {f : α → BatM β} {bat bat' : Battery} {e : Errno}
    (first : x bat = (.error e, bat')) : (x >>= f) bat = (.error e, bat') := by
  simp [first]

end BatM

open BatM

/-! ## Requests and kernel objects -/

/-- One EC request: it is logged, and its reply is what the EC answered. A failed request
stores nothing in the caller's buffer, although the `SSAM_DEFINE_SYNC_REQUEST` macro the
requests expand to (not under src/) can copy a short reply there before returning `-EIO`. -/
def ssamRequest {α : Type} (rq : Request) (r : Reply α) : BatM α := do
  modify fun bat => { bat with sent := bat.sent ++ [rq] }
  lift r

def ssamBatGetSta (r : Reply UInt32) : BatM UInt32 := ssamRequest .getSta r
def ssamBatGetBix (r : Reply Bix) : BatM Bix := ssamRequest .getBix r
def ssamBatGetBst (r : Reply Bst) : BatM Bst := ssamRequest .getBst r
def ssamBatSetBtp (value : UInt32) (r : Reply Unit) : BatM Unit := ssamRequest (.setBtp value) r

@[simp] theorem ssamRequest_apply {α : Type} (rq : Request) (r : Reply α) (bat : Battery) :
    ssamRequest rq r bat = (r, { bat with sent := bat.sent ++ [rq] }) := by
  simp [ssamRequest]

/-- A registration call: on success the object is held. -/
def register (hold : Battery → Battery) (r : Reply Unit) : BatM Unit :=
  match r with
  | .ok () => modify hold
  | .error e => throw e

/-- A release: it drops the object, and marks a misuse when the object was not held. -/
def release (held : Battery → Bool) (drop : Battery → Battery) : BatM Unit :=
  modify fun bat => { drop bat with misuse := bat.misuse || !held bat }

def powerSupplyRegister : Reply Unit → BatM Unit := register fun bat => { bat with psy := true }
def ssamNotifierRegister : Reply Unit → BatM Unit := register fun bat => { bat with notif := true }
def deviceCreateFile : Reply Unit → BatM Unit := register fun bat => { bat with alarmFile := true }

def powerSupplyUnregister : BatM Unit := release (·.psy) fun bat => { bat with psy := false }
def ssamNotifierUnregister : BatM Unit := release (·.notif) fun bat => { bat with notif := false }
/-- `device_remove_file(&bat->psy->dev, ...)` reaches the file through the power supply. -/
def deviceRemoveFile : BatM Unit := release (·.psy) fun bat => { bat with alarmFile := false }

def mutexInit : BatM Unit := modify fun bat => { bat with lock := true }
def mutexDestroy : BatM Unit := modify fun bat => { bat with lock := false }

/-- `cancel_delayed_work_sync`: afterwards the work is neither pending nor running. -/
def cancelDelayedWorkSync : BatM Unit :=
  modify fun bat => { bat with workPending := false, workRunning := false }

def scheduleDelayedWork : BatM Unit := modify fun bat => { bat with workPending := true }

@[simp] theorem register_apply (hold : Battery → Battery) (r : Reply Unit) (bat : Battery) :
    register hold r bat = match r with
      | .ok () => (.ok (), hold bat)
      | .error e => (.error e, bat) := by
  cases r <;> rfl

@[simp] theorem release_apply (held : Battery → Bool) (drop : Battery → Battery) (bat : Battery) :
    release held drop bat = (.ok (), { drop bat with misuse := bat.misuse || !held bat }) := rfl

/-! ## The cache -/

/-- The configuration the routines read: the ABI, for `unsigned long` jiffies, and
`msecs_to_jiffies(cache_time)` for the module parameter `cache_time`. -/
structure Config where
  abi : Abi
  cacheJiffies : Nat

/-- The EC's replies to the requests of one `spwr_battery_update_*_unlocked` call. -/
structure UpdateReplies where
  sta : Reply UInt32
  bix : Reply Bix
  bst : Reply Bst

def spwrBatteryPresent (bat : Battery) : Bool := bat.sta &&& samBatteryStaPresent != 0

def spwrBatteryLoadSta (r : Reply UInt32) : BatM Unit := do
  let sta ← ssamBatGetSta r
  modify fun bat => { bat with sta }

def spwrBatteryLoadBix (r : Reply Bix) : BatM Unit := do
  if !spwrBatteryPresent (← get) then return
  let bix ← ssamBatGetBix r
  modify fun bat => { bat with bix }

def spwrBatteryLoadBst (r : Reply Bst) : BatM Unit := do
  if !spwrBatteryPresent (← get) then return
  let bst ← ssamBatGetBst r
  modify fun bat => { bat with bst }

def spwrBatterySetAlarmUnlocked (value : UInt32) (r : Reply Unit) : BatM Unit := do
  modify fun bat => { bat with alarm := value }
  ssamBatSetBtp value r

def spwrBatterySetAlarm : UInt32 → Reply Unit → BatM Unit := spwrBatterySetAlarmUnlocked

/-- The battery after an alarm write of `value`, whatever the EC answered. -/
def Battery.withAlarm (bat : Battery) (value : UInt32) : Battery :=
  { bat with alarm := value, sent := bat.sent ++ [.setBtp value] }

/-- The guard of `spwr_battery_update_bst_unlocked` under which it serves the cache. -/
def cacheFresh (cfg : Config) (jiffies : Nat) (bat : Battery) : Bool :=
  bat.timestamp != 0 && cfg.abi.timeBefore jiffies (cfg.abi.longAdd bat.timestamp cfg.cacheJiffies)

def spwrBatteryUpdateBstUnlocked (cfg : Config) (jiffies : Nat) (r : UpdateReplies) (cached : Bool) :
    BatM Unit := do
  if cached && cacheFresh cfg jiffies (← get) then return
  spwrBatteryLoadSta r.sta
  spwrBatteryLoadBst r.bst
  modify fun bat => { bat with timestamp := jiffies }

def spwrBatteryUpdateBst : Config → Nat → UpdateReplies → Bool → BatM Unit :=
  spwrBatteryUpdateBstUnlocked

def spwrBatteryUpdateBixUnlocked (jiffies : Nat) (r : UpdateReplies) : BatM Unit := do
  spwrBatteryLoadSta r.sta
  spwrBatteryLoadBix r.bix
  spwrBatteryLoadBst r.bst
  modify fun bat => { bat with timestamp := jiffies }

def spwrBatteryUpdateBix : Nat → UpdateReplies → BatM Unit := spwrBatteryUpdateBixUnlocked

/-! ## One equation per routine -/

section
variable (bat : Battery)

theorem spwrBatteryLoadSta_apply (r : Reply UInt32) :
    spwrBatteryLoadSta r bat = match r with
      | .ok sta => (.ok (), { bat with sent := bat.sent ++ [.getSta], sta })
      | .error e => (.error e, { bat with sent := bat.sent ++ [.getSta] }) := by
  cases r <;> rfl

theorem spwrBatteryLoadBix_apply (r : Reply Bix) :
    spwrBatteryLoadBix r bat = if spwrBatteryPresent bat then
      match r with
      | .ok bix => (.ok (), { bat with sent := bat.sent ++ [.getBix], bix })
      | .error e => (.error e, { bat with sent := bat.sent ++ [.getBix] })
      else (.ok (), bat) := by
  cases present : spwrBatteryPresent bat <;> cases r <;>
    simp [spwrBatteryLoadBix, ssamBatGetBix, present]

theorem spwrBatteryLoadBst_apply (r : Reply Bst) :
    spwrBatteryLoadBst r bat = if spwrBatteryPresent bat then
      match r with
      | .ok bst => (.ok (), { bat with sent := bat.sent ++ [.getBst], bst })
      | .error e => (.error e, { bat with sent := bat.sent ++ [.getBst] })
      else (.ok (), bat) := by
  cases present : spwrBatteryPresent bat <;> cases r <;>
    simp [spwrBatteryLoadBst, ssamBatGetBst, present]

theorem spwrBatterySetAlarmUnlocked_apply (value : UInt32) (r : Reply Unit) :
    spwrBatterySetAlarmUnlocked value r bat = (r, bat.withAlarm value) := by
  cases r <;> rfl

/-- The reload both update routines end with, after `spwr_battery_load_sta`. -/
theorem spwrBatteryUpdateBstUnlocked_reload (cfg : Config) (jiffies : Nat) (r : UpdateReplies)
    {cached : Bool} (stale : (cached && cacheFresh cfg jiffies bat) = false) :
    spwrBatteryUpdateBstUnlocked cfg jiffies r cached bat =
      (do spwrBatteryLoadSta r.sta
          spwrBatteryLoadBst r.bst
          modify fun bat => { bat with timestamp := jiffies }) bat := by
  simp only [spwrBatteryUpdateBstUnlocked, bind_apply, get_apply, stale, Bool.false_eq_true, ite_false]

theorem spwrBatteryUpdateBstUnlocked_of_fresh (cfg : Config) (jiffies : Nat) (r : UpdateReplies)
    (fresh : cacheFresh cfg jiffies bat = true) :
    spwrBatteryUpdateBstUnlocked cfg jiffies r true bat = (.ok (), bat) := by
  simp [spwrBatteryUpdateBstUnlocked, fresh]

end

end SurfaceAggregator.Power
