import SurfaceAggregator.Power.Driver

/-! The AC adapter device of `surface_sam_sid_power.c`, and the module's init and exit.

The AC registers a power supply and then an event notifier, and releases them in the
opposite order. It has no cache, no alarm, no work item and no re-registration: its
property `ONLINE` asks the EC for the power source on every call, and the notifier only
refreshes the state and reports a change. As for the battery, a release of an object the
device does not hold, or a change reported on a released power supply, is recorded in
`misuse`.
-/

set_option autoImplicit false

namespace SurfaceAggregator.Power

/-- `struct spwr_ac_device`, with the state of the objects it registers. -/
structure Ac where
  state : UInt32
  lock : Bool
  psy : Bool
  notif : Bool
  misuse : Bool
  deriving DecidableEq, Repr

namespace Ac

/-- The device as `devm_kzalloc` returns it. -/
def zero : Ac := ⟨0, false, false, false, false⟩

def mutexDestroy (ac : Ac) : Ac := { ac with lock := false }

def powerSupplyUnregister (ac : Ac) : Ac := { ac with psy := false, misuse := ac.misuse || !ac.psy }

def ssamNotifierUnregister (ac : Ac) : Ac :=
  { ac with notif := false, misuse := ac.misuse || !ac.notif }

/-- `power_supply_changed(ac->psy)` uses the power supply. -/
def powerSupplyChanged (ac : Ac) : Ac := { ac with misuse := ac.misuse || !ac.psy }

end Ac

/-- The members of `enum power_supply_property` as the AC answers them. -/
inductive AcPsp
  | online
  | other (id : Nat)
  deriving DecidableEq, Repr

/-- `spwr_ac_update_unlocked`: `ssam_bat_get_psrc` into `ac->state`. -/
def spwrAcUpdateUnlocked (r : Reply UInt32) (ac : Ac) : Reply Unit × Ac :=
  match r with
  | .ok state => (.ok (), { ac with state })
  | .error e => (.error e, ac)

def spwrAcUpdate : Reply UInt32 → Ac → Reply Unit × Ac := spwrAcUpdateUnlocked

def spwrNotifyAdapterAc (r : Reply UInt32) (ac : Ac) : Reply Unit × Ac :=
  match spwrAcUpdate r ac with
  | (.ok (), ac') => (.ok (), ac'.powerSupplyChanged)
  | (.error e, ac') => (.error e, ac')

def spwrNotifyAc (r : Reply UInt32) (event : Event) (ac : Ac) : Option (Reply Unit) × Ac :=
  -- AC has IID = 0
  if event.instanceId ≠ 0 then (none, ac)
  else if event.commandId = samEventPwrCidAdapter then
    let (status, ac') := spwrNotifyAdapterAc r ac
    (some status, ac')
  else (none, ac)

def spwrAcGetProperty (psp : AcPsp) (r : Reply UInt32) (ac : Ac) : Reply Propval × Ac :=
  match spwrAcUpdateUnlocked r ac with
  | (.error e, ac') => (.error e, ac')
  | (.ok (), ac') =>
    match psp with
    | .online => (.ok (.intval (if ac'.state = 1 then 1 else 0)), ac')
    | .other _ => (.error .inval, ac')

/-- The EC's and the kernel's answers during one `spwr_ac_register`. -/
structure AcRegisterReplies where
  sta : Reply UInt32
  psy : Reply Unit
  notif : Reply Unit

def spwrAcRegister (r : AcRegisterReplies) (ac : Ac) : Reply Unit × Ac :=
  -- make sure the device is there and functioning properly
  match r.sta with
  | .error e => (.error e, ac)
  | .ok sta =>
    if sta &&& samBatteryStaOk != samBatteryStaOk then (.error .nodev, ac) else
    let ac := { ac with lock := true }
    match r.psy with
    | .error e => (.error e, ac.mutexDestroy)
    | .ok () =>
      let ac := { ac with psy := true }
      match r.notif with
      | .error e => (.error e, ac.powerSupplyUnregister.mutexDestroy)
      | .ok () => (.ok (), { ac with notif := true })

def spwrAcUnregister (ac : Ac) : Reply Unit × Ac :=
  (.ok (), ac.ssamNotifierUnregister.powerSupplyUnregister.mutexDestroy)

/-- `surface_sam_sid_ac_probe`: bind to the EC, allocate a zeroed device, register it. -/
def surfaceSamSidAcProbe (bind : Reply Unit) (alloc : Bool) (r : AcRegisterReplies) : Reply Unit × Ac :=
  match bind with
  | .error e => (.error (if e.code = - ENXIO then ⟨-EPROBE_DEFER, by decide⟩ else e), .zero)
  | .ok () => if !alloc then (.error ⟨-ENOMEM, by decide⟩, .zero) else spwrAcRegister r .zero

def surfaceSamSidAcRemove : Ac → Reply Unit × Ac := spwrAcUnregister

/-! ## The module

`surface_sam_sid_power_init` registers the battery's platform driver and then the AC's,
and unregisters the battery's again when the AC's fails; `surface_sam_sid_power_exit`
unregisters both. The kernel runs `exit` only for a module whose `init` returned 0. -/

inductive PowerDriver
  | battery
  | ac
  deriving DecidableEq, Repr

/-- Which of the two platform drivers are registered, and whether an unregistration found
its driver not registered. -/
structure Drivers where
  registered : PowerDriver → Bool
  misuse : Bool

def platformDriverRegister (drv : PowerDriver) (d : Drivers) : Drivers :=
  { d with registered := Function.update d.registered drv true }

def platformDriverUnregister (drv : PowerDriver) (d : Drivers) : Drivers :=
  ⟨Function.update d.registered drv false, d.misuse || !d.registered drv⟩

/-- `surface_sam_sid_power_init`, with the outcome of each `platform_driver_register`. -/
def surfaceSamSidPowerInit (battery ac : Reply Unit) (d : Drivers) : Reply Unit × Drivers :=
  match battery with
  | .error e => (.error e, d)
  | .ok () =>
    let d := platformDriverRegister .battery d
    match ac with
    | .error e => (.error e, platformDriverUnregister .battery d)
    | .ok () => (.ok (), platformDriverRegister .ac d)

def surfaceSamSidPowerExit (d : Drivers) : Drivers :=
  platformDriverUnregister .ac (platformDriverUnregister .battery d)

end SurfaceAggregator.Power
