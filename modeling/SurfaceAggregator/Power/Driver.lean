import SurfaceAggregator.Power.Property

/-! Registration, teardown and event handling of the battery driver.

`spwr_battery_register` unwinds its error paths through the labels `err_file`,
`err_notif` and `err_psy`; `spwr_battery_recheck` re-registers the battery when the power
unit changed; the notifier dispatches EC events, and an adapter event schedules
`update_work`. The platform-driver entry points `probe`, `remove` and `resume` wrap these.
-/

set_option autoImplicit false

namespace SurfaceAggregator.Power

open BatM

def samEventPwrCidBix : UInt8 := 0x15
def samEventPwrCidBst : UInt8 := 0x16
def samEventPwrCidAdapter : UInt8 := 0x17

/-- `goto label`: on an error, run the cleanup of `label` and return the error. -/
def BatM.unwind (x : BatM Unit) (cleanup : BatM Unit) : BatM Unit := fun bat =>
  match x bat with
  | (.ok (), bat') => (.ok (), bat')
  | (.error e, bat') => (.error e, (cleanup bat').2)

/-- `INIT_DELAYED_WORK`: the work item starts out not pending. -/
def initDelayedWork : BatM Unit := modify fun bat => { bat with workPending := false }

/-- `power_supply_changed(bat->psy)` uses the power supply. -/
def powerSupplyChanged : BatM Unit := modify fun bat => { bat with misuse := bat.misuse || !bat.psy }

/-- The EC's and the kernel's answers during one `spwr_battery_register`. -/
structure RegisterReplies where
  sta : Reply UInt32
  update : UpdateReplies
  btp : Reply Unit
  psy : Reply Unit
  notif : Reply Unit
  file : Reply Unit

/-- The answers during one `spwr_battery_recheck`, including a re-registration. -/
structure RecheckReplies where
  update : UpdateReplies
  btp : Reply Unit
  register : RegisterReplies

def errPsy : BatM Unit := mutexDestroy

def errNotif : BatM Unit := do
  powerSupplyUnregister
  errPsy

def errFile : BatM Unit := do
  ssamNotifierUnregister
  errNotif

/-- `spwr_battery_register` up to `INIT_DELAYED_WORK`, before the battery is published to
the power-supply class and the EC: no other thread can reach it yet. -/
def spwrBatteryRegisterSetup (jiffies : Nat) (r : RegisterReplies) : BatM Unit := do
  -- make sure the device is there and functioning properly
  let sta ← ssamBatGetSta r.sta
  if sta &&& samBatteryStaOk != samBatteryStaOk then throw .nodev else
  spwrBatteryUpdateBixUnlocked jiffies r.update
  let bat ← get
  if spwrBatteryPresent bat then spwrBatterySetAlarmUnlocked bat.bix.designCapWarn r.btp else pure ()
  mutexInit
  initDelayedWork

def spwrBatteryRegister (jiffies : Nat) (r : RegisterReplies) : BatM Unit := do
  spwrBatteryRegisterSetup jiffies r
  unwind (powerSupplyRegister r.psy) errPsy
  unwind (ssamNotifierRegister r.notif) errNotif
  unwind (deviceCreateFile r.file) errFile

def spwrBatteryUnregister : BatM Unit := do
  ssamNotifierUnregister
  cancelDelayedWorkSync
  deviceRemoveFile
  powerSupplyUnregister
  mutexDestroy

def spwrBatteryRecheck (jiffies : Nat) (r : RecheckReplies) : BatM Unit := do
  let bat ← get
  let present := spwrBatteryPresent bat
  let unit := bat.bix.powerUnit
  spwrBatteryUpdateBix jiffies r.update
  -- if battery has been attached, (re-)initialize alarm
  let bat ← get
  if !present && spwrBatteryPresent bat then spwrBatterySetAlarm bat.bix.designCapWarn r.btp
  else pure ()
  -- if the unit has changed, re-add the battery
  if unit != (← get).bix.powerUnit then
    spwrBatteryUnregister
    spwrBatteryRegister jiffies r.register
  else pure ()

def spwrNotifyBix (jiffies : Nat) (r : RecheckReplies) : BatM Unit := do
  spwrBatteryRecheck jiffies r
  powerSupplyChanged

def spwrNotifyBst (cfg : Config) (jiffies : Nat) (r : UpdateReplies) : BatM Unit := do
  spwrBatteryUpdateBst cfg jiffies r false
  powerSupplyChanged

def spwrNotifyAdapterBat : BatM Unit := do
  let bat ← get
  if bat.bst.remainingCap ≥ bat.bix.lastFullChargeCap then scheduleDelayedWork else pure ()

/-- The fields of `struct ssam_event` the notifier reads. -/
structure Event where
  commandId : UInt8
  instanceId : UInt8
  channel : UInt8
  deriving DecidableEq, Repr

/-- The fields of `struct ssam_battery_properties` the notifier reads. -/
structure BatteryProperties where
  channel : UInt8
  inst : UInt8
  deriving DecidableEq, Repr

/-- A notifier outcome: `none` when the event is left to other notifiers (the return
value `0`), else the status folded into `SSAM_NOTIF_HANDLED`. -/
def handled (outcome : Reply Unit × Battery) : Option (Reply Unit) × Battery :=
  (some outcome.1, outcome.2)

def spwrNotifyBat (p : BatteryProperties) (cfg : Config) (jiffies : Nat) (r : RecheckReplies)
    (event : Event) (bat : Battery) : Option (Reply Unit) × Battery :=
  -- handled here, needs to be handled for all channels/instances
  if event.commandId = samEventPwrCidAdapter then handled (spwrNotifyAdapterBat bat)
  -- check for the correct channel and instance ID
  else if event.channel ≠ p.channel then (none, bat)
  else if event.instanceId ≠ p.inst then (none, bat)
  else if event.commandId = samEventPwrCidBix then handled (spwrNotifyBix jiffies r bat)
  else if event.commandId = samEventPwrCidBst then handled (spwrNotifyBst cfg jiffies r.update bat)
  else (none, bat)

/-- `spwr_battery_update_bst_workfn`, once the work item was taken off the queue. -/
def spwrBatteryUpdateBstWorkfn (cfg : Config) (jiffies : Nat) (r : UpdateReplies) : BatM Unit := do
  spwrBatteryUpdateBst cfg jiffies r false
  powerSupplyChanged

/-- `surface_sam_sid_battery_probe`: bind to the EC, allocate a zeroed device, register it. -/
def surfaceSamSidBatteryProbe (bind : Reply Unit) (alloc : Bool) (jiffies : Nat)
    (r : RegisterReplies) : Reply Unit × Battery :=
  match bind with
  | .error e => (.error (if e.code = - ENXIO then ⟨-EPROBE_DEFER, by decide⟩ else e), .zero)
  | .ok () => if !alloc then (.error ⟨-ENOMEM, by decide⟩, .zero)
    else spwrBatteryRegister jiffies r .zero

def surfaceSamSidBatteryRemove : BatM Unit := spwrBatteryUnregister

def surfaceSamSidBatteryResume : Nat → RecheckReplies → BatM Unit := spwrBatteryRecheck

end SurfaceAggregator.Power
