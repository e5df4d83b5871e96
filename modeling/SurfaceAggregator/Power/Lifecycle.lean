import SurfaceAggregator.Power.Keeps

/-! The battery driver over whole runs.

A run is any sequence of `probe`, `remove`, `resume`, EC events, executions of
`update_work`, `get_property` calls and alarm stores, each with any answers of the EC and
the kernel. An event reaches the driver only while its notifier is registered, the work
runs only while it is pending, and the power-supply and alarm callbacks only while their
objects exist. Each of these runs to completion before the next; the interleavings inside
`spwr_battery_register` are the subject of `Interleaving`.
-/

set_option autoImplicit false

namespace SurfaceAggregator.Power

/-- The driver on one platform device: whether `probe` bound it, and its device. -/
structure Sys where
  bound : Bool
  bat : Battery

def Sys.init : Sys := ⟨false, .zero⟩

/-- One thing that happens to the driver, with the answers it gets. -/
inductive Op
  | probe (bind : Reply Unit) (alloc : Bool) (jiffies : Nat) (r : RegisterReplies)
  | remove
  | resume (jiffies : Nat) (r : RecheckReplies)
  | event (event : Event) (jiffies : Nat) (r : RecheckReplies)
  | work (jiffies : Nat) (r : UpdateReplies)
  | getProperty (psp : Psp) (jiffies : Nat) (r : UpdateReplies)
  | alarmStore (count : Nat) (parsed : Reply Nat) (r : Reply Unit)

section
variable (p : BatteryProperties) (cfg : Config)

/-- Whether `op` can happen now. -/
def Op.enabled (s : Sys) : Op → Bool
  | .probe .. => !s.bound
  | .remove | .resume .. => s.bound
  | .event .. => s.bat.notif
  | .work .. => s.bat.workPending
  | .getProperty .. => s.bat.psy
  | .alarmStore .. => s.bat.alarmFile

/-- What `op` does. A failed probe leaves the device unbound; the work item is taken off
the queue before its function runs. -/
def Op.apply (s : Sys) : Op → Sys
  | .probe bind alloc jiffies r =>
    let (status, bat) := surfaceSamSidBatteryProbe bind alloc jiffies r
    ⟨status.isOk, bat⟩
  | .remove => ⟨false, (surfaceSamSidBatteryRemove s.bat).2⟩
  | .resume jiffies r => { s with bat := (surfaceSamSidBatteryResume jiffies r s.bat).2 }
  | .event e jiffies r => { s with bat := (spwrNotifyBat p cfg jiffies r e s.bat).2 }
  | .work jiffies r =>
    { s with bat := (spwrBatteryUpdateBstWorkfn cfg jiffies r { s.bat with workPending := false }).2 }
  | .getProperty psp jiffies r => { s with bat := (spwrBatteryGetProperty cfg jiffies r psp s.bat).2 }
  | .alarmStore count parsed r => { s with bat := (spwrBatteryAlarmStore count parsed r s.bat).2 }

def Sys.step (s : Sys) (op : Op) : Option Sys :=
  if op.enabled s then some (op.apply p cfg s) else none

def Sys.run : Sys → List Op → Option Sys
  | s, [] => some s
  | s, op :: ops => (s.step p cfg op).bind fun s' => s'.run ops

inductive Reachable : Sys → Prop
  | init : Reachable Sys.init
  | step {s s' : Sys} {op : Op} : Reachable s → s.step p cfg op = some s' → Reachable s'

variable {p cfg}

theorem Sys.step_eq_some {s s' : Sys} {op : Op} :
    s.step p cfg op = some s' ↔ op.enabled s = true ∧ op.apply p cfg s = s' := by
  unfold Sys.step
  split <;> simp_all

theorem Reachable.run {s s' : Sys} {ops : List Op} (start : Reachable p cfg s)
    (ran : s.run p cfg ops = some s') : Reachable p cfg s' := by
  induction ops generalizing s with
  | nil => cases ran; exact start
  | cons op ops ih =>
    simp only [Sys.run, Option.bind_eq_some] at ran
    obtain ⟨s₁, stepped, rest⟩ := ran
    exact ih (start.step stepped) rest

theorem Reachable.apply {s : Sys} (reach : Reachable p cfg s) (op : Op) (enabled : op.enabled s = true) :
    Reachable p cfg (op.apply p cfg s) :=
  reach.step (Sys.step_eq_some.mpr ⟨enabled, rfl⟩)

/-- An invariant that holds initially and that every step keeps holds of every reachable state. -/
theorem Reachable.invariant (inv : Sys → Prop) (init : inv Sys.init)
    (step : ∀ s (op : Op), inv s → op.enabled s = true → inv (op.apply p cfg s)) {s : Sys}
    (reach : Reachable p cfg s) : inv s := by
  induction reach with
  | init => exact init
  | step _ stepped ih =>
    obtain ⟨enabled, rfl⟩ := Sys.step_eq_some.mp stepped
    exact step _ _ ih enabled

/-- A trace of steps from the initial state ends in a reachable state where `q` holds. -/
theorem reachable_of_run {ops : List Op} {q : Sys → Bool} (ran : (Sys.init.run p cfg ops).map q = some true) :
    ∃ s, Reachable p cfg s ∧ q s = true := by
  cases out : Sys.init.run p cfg ops with
  | none => simp [out] at ran
  | some s =>
    simp only [out, Option.map_some', Option.some.injEq] at ran
    exact ⟨s, Reachable.init.run out, ran⟩

/-! ## The alarm over a run -/

theorem surfaceSamSidBatteryProbe_alarmLogged (bind : Reply Unit) (alloc : Bool) (jiffies : Nat)
    (r : RegisterReplies) : AlarmLogged (surfaceSamSidBatteryProbe bind alloc jiffies r).2 := by
  unfold surfaceSamSidBatteryProbe
  split
  · exact alarmLogged_zero
  · split
    exacts [alarmLogged_zero, spwrBatteryRegister_keeps r _ alarmLogged_zero]

theorem Op.apply_alarmLogged {s : Sys} (logged : AlarmLogged s.bat) :
    ∀ op : Op, AlarmLogged (op.apply p cfg s).bat
  | .probe .. => surfaceSamSidBatteryProbe_alarmLogged ..
  | .remove => spwrBatteryUnregister_keeps _ logged
  | .resume .. => spwrBatteryRecheck_keeps alarmLogged_handlerStable alarmLogged_reregister _ _ logged
  | .event .. => spwrNotifyBat_keeps alarmLogged_handlerStable alarmLogged_reregister _ _ _ logged
  | .work .. => spwrBatteryUpdateBstWorkfn_keeps alarmLogged_handlerStable _ logged
  | .getProperty .. => spwrBatteryGetProperty_keeps alarmLogged_handlerStable _ _ logged
  | .alarmStore .. => spwrBatteryAlarmStore_keeps alarmLogged_handlerStable _ _ _ _ logged

theorem Reachable.alarmLogged {s : Sys} (reach : Reachable p cfg s) : AlarmLogged s.bat :=
  Reachable.invariant (fun s => AlarmLogged s.bat) alarmLogged_zero
    (fun _ op logged _ => Op.apply_alarmLogged logged op) reach

/-- `bat->alarm` is the last `set_btp` argument sent, and `alarm` shows it times 1000 as a 32-bit
`%d`; a store writes `s / 1000` and returns `count` or the EC's error, or changes nothing. -/
theorem alarm_shows_last_alarm_write :
    (∀ p cfg (s : Sys), Reachable p cfg s → s.bat.alarm = lastBtp s.bat.sent ∧
      spwrBatteryAlarmShow s.bat = toString (wrap32 (1000 * (lastBtp s.bat.sent).toNat)) ++ "\n") ∧
    (∀ count value reply (bat : Battery), spwrBatteryPresent bat = true →
      spwrBatteryAlarmStore count (.ok value) reply bat =
        (reply.map fun _ => (count : Int), bat.withAlarm (UInt32.ofNat (value / 1000)))) ∧
    (∀ count (e : Errno) reply (bat : Battery), spwrBatteryAlarmStore count (.error e) reply bat = (.error e, bat)) ∧
    (∀ count value reply (bat : Battery), spwrBatteryPresent bat = false →
      spwrBatteryAlarmStore count (.ok value) reply bat = (.error .nodev, bat)) := by
  refine ⟨fun p cfg s reach => ?_, fun count value reply bat present => ?_,
    fun count e reply bat => spwrBatteryAlarmStore_apply count (.error e) reply bat, fun count value reply bat absent => ?_⟩
  · have logged : s.bat.alarm = lastBtp s.bat.sent := reach.alarmLogged
    exact ⟨logged, by rw [spwrBatteryAlarmShow_eq, logged]⟩
  all_goals simp [spwrBatteryAlarmStore_apply, *]

end

/-! ## Runs that break the driver's lifecycle -/

/-- The first battery, on channel 1 and instance 1. -/
def bat1 : BatteryProperties := ⟨1, 1⟩

/-- The EC's answers to an update: `sta`, a `_BIX` in power unit `unit`, a zero `_BST`. -/
def answersFor (sta unit : UInt32) : UpdateReplies :=
  ⟨.ok sta, .ok { Bix.zero with powerUnit := unit }, .ok .zero⟩

/-- A registration in which every EC request and every kernel call succeeds. -/
def registerAnswers (sta unit : UInt32) : RegisterReplies :=
  ⟨.ok sta, answersFor sta unit, .ok (), .ok (), .ok (), .ok ()⟩

def recheckAnswers (sta unit : UInt32) (reregister : RegisterReplies) : RecheckReplies :=
  ⟨answersFor sta unit, .ok (), reregister⟩

/-- A present battery in power unit 0, bound by a probe in which everything succeeds. -/
def probePresent : Op := .probe (.ok ()) true 1 (registerAnswers 0x1f 0)

/-- A store whose `set_btp` times out still changes the alarm, and `3000000000` shows negative. -/
theorem alarm_store_keeps_failed_write_and_wraps :
    ∃ s, Reachable bat1 x86Config s ∧ spwrBatteryAlarmShow s.bat = "0\n" ∧
      (spwrBatteryAlarmStore 5 (.ok 5000) (.error .timedOut) s.bat).1 = .error .timedOut ∧
      spwrBatteryAlarmShow (spwrBatteryAlarmStore 5 (.ok 5000) (.error .timedOut) s.bat).2 = "5000\n" ∧
      (spwrBatteryAlarmStore 11 (.ok 3000000000) (.ok ()) s.bat).1 = .ok 11 ∧
      spwrBatteryAlarmShow (spwrBatteryAlarmStore 11 (.ok 3000000000) (.ok ()) s.bat).2 = "-1294967296\n" :=
  ⟨_, Reachable.init.apply probePresent rfl, by decide, rfl, by decide, rfl, by decide⟩

theorem alarm_shows_last_alarm_write_after_probe :
    Reachable bat1 x86Config (probePresent.apply bat1 x86Config .init) ∧
      (probePresent.apply bat1 x86Config .init).bat.alarm = lastBtp (probePresent.apply bat1 x86Config .init).bat.sent ∧
      spwrBatteryAlarmShow (probePresent.apply bat1 x86Config .init).bat =
        toString (wrap32 (1000 * (lastBtp (probePresent.apply bat1 x86Config .init).bat.sent).toNat)) ++ "\n" :=
  ⟨Reachable.init.apply probePresent rfl,
    alarm_shows_last_alarm_write.1 bat1 x86Config _ (Reachable.init.apply probePresent rfl)⟩

/-- A resume sees the power unit change from 0 to 1 and re-registers the battery; the
re-registration's `get_sta` request times out. -/
def resumeUnitChangeFails : Op :=
  .resume 2 (recheckAnswers 0x1f 1 { registerAnswers 0x1f 1 with sta := .error .timedOut })

/-- After a failed resume, `remove` releases the notifier and the power supply a second time. -/
theorem remove_releases_objects_twice :
    ∃ s, Reachable bat1 x86Config s ∧ s.bound = true ∧ s.bat.notif = false ∧ s.bat.psy = false ∧
      s.bat.alarmFile = false ∧ s.bat.misuse = false ∧
      ∃ s', s.step bat1 x86Config .remove = some s' ∧ s'.bat.misuse = true := by
  obtain ⟨s, reach, holds⟩ := @reachable_of_run bat1 x86Config [probePresent, resumeUnitChangeFails]
    (fun s => s.bound && !s.bat.notif && !s.bat.psy && !s.bat.alarmFile && !s.bat.misuse &&
      (Op.remove.apply bat1 x86Config s).bat.misuse) (by decide)
  simp only [Bool.and_eq_true, Bool.not_eq_true'] at holds
  obtain ⟨⟨⟨⟨⟨bound, notif⟩, psy⟩, file⟩, clean⟩, misuse⟩ := holds
  exact ⟨s, reach, bound, notif, psy, file, clean, _, Sys.step_eq_some.mpr ⟨bound, rfl⟩, misuse⟩

/-- A BST event on channel 1, instance 1, whose update finds the battery present. -/
def bstAttach : Op := .event ⟨samEventPwrCidBst, 1, 1⟩ 2 (recheckAnswers 0x1f 0 (registerAnswers 0x1f 0))

/-- After a BST event saw the attach, a recheck returns 0 and no alarm write is ever sent. -/
theorem recheck_misses_attach_seen_by_bst_event :
    ∃ s, Reachable bat1 x86Config s ∧ spwrBatteryPresent s.bat = false ∧
      ∃ s', s.step bat1 x86Config bstAttach = some s' ∧ spwrBatteryPresent s'.bat = true ∧
        (spwrBatteryRecheck 3 (recheckAnswers 0x1f 0 (registerAnswers 0x1f 0)) s'.bat).1.isOk = true ∧
        spwrBatteryPresent (spwrBatteryRecheck 3 (recheckAnswers 0x1f 0 (registerAnswers 0x1f 0)) s'.bat).2 ∧
        ∀ v, Request.setBtp v ∉ (spwrBatteryRecheck 3 (recheckAnswers 0x1f 0 (registerAnswers 0x1f 0)) s'.bat).2.sent := by
  obtain ⟨s, reach, holds⟩ := @reachable_of_run bat1 x86Config [.probe (.ok ()) true 1 (registerAnswers 0x0f 0)]
    (fun s => !spwrBatteryPresent s.bat && s.bat.notif &&
      (let s' := bstAttach.apply bat1 x86Config s
       let after := spwrBatteryRecheck 3 (recheckAnswers 0x1f 0 (registerAnswers 0x1f 0)) s'.bat
       spwrBatteryPresent s'.bat && after.1.isOk && spwrBatteryPresent after.2 &&
         after.2.sent.all fun | .setBtp _ => false | _ => true)) (by decide)
  simp only [Bool.and_eq_true, Bool.not_eq_true', List.all_eq_true] at holds
  obtain ⟨⟨absent, notif⟩, ⟨⟨present, ok⟩, still⟩, none⟩ := holds
  exact ⟨s, reach, absent, _, Sys.step_eq_some.mpr ⟨notif, rfl⟩, present, ok, still,
    fun v sent => Bool.false_ne_true (none _ sent)⟩

/-! ## Strings of the EC's `_BIX` -/

/-- A `_BIX` whose `model`, `serial` and `oem_info` fill their fields with no NUL, whose
`type` is `LI-IO`, and whose `oem_info` starts with `first`. -/
def unterminatedBix (first : UInt8) : Bix :=
  { Bix.zero with
    model := .replicate 21 65, serial := .replicate 11 49, type := ⟨[76, 73, 45, 73, 79], rfl⟩,
    oemInfo := ⟨first :: List.replicate 20 77, rfl⟩ }

/-- A probe of a present battery that gets `unterminatedBix first` from the EC. -/
def probeUnterminated (first : UInt8) : Op :=
  .probe (.ok ()) true 1 { registerAnswers 0x1f 0 with update := { answersFor 0x1f 0 with bix := .ok (unterminatedBix first) } }

/-- Unterminated `_BIX` strings are handed out as is, and `LI-IO` reads a byte of `oem_info`. -/
theorem bix_strings_and_type_read_past_their_fields :
    ∃ s s', Reachable bat1 x86Config s ∧ Reachable bat1 x86Config s' ∧
      (spwrBatteryGetProperty x86Config 2 (answersFor 0x1f 0) .modelName s.bat).1 = .ok (.strval .model) ∧
      (spwrBatteryGetProperty x86Config 2 (answersFor 0x1f 0) .serialNumber s.bat).1 = .ok (.strval .serial) ∧
      (spwrBatteryGetProperty x86Config 2 (answersFor 0x1f 0) .manufacturer s.bat).1 = .ok (.strval .oemInfo) ∧
      (0 : UInt8) ∉ s.bat.bix.model.toList ∧ (0 : UInt8) ∉ s.bat.bix.serial.toList ∧
      (0 : UInt8) ∉ s.bat.bix.oemInfo.toList ∧
      s'.bat.bix.type = s.bat.bix.type ∧ s'.bat.bix.oemInfo.tail = s.bat.bix.oemInfo.tail ∧
      (spwrBatteryGetProperty x86Config 2 (answersFor 0x1f 0) .technology s.bat).1 = .ok (.technology .lion) ∧
      (spwrBatteryGetProperty x86Config 2 (answersFor 0x1f 0) .technology s'.bat).1 = .ok (.technology .unknown) :=
  ⟨_, _, Reachable.init.apply (probeUnterminated 78) rfl, Reachable.init.apply (probeUnterminated 88) rfl,
    rfl, rfl, rfl, by decide, by decide, by decide, rfl, rfl, rfl, rfl⟩

end SurfaceAggregator.Power
