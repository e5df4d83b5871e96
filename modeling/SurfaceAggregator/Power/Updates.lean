import SurfaceAggregator.Power.Lifecycle

/-! Invariants that an update keeps only as a whole.

An update loads `sta`, then `bix` or `bst`, and stamps the cache last. Between two of its
loads the cache holds a `sta` newer than its `bst` and its timestamp, and the log ends in a
request whose answer is not stored yet. An invariant relating the cache to the EC, or
constraining the order of the requests, holds again only once the update returns; it is
not `CacheStable`. `UpdateStable` asks instead that each update keep it as a whole, for
the replies a run allows, and that it survive what the other routines do: a `_STA`
request, an alarm write, and any change of the rest of the device. Every routine then
keeps it, and so does every run whose updates get such replies (`UpdateStable.reachableBy`).
-/

set_option autoImplicit false

namespace SurfaceAggregator.Power

open BatM

/-- What an invariant needs for every routine to keep it, the updates taken as a whole:
each update keeps it when its replies are `answered` at its jiffies, and it survives a
`_STA` request, an alarm write, and every change that leaves `sta`, `bst`, the timestamp
and the log as they were. -/
structure UpdateStable (inv : Battery → Prop) (answered : Nat → UpdateReplies → Prop) : Prop where
  updateBst : ∀ cfg jiffies r cached, answered jiffies r →
    Keeps inv (spwrBatteryUpdateBstUnlocked cfg jiffies r cached)
  updateBix : ∀ jiffies r, answered jiffies r → Keeps inv (spwrBatteryUpdateBixUnlocked jiffies r)
  getSta : ∀ bat, inv bat → inv { bat with sent := bat.sent ++ [.getSta] }
  alarm : ∀ bat v, inv bat → inv (bat.withAlarm v)
  frame : ∀ bat bat', bat'.sta = bat.sta → bat'.bst = bat.bst → bat'.timestamp = bat.timestamp →
    bat'.sent = bat.sent → inv bat → inv bat'

/-- Every update that `op` may run gets replies that `answered` allows at the jiffies of
`op`; a re-registration inside a recheck runs at the same jiffies. -/
def Op.Answers (answered : Nat → UpdateReplies → Prop) : Op → Prop
  | .probe _ _ jiffies r => answered jiffies r.update
  | .remove | .alarmStore .. => True
  | .resume jiffies r | .event _ jiffies r => answered jiffies r.update ∧ answered jiffies r.register.update
  | .work jiffies r | .getProperty _ jiffies r => answered jiffies r

section
variable {inv : Battery → Prop} {answered : Nat → UpdateReplies → Prop} (s : UpdateStable inv answered)
  {jiffies : Nat}
include s

/-- A change of the objects, lock, work, misuse record, `bix` or alarm alone keeps the invariant. -/
theorem UpdateStable.apart {f : Battery → Battery}
    (apart : ∀ bat, (f bat).sta = bat.sta ∧ (f bat).bst = bat.bst ∧ (f bat).timestamp = bat.timestamp ∧
      (f bat).sent = bat.sent) (bat : Battery) (kept : inv bat) : inv (f bat) :=
  s.frame bat _ (apart bat).1 (apart bat).2.1 (apart bat).2.2.1 (apart bat).2.2.2 kept

theorem UpdateStable.keeps_modify {f : Battery → Battery}
    (apart : ∀ bat, (f bat).sta = bat.sta ∧ (f bat).bst = bat.bst ∧ (f bat).timestamp = bat.timestamp ∧
      (f bat).sent = bat.sent) : Keeps inv (BatM.modify f) :=
  .modify (s.apart apart)

theorem UpdateStable.ssamBatGetSta (reply : Reply UInt32) : Keeps inv (ssamBatGetSta reply) :=
  fun bat kept => by simpa [ssamBatGetSta] using s.getSta bat kept

theorem UpdateStable.setAlarm (value : UInt32) (reply : Reply Unit) :
    Keeps inv (spwrBatterySetAlarmUnlocked value reply) := fun bat kept => by
  simpa [spwrBatterySetAlarmUnlocked_apply] using s.alarm bat value kept

theorem UpdateStable.registerSetup {r : RegisterReplies} (ok : answered jiffies r.update) :
    Keeps inv (spwrBatteryRegisterSetup jiffies r) :=
  .bind (s.ssamBatGetSta _) fun _ => .ite (.throw _) <|
    .bind (s.updateBix _ _ ok) fun _ => .bind .get fun _ =>
    .ite_bind (s.setAlarm _ _) (.pure _) fun _ =>
    .bind (s.keeps_modify fun _ => ⟨rfl, rfl, rfl, rfl⟩) fun _ => s.keeps_modify fun _ => ⟨rfl, rfl, rfl, rfl⟩

theorem UpdateStable.errNotif : Keeps inv errNotif :=
  .bind (s.keeps_modify fun _ => ⟨rfl, rfl, rfl, rfl⟩) fun _ => s.keeps_modify fun _ => ⟨rfl, rfl, rfl, rfl⟩

theorem UpdateStable.register {r : RegisterReplies} (ok : answered jiffies r.update) :
    Keeps inv (spwrBatteryRegister jiffies r) :=
  .bind (s.registerSetup ok) fun _ =>
    .bind (.unwind (.register (by exact s.apart fun _ => ⟨rfl, rfl, rfl, rfl⟩) _)
      (s.keeps_modify fun _ => ⟨rfl, rfl, rfl, rfl⟩)) fun _ =>
    .bind (.unwind (.register (by exact s.apart fun _ => ⟨rfl, rfl, rfl, rfl⟩) _) s.errNotif) fun _ =>
    .unwind (.register (by exact s.apart fun _ => ⟨rfl, rfl, rfl, rfl⟩) _)
      (.bind (s.keeps_modify fun _ => ⟨rfl, rfl, rfl, rfl⟩) fun _ => s.errNotif)

theorem UpdateStable.unregister : Keeps inv spwrBatteryUnregister :=
  .bind (s.keeps_modify fun _ => ⟨rfl, rfl, rfl, rfl⟩) fun _ =>
    .bind (s.keeps_modify fun _ => ⟨rfl, rfl, rfl, rfl⟩) fun _ =>
    .bind (s.keeps_modify fun _ => ⟨rfl, rfl, rfl, rfl⟩) fun _ =>
    .bind (s.keeps_modify fun _ => ⟨rfl, rfl, rfl, rfl⟩) fun _ => s.keeps_modify fun _ => ⟨rfl, rfl, rfl, rfl⟩

theorem UpdateStable.recheck {r : RecheckReplies} (ok : answered jiffies r.update)
    (ok' : answered jiffies r.register.update) : Keeps inv (spwrBatteryRecheck jiffies r) :=
  .bind .get fun _ => .bind (s.updateBix _ _ ok) fun _ => .bind .get fun _ =>
    .ite_bind (s.setAlarm _ _) (.pure _) fun _ => .bind .get fun _ =>
    .ite (.bind s.unregister fun _ => s.register ok') (.pure _)

theorem UpdateStable.notifyBst (cfg : Config) {r : UpdateReplies} (ok : answered jiffies r) :
    Keeps inv (spwrNotifyBst cfg jiffies r) :=
  .bind (s.updateBst _ _ _ _ ok) fun _ => s.keeps_modify fun _ => ⟨rfl, rfl, rfl, rfl⟩

theorem UpdateStable.notifyBat (p : BatteryProperties) (cfg : Config) {r : RecheckReplies} (event : Event)
    (ok : answered jiffies r.update) (ok' : answered jiffies r.register.update) {bat : Battery}
    (kept : inv bat) : inv (spwrNotifyBat p cfg jiffies r event bat).2 := by
  have adapter : Keeps inv spwrNotifyAdapterBat :=
    .bind .get fun _ => .ite (s.keeps_modify fun _ => ⟨rfl, rfl, rfl, rfl⟩) (.pure _)
  have bix : Keeps inv (spwrNotifyBix jiffies r) :=
    .bind (s.recheck ok ok') fun _ => s.keeps_modify fun _ => ⟨rfl, rfl, rfl, rfl⟩
  unfold spwrNotifyBat
  split_ifs
  exacts [adapter bat kept, kept, kept, bix bat kept, s.notifyBst cfg ok bat kept, kept]

/-- A property read and an alarm store keep the invariant. -/
theorem UpdateStable.getProperty (cfg : Config) {r : UpdateReplies} (psp : Psp) (ok : answered jiffies r) :
    Keeps inv (spwrBatteryGetProperty cfg jiffies r psp) :=
  .bind (s.updateBst _ _ _ _ ok) fun _ => .bind .get fun _ => .ite_bind (.throw _) (.pure _) fun _ => .lift _

theorem UpdateStable.alarmStore (count : Nat) (parsed : Reply Nat) (reply : Reply Unit) :
    Keeps inv (spwrBatteryAlarmStore count parsed reply) :=
  .bind (.lift _) fun _ => .bind .get fun _ => .ite_bind (.throw _) (.pure _) fun _ =>
    .bind (s.setAlarm _ _) fun _ => .pure _

variable (zero : inv Battery.zero) {p : BatteryProperties} {cfg : Config}
include zero

/-- Every step whose updates are answered keeps the invariant. -/
theorem UpdateStable.apply {sys : Sys} {op : Op} (ok : op.Answers answered) (kept : inv sys.bat) :
    inv (op.apply p cfg sys).bat := by
  cases op with
  | probe bind alloc jiffies r =>
    show inv (surfaceSamSidBatteryProbe bind alloc jiffies r).2
    unfold surfaceSamSidBatteryProbe
    split
    · exact zero
    · split
      exacts [zero, s.register ok _ zero]
  | remove => exact s.unregister _ kept
  | resume jiffies r => exact s.recheck ok.1 ok.2 _ kept
  | event e jiffies r => exact s.notifyBat p cfg e ok.1 ok.2 kept
  | work jiffies r =>
    exact s.notifyBst cfg ok _ (s.frame sys.bat _ rfl rfl rfl rfl kept)
  | getProperty psp jiffies r => exact s.getProperty cfg psp ok _ kept
  | alarmStore count parsed r => exact s.alarmStore count parsed r _ kept

end

/-! ## Runs with answered updates -/

section
variable (p : BatteryProperties) (cfg : Config)

/-- The states of the runs in which every update gets replies that `answered` allows. -/
inductive ReachableBy (answered : Nat → UpdateReplies → Prop) : Sys → Prop
  | init : ReachableBy answered Sys.init
  | step {s s' : Sys} {op : Op} : ReachableBy answered s → op.Answers answered →
      s.step p cfg op = some s' → ReachableBy answered s'

variable {p cfg} {answered : Nat → UpdateReplies → Prop}

/-- A run with answered updates is a run of the driver. -/
theorem ReachableBy.reachable {s : Sys} (reach : ReachableBy p cfg answered s) : Reachable p cfg s := by
  induction reach with
  | init => exact .init
  | step _ _ stepped ih => exact ih.step stepped

/-- Every run of the driver is one whose updates get replies of any kind. -/
theorem Reachable.reachableBy {s : Sys} (reach : Reachable p cfg s) : ReachableBy p cfg (fun _ _ => True) s := by
  induction reach with
  | init => exact .init
  | step _ stepped ih =>
    refine ih.step ?_ stepped
    rename_i op _
    cases op <;> first | exact trivial | exact And.intro trivial trivial

/-- An invariant of the zero device that answered updates keep holds along every run. -/
theorem UpdateStable.reachableBy {inv : Battery → Prop} (stable : UpdateStable inv answered)
    (zero : inv Battery.zero) {s : Sys} (reach : ReachableBy p cfg answered s) : inv s.bat := by
  induction reach with
  | init => exact zero
  | step _ ok stepped ih =>
    obtain ⟨-, rfl⟩ := Sys.step_eq_some.mp stepped
    exact stable.apply zero ok ih

end

end SurfaceAggregator.Power
