import SurfaceAggregator.Power.Lifecycle

/-! The kernel objects of a battery over whole runs.

`spwr_battery_register` creates the power supply, the notifier and the alarm file, in
that order, and its error paths release exactly the ones it created, each once;
`spwr_battery_unregister` releases all three. So a bound battery holds all of them or
none. A `spwr_battery_recheck` that returns 0 leaves a battery that held everything
holding everything; one that fails in its re-registration leaves it holding nothing,
the state from which `remove` releases every object a second time.
-/

set_option autoImplicit false

namespace SurfaceAggregator.Power

open BatM

/-- The battery holds its power supply, its notifier and its alarm file. -/
def Battery.HoldsAll (bat : Battery) : Prop := bat.psy = true ∧ bat.notif = true ∧ bat.alarmFile = true

/-- The battery holds none of them. -/
def Battery.HoldsNone (bat : Battery) : Prop := bat.psy = false ∧ bat.notif = false ∧ bat.alarmFile = false

/-- The objects and the record of misuse, as the cache routines leave them. -/
def SameObjects (bat b : Battery) : Prop :=
  b.psy = bat.psy ∧ b.notif = bat.notif ∧ b.alarmFile = bat.alarmFile ∧ b.misuse = bat.misuse

theorem sameObjects_cacheStable (bat : Battery) : CacheStable (SameObjects bat) :=
  ⟨fun _ _ => id, fun _ _ => id, fun _ _ => id, fun _ _ => id, fun _ _ _ => id, fun _ _ => id⟩

theorem SameObjects.holdsAll {bat b : Battery} (same : SameObjects bat b) (all : bat.HoldsAll) : b.HoldsAll := by
  obtain ⟨psy, notif, file, -⟩ := same
  simpa [Battery.HoldsAll, psy, notif, file] using all

theorem SameObjects.holdsNone {bat b : Battery} (same : SameObjects bat b) (none : bat.HoldsNone) : b.HoldsNone := by
  obtain ⟨psy, notif, file, -⟩ := same
  simpa [Battery.HoldsNone, psy, notif, file] using none

section
variable {jiffies : Nat}

theorem spwrBatteryRegisterSetup_objects (r : RegisterReplies) (bat : Battery) :
    SameObjects bat (spwrBatteryRegisterSetup jiffies r bat).2 :=
  spwrBatteryRegisterSetup_keeps (sameObjects_cacheStable bat) (fun _ => id) (fun _ => id) r bat
    ⟨rfl, rfl, rfl, rfl⟩

/-- Registration from nothing holds everything or, on an error, nothing, with no misuse. -/
theorem spwrBatteryRegister_objects (r : RegisterReplies) {bat : Battery} (none : bat.HoldsNone) :
    let out := spwrBatteryRegister jiffies r bat
    out.2.misuse = bat.misuse ∧ (out.1.isOk = true → out.2.HoldsAll) ∧
      (out.1.isOk = false → out.2.HoldsNone) := by
  have same := @spwrBatteryRegisterSetup_objects jiffies r bat
  obtain ⟨sta, update, btp, psy, notif, file⟩ := r
  simp only [spwrBatteryRegister, bind_apply]
  rcases out : spwrBatteryRegisterSetup jiffies ⟨sta, update, btp, psy, notif, file⟩ bat with
    ⟨_ | _, bat₁⟩ <;> rw [out] at same
  · exact ⟨same.2.2.2, nofun, fun _ => same.holdsNone none⟩
  · obtain ⟨psy₁, notif₁, file₁, misuse₁⟩ := same
    obtain ⟨psy₀, notif₀, file₀⟩ := none
    cases psy <;> [skip; cases notif <;> [skip; cases file]] <;>
      simp_all [BatM.unwind, Battery.HoldsAll, Battery.HoldsNone, powerSupplyRegister,
        ssamNotifierRegister, deviceCreateFile, errPsy, errNotif, errFile, powerSupplyUnregister,
        ssamNotifierUnregister, mutexDestroy, Except.isOk, Except.toBool]

/-- Teardown releases everything; a release of an object not held is a misuse. -/
theorem spwrBatteryUnregister_objects (bat : Battery) :
    (spwrBatteryUnregister bat).1 = .ok () ∧ (spwrBatteryUnregister bat).2.HoldsNone ∧
      (spwrBatteryUnregister bat).2.misuse = (bat.misuse || !bat.notif || !bat.psy) := by
  simp [spwrBatteryUnregister, ssamNotifierUnregister, cancelDelayedWorkSync, deviceRemoveFile,
    powerSupplyUnregister, mutexDestroy, Battery.HoldsNone]

/-- A re-add is a teardown and then a registration from nothing. -/
theorem reregister_objects (r : RegisterReplies) (bat : Battery) :
    let out := (spwrBatteryUnregister >>= fun _ => spwrBatteryRegister jiffies r) bat
    out.2.misuse = (bat.misuse || !bat.notif || !bat.psy) ∧ (out.1.isOk = true → out.2.HoldsAll) ∧
      (out.1.isOk = false → out.2.HoldsNone) := by
  obtain ⟨ok, none, misuse⟩ := spwrBatteryUnregister_objects bat
  dsimp only
  rw [bind_apply]
  rcases out : spwrBatteryUnregister bat with ⟨_ | _, b⟩ <;> rw [out] at ok none misuse
  · cases ok
  · obtain ⟨misuse₂, success, failure⟩ := @spwrBatteryRegister_objects jiffies r b none
    exact ⟨misuse₂.trans misuse, success, failure⟩

/-- What a recheck of a battery `bat` that holds everything ends in: no misuse, and
everything or nothing held, everything when it returns 0. -/
def RecheckObjects (bat : Battery) (status : Reply Unit) (after : Battery) : Prop :=
  after.misuse = bat.misuse ∧ (after.HoldsAll ∨ after.HoldsNone) ∧ (status.isOk = true → after.HoldsAll)

section
variable {bat : Battery} (all : bat.HoldsAll)
include all

theorem recheckObjects_of_same {b : Battery} (same : SameObjects bat b) (status : Reply Unit) :
    RecheckObjects bat status b :=
  ⟨same.2.2.2, .inl (same.holdsAll all), fun _ => same.holdsAll all⟩

theorem reregister_spec (r : RegisterReplies) :
    Spec (SameObjects bat) (spwrBatteryUnregister >>= fun _ => spwrBatteryRegister jiffies r)
      (RecheckObjects bat) := by
  rintro b ⟨psy, notif, -, clean⟩
  obtain ⟨psy₀, notif₀, -⟩ := all
  obtain ⟨misuse, success, failure⟩ := @reregister_objects jiffies r b
  refine ⟨by simp_all, ?_, success⟩
  cases h : ((spwrBatteryUnregister >>= fun _ => spwrBatteryRegister jiffies r) b).1.isOk
  exacts [.inr (failure h), .inl (success h)]

theorem spwrBatteryRecheck_spec (r : RecheckReplies) :
    Spec (SameObjects bat) (spwrBatteryRecheck jiffies r) (RecheckObjects bat) :=
  have stable := sameObjects_cacheStable bat
  have failed := fun e _ same => recheckObjects_of_same all same (.error e)
  .bind_keeps .get failed fun _ => .bind_keeps (spwrBatteryUpdateBixUnlocked_keeps stable) failed fun _ =>
    .bind_keeps .get failed fun _ =>
    .ite_bind_keeps (spwrBatterySetAlarmUnlocked_keeps stable _ _) (.pure _) failed fun _ =>
    .bind_keeps .get failed fun _ =>
    .ite (reregister_spec all _) fun _ same => recheckObjects_of_same all same _

end

/-! ## Over a run -/

/-- All of the battery's objects held, or none. -/
def Battery.Settled (bat : Battery) : Prop := bat.HoldsAll ∨ bat.HoldsNone

theorem holdsAll_handlerStable : HandlerStable Battery.HoldsAll :=
  ⟨⟨fun _ _ => id, fun _ _ => id, fun _ _ => id, fun _ _ => id, fun _ _ _ => id, fun _ _ => id⟩,
    fun _ _ => id, fun _ _ => id⟩

theorem holdsNone_handlerStable : HandlerStable Battery.HoldsNone :=
  ⟨⟨fun _ _ => id, fun _ _ => id, fun _ _ => id, fun _ _ => id, fun _ _ _ => id, fun _ _ => id⟩,
    fun _ _ => id, fun _ _ => id⟩

theorem settled_handlerStable : HandlerStable Battery.Settled :=
  ⟨⟨fun _ _ => id, fun _ _ => id, fun _ _ => id, fun _ _ => id, fun _ _ _ => id, fun _ _ => id⟩,
    fun _ _ => id, fun _ _ => id⟩

theorem settled_of_outcome {status : Reply Unit} {bat : Battery} (success : status.isOk = true → bat.HoldsAll)
    (failure : status.isOk = false → bat.HoldsNone) : bat.Settled := by
  cases h : status.isOk
  exacts [.inr (failure h), .inl (success h)]

theorem settled_reregister (r : RegisterReplies) :
    Keeps Battery.Settled (spwrBatteryUnregister >>= fun _ => spwrBatteryRegister jiffies r) :=
  fun bat _ => settled_of_outcome (reregister_objects r bat).2.1 (reregister_objects r bat).2.2

theorem surfaceSamSidBatteryProbe_objects (bind : Reply Unit) (alloc : Bool) (r : RegisterReplies) :
    let out := surfaceSamSidBatteryProbe bind alloc jiffies r
    (out.1.isOk = true → out.2.HoldsAll) ∧ (out.1.isOk = false → out.2.HoldsNone) := by
  have zero : Battery.zero.HoldsNone := ⟨rfl, rfl, rfl⟩
  unfold surfaceSamSidBatteryProbe
  split
  · exact ⟨nofun, fun _ => zero⟩
  · split
    exacts [⟨nofun, fun _ => zero⟩, (spwrBatteryRegister_objects r zero).2]

end

/-- A bound battery holds all its objects or none; an unbound one holds none. -/
def Sys.ObjectsSettled (s : Sys) : Prop := (s.bound = true → s.bat.Settled) ∧ (s.bound = false → s.bat.HoldsNone)

section
variable {p : BatteryProperties} {cfg : Config}

theorem Op.apply_objectsSettled {s : Sys} (settled : s.ObjectsSettled) :
    ∀ op : Op, op.enabled s = true → (op.apply p cfg s).ObjectsSettled
  | .probe bind alloc jiffies r, _ =>
    have outcome := @surfaceSamSidBatteryProbe_objects jiffies bind alloc r
    ⟨fun ok => .inl (outcome.1 ok), outcome.2⟩
  | .remove, _ => ⟨nofun, fun _ => (spwrBatteryUnregister_objects s.bat).2.1⟩
  | .resume .., bound => ⟨fun _ => spwrBatteryRecheck_keeps settled_handlerStable settled_reregister _ _
      (settled.1 bound), fun unbound => absurd (show s.bound = true from bound) (by simpa [Op.apply] using unbound)⟩
  | .event .., notif => by
    cases bound : s.bound
    · exact absurd notif (by simp [Op.enabled, (settled.2 bound).2.1])
    · exact ⟨fun _ => spwrNotifyBat_keeps settled_handlerStable settled_reregister _ _ _ (settled.1 bound),
        fun unbound => by simp [Op.apply, bound] at unbound⟩
  | .work .., _ => ⟨fun bound => spwrBatteryUpdateBstWorkfn_keeps settled_handlerStable _ (settled.1 bound),
      fun unbound => spwrBatteryUpdateBstWorkfn_keeps holdsNone_handlerStable _ (settled.2 unbound)⟩
  | .getProperty .., _ => ⟨fun bound => spwrBatteryGetProperty_keeps settled_handlerStable _ _ (settled.1 bound),
      fun unbound => spwrBatteryGetProperty_keeps holdsNone_handlerStable _ _ (settled.2 unbound)⟩
  | .alarmStore .., _ => ⟨fun bound => spwrBatteryAlarmStore_keeps settled_handlerStable _ _ _ _ (settled.1 bound),
      fun unbound => spwrBatteryAlarmStore_keeps holdsNone_handlerStable _ _ _ _ (settled.2 unbound)⟩

/-- A bound battery holds all its objects or none, and an unbound one none. -/
theorem Reachable.objectsSettled {s : Sys} (reach : Reachable p cfg s) : s.ObjectsSettled :=
  Reachable.invariant Sys.ObjectsSettled ⟨nofun, fun _ => ⟨rfl, rfl, rfl⟩⟩
    (fun _ op settled enabled => Op.apply_objectsSettled settled op enabled) reach

/-- A battery bound by a probe in which everything succeeds. -/
def probed : Sys := probePresent.apply bat1 x86Config .init

theorem Battery.HoldsAll.not_holdsNone {bat : Battery} (all : bat.HoldsAll) : ¬ bat.HoldsNone := by
  rintro ⟨psy, -⟩
  simp [all.1] at psy

/-- A BIX event whose recheck returns 0 keeps every object held. -/
theorem spwrNotifyBix_objects {jiffies : Nat} {r : RecheckReplies} {bat : Battery} (all : bat.HoldsAll)
    (ok : (spwrBatteryRecheck jiffies r bat).1.isOk = true) : (spwrNotifyBix jiffies r bat).2.HoldsAll := by
  have post := @spwrBatteryRecheck_spec jiffies bat all r bat ⟨rfl, rfl, rfl, rfl⟩
  simp only [spwrNotifyBix, bind_apply]
  rcases out : spwrBatteryRecheck jiffies r bat with ⟨_ | _, b⟩ <;> rw [out] at post ok
  · cases ok
  · exact powerSupplyChanged_keeps holdsAll_handlerStable b (post.2.2 rfl)

/-- Only a resume or a BIX event whose recheck failed leaves a bound battery holding nothing. -/
theorem holdsNone_only_after_failed_recheck {s : Sys} (all : s.bat.HoldsAll) {op : Op}
    (enabled : op.enabled s = true) (bound : (op.apply p cfg s).bound = true)
    (none : (op.apply p cfg s).bat.HoldsNone) :
    ∃ jiffies r, (spwrBatteryRecheck jiffies r s.bat).1.isOk = false ∧
      (op = .resume jiffies r ∨ op = .event ⟨samEventPwrCidBix, p.inst, p.channel⟩ jiffies r) := by
  cases op with
  | probe bind alloc jiffies r =>
    exact absurd none ((surfaceSamSidBatteryProbe_objects bind alloc r).1 bound).not_holdsNone
  | remove => simp [Op.apply] at bound
  | resume jiffies r =>
    exact ⟨jiffies, r, Bool.eq_false_iff.mpr fun ok =>
      ((spwrBatteryRecheck_spec all r s.bat ⟨rfl, rfl, rfl, rfl⟩).2.2 ok).not_holdsNone none, .inl rfl⟩
  | event e jiffies r =>
    simp only [Op.apply, spwrNotifyBat, handled] at none
    split_ifs at none with adapter channel inst bix bst
    · exact absurd none (spwrNotifyAdapterBat_keeps holdsAll_handlerStable s.bat all).not_holdsNone
    · exact absurd none all.not_holdsNone
    · exact absurd none all.not_holdsNone
    · refine ⟨jiffies, r, Bool.eq_false_iff.mpr fun ok => (spwrNotifyBix_objects all ok).not_holdsNone none,
        .inr ?_⟩
      cases e
      simp_all
    · exact absurd none (spwrNotifyBst_keeps holdsAll_handlerStable s.bat all).not_holdsNone
    · exact absurd none all.not_holdsNone
  | work jiffies r =>
    exact absurd none
      (spwrBatteryUpdateBstWorkfn_keeps holdsAll_handlerStable { s.bat with workPending := false } all).not_holdsNone
  | getProperty psp jiffies r =>
    exact absurd none (spwrBatteryGetProperty_keeps holdsAll_handlerStable _ _ all).not_holdsNone
  | alarmStore count parsed r =>
    exact absurd none (spwrBatteryAlarmStore_keeps holdsAll_handlerStable _ _ _ _ all).not_holdsNone

end

/-- A resume whose re-registration fails leaves the battery bound and holding nothing. -/
theorem holdsNone_after_failed_reregistration :
    probed.bat.HoldsAll ∧ resumeUnitChangeFails.enabled probed = true ∧
      (resumeUnitChangeFails.apply bat1 x86Config probed).bound = true ∧
      (resumeUnitChangeFails.apply bat1 x86Config probed).bat.HoldsNone ∧
      ∃ jiffies r, (spwrBatteryRecheck jiffies r probed.bat).1.isOk = false ∧
        (resumeUnitChangeFails = .resume jiffies r ∨
          resumeUnitChangeFails = .event ⟨samEventPwrCidBix, bat1.inst, bat1.channel⟩ jiffies r) :=
  ⟨⟨rfl, rfl, rfl⟩, rfl, rfl, ⟨rfl, rfl, rfl⟩,
    @holdsNone_only_after_failed_recheck bat1 x86Config probed ⟨rfl, rfl, rfl⟩ _ rfl rfl ⟨rfl, rfl, rfl⟩⟩

/-! ## The work item -/

/-- The work item is pending only while the notifier is registered. -/
def Battery.WorkArmed (bat : Battery) : Prop := bat.workPending = true → bat.notif = true

/-- The work item is not pending. -/
def Battery.WorkIdle (bat : Battery) : Prop := bat.workPending = false

theorem Battery.WorkIdle.workArmed {bat : Battery} (idle : bat.WorkIdle) : bat.WorkArmed :=
  fun pending => Bool.noConfusion (pending.symm.trans idle)

theorem workArmed_cacheStable : CacheStable Battery.WorkArmed :=
  ⟨fun _ _ => id, fun _ _ => id, fun _ _ => id, fun _ _ => id, fun _ _ _ => id, fun _ _ => id⟩

theorem workIdle_cacheStable : CacheStable Battery.WorkIdle :=
  ⟨fun _ _ => id, fun _ _ => id, fun _ _ => id, fun _ _ => id, fun _ _ _ => id, fun _ _ => id⟩

section
variable {jiffies : Nat}

/-- Registration sets the work item up and leaves it idle. -/
theorem spwrBatteryRegister_workIdle (r : RegisterReplies) : Keeps Battery.WorkIdle (spwrBatteryRegister jiffies r) :=
  .bind (spwrBatteryRegisterSetup_keeps workIdle_cacheStable (fun _ => id) (fun _ _ => rfl) r) fun _ =>
    .bind (.unwind (.register (by exact fun _ => id) _) (.modify fun _ => id)) fun _ =>
    .bind (.unwind (.register (by exact fun _ => id) _) (.bind (.modify fun _ => id) fun _ => .modify fun _ => id))
      fun _ =>
    .unwind (.register (by exact fun _ => id) _)
      (.bind (.modify fun _ => id) fun _ => .bind (.modify fun _ => id) fun _ => .modify fun _ => id)

/-- The teardown cancels the work item. -/
theorem spwrBatteryUnregister_workIdle (bat : Battery) : (spwrBatteryUnregister bat).2.WorkIdle := rfl

theorem reregister_workArmed (r : RegisterReplies) :
    Keeps Battery.WorkArmed (spwrBatteryUnregister >>= fun _ => spwrBatteryRegister jiffies r) :=
  fun bat _ => (spwrBatteryRegister_workIdle r _ (spwrBatteryUnregister_workIdle bat)).workArmed

theorem spwrBatteryRecheck_workArmed (r : RecheckReplies) : Keeps Battery.WorkArmed (spwrBatteryRecheck jiffies r) :=
  .bind .get fun _ => .bind (spwrBatteryUpdateBixUnlocked_keeps workArmed_cacheStable) fun _ => .bind .get fun _ =>
    .ite_bind (spwrBatterySetAlarmUnlocked_keeps workArmed_cacheStable _ _) (.pure _) fun _ =>
    .bind .get fun _ => .ite (reregister_workArmed _) (.pure _)

/-- The work function leaves an idle work item idle. -/
theorem spwrBatteryUpdateBstWorkfn_workIdle (cfg : Config) (r : UpdateReplies) :
    Keeps Battery.WorkIdle (spwrBatteryUpdateBstWorkfn cfg jiffies r) :=
  .bind (spwrBatteryUpdateBstUnlocked_keeps workIdle_cacheStable) fun _ => .modify fun _ => id

theorem spwrNotifyAdapterBat_notif (bat : Battery) : (spwrNotifyAdapterBat bat).2.notif = bat.notif := by
  simp only [spwrNotifyAdapterBat, bind_apply, get_apply]
  split_ifs <;> rfl

end

section
variable {p : BatteryProperties} {cfg : Config}

theorem Op.apply_workArmed {s : Sys} (armed : s.bat.WorkArmed) :
    ∀ op : Op, op.enabled s = true → (op.apply p cfg s).bat.WorkArmed
  | .probe bind alloc jiffies r, _ => by
    show (surfaceSamSidBatteryProbe bind alloc jiffies r).2.WorkArmed
    have idle : Battery.zero.WorkIdle := rfl
    unfold surfaceSamSidBatteryProbe
    split
    · exact idle.workArmed
    · split
      exacts [idle.workArmed, (spwrBatteryRegister_workIdle r _ idle).workArmed]
  | .remove, _ => (spwrBatteryUnregister_workIdle s.bat).workArmed
  | .resume .., _ => spwrBatteryRecheck_workArmed _ _ armed
  | .event e jiffies r, notif => by
    show (spwrNotifyBat p cfg jiffies r e s.bat).2.WorkArmed
    unfold spwrNotifyBat
    split_ifs
    · exact fun _ => (spwrNotifyAdapterBat_notif s.bat).trans notif
    · exact armed
    · exact armed
    · exact (Keeps.bind (spwrBatteryRecheck_workArmed r) fun _ => .modify fun _ => id :
        Keeps _ (spwrNotifyBix jiffies r)) s.bat armed
    · exact (Keeps.bind (spwrBatteryUpdateBstUnlocked_keeps workArmed_cacheStable) fun _ => .modify fun _ => id :
        Keeps _ (spwrNotifyBst cfg jiffies r.update)) s.bat armed
    · exact armed
  | .work jiffies r, _ => (spwrBatteryUpdateBstWorkfn_workIdle cfg r { s.bat with workPending := false } rfl).workArmed
  | .getProperty psp jiffies r, _ =>
    (Keeps.bind (spwrBatteryUpdateBstUnlocked_keeps workArmed_cacheStable) fun _ => .bind .get fun _ =>
      .ite_bind (.throw _) (.pure _) fun _ => .lift _ : Keeps _ (spwrBatteryGetProperty cfg jiffies r psp)) s.bat armed
  | .alarmStore count parsed r, _ =>
    (Keeps.bind (.lift _) fun _ => .bind .get fun _ => .ite_bind (.throw _) (.pure _) fun _ =>
      .bind (spwrBatterySetAlarmUnlocked_keeps workArmed_cacheStable _ _) fun _ => .pure _ :
      Keeps _ (spwrBatteryAlarmStore count parsed r)) s.bat armed

theorem Reachable.workArmed {s : Sys} (reach : Reachable p cfg s) : s.bat.WorkArmed :=
  Reachable.invariant (fun s => s.bat.WorkArmed) nofun
    (fun _ op armed enabled => Op.apply_workArmed armed op enabled) reach

/-- The work is pending only on a battery holding all its objects, so it runs without misuse. -/
theorem Reachable.work_finds_power_supply {s : Sys} (reach : Reachable p cfg s)
    (pending : s.bat.workPending = true) (jiffies : Nat) (r : UpdateReplies) :
    s.bound = true ∧ s.bat.HoldsAll ∧ ((Op.work jiffies r).apply p cfg s).bat.misuse = s.bat.misuse := by
  have notif : s.bat.notif = true := reach.workArmed pending
  have all : s.bound = true ∧ s.bat.HoldsAll := by
    obtain ⟨bound, unbound⟩ := reach.objectsSettled
    cases b : s.bound
    · exact absurd notif (by simp [(unbound b).2.1])
    · rcases bound b with all | none
      · exact ⟨rfl, all⟩
      · exact absurd notif (by simp [none.2.1])
  refine ⟨all.1, all.2, ?_⟩
  have same := @spwrBatteryUpdateBstUnlocked_keeps _ (sameObjects_cacheStable { s.bat with workPending := false })
    cfg jiffies r false _ ⟨rfl, rfl, rfl, rfl⟩
  simp only [Op.apply, spwrBatteryUpdateBstWorkfn, spwrBatteryUpdateBst, bind_apply]
  rcases out : spwrBatteryUpdateBstUnlocked cfg jiffies r false { s.bat with workPending := false } with
    ⟨_ | _, b⟩ <;> rw [out] at same <;> obtain ⟨psy, -, -, misuse⟩ := same
  · exact misuse
  · have held : b.psy = true := psy.trans all.2.1
    have kept : b.misuse = s.bat.misuse := misuse
    simp [powerSupplyChanged, held, kept]

end

/-- An adapter event on the probed battery, whose `_BST` shows it full. -/
def adapterFull : Op := .event ⟨samEventPwrCidAdapter, 0, 0⟩ 2 (recheckAnswers 0x1f 0 (registerAnswers 0x1f 0))

/-- The work an adapter event schedules on the probed battery runs without misuse. -/
theorem work_finds_power_supply_after_adapter_event :
    Reachable bat1 x86Config (adapterFull.apply bat1 x86Config probed) ∧
      (adapterFull.apply bat1 x86Config probed).bat.workPending = true ∧
      (adapterFull.apply bat1 x86Config probed).bound = true ∧
      (adapterFull.apply bat1 x86Config probed).bat.HoldsAll ∧
      ((Op.work 3 (answersFor 0x1f 0)).apply bat1 x86Config (adapterFull.apply bat1 x86Config probed)).bat.misuse =
        (adapterFull.apply bat1 x86Config probed).bat.misuse :=
  have reach : Reachable bat1 x86Config (adapterFull.apply bat1 x86Config probed) :=
    (Reachable.init.apply probePresent rfl).apply adapterFull rfl
  ⟨reach, rfl, Reachable.work_finds_power_supply reach rfl 3 (answersFor 0x1f 0)⟩

end SurfaceAggregator.Power
