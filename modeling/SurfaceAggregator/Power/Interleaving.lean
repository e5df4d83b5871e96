import SurfaceAggregator.Power.Lifecycle

/-! Registration and teardown interleaved with EC events and the work item.

`spwr_battery_register` and `spwr_battery_unregister` run as threads of atomic steps,
one kernel call each; between two steps the notifier may handle an event (while it is
registered) and `update_work` may run (while it is pending). Each handler and each run of
the work function is atomic, so the work is never observed mid-run, and
`cancel_delayed_work_sync` leaves it neither pending nor running. Run alone, each thread
is the routine it splits (`spwrBatteryRegisterThread_eval`, `spwrBatteryUnregisterThread_eval`).
-/

set_option autoImplicit false

namespace SurfaceAggregator.Power

open BatM

/-- A thread of the driver as the atomic steps it has left; each step's outcome picks the
rest. -/
inductive Thread
  | done (status : Reply Unit)
  | step (act : BatM Unit) (next : Reply Unit → Thread)

/-- Steps whose outcomes the thread ignores, then `status`: a teardown, or the cleanup
below a `goto` label. -/
def Thread.seq : List (BatM Unit) → Reply Unit → Thread
  | [], status => .done status
  | act :: acts, status => .step act fun _ => seq acts status

/-- The thread run alone. -/
def Thread.eval : Thread → BatM Unit
  | .done status => lift status
  | .step act next => fun bat => (next (act bat).1).eval (act bat).2

def Thread.finished : Thread → Bool
  | .done _ => true
  | .step .. => false

def spwrBatteryRegisterThread (jiffies : Nat) (r : RegisterReplies) : Thread :=
  .step (spwrBatteryRegisterSetup jiffies r) fun
  | .error e => .done (.error e)
  | .ok () => .step (powerSupplyRegister r.psy) fun
    | .error e => .seq [mutexDestroy] (.error e)
    | .ok () => .step (ssamNotifierRegister r.notif) fun
      | .error e => .seq [powerSupplyUnregister, mutexDestroy] (.error e)
      | .ok () => .step (deviceCreateFile r.file) fun
        | .error e => .seq [ssamNotifierUnregister, powerSupplyUnregister, mutexDestroy] (.error e)
        | .ok () => .done (.ok ())

def unregisterSteps : List (BatM Unit) :=
  [ssamNotifierUnregister, cancelDelayedWorkSync, deviceRemoveFile, powerSupplyUnregister, mutexDestroy]

def spwrBatteryUnregisterThread : Thread := .seq unregisterSteps (.ok ())

/-! ## The threads refine the routines -/

@[simp] theorem Thread.eval_done (status : Reply Unit) (bat : Battery) :
    (Thread.done status).eval bat = (status, bat) := rfl

@[simp] theorem Thread.eval_step (act : BatM Unit) (next : Reply Unit → Thread) (bat : Battery) :
    (Thread.step act next).eval bat = (next (act bat).1).eval (act bat).2 := rfl

theorem Thread.seq_eval (acts : List (BatM Unit)) (status : Reply Unit) (bat : Battery) :
    (Thread.seq acts status).eval bat = (status, acts.foldl (fun b act => (act b).2) bat) := by
  induction acts generalizing bat with
  | nil => rfl
  | cons act acts ih => exact ih _

theorem spwrBatteryUnregisterThread_eval : spwrBatteryUnregisterThread.eval = spwrBatteryUnregister := by
  funext bat
  rw [spwrBatteryUnregisterThread, Thread.seq_eval]
  rfl

/-- Run alone, the register thread is `spwr_battery_register`. -/
theorem spwrBatteryRegisterThread_eval (jiffies : Nat) (r : RegisterReplies) :
    (spwrBatteryRegisterThread jiffies r).eval = spwrBatteryRegister jiffies r := by
  funext bat
  obtain ⟨sta, update, btp, psy, notif, file⟩ := r
  simp only [spwrBatteryRegisterThread, spwrBatteryRegister, Thread.eval_step, bind_apply]
  rcases spwrBatteryRegisterSetup jiffies _ bat with ⟨_ | _, bat₁⟩
  · rfl
  · cases psy <;> [rfl; skip]
    cases notif <;> [rfl; skip]
    cases file <;> rfl

/-! ## Interleaved runs -/

/-- The battery with one driver thread in flight. -/
structure Conc where
  bat : Battery
  thread : Thread

/-- What runs next: the thread's next step, the notifier on an EC event, or the work. -/
inductive Turn
  | thread
  | event (e : Event) (jiffies : Nat) (r : RecheckReplies)
  | work (jiffies : Nat) (r : UpdateReplies)

section
variable (p : BatteryProperties) (cfg : Config)

def Conc.step (c : Conc) : Turn → Option Conc
  | .thread =>
    match c.thread with
    | .done _ => none
    | .step act next => some ⟨(act c.bat).2, next (act c.bat).1⟩
  | .event e jiffies r =>
    if c.bat.notif then some { c with bat := (spwrNotifyBat p cfg jiffies r e c.bat).2 } else none
  | .work jiffies r =>
    if c.bat.workPending then
      some { c with bat := (spwrBatteryUpdateBstWorkfn cfg jiffies r { c.bat with workPending := false }).2 }
    else none

def Conc.run : Conc → List Turn → Option Conc
  | c, [] => some c
  | c, turn :: turns => (c.step p cfg turn).bind fun c' => c'.run turns

variable {p cfg}

/-! ## The teardown cancels the work for good -/

/-- The work function changes neither the notifier nor the objects. -/
theorem spwrBatteryUpdateBstWorkfn_objects (jiffies : Nat) (r : UpdateReplies) (bat : Battery) :
    let after := (spwrBatteryUpdateBstWorkfn cfg jiffies r bat).2
    after.notif = bat.notif ∧ after.alarmFile = bat.alarmFile ∧ after.psy = bat.psy ∧
      after.lock = bat.lock ∧ after.workPending = bat.workPending := by
  have stable : CacheStable fun b => b.notif = bat.notif ∧ b.alarmFile = bat.alarmFile ∧
      b.psy = bat.psy ∧ b.lock = bat.lock ∧ b.workPending = bat.workPending :=
    ⟨fun _ _ => id, fun _ _ => id, fun _ _ => id, fun _ _ => id, fun _ _ _ => id, fun _ _ => id⟩
  have keeps : Keeps _ (spwrBatteryUpdateBstWorkfn cfg jiffies r) :=
    .bind (spwrBatteryUpdateBstUnlocked_keeps stable) fun _ => .modify fun _ => id
  exact keeps bat ⟨rfl, rfl, rfl, rfl, rfl⟩

/-- After `k` steps of `spwr_battery_unregister`: what those steps released stays released,
and once cancelled the work stays off the queue. -/
def TeardownAt (k : Nat) (c : Conc) : Prop :=
  k ≤ 5 ∧ c.thread = .seq (unregisterSteps.drop k) (.ok ()) ∧
    (1 ≤ k → c.bat.notif = false) ∧ (2 ≤ k → c.bat.workPending = false) ∧
    (3 ≤ k → c.bat.alarmFile = false) ∧ (4 ≤ k → c.bat.psy = false) ∧ (5 ≤ k → c.bat.lock = false)

theorem TeardownAt.thread_step {k : Nat} {c c' : Conc} (stage : TeardownAt k c)
    (stepped : c.step p cfg .thread = some c') : TeardownAt (k + 1) c' := by
  obtain ⟨le, thread, notif, pending, file, psy, lock⟩ := stage
  simp only [Conc.step, thread] at stepped
  rcases k with _ | _ | _ | _ | _ | _ | k <;>
    simp only [unregisterSteps, List.drop, Thread.seq, Option.some.injEq] at stepped <;>
    cases stepped
  all_goals
    refine ⟨by omega, rfl, ?_⟩
    simp_all [TeardownAt, ssamNotifierUnregister, cancelDelayedWorkSync, deviceRemoveFile,
      powerSupplyUnregister, mutexDestroy]

theorem TeardownAt.step {k : Nat} {c c' : Conc} {turn : Turn} (stage : TeardownAt k c)
    (stepped : c.step p cfg turn = some c') : ∃ k', TeardownAt k' c' := by
  cases turn with
  | thread => exact ⟨k + 1, stage.thread_step stepped⟩
  | event e jiffies r =>
    simp only [Conc.step] at stepped
    split at stepped
    · cases stepped
      obtain ⟨le, thread, notif, -⟩ := stage
      have first : k = 0 := by by_contra; simp_all [Nat.one_le_iff_ne_zero]
      subst first
      exact ⟨0, le, thread, by simp⟩
    · cases stepped
  | work jiffies r =>
    simp only [Conc.step] at stepped
    split at stepped
    · cases stepped
      obtain ⟨le, thread, notif, pending, file, psy, lock⟩ := stage
      obtain ⟨notif', file', psy', lock', pending'⟩ := @spwrBatteryUpdateBstWorkfn_objects cfg jiffies r
        { c.bat with workPending := false }
      exact ⟨k, le, thread, fun past => notif'.trans (notif past), fun _ => pending',
        fun past => file'.trans (file past), fun past => psy'.trans (psy past), fun past => lock'.trans (lock past)⟩
    · cases stepped

theorem TeardownAt.run {k : Nat} {c c' : Conc} {turns : List Turn} (stage : TeardownAt k c)
    (ran : c.run p cfg turns = some c') : ∃ k', TeardownAt k' c' := by
  induction turns generalizing k c with
  | nil => cases ran; exact ⟨k, stage⟩
  | cons turn turns ih =>
    simp only [Conc.run, Option.bind_eq_some] at ran
    obtain ⟨c₁, stepped, rest⟩ := ran
    obtain ⟨k₁, stage₁⟩ := stage.step stepped
    exact ih stage₁ rest

/-- Whatever interleaves with teardown, it returns with no work pending and all objects released. -/
theorem spwrBatteryUnregisterThread_cancels_work (bat : Battery) (turns : List Turn) {c : Conc}
    (ran : Conc.run p cfg ⟨bat, spwrBatteryUnregisterThread⟩ turns = some c)
    (finished : c.thread.finished = true) :
    c.bat.workPending = false ∧ c.bat.notif = false ∧ c.bat.alarmFile = false ∧ c.bat.psy = false ∧
      c.bat.lock = false := by
  obtain ⟨k, le, thread, notif, pending, file, psy, lock⟩ :=
    (show TeardownAt 0 ⟨bat, spwrBatteryUnregisterThread⟩ by simp [TeardownAt, spwrBatteryUnregisterThread]).run ran
  have last : k = 5 := by
    rw [thread] at finished
    rcases k with _ | _ | _ | _ | _ | _ | k <;> simp_all [unregisterSteps, Thread.seq, Thread.finished]
  subst last
  exact ⟨pending (by omega), notif (by omega), file (by omega), psy (by omega), lock (by omega)⟩

/-- An adapter event schedules the work on a bound, full battery just before its teardown
starts; the teardown then runs to its end. -/
def adapterThenTeardown : List Turn :=
  .event ⟨samEventPwrCidAdapter, 0, 0⟩ 2 (recheckAnswers 0x1f 0 (registerAnswers 0x1f 0)) :: List.replicate 5 .thread

/-- The teardown cancels the work the event scheduled. -/
theorem unregisterThread_cancels_scheduled_work :
    ∃ c, Conc.run bat1 x86Config ⟨(probePresent.apply bat1 x86Config .init).bat, spwrBatteryUnregisterThread⟩
        adapterThenTeardown = some c ∧ c.thread.finished = true ∧
      (c.bat.workPending = false ∧ c.bat.notif = false ∧ c.bat.alarmFile = false ∧ c.bat.psy = false ∧
        c.bat.lock = false) :=
  ⟨_, rfl, rfl, spwrBatteryUnregisterThread_cancels_work (probePresent.apply bat1 x86Config .init).bat
    adapterThenTeardown rfl rfl⟩

/-! ## The error path of `device_create_file` -/

/-- A registration whose `device_create_file` fails with `-ENOMEM`. -/
def fileFails : RegisterReplies := { registerAnswers 0x1f 0 with file := .error ⟨-ENOMEM, by decide⟩ }

/-- The thread registers the power supply and the notifier; an adapter event arrives; the
thread then fails to create the alarm file and unwinds through `err_file`. -/
def adapterBeforeFileFails : List Turn :=
  [.thread, .thread, .thread, .event ⟨samEventPwrCidAdapter, 0, 0⟩ 2 (recheckAnswers 0x1f 0 (registerAnswers 0x1f 0)),
   .thread, .thread, .thread, .thread]

/-- The error path of registration returns with the work pending on a released power supply. -/
theorem register_error_path_leaves_work_pending :
    ∃ c, Conc.run bat1 x86Config ⟨.zero, spwrBatteryRegisterThread 1 fileFails⟩ adapterBeforeFileFails = some c ∧
      c.thread.finished = true ∧ c.bat.psy = false ∧ c.bat.lock = false ∧ c.bat.workPending = true ∧
      c.bat.misuse = false ∧
      ∃ c', c.step bat1 x86Config (.work 5001 (answersFor 0x1f 0)) = some c' ∧ c'.bat.misuse = true :=
  ⟨_, rfl, by decide, by decide, by decide, by decide, by decide, _, rfl, by decide⟩

end

end SurfaceAggregator.Power
