import SurfaceAggregator.Power.Driver

/-! Invariants of the driver's routines.

`Keeps inv x` says that a routine ends in a battery satisfying `inv` whenever it starts
in one, whichever way it returns. It composes along `>>=`, `if` and the `goto` unwinding,
so the invariant of a routine follows the routine's own text. The cache routines keep
every `CacheStable` invariant. The one proved for every routine is that `bat->alarm` is
the argument of the last `set_btp` request sent: the alarm is stored before the request,
whatever the EC answers.
-/

set_option autoImplicit false

namespace SurfaceAggregator.Power

open BatM

/-- A routine keeps `inv`: from a battery satisfying it, it ends in one satisfying it,
also when it fails. -/
def Keeps (inv : Battery → Prop) {α : Type} (x : BatM α) : Prop := ∀ bat, inv bat → inv (x bat).2

section
variable {inv : Battery → Prop} {α β : Type}

theorem Keeps.pure (a : α) : Keeps inv (Pure.pure a : BatM α) := fun _ kept => kept

theorem Keeps.get : Keeps inv BatM.get := fun _ kept => kept

theorem Keeps.throw (e : Errno) : Keeps inv (BatM.throw e : BatM α) := fun _ kept => kept

theorem Keeps.lift (r : Reply α) : Keeps inv (BatM.lift r) := fun _ kept => kept

theorem Keeps.modify {f : Battery → Battery} (step : ∀ bat, inv bat → inv (f bat)) :
    Keeps inv (BatM.modify f) := step

theorem Keeps.bind {x : BatM α} {f : α → BatM β} (first : Keeps inv x) (rest : ∀ a, Keeps inv (f a)) :
    Keeps inv (x >>= f) := by
  intro bat kept
  rw [bind_apply]
  rcases out : x bat with ⟨_ | a, bat'⟩ <;>
    have := first bat kept <;> rw [out] at this
  exacts [this, rest a bat' this]

theorem Keeps.ite {c : Prop} [Decidable c] {x y : BatM α} (yes : Keeps inv x) (no : Keeps inv y) :
    Keeps inv (if c then x else y) := by
  split <;> assumption

/-- An `if` statement followed by `rest`, compiled to a join point shared by both branches. -/
theorem Keeps.ite_bind {c : Prop} [Decidable c] {x y : BatM α} {rest : α → BatM β} (yes : Keeps inv x)
    (no : Keeps inv y) (after : ∀ a, Keeps inv (rest a)) :
    Keeps inv (if c then x >>= rest else y >>= rest) :=
  .ite (.bind yes after) (.bind no after)

theorem Keeps.unwind {x cleanup : BatM Unit} (body : Keeps inv x) (undo : Keeps inv cleanup) :
    Keeps inv (BatM.unwind x cleanup) := by
  intro bat kept
  unfold BatM.unwind
  rcases out : x bat with ⟨_ | _, bat'⟩ <;>
    have := body bat kept <;> rw [out] at this
  exacts [undo bat' this, this]

theorem Keeps.register {hold : Battery → Battery} (step : ∀ bat, inv bat → inv (hold bat))
    (r : Reply Unit) : Keeps inv (Power.register hold r) := by
  cases r
  exacts [.throw _, .modify step]

/-- A routine started in `pre` ends in `post` of its outcome. -/
def Spec (pre : Battery → Prop) (x : BatM α) (post : Reply α → Battery → Prop) : Prop :=
  ∀ bat, pre bat → post (x bat).1 (x bat).2

variable {post : Reply β → Battery → Prop}

/-- A prefix that keeps `inv`, and whose errors already satisfy `post`, then a rest. -/
theorem Spec.bind_keeps {x : BatM α} {f : α → BatM β} (first : Keeps inv x)
    (failed : ∀ e bat, inv bat → post (.error e) bat) (rest : ∀ a, Spec inv (f a) post) :
    Spec inv (x >>= f) post := by
  intro bat kept
  rw [bind_apply]
  rcases out : x bat with ⟨_ | a, bat'⟩ <;>
    have := first bat kept <;> rw [out] at this
  exacts [failed _ _ this, rest a bat' this]

theorem Spec.ite {c : Prop} [Decidable c] {x y : BatM β} (yes : Spec inv x post) (no : Spec inv y post) :
    Spec inv (if c then x else y) post := by
  split <;> assumption

/-- `Keeps.ite_bind` for a rest with a postcondition. -/
theorem Spec.ite_bind_keeps {c : Prop} [Decidable c] {x y : BatM α} {rest : α → BatM β}
    (yes : Keeps inv x) (no : Keeps inv y) (failed : ∀ e bat, inv bat → post (.error e) bat)
    (after : ∀ a, Spec inv (rest a) post) : Spec inv (if c then x >>= rest else y >>= rest) post :=
  .ite (.bind_keeps yes failed after) (.bind_keeps no failed after)

end

/-! ## The cache routines -/

/-- The alarm after a request: an alarm write sets it. -/
def Request.alarmAfter (alarm : UInt32) : Request → UInt32
  | .setBtp value => value
  | _ => alarm

/-- What an invariant needs for the cache routines to keep it: it survives a new `sta`,
`bix`, `bst` or timestamp, a logged request other than an alarm write, and an alarm
write. -/
structure CacheStable (inv : Battery → Prop) : Prop where
  sta : ∀ bat v, inv bat → inv { bat with sta := v }
  bix : ∀ bat v, inv bat → inv { bat with bix := v }
  bst : ∀ bat v, inv bat → inv { bat with bst := v }
  timestamp : ∀ bat t, inv bat → inv { bat with timestamp := t }
  request : ∀ bat (rq : Request), (∀ a, rq.alarmAfter a = a) → inv bat →
    inv { bat with sent := bat.sent ++ [rq] }
  alarm : ∀ bat v, inv bat → inv (bat.withAlarm v)

/-- What an invariant needs, beyond `CacheStable`, for the event handlers, the work and the
attribute callbacks to keep it: it ignores the pending bit of the work item and the record
of misuse. -/
structure HandlerStable (inv : Battery → Prop) extends CacheStable inv : Prop where
  pending : ∀ bat v, inv bat → inv { bat with workPending := v }
  misuse : ∀ bat m, inv bat → inv { bat with misuse := m }

section
variable {inv : Battery → Prop} (stable : CacheStable inv) {cfg : Config} {jiffies : Nat}
  {r : UpdateReplies} {cached : Bool}
include stable

theorem ssamRequest_keeps {α : Type} (rq : Request) (other : ∀ a, rq.alarmAfter a = a) (reply : Reply α) :
    Keeps inv (ssamRequest rq reply) := fun bat kept => by
  simpa using stable.request bat rq other kept

theorem spwrBatterySetAlarmUnlocked_keeps (value : UInt32) (reply : Reply Unit) :
    Keeps inv (spwrBatterySetAlarmUnlocked value reply) := fun bat kept => by
  simpa [spwrBatterySetAlarmUnlocked_apply] using stable.alarm bat value kept

theorem spwrBatteryLoadSta_keeps (reply : Reply UInt32) : Keeps inv (spwrBatteryLoadSta reply) :=
  .bind (ssamRequest_keeps stable .getSta (fun _ => rfl) reply) fun _ => .modify (stable.sta · _)

theorem spwrBatteryLoadBix_keeps (reply : Reply Bix) : Keeps inv (spwrBatteryLoadBix reply) :=
  .bind .get fun _ => .ite (.pure _) <| .bind (.pure _) fun _ =>
    .bind (ssamRequest_keeps stable .getBix (fun _ => rfl) reply) fun _ => .modify (stable.bix · _)

theorem spwrBatteryLoadBst_keeps (reply : Reply Bst) : Keeps inv (spwrBatteryLoadBst reply) :=
  .bind .get fun _ => .ite (.pure _) <| .bind (.pure _) fun _ =>
    .bind (ssamRequest_keeps stable .getBst (fun _ => rfl) reply) fun _ => .modify (stable.bst · _)

theorem spwrBatteryUpdateBstUnlocked_keeps : Keeps inv (spwrBatteryUpdateBstUnlocked cfg jiffies r cached) :=
  .bind .get fun _ => .ite (.pure _) <| .bind (.pure _) fun _ =>
    .bind (spwrBatteryLoadSta_keeps stable _) fun _ => .bind (spwrBatteryLoadBst_keeps stable _) fun _ =>
    .modify (stable.timestamp · _)

theorem spwrBatteryUpdateBixUnlocked_keeps : Keeps inv (spwrBatteryUpdateBixUnlocked jiffies r) :=
  .bind (spwrBatteryLoadSta_keeps stable _) fun _ => .bind (spwrBatteryLoadBix_keeps stable _) fun _ =>
    .bind (spwrBatteryLoadBst_keeps stable _) fun _ => .modify (stable.timestamp · _)

/-- The setup of a registration also initialises the lock and the work item. -/
theorem spwrBatteryRegisterSetup_keeps (lock : ∀ bat, inv bat → inv { bat with lock := true })
    (work : ∀ bat, inv bat → inv { bat with workPending := false }) (r : RegisterReplies) :
    Keeps inv (spwrBatteryRegisterSetup jiffies r) :=
  .bind (ssamRequest_keeps stable .getSta (fun _ => rfl) _) fun _ => .ite (.throw _) <|
    .bind (spwrBatteryUpdateBixUnlocked_keeps stable) fun _ => .bind .get fun _ =>
    .ite_bind (spwrBatterySetAlarmUnlocked_keeps stable _ _) (.pure _) fun _ =>
    .bind (.modify lock) fun _ => .modify work

end

/-! ## The handlers -/

section
variable {inv : Battery → Prop} (stable : HandlerStable inv) {cfg : Config} {jiffies : Nat}
  {r : UpdateReplies}
include stable

theorem powerSupplyChanged_keeps : Keeps inv powerSupplyChanged := .modify (stable.misuse · _)

theorem spwrNotifyAdapterBat_keeps : Keeps inv spwrNotifyAdapterBat :=
  .bind .get fun _ => .ite (.modify (stable.pending · _)) (.pure _)

theorem spwrNotifyBst_keeps : Keeps inv (spwrNotifyBst cfg jiffies r) :=
  .bind (spwrBatteryUpdateBstUnlocked_keeps stable.toCacheStable) fun _ => powerSupplyChanged_keeps stable

theorem spwrBatteryUpdateBstWorkfn_keeps : Keeps inv (spwrBatteryUpdateBstWorkfn cfg jiffies r) :=
  spwrNotifyBst_keeps stable

theorem spwrBatteryGetProperty_keeps (psp : Psp) : Keeps inv (spwrBatteryGetProperty cfg jiffies r psp) :=
  .bind (spwrBatteryUpdateBstUnlocked_keeps stable.toCacheStable) fun _ => .bind .get fun _ =>
    .ite_bind (.throw _) (.pure _) fun _ => .lift _

theorem spwrBatteryAlarmStore_keeps (count : Nat) (parsed : Reply Nat) (reply : Reply Unit) :
    Keeps inv (spwrBatteryAlarmStore count parsed reply) :=
  .bind (.lift _) fun _ => .bind .get fun _ => .ite_bind (.throw _) (.pure _) fun _ =>
    .bind (spwrBatterySetAlarmUnlocked_keeps stable.toCacheStable _ _) fun _ => .pure _

/-! A recheck may re-add the battery, and what that does to `inv` is its own question. -/

variable (reregister : ∀ r : RegisterReplies,
  Keeps inv (spwrBatteryUnregister >>= fun _ => spwrBatteryRegister jiffies r))
include reregister

theorem spwrBatteryRecheck_keeps (r : RecheckReplies) : Keeps inv (spwrBatteryRecheck jiffies r) :=
  .bind .get fun _ => .bind (spwrBatteryUpdateBixUnlocked_keeps stable.toCacheStable) fun _ =>
    .bind .get fun _ =>
    .ite_bind (spwrBatterySetAlarmUnlocked_keeps stable.toCacheStable _ _) (.pure _) fun _ =>
    .bind .get fun _ => .ite (reregister _) (.pure _)

theorem spwrNotifyBix_keeps (r : RecheckReplies) : Keeps inv (spwrNotifyBix jiffies r) :=
  .bind (spwrBatteryRecheck_keeps stable reregister r) fun _ => powerSupplyChanged_keeps stable

theorem spwrNotifyBat_keeps (p : BatteryProperties) (r : RecheckReplies) (event : Event)
    {bat : Battery} (kept : inv bat) : inv (spwrNotifyBat p cfg jiffies r event bat).2 := by
  unfold spwrNotifyBat
  split_ifs
  exacts [spwrNotifyAdapterBat_keeps stable bat kept, kept, kept,
    spwrNotifyBix_keeps stable reregister r bat kept, spwrNotifyBst_keeps stable bat kept, kept]

end

/-! ## The alarm follows the `set_btp` log -/

/-- The argument of the most recent `set_btp` request of a log, `0` before any. -/
def lastBtp (sent : List Request) : UInt32 := sent.foldl Request.alarmAfter 0

@[simp] theorem lastBtp_nil : lastBtp [] = 0 := rfl

@[simp] theorem lastBtp_append_singleton (sent : List Request) (rq : Request) :
    lastBtp (sent ++ [rq]) = rq.alarmAfter (lastBtp sent) := by
  simp [lastBtp]

/-- `bat->alarm` is the value of the last alarm write sent to the EC. -/
def AlarmLogged (bat : Battery) : Prop := bat.alarm = lastBtp bat.sent

theorem alarmLogged_zero : AlarmLogged Battery.zero := rfl

theorem alarmLogged_handlerStable : HandlerStable AlarmLogged where
  sta _ _ := id
  bix _ _ := id
  bst _ _ := id
  timestamp _ _ := id
  request bat rq other logged := by simpa [AlarmLogged, other] using logged
  alarm bat v _ := by simp [Battery.withAlarm, AlarmLogged, Request.alarmAfter]
  pending _ _ := id
  misuse _ _ := id

section
variable {jiffies : Nat}

theorem errNotif_keeps : Keeps AlarmLogged errNotif :=
  .bind (.modify fun _ => id) fun _ => .modify fun _ => id

theorem spwrBatteryRegister_keeps (r : RegisterReplies) :
    Keeps AlarmLogged (spwrBatteryRegister jiffies r) :=
  .bind (spwrBatteryRegisterSetup_keeps alarmLogged_handlerStable.toCacheStable (fun _ => id) (fun _ => id) r)
    fun _ =>
    .bind (.unwind (.register (by exact fun _ => id) _) (.modify fun _ => id)) fun _ =>
    .bind (.unwind (.register (by exact fun _ => id) _) errNotif_keeps) fun _ =>
    .unwind (.register (by exact fun _ => id) _) (.bind (.modify fun _ => id) fun _ => errNotif_keeps)

theorem spwrBatteryUnregister_keeps : Keeps AlarmLogged spwrBatteryUnregister :=
  .bind (.modify fun _ => id) fun _ => .bind (.modify fun _ => id) fun _ =>
    .bind (.modify fun _ => id) fun _ => .bind (.modify fun _ => id) fun _ => .modify fun _ => id

theorem alarmLogged_reregister (r : RegisterReplies) :
    Keeps AlarmLogged (spwrBatteryUnregister >>= fun _ => spwrBatteryRegister jiffies r) :=
  .bind spwrBatteryUnregister_keeps fun _ => spwrBatteryRegister_keeps r

end

end SurfaceAggregator.Power
