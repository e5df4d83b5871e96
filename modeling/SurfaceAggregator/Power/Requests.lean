import SurfaceAggregator.Power.Updates

/-! The order of the requests the battery driver sends to the EC.

`spwr_battery_load_bix` and `spwr_battery_load_bst` send their request only when the
`sta` the update has just loaded shows the battery present, and both update routines load
`sta` first; no other code sends `_BIX` or `_BST`. So in the log of every run a `_BIX`
request comes right after a `_STA` request, and a `_BST` request right after a `_STA` or a
`_BIX` request, whatever the EC and the kernel answer (`Reachable.sent_logOrdered`).
-/

set_option autoImplicit false

namespace SurfaceAggregator.Power

open BatM

/-- Whether `rq` may come right after `prev`, which is `none` at the start of the log: a
`_BIX` request only after a `_STA` request, a `_BST` request only after a `_STA` or a
`_BIX` request, any other request after anything. -/
def Request.mayFollow : Option Request → Request → Bool
  | some .getSta, .getBix => true
  | some .getSta, .getBst | some .getBix, .getBst => true
  | _, .getBix | _, .getBst => false
  | _, _ => true

/-- Every request of `log` may follow the one before it, the first one `prev`. -/
def logOrdered : Option Request → List Request → Bool
  | _, [] => true
  | prev, rq :: log => Request.mayFollow prev rq && logOrdered (some rq) log

/-- A log that is ordered from its start may follow any request. -/
theorem logOrdered_of_none {log : List Request} (ordered : logOrdered none log = true) (prev : Option Request) :
    logOrdered prev log = true := by
  cases log with
  | nil => rfl
  | cons rq log => cases rq <;> simp_all [logOrdered, Request.mayFollow]

/-- Appending a log that is ordered from its start keeps a log ordered. -/
theorem logOrdered_append {log : List Request} :
    ∀ {prev : Option Request} {chunk : List Request}, logOrdered prev log = true → logOrdered none chunk = true →
      logOrdered prev (log ++ chunk) = true := by
  induction log with
  | nil => exact fun _ next => logOrdered_of_none next _
  | cons rq log ih =>
    intro prev chunk ordered next
    simp only [List.cons_append, logOrdered, Bool.and_eq_true] at ordered ⊢
    exact ⟨ordered.1, ih ordered.2 next⟩

/-- The device's log of EC requests is ordered. -/
def LogOrdered (bat : Battery) : Prop := logOrdered none bat.sent = true

/-! ## The updates -/

section
variable {bat : Battery} (ordered : LogOrdered bat)
include ordered

theorem LogOrdered.append {chunk : List Request} (next : logOrdered none chunk = true) :
    logOrdered none (bat.sent ++ chunk) = true :=
  logOrdered_append ordered next

/-- An update of `bix` sends `_STA`, then `_BIX` and `_BST` while the battery is present. -/
theorem spwrBatteryUpdateBixUnlocked_logOrdered (jiffies : Nat) (r : UpdateReplies) :
    LogOrdered (spwrBatteryUpdateBixUnlocked jiffies r bat).2 := by
  unfold LogOrdered spwrBatteryUpdateBixUnlocked
  obtain ⟨_ | sta, bix, bst⟩ := r
  · simpa [spwrBatteryLoadSta_apply] using ordered.append (show logOrdered none [.getSta] = true from rfl)
  · by_cases present : (sta &&& samBatteryStaPresent != 0) = true <;> cases bix <;> cases bst <;>
      simp [spwrBatteryLoadSta_apply, spwrBatteryLoadBix_apply, spwrBatteryLoadBst_apply, spwrBatteryPresent,
        present] <;>
      exact ordered.append rfl

/-- A reloading update of `bst` sends `_STA`, then `_BST` while the battery is present. -/
theorem spwrBatteryUpdateBstUnlocked_logOrdered (cfg : Config) (jiffies : Nat) (r : UpdateReplies)
    (cached : Bool) : LogOrdered (spwrBatteryUpdateBstUnlocked cfg jiffies r cached bat).2 := by
  cases stale : (cached && cacheFresh cfg jiffies bat)
  · rw [spwrBatteryUpdateBstUnlocked_reload bat cfg jiffies r stale]
    unfold LogOrdered
    obtain ⟨_ | sta, bix, bst⟩ := r
    · simpa [spwrBatteryLoadSta_apply] using ordered.append (show logOrdered none [.getSta] = true from rfl)
    · by_cases present : (sta &&& samBatteryStaPresent != 0) = true <;> cases bst <;>
        simp [spwrBatteryLoadSta_apply, spwrBatteryLoadBst_apply, spwrBatteryPresent, present] <;>
        exact ordered.append rfl
  · obtain ⟨rfl, fresh⟩ : cached = true ∧ cacheFresh cfg jiffies bat = true := by simpa using stale
    rw [spwrBatteryUpdateBstUnlocked_of_fresh bat cfg jiffies r fresh]
    exact ordered

end

theorem logOrdered_updateStable : UpdateStable LogOrdered fun _ _ => True where
  updateBst cfg jiffies r cached _ bat ordered := spwrBatteryUpdateBstUnlocked_logOrdered ordered cfg jiffies r cached
  updateBix jiffies r _ bat ordered := spwrBatteryUpdateBixUnlocked_logOrdered ordered jiffies r
  getSta _ ordered := ordered.append rfl
  alarm _ _ ordered := ordered.append rfl
  frame bat bat' _ _ _ sent ordered := by
    unfold LogOrdered
    rw [sent]
    exact ordered

/-- In every run each `_BIX` request follows a `_STA`, and each `_BST` a `_STA` or a `_BIX`. -/
theorem Reachable.sent_logOrdered {p : BatteryProperties} {cfg : Config} {s : Sys} (reach : Reachable p cfg s) :
    logOrdered none s.bat.sent = true :=
  logOrdered_updateStable.reachableBy rfl reach.reachableBy

/-- The log after a probe of a present battery and a BST event. -/
theorem sent_logOrdered_after_bst_event :
    Reachable bat1 x86Config (bstAttach.apply bat1 x86Config (probePresent.apply bat1 x86Config .init)) ∧
      (bstAttach.apply bat1 x86Config (probePresent.apply bat1 x86Config .init)).bat.sent =
        [.getSta, .getSta, .getBix, .getBst, .setBtp 0, .getSta, .getBst] ∧
      logOrdered none (bstAttach.apply bat1 x86Config (probePresent.apply bat1 x86Config .init)).bat.sent = true :=
  have reach := (Reachable.init.apply probePresent rfl).apply bstAttach rfl
  ⟨reach, rfl, Reachable.sent_logOrdered reach⟩

end SurfaceAggregator.Power
