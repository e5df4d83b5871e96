import SurfaceAggregator.Power.Updates

/-! The cache against the EC.

The EC holds the battery's `_STA`, `_BIX` and `_BST`, and they change over time. When the
EC answers every request of an update with what it holds at that moment, the cache holds,
in every reachable state, the `_STA` the EC held at the cache's timestamp, and its `_BST`
of then whenever that `_STA` shows the battery present (`ReachableBy.coherent`). Every
value `spwr_battery_get_property` reports is then computed from the EC's `_STA` and
`_BST` at the current jiffies, or at the cache's timestamp while the cache is fresh
(`spwrBatteryGetProperty_reports_ec_state`).

A failed request breaks this. An update whose `_STA` shows the battery present and whose
`_BST` request fails stores the new `_STA` and keeps the old `_BST` and timestamp; until
the window of that timestamp ends, the battery is served as present with a `_BST` loaded
before (`failed_bst_load_served_until_window_ends`), which after an attach is one the EC
never sent for this battery.
-/

set_option autoImplicit false

namespace SurfaceAggregator.Power

open BatM

/-- What the EC holds for the battery at one moment: its answers to `_STA`, `_BIX` and
`_BST`. -/
structure EcBattery where
  sta : UInt32
  bix : Bix
  bst : Bst

/-- The EC's answers to the requests of one update. -/
def EcBattery.replies (ec : EcBattery) : UpdateReplies := ⟨.ok ec.sta, .ok ec.bix, .ok ec.bst⟩

/-- The cache was loaded from the EC at `jiffies`: it is stamped `jiffies` and holds the
EC's `_STA` of then, and its `_BST` of then if that `_STA` shows the battery present. -/
def LoadedAt (ec : Nat → EcBattery) (jiffies : Nat) (bat : Battery) : Prop :=
  bat.timestamp = jiffies ∧ bat.sta = (ec jiffies).sta ∧
    (spwrBatteryPresent bat = true → bat.bst = (ec jiffies).bst)

/-- The cache holds what the EC held at the cache's timestamp, or nothing was loaded yet. -/
def Coherent (ec : Nat → EcBattery) (bat : Battery) : Prop :=
  LoadedAt ec bat.timestamp bat ∨ bat.timestamp = 0 ∧ bat.sta = 0

theorem LoadedAt.coherent {ec : Nat → EcBattery} {jiffies : Nat} {bat : Battery}
    (loaded : LoadedAt ec jiffies bat) : Coherent ec bat :=
  .inl (by rw [loaded.1]; exact loaded)

/-! ## Updates the EC answers -/

section
variable (ec : Nat → EcBattery) (jiffies : Nat) (bat : Battery)

/-- An update of `bix` that the EC answers succeeds and loads the cache at its jiffies. -/
theorem spwrBatteryUpdateBixUnlocked_answered :
    (spwrBatteryUpdateBixUnlocked jiffies (ec jiffies).replies bat).1 = .ok () ∧
      LoadedAt ec jiffies (spwrBatteryUpdateBixUnlocked jiffies (ec jiffies).replies bat).2 := by
  by_cases present : ((ec jiffies).sta &&& samBatteryStaPresent != 0) = true <;>
    simp [spwrBatteryUpdateBixUnlocked, spwrBatteryLoadSta_apply, spwrBatteryLoadBix_apply,
      spwrBatteryLoadBst_apply, EcBattery.replies, LoadedAt, spwrBatteryPresent, present]

/-- An answered update of `bst` serves a fresh cache, or loads it at its jiffies. -/
theorem spwrBatteryUpdateBstUnlocked_answered (cfg : Config) (cached : Bool) :
    (spwrBatteryUpdateBstUnlocked cfg jiffies (ec jiffies).replies cached bat).1 = .ok () ∧
      ((cached && cacheFresh cfg jiffies bat) = true ∧
          (spwrBatteryUpdateBstUnlocked cfg jiffies (ec jiffies).replies cached bat).2 = bat ∨
        LoadedAt ec jiffies (spwrBatteryUpdateBstUnlocked cfg jiffies (ec jiffies).replies cached bat).2) := by
  cases stale : (cached && cacheFresh cfg jiffies bat)
  · rw [spwrBatteryUpdateBstUnlocked_reload bat cfg jiffies _ stale]
    by_cases present : ((ec jiffies).sta &&& samBatteryStaPresent != 0) = true <;>
      simp [spwrBatteryLoadSta_apply, spwrBatteryLoadBst_apply, EcBattery.replies, LoadedAt,
        spwrBatteryPresent, present]
  · obtain ⟨rfl, fresh⟩ : cached = true ∧ cacheFresh cfg jiffies bat = true := by simpa using stale
    simp [spwrBatteryUpdateBstUnlocked_of_fresh bat cfg jiffies _ fresh]

end

/-- Coherence with the EC is kept by every update the EC answers, taken as a whole. -/
theorem coherent_updateStable (ec : Nat → EcBattery) :
    UpdateStable (Coherent ec) fun jiffies r => r = (ec jiffies).replies where
  updateBst cfg jiffies r cached answered bat kept := by
    subst answered
    rcases (spwrBatteryUpdateBstUnlocked_answered ec jiffies bat cfg cached).2 with ⟨-, served⟩ | loaded
    · rw [served]
      exact kept
    · exact loaded.coherent
  updateBix jiffies r answered bat _ := by
    subst answered
    exact (spwrBatteryUpdateBixUnlocked_answered ec jiffies bat).2.coherent
  getSta _ kept := kept
  alarm _ _ kept := kept
  frame bat bat' sta bst stamp _ kept := by
    simp only [Coherent, LoadedAt, spwrBatteryPresent, sta, bst, stamp] at kept ⊢
    exact kept

section
variable {p : BatteryProperties} {cfg : Config} {ec : Nat → EcBattery}

/-- While the EC answers with its state, the cache holds the EC's state at the cache's timestamp. -/
theorem ReachableBy.coherent {s : Sys} (reach : ReachableBy p cfg (fun jiffies r => r = (ec jiffies).replies) s) :
    Coherent ec s.bat :=
  (coherent_updateStable ec).reachableBy (.inr ⟨rfl, rfl⟩) reach

/-- While the EC answers with its state, `get_property` reports the EC's `_STA` and `_BST`. -/
theorem spwrBatteryGetProperty_reports_ec_state {s : Sys}
    (reach : ReachableBy p cfg (fun jiffies r => r = (ec jiffies).replies) s) {psp : Psp} {jiffies : Nat}
    {v : Propval} {bat' : Battery}
    (reported : spwrBatteryGetProperty cfg jiffies (ec jiffies).replies psp s.bat = (.ok v, bat')) :
    ∃ t, (t = jiffies ∨ t = s.bat.timestamp ∧ cacheFresh cfg jiffies s.bat = true) ∧
      propertyOf { bat' with sta := (ec t).sta, bst := (ec t).bst } psp = .ok v := by
  obtain ⟨read, answered, update⟩ := spwrBatteryGetProperty_ok reported
  have fromEc : ∀ t, LoadedAt ec t bat' →
      propertyOf { bat' with sta := (ec t).sta, bst := (ec t).bst } psp = .ok v := by
    rintro t ⟨-, sta, bst⟩
    rcases answered with present | rfl
    · rw [← sta, ← bst present]
      exact read
    · rw [← sta]
      exact read
  rcases (spwrBatteryUpdateBstUnlocked_answered ec jiffies s.bat cfg true).2 with ⟨fresh, served⟩ | loaded
  · have same : bat' = s.bat := by rw [update] at served; exact served
    have stamped : s.bat.timestamp ≠ 0 := by
      simp only [Bool.true_and, cacheFresh, Bool.and_eq_true, bne_iff_ne] at fresh
      exact fresh.1
    have loaded : LoadedAt ec s.bat.timestamp s.bat := reach.coherent.resolve_right fun zero => stamped zero.1
    exact ⟨s.bat.timestamp, .inr ⟨rfl, by simpa using fresh⟩, fromEc _ (same ▸ loaded)⟩
  · rw [update] at loaded
    exact ⟨jiffies, .inl rfl, fromEc _ loaded⟩

end

/-- An EC that holds a present battery at half charge, at every moment. -/
def steadyEc : Nat → EcBattery := fun _ => ⟨0x1f, { Bix.zero with lastFullChargeCap := 8000 }, ⟨0, 0, 4000, 0⟩⟩

/-- A probe at jiffies 1 whose updates the steady EC answers. -/
def probeSteady : Op := .probe (.ok ()) true 1 ⟨.ok 0x1f, (steadyEc 1).replies, .ok (), .ok (), .ok (), .ok ()⟩

/-- `CHARGE_NOW` read at jiffies 2 is served from the cache of jiffies 1. -/
theorem spwrBatteryGetProperty_reports_ec_state_after_probe :
    ReachableBy bat1 x86Config (fun jiffies r => r = (steadyEc jiffies).replies)
        (probeSteady.apply bat1 x86Config .init) ∧
      spwrBatteryGetProperty x86Config 2 (steadyEc 2).replies .chargeNow (probeSteady.apply bat1 x86Config .init).bat =
        (.ok (.intval 4000000), (probeSteady.apply bat1 x86Config .init).bat) ∧
      ∃ t, (t = 2 ∨ t = (probeSteady.apply bat1 x86Config .init).bat.timestamp ∧
          cacheFresh x86Config 2 (probeSteady.apply bat1 x86Config .init).bat = true) ∧
        propertyOf { (probeSteady.apply bat1 x86Config .init).bat with
          sta := (steadyEc t).sta, bst := (steadyEc t).bst } .chargeNow = .ok (.intval 4000000) :=
  have reach : ReachableBy bat1 x86Config (fun jiffies r => r = (steadyEc jiffies).replies)
      (probeSteady.apply bat1 x86Config .init) :=
    @ReachableBy.step bat1 x86Config _ _ _ probeSteady .init rfl (Sys.step_eq_some.mpr ⟨rfl, rfl⟩)
  have reported : spwrBatteryGetProperty x86Config 2 (steadyEc 2).replies .chargeNow
      (probeSteady.apply bat1 x86Config .init).bat =
      (.ok (.intval 4000000), (probeSteady.apply bat1 x86Config .init).bat) := by rfl
  ⟨reach, reported, spwrBatteryGetProperty_reports_ec_state reach reported⟩

/-! ## A failed `_BST` request -/

/-- A present battery whose `_BST` request fails stores its `_STA` and nothing else. -/
theorem spwrNotifyBst_of_failed_bst (cfg : Config) (jiffies : Nat) {sta : UInt32}
    (present : (sta &&& samBatteryStaPresent != 0) = true) (bix : Reply Bix) (e : Errno) (bat : Battery) :
    spwrNotifyBst cfg jiffies ⟨.ok sta, bix, .error e⟩ bat =
      (.error e, { bat with sent := bat.sent ++ [.getSta, .getBst], sta }) := by
  simp [spwrNotifyBst, spwrBatteryUpdateBst,
    spwrBatteryUpdateBstUnlocked_reload bat cfg jiffies _ (Bool.false_and _), spwrBatteryLoadSta_apply,
    spwrBatteryLoadBst_apply, spwrBatteryPresent, present]

/-- A fresh cache is served without a request. -/
theorem spwrBatteryGetProperty_of_fresh {cfg : Config} {jiffies : Nat} (r : UpdateReplies) {psp : Psp} {bat : Battery}
    (fresh : cacheFresh cfg jiffies bat = true) (answered : spwrBatteryPresent bat = true ∨ psp = .present) :
    spwrBatteryGetProperty cfg jiffies r psp bat = (propertyOf bat psp, bat) := by
  have kept : (!spwrBatteryPresent bat && psp != .present) = false := by
    rcases answered with present | rfl <;> simp [*]
  simp only [spwrBatteryGetProperty, bind_apply, spwrBatteryUpdateBstUnlocked_of_fresh bat cfg jiffies r fresh,
    get_apply, kept, Bool.false_eq_true, ite_false, lift_apply]

/-- After a failed `_BST` load, `get_property` serves the old `_BST` until the window ends. -/
theorem failed_bst_load_served_until_window_ends (cfg : Config) (jiffies : Nat) {sta : UInt32}
    (present : (sta &&& samBatteryStaPresent != 0) = true) (bix : Reply Bix) (e : Errno) {bat : Battery}
    {jiffies' : Nat} (fresh : cacheFresh cfg jiffies' bat = true) (r : UpdateReplies) (psp : Psp) :
    let after := (spwrNotifyBst cfg jiffies ⟨.ok sta, bix, .error e⟩ bat).2
    spwrBatteryPresent after = true ∧ after.bst = bat.bst ∧ after.timestamp = bat.timestamp ∧
      spwrBatteryGetProperty cfg jiffies' r psp after = (propertyOf after psp, after) := by
  rw [spwrNotifyBst_of_failed_bst cfg jiffies present bix e bat]
  exact ⟨present, rfl, rfl, spwrBatteryGetProperty_of_fresh r fresh (.inl present)⟩

/-- At attach a failed load leaves `CHARGE_NOW` reporting the zero `_BST` of allocation. -/
theorem failed_bst_load_served_at_attach :
    (0x1f &&& samBatteryStaPresent != 0) = true ∧
      cacheFresh x86Config 3 { Battery.zero with timestamp := 1, sta := 0x0f } = true ∧
      spwrBatteryGetProperty x86Config 3 (steadyEc 3).replies .chargeNow
          (spwrNotifyBst x86Config 2 ⟨.ok 0x1f, .ok Bix.zero, .error .timedOut⟩
            { Battery.zero with timestamp := 1, sta := 0x0f }).2 =
        (.ok (.intval 0), (spwrNotifyBst x86Config 2 ⟨.ok 0x1f, .ok Bix.zero, .error .timedOut⟩
            { Battery.zero with timestamp := 1, sta := 0x0f }).2) :=
  ⟨rfl, rfl, (@failed_bst_load_served_until_window_ends x86Config 2 0x1f rfl (.ok Bix.zero) .timedOut
    { Battery.zero with timestamp := 1, sta := 0x0f } 3 rfl (steadyEc 3).replies .chargeNow).2.2.2⟩

end SurfaceAggregator.Power
