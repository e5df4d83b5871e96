import SurfaceAggregator.Power.Battery

/-! What the two update routines leave in the cache, and when they serve it.

An update reloads `sta`, then (in `spwr_battery_update_bix_unlocked`) `bix`, then `bst`,
and stamps the cache only after the last load; a failure returns at once and keeps the
loads before it. A cached update serves the cache while `time_is_after_jiffies(timestamp
+ msecs_to_jiffies(cache_time))`, a comparison of the elapsed ticks modulo the width of
`unsigned long`.
-/

set_option autoImplicit false

namespace SurfaceAggregator.Power

open BatM

section
variable {cfg : Config} {jiffies : Nat} {r : UpdateReplies} {cached : Bool} {bat : Battery}
  {e : Errno}

/-! ## Failed updates -/

theorem spwrBatteryUpdateBstUnlocked_of_error
    (failed : (spwrBatteryUpdateBstUnlocked cfg jiffies r cached bat).1 = .error e) :
    let after := (spwrBatteryUpdateBstUnlocked cfg jiffies r cached bat).2
    after.timestamp = bat.timestamp ∧ after.bix = bat.bix ∧ after.bst = bat.bst ∧
      (after.sta = bat.sta ∨ r.sta = .ok after.sta) := by
  cases stale : (cached && cacheFresh cfg jiffies bat)
  · rw [spwrBatteryUpdateBstUnlocked_reload bat cfg jiffies r stale] at failed ⊢
    cases sta : r.sta with
    | error e => simp [spwrBatteryLoadSta_apply, sta]
    | ok v =>
      cases bst : r.bst <;> by_cases present : (v &&& samBatteryStaPresent != 0) = true <;>
        simp_all [spwrBatteryLoadSta_apply, spwrBatteryLoadBst_apply, spwrBatteryPresent]
  · obtain ⟨rfl, fresh⟩ : cached = true ∧ cacheFresh cfg jiffies bat = true := by simpa using stale
    simp [spwrBatteryUpdateBstUnlocked_of_fresh bat cfg jiffies r fresh] at failed

theorem spwrBatteryUpdateBixUnlocked_of_error
    (failed : (spwrBatteryUpdateBixUnlocked jiffies r bat).1 = .error e) :
    let after := (spwrBatteryUpdateBixUnlocked jiffies r bat).2
    after.timestamp = bat.timestamp ∧ after.bst = bat.bst ∧
      (after.bix = bat.bix ∨ r.bix = .ok after.bix) ∧ (after.sta = bat.sta ∨ r.sta = .ok after.sta) := by
  unfold spwrBatteryUpdateBixUnlocked at failed ⊢
  cases sta : r.sta with
  | error e => simp [spwrBatteryLoadSta_apply, sta]
  | ok v =>
    by_cases present : (v &&& samBatteryStaPresent != 0) = true
    · cases bix : r.bix <;> cases bst : r.bst <;>
        simp_all [spwrBatteryLoadSta_apply, spwrBatteryLoadBix_apply, spwrBatteryLoadBst_apply,
          spwrBatteryPresent]
    · simp_all [spwrBatteryLoadSta_apply, spwrBatteryLoadBix_apply, spwrBatteryLoadBst_apply,
        spwrBatteryPresent]

/-- A failed update keeps the timestamp and every field it did not load in this call. -/
theorem failed_update_keeps_stamp_and_unloaded_fields :
    (∀ (cfg : Config) jiffies r cached bat (e : Errno),
      (spwrBatteryUpdateBstUnlocked cfg jiffies r cached bat).1 = .error e →
      let after := (spwrBatteryUpdateBstUnlocked cfg jiffies r cached bat).2
      after.timestamp = bat.timestamp ∧ after.bix = bat.bix ∧ after.bst = bat.bst ∧
        (after.sta = bat.sta ∨ r.sta = .ok after.sta)) ∧
    (∀ jiffies r bat (e : Errno), (spwrBatteryUpdateBixUnlocked jiffies r bat).1 = .error e →
      let after := (spwrBatteryUpdateBixUnlocked jiffies r bat).2
      after.timestamp = bat.timestamp ∧ after.bst = bat.bst ∧
        (after.bix = bat.bix ∨ r.bix = .ok after.bix) ∧ (after.sta = bat.sta ∨ r.sta = .ok after.sta)) :=
  ⟨fun _ _ _ _ _ _ => spwrBatteryUpdateBstUnlocked_of_error,
    fun _ _ _ _ => spwrBatteryUpdateBixUnlocked_of_error⟩

end

/-- The EC answers a present `sta` and then fails the `bst` request. -/
def staThenFail : UpdateReplies := ⟨.ok 0x1f, .error .timedOut, .error .timedOut⟩

def x86Config : Config := ⟨Abi.x86_64, 1000⟩

/-- The failed update returns its error with the new `sta` in the cache. -/
theorem spwrBatteryUpdateBstUnlocked_error_replaces_sta :
    (spwrBatteryUpdateBstUnlocked x86Config 0 staThenFail false Battery.zero).1 = .error .timedOut ∧
      (spwrBatteryUpdateBstUnlocked x86Config 0 staThenFail false Battery.zero).2.sta ≠
        Battery.zero.sta :=
  ⟨rfl, by show (0x1f : UInt32) ≠ 0; decide⟩

theorem failed_update_keeps_stamp_and_unloaded_fields_at_staThenFail :
    (spwrBatteryUpdateBstUnlocked x86Config 0 staThenFail false Battery.zero).1 = .error .timedOut ∧
      (spwrBatteryUpdateBstUnlocked x86Config 0 staThenFail false Battery.zero).2.timestamp =
        Battery.zero.timestamp :=
  ⟨rfl, (failed_update_keeps_stamp_and_unloaded_fields.1 x86Config 0 staThenFail false Battery.zero .timedOut
    rfl).1⟩

/-! ## Serving the cache -/

section
variable {cfg : Config} {r : UpdateReplies} {bat : Battery}

/-- An update that does not serve the cache sends at least the `get_sta` request. -/
theorem spwrBatteryUpdateBstUnlocked_sends_of_stale {jiffies : Nat} {cached : Bool}
    (stale : (cached && cacheFresh cfg jiffies bat) = false) :
    bat.sent.length < (spwrBatteryUpdateBstUnlocked cfg jiffies r cached bat).2.sent.length := by
  rw [spwrBatteryUpdateBstUnlocked_reload bat cfg jiffies r stale]
  cases sta : r.sta with
  | error e => simp [spwrBatteryLoadSta_apply, sta]
  | ok v =>
    cases bst : r.bst <;> by_cases present : (v &&& samBatteryStaPresent != 0) = true <;>
      simp_all [spwrBatteryLoadSta_apply, spwrBatteryLoadBst_apply, spwrBatteryPresent]

/-- The cache guard on a clock whose ticks are reduced modulo the word. -/
theorem cacheFresh_clock {now stamped : Nat} (stamp : bat.timestamp = stamped % cfg.abi.wordSize) :
    cacheFresh cfg (now % cfg.abi.wordSize) bat = (bat.timestamp != 0 &&
      decide (2 ^ (cfg.abi.bitsPerLong - 1) ≤
        cfg.abi.toSize ((now : Int) - ((stamped + cfg.cacheJiffies : Nat) : Int)))) := by
  rw [cacheFresh, stamp, Abi.timeBefore_clock, Int.natCast_add]

/-- The cache is served only within `d` ticks of its stamp, or `2 ^ (BITS_PER_LONG - 1)` later. -/
theorem cache_served_only_within_window_or_after_wrap
    (short : cfg.cacheJiffies < 2 ^ (cfg.abi.bitsPerLong - 1)) {stamped now : Nat}
    (le : stamped ≤ now) (stamp : bat.timestamp = stamped % cfg.abi.wordSize)
    (served : (spwrBatteryUpdateBstUnlocked cfg (now % cfg.abi.wordSize) r true bat).2.sent = bat.sent) :
    now - stamped < cfg.cacheJiffies ∨
      2 ^ (cfg.abi.bitsPerLong - 1) + cfg.cacheJiffies ≤ now - stamped := by
  have fresh : cacheFresh cfg (now % cfg.abi.wordSize) bat = true := by
    by_contra stale
    have grows := @spwrBatteryUpdateBstUnlocked_sends_of_stale cfg r bat (now % cfg.abi.wordSize) true
      (by simpa using stale)
    rw [served] at grows
    exact Nat.lt_irrefl _ grows
  rw [cacheFresh_clock stamp] at fresh
  by_contra inside
  have halves := cfg.abi.wordSize_halves
  have exact := cfg.abi.toSize_sub_of_le (a := now) (b := stamped + cfg.cacheJiffies) (by omega)
    (by omega)
  rw [exact] at fresh
  simp only [Bool.and_eq_true, decide_eq_true_eq] at fresh
  omega

end

/-- On 32 bits a stamp `2 ^ 31 + 1000` ticks old serves the cache again. -/
theorem spwrBatteryUpdateBstUnlocked_serves_wrapped_stamp :
    ¬ ((1 + 2 ^ 31 + 1000) - 1 < 1000) ∧
      spwrBatteryUpdateBstUnlocked ⟨Abi.i386, 1000⟩ ((1 + 2 ^ 31 + 1000) % Abi.i386.wordSize) staThenFail
        true { Battery.zero with timestamp := 1 % Abi.i386.wordSize } =
        (.ok (), { Battery.zero with timestamp := 1 % Abi.i386.wordSize }) :=
  ⟨by decide, spwrBatteryUpdateBstUnlocked_of_fresh _ _ _ _ (by decide)⟩

theorem cache_served_only_within_window_or_after_wrap_at_wrapped_stamp :
    (1000 < 2 ^ (Abi.i386.bitsPerLong - 1) ∧ 1 ≤ 1 + 2 ^ 31 + 1000 ∧
      ({ Battery.zero with timestamp := 1 % Abi.i386.wordSize } : Battery).timestamp = 1 % Abi.i386.wordSize ∧
      (spwrBatteryUpdateBstUnlocked ⟨Abi.i386, 1000⟩ ((1 + 2 ^ 31 + 1000) % Abi.i386.wordSize) staThenFail true
          { Battery.zero with timestamp := 1 % Abi.i386.wordSize }).2.sent =
        ({ Battery.zero with timestamp := 1 % Abi.i386.wordSize } : Battery).sent) ∧
      ((1 + 2 ^ 31 + 1000) - 1 < 1000 ∨ 2 ^ (Abi.i386.bitsPerLong - 1) + 1000 ≤ (1 + 2 ^ 31 + 1000) - 1) :=
  have served := congrArg (fun outcome => outcome.2.sent) (spwrBatteryUpdateBstUnlocked_of_fresh
    { Battery.zero with timestamp := 1 % Abi.i386.wordSize } ⟨Abi.i386, 1000⟩ ((1 + 2 ^ 31 + 1000) % Abi.i386.wordSize)
    staThenFail (by decide))
  ⟨⟨by decide, by decide, rfl, served⟩, @cache_served_only_within_window_or_after_wrap ⟨Abi.i386, 1000⟩ staThenFail
    { Battery.zero with timestamp := 1 % Abi.i386.wordSize } (by decide) 1 (1 + 2 ^ 31 + 1000) (by decide) rfl served⟩

end SurfaceAggregator.Power
