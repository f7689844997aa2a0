import SetProtocol.Modules.StreamingFeeBacking

/-!
# Accruing often

Anyone may accrue the fee at any time.  Each accrual rounds its own percentage and
its own shares down, and the next percentage is taken of a supply that already
holds the last fee.  However an interval is split, the supply ends no higher than
after a single accrual over all of it.
-/

namespace SetProtocol.StreamingFeeModule

open Transaction PreciseUnitMath Backing

variable {module : Address} {world next split alone single : World}

/-- The fee percentage of an interval at a yearly rate. -/
def feeBetween (percentage start finish : ℕ) : ℕ :=
  (finish - start) * percentage / oneYearInSeconds

/-- Time passes and others act, but no share is minted or burned, the rate stays
and no fee is collected. -/
structure Quiet (world later : World) : Prop where
  supply : later.setToken.totalSupply = world.setToken.totalSupply
  percentage :
    later.feeState.streamingFeePercentage = world.feeState.streamingFeePercentage
  collected :
    later.feeState.lastStreamingFeeTimestamp = world.feeState.lastStreamingFeeTimestamp

/-- The fee is accrued at each of the times, oldest first, and the supply changes in no
other way. -/
inductive AccruesAt (module : Address) : World → List ℕ → World → Prop
  | none (world : World) : AccruesAt module world [] world
  | more {world before after last : World} {times : List ℕ} (hquiet : Quiet world before)
      (hcall : accrueFee module before = .ok after)
      (hrest : AccruesAt module after times last) :
      AccruesAt module world (before.timestamp :: times) last

/-- Two intervals cost at most the interval they make up. -/
theorem feeBetween_add_le {percentage start middle finish : ℕ}
    (hstart : percentage = 0 ∨ start ≤ middle) (hfinish : middle ≤ finish) :
    feeBetween percentage start middle + feeBetween percentage middle finish ≤
      feeBetween percentage start finish := by
  have htotal : (middle - start) * percentage + (finish - middle) * percentage ≤
      (finish - start) * percentage := by
    rcases hstart with rfl | hstart
    · simp
    · rw [← Nat.add_mul]
      exact Nat.mul_le_mul_right percentage (by omega)
  exact Nat.div_add_div_le_add_div.trans (Nat.div_le_div_right htotal)

theorem accruedFee_of_quiet (hquiet : Quiet world next) :
    accruedFee next = feeBetween world.feeState.streamingFeePercentage
      world.feeState.lastStreamingFeeTimestamp next.timestamp := by
  rw [accruedFee, feeBetween, hquiet.percentage, hquiet.collected]

/-- The rate stays, and the time of the call is when the fee was last collected. -/
theorem accrueFee_feeState (hcall : accrueFee module world = .ok next) :
    next.feeState = { world.feeState with
      lastStreamingFeeTimestamp := world.timestamp } := by
  simp only [accrueFee, bind_eq_ok, pure_eq_ok] at hcall
  obtain ⟨_, -, _, -, rfl⟩ := hcall
  rfl

/-- A fee accrues forwards in time. -/
theorem accrueFee_time (hcall : accrueFee module world = .ok next) :
    world.feeState.streamingFeePercentage = 0 ∨
      world.feeState.lastStreamingFeeTimestamp ≤ world.timestamp := by
  simp only [accrueFee, bind_eq_ok] at hcall
  obtain ⟨_, -, accrued, haccrued, -⟩ := hcall
  split at haccrued
  · simp only [bind_eq_ok, calculateStreamingFee, SafeMath.sub_eq_ok] at haccrued
    obtain ⟨_, ⟨_, ⟨hforwards, -⟩, -⟩, -⟩ := haccrued
    exact .inr hforwards
  · rename_i hnone
    exact .inl (Nat.eq_zero_of_not_pos hnone)

/-- Each accrual makes up at most its percentage of the new supply. -/
theorem accrueFee_minted (hcall : accrueFee module world = .ok next) :
    ∃ feeQuantity,
      next.setToken.totalSupply = world.setToken.totalSupply + feeQuantity ∧
      feeQuantity * (preciseUnit - accruedFee world) ≤
        accruedFee world * world.setToken.totalSupply ∧
      feeQuantity * preciseUnit ≤ accruedFee world * next.setToken.totalSupply := by
  obtain ⟨hless, -, hsetToken, -⟩ := accrueFee_eq_ok hcall
  have hsupply := congrArg SetToken.totalSupply hsetToken
  have hminted := Nat.div_mul_le_self (accruedFee world * world.setToken.totalSupply)
    (preciseUnit - accruedFee world)
  refine ⟨_, hsupply, hminted, ?_⟩
  rw [hsupply]
  exact issued_le_share hless.le hminted

/-- However often it is accrued until `finish`, the fee inflates the supply by at most
the percentage of the whole interval. -/
theorem supply_of_accruals {times : List ℕ} {finish : ℕ}
    (hruns : AccruesAt module world times split) (hfinish : ∀ time ∈ times, time ≤ finish)
    (hless : feeBetween world.feeState.streamingFeePercentage
      world.feeState.lastStreamingFeeTimestamp finish < preciseUnit) :
    split.setToken.totalSupply ≤
      inflated preciseUnit (feeBetween world.feeState.streamingFeePercentage
        world.feeState.lastStreamingFeeTimestamp finish) world.setToken.totalSupply := by
  induction hruns with
  | none world => exact Nat.le_add_right _ _
  | @more world before after last times hquiet hcall hrest ih =>
      obtain ⟨-, -, hsetToken, -⟩ := accrueFee_eq_ok hcall
      have hstate := accrueFee_feeState hcall
      have htime := accrueFee_time hcall
      have hsupply := congrArg SetToken.totalSupply hsetToken
      have hpercentage : after.feeState.streamingFeePercentage =
          world.feeState.streamingFeePercentage := by rw [hstate, ← hquiet.percentage]
      have hcollected : after.feeState.lastStreamingFeeTimestamp = before.timestamp := by
        rw [hstate]
      rw [hquiet.percentage, hquiet.collected] at htime
      have hparts := feeBetween_add_le htime (hfinish _ List.mem_cons_self)
      have hrestFee := ih (fun time htime => hfinish time (List.mem_cons_of_mem _ htime))
      rw [hpercentage, hcollected] at hrestFee
      refine (hrestFee ((Nat.le_add_left _ _).trans_lt (hparts.trans_lt hless))).trans ?_
      rw [hsupply, accruedFee_of_quiet hquiet, hquiet.supply]
      exact (inflated_inflated_le _ (hparts.trans_lt hless)).trans
        (inflated_mono_fee _ hparts hless)

/-- Splitting the interval never helps whoever receives the fee: the supply ends no
higher than after one accrual, and each accrual makes up at most its percentage. -/
theorem splitting_never_helps {times : List ℕ}
    (hruns : AccruesAt module world times split) (hquiet : Quiet world alone)
    (htimes : ∀ time ∈ times, time ≤ alone.timestamp)
    (hsingle : accrueFee module alone = .ok single) :
    split.setToken.totalSupply ≤ single.setToken.totalSupply ∧
      ∀ before after, accrueFee module before = .ok after →
        ∃ feeQuantity,
          after.setToken.totalSupply = before.setToken.totalSupply + feeQuantity ∧
          feeQuantity * (preciseUnit - accruedFee before) ≤
            accruedFee before * before.setToken.totalSupply ∧
          feeQuantity * preciseUnit ≤ accruedFee before * after.setToken.totalSupply := by
  refine ⟨?_, fun before after hcall => accrueFee_minted hcall⟩
  obtain ⟨hless, -, hsetToken, -⟩ := accrueFee_eq_ok hsingle
  have hsupply := congrArg SetToken.totalSupply hsetToken
  rw [accruedFee_of_quiet hquiet] at hless
  rw [hsupply, accruedFee_of_quiet hquiet, hquiet.supply]
  exact supply_of_accruals hruns htimes hless

/-- Twice in a year, or once at its end. -/
theorem splitting_never_helps_half_years : ∃ split single,
    AccruesAt 5 accruedWorld [15778800, oneYearInSeconds] split ∧
      accrueFee 5 accruedWorld = .ok single ∧
      split.setToken.totalSupply ≤ single.setToken.totalSupply := by
  obtain ⟨first, hfirst, second, hsecond, -⟩ : ∃ first,
      accrueFee 5 { accruedWorld with timestamp := 15778800 } = .ok first ∧ ∃ second,
        accrueFee 5 { first with timestamp := oneYearInSeconds } = .ok second ∧ True :=
    ⟨_, rfl, _, rfl, trivial⟩
  obtain ⟨single, hsingle, -⟩ := accrueFee_accruedWorld
  have hearlier : Quiet accruedWorld { accruedWorld with timestamp := 15778800 } :=
    ⟨rfl, rfl, rfl⟩
  have hlater : Quiet first { first with timestamp := oneYearInSeconds } := ⟨rfl, rfl, rfl⟩
  have hruns : AccruesAt 5 accruedWorld [15778800, oneYearInSeconds] second :=
    .more hearlier hfirst (.more hlater hsecond (.none second))
  exact ⟨second, single, hruns, hsingle,
    (splitting_never_helps hruns ⟨rfl, rfl, rfl⟩ (by decide) hsingle).1⟩

end SetProtocol.StreamingFeeModule
