import Mathlib.Data.List.GetD
import Mathlib.Data.Nat.Pairing
import SetProtocol.Integration.UniswapV2
import SetProtocol.Product.AMMSplitter

/-!
# Split trades

The splitter takes the input from its caller, lets the routers of Uniswap and Sushiswap pull
their parts from it, and has the output sent to the target.  What it quotes is what a trade then
comes to, and nothing stays behind in the splitter.
-/

namespace SetProtocol.AMMSplitter

open Transaction PreciseUnitMath UniswapV2 Flows

/-- A deployed splitter. -/
structure Splitter where
  address : Address
  uniRouter : Router
  sushiRouter : Router

/-- An entry of an array, which reverts if there is no such entry. -/
def entry (items : List ℕ) (index : ℕ) : Outcome ℕ :=
  match items[index]? with
  | some item => .ok item
  | none => .error ""

namespace Splitter

/-- The factories of a splitter and the balances that they are asked about. -/
def venues (splitter : Splitter) (world : World) : Venues where
  uniGetPair := splitter.uniRouter.getPair
  sushiGetPair := splitter.sushiRouter.getPair
  balanceOf := world.balances

/-- `_checkApprovals`, for one of the routers -/
def checkApproval (splitter : Splitter) (world : World) (router : Router) (amount : ℕ)
    (token : Address) : World :=
  if world.allowances token splitter.address router.address < amount then
    world.approve token splitter.address router.address maxUint256
  else world

def checkApprovals (splitter : Splitter) (world : World) (uniAmount sushiAmount : ℕ)
    (token : Address) : World :=
  let approved := splitter.checkApproval world splitter.uniRouter uniAmount token
  splitter.checkApproval approved splitter.sushiRouter sushiAmount token

variable (quotes : Quotes)

/-- `_getTradeInputOrOutput` -/
def getTradeInputOrOutput (router : Router) (world : World) (size : ℕ) (path : List Address)
    (isExactInput : Bool) : Outcome (List ℕ) :=
  if size = 0 then .ok (List.replicate path.length 0)
  else match isExactInput with
    | true => quotes.getAmountsOut (router.getReserves world) size path
    | false => quotes.getAmountsIn (router.getReserves world) size path

/-- `_executeTrade` -/
def executeTrade (splitter : Splitter) (router : Router) (world : World) (size : ℕ)
    (path : List Address) (target : Address) (deadline : ℕ) (isExactInput : Bool) :
    Outcome (ℕ × World) :=
  if size = 0 then .ok (0, world)
  else match isExactInput with
    | true => do
        let (amounts, swapped) ← router.swapExactTokensForTokens quotes world splitter.address
          size 0 path target deadline
        let lastIndex ← SafeMath.sub path.length 1
        let output ← entry amounts lastIndex
        pure (output, swapped)
    | false => do
        let (amounts, swapped) ← router.swapTokensForExactTokens quotes world splitter.address
          size maxUint256 path target deadline
        let input ← entry amounts 0
        pure (input, swapped)

/-- `_getAmounts` -/
def getAmounts (splitter : Splitter) (world : World) (size : ℕ) (path : List Address)
    (isExactInput : Bool) : Outcome (List ℕ) := do
  checkPath path
  let info ← getTradeSizes (splitter.venues world) path size
  let uniResults ← getTradeInputOrOutput quotes splitter.uniRouter world info.uniSize path
    isExactInput
  let sushiResults ← getTradeInputOrOutput quotes splitter.sushiRouter world info.sushiSize path
    isExactInput
  (List.range path.length).mapM fun index => do
    let uni ← entry uniResults index
    let sushi ← entry sushiResults index
    SafeMath.add uni sushi

def getAmountsOut (splitter : Splitter) (world : World) (amountIn : ℕ) (path : List Address) :
    Outcome (List ℕ) :=
  splitter.getAmounts quotes world amountIn path true

def getAmountsIn (splitter : Splitter) (world : World) (amountOut : ℕ) (path : List Address) :
    Outcome (List ℕ) :=
  splitter.getAmounts quotes world amountOut path false

def swapExactTokensForTokens (splitter : Splitter) (world : World) (sender : Address)
    (amountIn amountOutMin : ℕ) (path : List Address) (target : Address) (deadline : ℕ) :
    Outcome (ℕ × World) := do
  checkPath path
  let inputToken ← entry path 0
  let paid ← world.transferFrom inputToken splitter.address sender splitter.address amountIn
  let info ← getTradeSizes (splitter.venues paid) path amountIn
  let approved := splitter.checkApprovals paid info.uniSize info.sushiSize inputToken
  let (uniOutput, traded) ← splitter.executeTrade quotes splitter.uniRouter approved
    info.uniSize path target deadline true
  let (sushiOutput, final) ← splitter.executeTrade quotes splitter.sushiRouter traded
    info.sushiSize path target deadline true
  let totalOutput ← SafeMath.add uniOutput sushiOutput
  require (totalOutput ≥ amountOutMin) "AMMSplitter: INSUFFICIENT_OUTPUT_AMOUNT"
  pure (totalOutput, final)

def swapTokensForExactTokens (splitter : Splitter) (world : World) (sender : Address)
    (amountOut amountInMax : ℕ) (path : List Address) (target : Address) (deadline : ℕ) :
    Outcome (ℕ × World) := do
  checkPath path
  let info ← getTradeSizes (splitter.venues world) path amountOut
  let uniAmounts ← getTradeInputOrOutput quotes splitter.uniRouter world info.uniSize path false
  let expectedUniInput ← entry uniAmounts 0
  let sushiAmounts ← getTradeInputOrOutput quotes splitter.sushiRouter world info.sushiSize path
    false
  let expectedSushiInput ← entry sushiAmounts 0
  let totalInput ← SafeMath.add expectedUniInput expectedSushiInput
  require (totalInput ≤ amountInMax) "AMMSplitter: INSUFFICIENT_INPUT_AMOUNT"
  let inputToken ← entry path 0
  let paid ← world.transferFrom inputToken splitter.address sender splitter.address totalInput
  let approved := splitter.checkApprovals paid expectedUniInput expectedSushiInput inputToken
  let (_, traded) ← splitter.executeTrade quotes splitter.uniRouter approved info.uniSize path
    target deadline false
  let (_, final) ← splitter.executeTrade quotes splitter.sushiRouter traded info.sushiSize path
    target deadline false
  pure (totalInput, final)

end Splitter

/-! ## One venue -/

variable {quotes : Quotes} {splitter : Splitter} {router : Router} {world next : World}
variable {sender target : Address} {path : List Address} {size result deadline : ℕ}
variable {isExactInput : Bool}

theorem entry_eq_ok {items : List ℕ} {index item : ℕ} :
    entry items index = .ok item ↔ items[index]? = some item := by
  unfold entry
  cases items[index]? with
  | none => simp
  | some found => simp

theorem entry_eq_ok_iff {items : List ℕ} {index item : ℕ} :
    entry items index = .ok item ↔ index < items.length ∧ items.getD index 0 = item := by
  rw [entry_eq_ok, List.getElem?_eq_some_iff]
  constructor
  · rintro ⟨hlt, rfl⟩
    exact ⟨hlt, List.getD_eq_getElem items 0 hlt⟩
  · rintro ⟨hlt, rfl⟩
    exact ⟨hlt, (List.getD_eq_getElem items 0 hlt).symm⟩

theorem headD_eq_getD (items : List ℕ) : items.headD 0 = items.getD 0 0 := by
  rw [List.headD_eq_head?_getD, List.head?_eq_getElem?, List.getD_eq_getElem?_getD]

theorem getLastD_eq_getD (items : List ℕ) :
    items.getLastD 0 = items.getD (items.length - 1) 0 := by
  rw [List.getLastD_eq_getLast?, List.getLast?_eq_getElem?, List.getD_eq_getElem?_getD]

theorem entry_zero_eq_ok {items : List ℕ} {item : ℕ} (hentry : entry items 0 = .ok item) :
    items.headD 0 = item := by
  rw [headD_eq_getD]
  exact (entry_eq_ok_iff.mp hentry).2

theorem entry_last_eq_ok {items : List ℕ} {item : ℕ}
    (hentry : entry items (items.length - 1) = .ok item) : items.getLastD 0 = item := by
  rw [getLastD_eq_getD]
  exact (entry_eq_ok_iff.mp hentry).2

/-- The routers look at the reserves only. -/
theorem getReserves_congr
    (hsame : ∀ token0 token1, next.pairs (router.create2 token0 token1) =
      world.pairs (router.create2 token0 token1)) :
    router.getReserves next = router.getReserves world := by
  funext tokenA tokenB
  have hpairAt : ∀ address, router.pairFor tokenA tokenB = .ok address →
      next.pairAt address = world.pairAt address := by
    intro address haddress
    obtain ⟨token0, token1, -, rfl⟩ := Router.pairFor_eq_ok.mp haddress
    unfold World.pairAt
    rw [hsame]
  unfold Router.getReserves
  cases hpair : router.pairFor tokenA tokenB with
  | error reason => rfl
  | ok address =>
      simp only [ok_bind]
      rw [hpairAt address hpair]

theorem getTradeInputOrOutput_congr
    (hsame : ∀ token0 token1, next.pairs (router.create2 token0 token1) =
      world.pairs (router.create2 token0 token1)) :
    Splitter.getTradeInputOrOutput quotes router next size path isExactInput =
      Splitter.getTradeInputOrOutput quotes router world size path isExactInput := by
  unfold Splitter.getTradeInputOrOutput
  rw [getReserves_congr hsame]

theorem headD_zeros (count : ℕ) : (List.replicate count 0).headD 0 = 0 := by
  cases count with
  | zero => rfl
  | succ count => rfl

theorem getLastD_zeros (count : ℕ) : (List.replicate count 0).getLastD 0 = 0 := by
  have hmem := @List.getLastD_mem_cons ℕ (List.replicate count 0) 0
  rw [← List.replicate_succ] at hmem
  exact List.eq_of_mem_replicate hmem

/-- To trade nothing is no trade. -/
theorem routed_of_nothing (router : Router) (world : World) (sender target : Address)
    (path : List Address) (count : ℕ) :
    router.Routed world sender target (List.replicate count 0) path world where
  deepens := .of_same rfl
  elsewhere := fun _ _ => rfl
  backed := fun _ => id
  allowances := fun _ _ _ => le_rfl
  amounts_le := by
    intro amount hamount
    rw [List.tail_replicate] at hamount
    rw [List.eq_of_mem_replicate hamount]
    exact Nat.zero_le _
  shifts := by
    rw [getLastD_zeros, headD_zeros, income_zero, income_zero, sub_zero]
    exact Shifts.refl _ _

/-- A venue trades what it quotes. -/
structure AsQuoted (quotes : Quotes) (router : Router) (world : World)
    (sender target : Address) (size result : ℕ) (path : List Address) (isExactInput : Bool)
    (amounts : List ℕ) (next : World) : Prop where
  quoted : Splitter.getTradeInputOrOutput quotes router world size path isExactInput =
    .ok amounts
  length : amounts.length = path.length
  routed : router.Routed world sender target amounts path next
  first : amounts.headD 0 = if isExactInput then size else result
  last : amounts.getLastD 0 = if isExactInput then result else size

theorem executeTrade_eq_ok (hdocumented : quotes.Documented) (hrecorded : router.Recorded world)
    (hcall : splitter.executeTrade quotes router world size path target deadline isExactInput =
      .ok (result, next)) :
    ∃ amounts, AsQuoted quotes router world splitter.address target size result path
      isExactInput amounts next := by
  unfold Splitter.executeTrade at hcall
  by_cases hsize : size = 0
  · rw [if_pos hsize, Except.ok.injEq, Prod.mk.injEq] at hcall
    obtain ⟨rfl, rfl⟩ := hcall
    subst hsize
    refine ⟨List.replicate path.length 0, ?_, List.length_replicate, routed_of_nothing _ _ _ _ _ _,
      ?_, ?_⟩
    · simp only [Splitter.getTradeInputOrOutput, if_true]
    · rw [ite_self, headD_zeros]
    · rw [ite_self, getLastD_zeros]
  · rw [if_neg hsize] at hcall
    cases isExactInput with
    | true =>
        simp only [bind_eq_ok, pure_eq_ok, Prod.exists, Prod.mk.injEq, SafeMath.sub_eq_ok] at hcall
        obtain ⟨amounts, _, hswap, _, ⟨-, rfl⟩, _, hentry, rfl, rfl⟩ := hcall
        obtain ⟨hquote, hrouted⟩ :=
          Router.swapExactTokensForTokens_eq_ok hdocumented hrecorded hswap
        have hlength := hdocumented.out_length _ _ _ _ hquote
        refine ⟨amounts, ?_, hlength, hrouted, ?_, ?_⟩
        · rw [Splitter.getTradeInputOrOutput, if_neg hsize]
          exact hquote
        · rw [List.headD_eq_head?_getD, hdocumented.out_first _ _ _ _ hquote]
          rfl
        · rw [← hlength] at hentry
          exact entry_last_eq_ok hentry
    | false =>
        simp only [bind_eq_ok, pure_eq_ok, Prod.exists, Prod.mk.injEq] at hcall
        obtain ⟨amounts, _, hswap, _, hentry, rfl, rfl⟩ := hcall
        obtain ⟨hquote, hrouted⟩ :=
          Router.swapTokensForExactTokens_eq_ok hdocumented hrecorded hswap
        refine ⟨amounts, ?_, hdocumented.in_length _ _ _ _ hquote, hrouted, ?_, ?_⟩
        · rw [Splitter.getTradeInputOrOutput, if_neg hsize]
          exact hquote
        · exact entry_zero_eq_ok hentry
        · rw [List.getLastD_eq_getLast?, hdocumented.in_last _ _ _ _ hquote]
          rfl

/-! ## Both venues -/

theorem AsQuoted.getD_le {amounts : List ℕ} {index : ℕ}
    (htrade : AsQuoted quotes router world sender target size result path isExactInput amounts
      next) (hindex : 0 < index) : amounts.getD index 0 ≤ maxUint112 := by
  have hle := htrade.routed.amounts_le
  cases amounts with
  | nil => exact Nat.zero_le _
  | cons amount amounts =>
      obtain ⟨before, rfl⟩ := Nat.exists_eq_add_of_lt hindex
      rw [Nat.zero_add, List.getD_cons_succ, List.getD_eq_getElem?_getD]
      cases hentry : amounts[before]? with
      | none => exact Nat.zero_le _
      | some found => exact hle found (List.mem_of_getElem? hentry)

/-- The sums of two columns. -/
theorem sums_eq_ok {uni sushi : List ℕ} {count : ℕ} (huni : uni.length = count)
    (hsushi : sushi.length = count)
    (hfits : ∀ index < count, uni.getD index 0 + sushi.getD index 0 ≤ maxUint256) :
    ((List.range count).mapM fun index => do
      let uniAmount ← entry uni index
      let sushiAmount ← entry sushi index
      SafeMath.add uniAmount sushiAmount) =
        .ok ((List.range count).map fun index => uni.getD index 0 + sushi.getD index 0) := by
  have hsum : ∀ index total, (do
      let uniAmount ← entry uni index
      let sushiAmount ← entry sushi index
      SafeMath.add uniAmount sushiAmount) = .ok total ↔
        (index < count ∧ uni.getD index 0 + sushi.getD index 0 ≤ maxUint256) ∧
          uni.getD index 0 + sushi.getD index 0 = total := by
    intro index total
    simp only [bind_eq_ok, entry_eq_ok_iff, huni, hsushi, SafeMath.add_eq_ok]
    constructor
    · rintro ⟨_, ⟨hlt, rfl⟩, _, ⟨-, rfl⟩, hle, htotal⟩
      exact ⟨⟨hlt, hle⟩, htotal⟩
    · rintro ⟨⟨hlt, hle⟩, htotal⟩
      exact ⟨_, ⟨hlt, rfl⟩, _, ⟨hlt, rfl⟩, hle, htotal⟩
  refine (mapM_eq_ok hsum).mpr ⟨fun index hmem => ?_, rfl⟩
  have hlt := List.mem_range.mp hmem
  exact ⟨hlt, hfits index hlt⟩

theorem sizes_add {venues : Venues} {info : TradeInfo}
    (hpath : path.length = 2 ∨ path.length = 3)
    (hcall : getTradeSizes venues path size = .ok info) :
    info.uniSize + info.sushiSize = size := by
  obtain ⟨rfl, -⟩ := getTradeSizes_eq_ok hpath hcall
  have hle : size * venues.uniShare path / preciseUnit ≤ size := by
    apply Nat.div_le_of_le_mul
    rw [Nat.mul_comm]
    exact Nat.mul_le_mul_right size uniShare_le
  exact Nat.add_sub_cancel' hle

theorem getTradeSizes_congr {venues others : Venues}
    (huniPair : others.uniGetPair = venues.uniGetPair)
    (hsushiPair : others.sushiGetPair = venues.sushiGetPair)
    (huni : ∀ tokenA tokenB, others.balanceOf tokenB (venues.uniGetPair tokenA tokenB) =
      venues.balanceOf tokenB (venues.uniGetPair tokenA tokenB))
    (hsushi : ∀ tokenA tokenB, others.balanceOf tokenB (venues.sushiGetPair tokenA tokenB) =
      venues.balanceOf tokenB (venues.sushiGetPair tokenA tokenB)) :
    getTradeSizes others path size = getTradeSizes venues path size := by
  unfold getTradeSizes Venues.getTokenBalanceInPair
  simp only [huniPair, hsushiPair, huni, hsushi]

/-- The splitter among its venues.  Contracts of different factories have different
addresses. -/
structure Deployed (splitter : Splitter) (world : World) : Prop where
  uni : splitter.uniRouter.Recorded world
  sushi : splitter.sushiRouter.Recorded world
  apart : ∀ token0 token1 other0 other1,
    splitter.sushiRouter.create2 token0 token1 ≠ splitter.uniRouter.create2 other0 other1
  outsider : world.Outsider splitter.address
  nonzero : splitter.address ≠ zeroAddress

theorem Deployed.of_deepens (hdeployed : Deployed splitter world) (hdeepens : world.Deepens next) :
    Deployed splitter next where
  uni := hdeployed.uni.of_deepens hdeepens
  sushi := hdeployed.sushi.of_deepens hdeepens
  apart := hdeployed.apart
  outsider := hdeepens.outsider_iff.mpr hdeployed.outsider
  nonzero := hdeployed.nonzero

/-- What two trades, one after the other, come to. -/
structure BothTrade (quotes : Quotes) (splitter : Splitter) (world : World)
    (target : Address) (info : TradeInfo) (uniResult sushiResult : ℕ) (path : List Address)
    (isExactInput : Bool) (uniAmounts sushiAmounts : List ℕ) (final : World) : Prop where
  uniQuoted : Splitter.getTradeInputOrOutput quotes splitter.uniRouter world info.uniSize path
    isExactInput = .ok uniAmounts
  sushiQuoted : Splitter.getTradeInputOrOutput quotes splitter.sushiRouter world info.sushiSize
    path isExactInput = .ok sushiAmounts
  uniLength : uniAmounts.length = path.length
  sushiLength : sushiAmounts.length = path.length
  first : uniAmounts.headD 0 + sushiAmounts.headD 0 =
    if isExactInput then info.uniSize + info.sushiSize else uniResult + sushiResult
  last : uniAmounts.getLastD 0 + sushiAmounts.getLastD 0 =
    if isExactInput then uniResult + sushiResult else info.uniSize + info.sushiSize
  later : ∀ index, 0 < index → uniAmounts.getD index 0 + sushiAmounts.getD index 0 ≤ maxUint256
  deepens : world.Deepens final
  backed : world.Backed → final.Backed
  allowances : ∀ token owner spender,
    final.allowances token owner spender ≤ world.allowances token owner spender
  shifts : Shifts world.Outsider world.balances final.balances
    (income (path.getLastD 0) target (uniAmounts.getLastD 0 + sushiAmounts.getLastD 0) -
      income (path.headD 0) splitter.address (uniAmounts.headD 0 + sushiAmounts.headD 0))

theorem executeTrades_eq_ok {traded final : World} {info : TradeInfo}
    {uniResult sushiResult : ℕ} (hdocumented : quotes.Documented)
    (hdeployed : Deployed splitter world)
    (huni : splitter.executeTrade quotes splitter.uniRouter world info.uniSize path target
      deadline isExactInput = .ok (uniResult, traded))
    (hsushi : splitter.executeTrade quotes splitter.sushiRouter traded info.sushiSize path target
      deadline isExactInput = .ok (sushiResult, final)) :
    ∃ uniAmounts sushiAmounts, BothTrade quotes splitter world target info uniResult sushiResult
      path isExactInput uniAmounts sushiAmounts final := by
  obtain ⟨uniAmounts, huniTrade⟩ := executeTrade_eq_ok hdocumented hdeployed.uni huni
  have hdeepens := huniTrade.routed.deepens
  obtain ⟨sushiAmounts, hsushiTrade⟩ :=
    executeTrade_eq_ok hdocumented (hdeployed.of_deepens hdeepens).sushi hsushi
  -- The first trade leaves the reserves that the second one looks at.
  have hsame := hsushiTrade.quoted
  rw [getTradeInputOrOutput_congr fun token0 token1 => huniTrade.routed.elsewhere _
    (hdeployed.apart token0 token1)] at hsame
  have hlater := hsushiTrade.routed.shifts
  rw [hdeepens.outsider_eq] at hlater
  refine ⟨uniAmounts, sushiAmounts, huniTrade.quoted, hsame, huniTrade.length,
    hsushiTrade.length, ?_, ?_, fun index hindex => ?_,
    hdeepens.trans hsushiTrade.routed.deepens, fun hbacked => ?_, fun token owner spender => ?_, ?_⟩
  · rw [huniTrade.first, hsushiTrade.first]
    split <;> rfl
  · rw [huniTrade.last, hsushiTrade.last]
    split <;> rfl
  · calc uniAmounts.getD index 0 + sushiAmounts.getD index 0
        ≤ maxUint112 + maxUint112 :=
          Nat.add_le_add (huniTrade.getD_le hindex) (hsushiTrade.getD_le hindex)
      _ ≤ maxUint256 := by decide
  · exact hsushiTrade.routed.backed (hdeepens.outsider_iff.mpr hdeployed.outsider)
      (huniTrade.routed.backed hdeployed.outsider hbacked)
  · exact (hsushiTrade.routed.allowances token owner spender).trans
      (huniTrade.routed.allowances token owner spender)
  · refine (huniTrade.routed.shifts.trans hlater).congr fun token holder _ => ?_
    rw [income_add, income_add]
    simp only [Pi.add_apply, Pi.sub_apply]
    ring

/-! ## Split trades -/

theorem checkPath_eq_ok : checkPath path = .ok () ↔ path.length = 2 ∨ path.length = 3 :=
  require_eq_ok

/-- Where the amounts of both venues fit, the quote has their sums. -/
theorem getAmounts_eq_ok {state : World} {info : TradeInfo} {uniAmounts sushiAmounts : List ℕ}
    {uniResult sushiResult : ℕ} (hpath : path.length = 2 ∨ path.length = 3)
    (hsizes : getTradeSizes (splitter.venues world) path size = .ok info)
    (hpairs : state.pairs = world.pairs)
    (htrades : BothTrade quotes splitter state target info uniResult sushiResult path
      isExactInput uniAmounts sushiAmounts next)
    (hfits : uniAmounts.headD 0 + sushiAmounts.headD 0 ≤ maxUint256) :
    ∃ amounts, splitter.getAmounts quotes world size path isExactInput = .ok amounts ∧
      entry amounts 0 = .ok (uniAmounts.headD 0 + sushiAmounts.headD 0) ∧
      entry amounts (path.length - 1) =
        .ok (uniAmounts.getLastD 0 + sushiAmounts.getLastD 0) := by
  have hpositive : 0 < path.length := by omega
  have hsums := sums_eq_ok htrades.uniLength htrades.sushiLength fun index _ => by
    rcases Nat.eq_zero_or_pos index with rfl | hindex
    · rwa [← headD_eq_getD, ← headD_eq_getD]
    · exact htrades.later index hindex
  have huni := htrades.uniQuoted
  rw [getTradeInputOrOutput_congr fun _ _ => congrFun hpairs _] at huni
  have hsushi := htrades.sushiQuoted
  rw [getTradeInputOrOutput_congr fun _ _ => congrFun hpairs _] at hsushi
  refine ⟨(List.range path.length).map fun index =>
    uniAmounts.getD index 0 + sushiAmounts.getD index 0, ?_, ?_, ?_⟩
  · rw [Splitter.getAmounts, checkPath_eq_ok.mpr hpath, ok_bind, hsizes, ok_bind, huni, ok_bind,
      hsushi, ok_bind]
    exact hsums
  · rw [entry_eq_ok, List.getElem?_map, List.getElem?_range hpositive, headD_eq_getD,
      headD_eq_getD]
    rfl
  · rw [entry_eq_ok, List.getElem?_map, List.getElem?_range (by omega), getLastD_eq_getD,
      getLastD_eq_getD, htrades.uniLength, htrades.sushiLength]
    rfl

/-- Whoever is not the splitter, or what is not one of its routers. -/
def Unapproved (splitter : Splitter) (owner spender : Address) : Prop :=
  owner = splitter.address →
    spender ≠ splitter.uniRouter.address ∧ spender ≠ splitter.sushiRouter.address

namespace Splitter

/-- Only the routers are approved. -/
theorem allowances_checkApprovals {owner spender : Address}
    (hunapproved : Unapproved splitter owner spender) (world : World) (uniAmount sushiAmount : ℕ)
    (token other : Address) :
    (splitter.checkApprovals world uniAmount sushiAmount token).allowances other owner spender =
      world.allowances other owner spender := by
  have hone : ∀ state router amount, (owner ≠ splitter.address ∨ spender ≠ router.address) →
      (splitter.checkApproval state router amount token).allowances other owner spender =
        state.allowances other owner spender := by
    intro state router amount hne
    unfold checkApproval
    split
    · exact World.allowances_approve_of_ne hne
    · rfl
  have hne : owner ≠ splitter.address ∨ spender ≠ splitter.uniRouter.address ∧
      spender ≠ splitter.sushiRouter.address := by
    by_cases howner : owner = splitter.address
    · exact .inr (hunapproved howner)
    · exact .inl howner
  unfold checkApprovals
  dsimp only
  rw [hone _ _ _ (hne.imp_right And.right), hone _ _ _ (hne.imp_right And.left)]

theorem checkApprovals_frame (splitter : Splitter) (world : World) (uniAmount sushiAmount : ℕ)
    (token : Address) :
    (splitter.checkApprovals world uniAmount sushiAmount token).balances = world.balances ∧
      (splitter.checkApprovals world uniAmount sushiAmount token).pairs = world.pairs := by
  have hone : ∀ state router amount,
      (splitter.checkApproval state router amount token).balances = state.balances ∧
        (splitter.checkApproval state router amount token).pairs = state.pairs := by
    intro state router amount
    unfold checkApproval
    split
    · exact ⟨rfl, rfl⟩
    · exact ⟨rfl, rfl⟩
  unfold checkApprovals
  dsimp only
  exact ⟨(hone _ _ _).1.trans (hone _ _ _).1, (hone _ _ _).2.trans (hone _ _ _).2⟩

end Splitter

/-- The payment of the caller, and the approvals after it, do not touch the pairs. -/
theorem shifts_of_payment {paid : World} {token : Address} {amount : ℕ}
    (uniAmount sushiAmount : ℕ)
    (hpaid : world.transferFrom token splitter.address sender splitter.address amount = .ok paid) :
    Shifts world.Outsider world.balances
        (splitter.checkApprovals paid uniAmount sushiAmount token).balances
        (payment token sender splitter.address amount) ∧
      (splitter.checkApprovals paid uniAmount sushiAmount token).pairs = world.pairs := by
  obtain ⟨hfunds, -, rfl⟩ := World.transferFrom_eq_ok.mp hpaid
  obtain ⟨hbalances, hpairs⟩ := splitter.checkApprovals_frame
    ((world.moved token sender splitter.address amount).approve token sender splitter.address
      (world.allowances token sender splitter.address - amount)) uniAmount sushiAmount token
  rw [hbalances, hpairs]
  exact ⟨World.shifts_moved _ hfunds _, rfl⟩

/-- What a split trade does to the accounts outside: the caller gives the input, the target
gets the output, and that is all.  The pairs only get deeper. -/
structure Split (splitter : Splitter) (world next : World) (sender target : Address)
    (path : List Address) (totalInput totalOutput : ℕ) : Prop where
  shifts : Shifts world.Outsider world.balances next.balances
    (income (path.getLastD 0) target totalOutput - income (path.headD 0) sender totalInput)
  deepens : world.Deepens next
  backed : world.Outsider sender → world.Backed → next.Backed
  allowances : ∀ token owner spender, Unapproved splitter owner spender →
    next.allowances token owner spender ≤ world.allowances token owner spender

/-- The payment of the caller and both trades: whatever the splitter gets, the venues pull. -/
theorem split_of_trades {paid : World} {info : TradeInfo} {uniResult sushiResult amount : ℕ}
    {uniAmount sushiAmount : ℕ} {uniAmounts sushiAmounts : List ℕ}
    (hpaid : world.transferFrom (path.headD 0) splitter.address sender splitter.address amount =
      .ok paid)
    (htrades : BothTrade quotes splitter
      (splitter.checkApprovals paid uniAmount sushiAmount (path.headD 0)) target info uniResult
      sushiResult path isExactInput uniAmounts sushiAmounts next)
    (hamount : uniAmounts.headD 0 + sushiAmounts.headD 0 = amount) :
    Split splitter world next sender target path amount
      (uniAmounts.getLastD 0 + sushiAmounts.getLastD 0) := by
  obtain ⟨hshifts, hpairs⟩ := shifts_of_payment uniAmount sushiAmount hpaid
  have hsame := World.Deepens.of_same hpairs
  have hlater := htrades.shifts
  rw [hsame.outsider_eq] at hlater
  refine ⟨(hshifts.trans hlater).congr fun token holder _ => ?_, hsame.trans htrades.deepens,
    fun hsender hbacked => htrades.backed (hbacked.of_le hpairs fun token address hsome => ?_),
    fun token owner spender hunapproved => ?_⟩
  · rw [hamount]
    simp only [payment, Pi.add_apply, Pi.sub_apply]
    ring
  · have hne : address ≠ sender := by
      rintro rfl
      exact hsome hsender
    obtain ⟨-, -, rfl⟩ := World.transferFrom_eq_ok.mp hpaid
    rw [(splitter.checkApprovals_frame _ uniAmount sushiAmount (path.headD 0)).1]
    exact World.le_moved hne token
  · have hpulled := htrades.allowances token owner spender
    rw [Splitter.allowances_checkApprovals hunapproved] at hpulled
    obtain ⟨-, -, rfl⟩ := World.transferFrom_eq_ok.mp hpaid
    exact hpulled.trans (World.allowances_approve_le (Nat.sub_le _ _) token owner spender)

/-- The steps of a trade with an exact output. -/
theorem swapTokensForExactTokens_eq_ok {amountOut amountInMax totalInput : ℕ}
    (hdocumented : quotes.Documented) (hdeployed : Deployed splitter world)
    (hcall : splitter.swapTokensForExactTokens quotes world sender amountOut amountInMax path
      target deadline = .ok (totalInput, next)) :
    (path.length = 2 ∨ path.length = 3) ∧ totalInput ≤ maxUint256 ∧ totalInput ≤ amountInMax ∧
      ∃ info paid uniInput sushiInput uniAmounts sushiAmounts,
        getTradeSizes (splitter.venues world) path amountOut = .ok info ∧
        world.transferFrom (path.headD 0) splitter.address sender splitter.address totalInput =
          .ok paid ∧
        uniAmounts.headD 0 + sushiAmounts.headD 0 = totalInput ∧
        BothTrade quotes splitter (splitter.checkApprovals paid (uniAmounts.headD 0)
          (sushiAmounts.headD 0) (path.headD 0)) target info uniInput sushiInput path false
          uniAmounts sushiAmounts next := by
  simp only [Splitter.swapTokensForExactTokens, bind_eq_ok, require_eq_ok, pure_eq_ok,
    Prod.exists, Prod.mk.injEq, checkPath, SafeMath.add_eq_ok] at hcall
  obtain ⟨_, hpath, info, hsizes, uniQuote, huniQuote, uniInput, huniInput, sushiQuote,
    hsushiQuote, sushiInput, hsushiInput, _, ⟨hfits, rfl⟩, _, hmax, inputToken, hinput, paid,
    hpaid, _, traded, huni, _, final, hsushi, rfl, rfl⟩ := hcall
  obtain rfl := entry_zero_eq_ok hinput
  obtain rfl := entry_zero_eq_ok huniInput
  obtain rfl := entry_zero_eq_ok hsushiInput
  have hpairs := (shifts_of_payment (uniQuote.headD 0) (sushiQuote.headD 0) hpaid).2
  obtain ⟨uniAmounts, sushiAmounts, htrades⟩ := executeTrades_eq_ok hdocumented
    (hdeployed.of_deepens (World.Deepens.of_same hpairs)) huni hsushi
  -- What the venues quoted before the payment they quote still.
  have huniSame := htrades.uniQuoted
  rw [getTradeInputOrOutput_congr fun _ _ => congrFun hpairs _, huniQuote,
    Except.ok.injEq] at huniSame
  have hsushiSame := htrades.sushiQuoted
  rw [getTradeInputOrOutput_congr fun _ _ => congrFun hpairs _, hsushiQuote,
    Except.ok.injEq] at hsushiSame
  subst huniSame hsushiSame
  exact ⟨hpath, hfits, hmax, info, paid, _, _, uniQuote, sushiQuote, hsizes, hpaid, rfl, htrades⟩

theorem split_of_exactOutput {amountOut amountInMax totalInput : ℕ}
    (hdocumented : quotes.Documented) (hdeployed : Deployed splitter world)
    (hcall : splitter.swapTokensForExactTokens quotes world sender amountOut amountInMax path
      target deadline = .ok (totalInput, next)) :
    Split splitter world next sender target path totalInput amountOut := by
  obtain ⟨hpath, -, -, info, paid, _, _, uniAmounts, sushiAmounts, hsizes, hpaid, hinput,
    htrades⟩ := swapTokensForExactTokens_eq_ok hdocumented hdeployed hcall
  have hsplit := split_of_trades hpaid htrades hinput
  have hlast : uniAmounts.getLastD 0 + sushiAmounts.getLastD 0 = amountOut :=
    htrades.last.trans (sizes_add hpath hsizes)
  rwa [hlast] at hsplit

/-- The only pair of one factory. -/
def onlyPair (address tokenA tokenB : Address) : Address :=
  if tokenA = 1 ∧ tokenB = 2 ∨ tokenA = 2 ∧ tokenB = 1 then address else zeroAddress

/-- Addresses that never clash. -/
def slot (base token0 token1 : ℕ) : ℕ := base + 2 * Nat.pair token0 token1

def twoVenues : Splitter where
  address := 50
  uniRouter := ⟨60, onlyPair (slot 100 1 2), slot 100⟩
  sushiRouter := ⟨61, onlyPair (slot 101 1 2), slot 101⟩

theorem tokens_sorted : (1 : Address) < 2 := by decide

def newPair (reserve : ℕ) (hfits : reserve ≤ maxUint112) : Pair :=
  ⟨1, 2, reserve, reserve, tokens_sorted, hfits, hfits⟩

/-- Uniswap is twice as deep as Sushiswap, and account 7 is about to trade. -/
def twoPools : World where
  balances := fun _ holder =>
    if holder = slot 100 1 2 then 1000000 else if holder = slot 101 1 2 then 500000
    else if holder = 7 then 1000 else 0
  allowances := fun _ owner spender => if owner = 7 ∧ spender = 50 then 1000 else 0
  pairs := fun address =>
    if address = slot 101 1 2 then some (newPair 500000 (by decide))
    else if address = slot 100 1 2 then some (newPair 1000000 (by decide)) else none
  timestamp := 0

theorem getPair_onlyPair {address : Address} (hsome : world.pairs address ≠ none)
    (tokenA tokenB : Address) (hpair : onlyPair address tokenA tokenB ≠ zeroAddress) :
    ¬world.Outsider (onlyPair address tokenA tokenB) := by
  unfold onlyPair at hpair ⊢
  split at hpair
  · rename_i htokens
    rw [if_pos htokens]
    exact hsome
  · exact absurd rfl hpair

theorem slot_eq {base token0 token1 : ℕ} (hslot : slot base token0 token1 = slot base 1 2) :
    token0 = 1 ∧ token1 = 2 := by
  have hsame : Nat.pair token0 token1 = Nat.pair 1 2 := by
    unfold slot at hslot
    omega
  exact Nat.pair_eq_pair.mp hsame

theorem slot_apart (token0 token1 other0 other1 : ℕ) :
    slot 101 token0 token1 ≠ slot 100 other0 other1 := by
  unfold slot
  omega

theorem deployed_twoPools : Deployed twoVenues twoPools where
  uni := by
    refine ⟨fun token0 token1 pair _ hpair => ?_, getPair_onlyPair (by decide)⟩
    simp only [twoVenues, twoPools] at hpair
    rw [if_neg (slot_apart 1 2 token0 token1).symm] at hpair
    split at hpair
    · obtain ⟨rfl, rfl⟩ := slot_eq ‹_›
      cases hpair
      exact ⟨rfl, rfl⟩
    · cases hpair
  sushi := by
    refine ⟨fun token0 token1 pair _ hpair => ?_, getPair_onlyPair (by decide)⟩
    simp only [twoVenues, twoPools] at hpair
    rw [if_neg (slot_apart token0 token1 1 2)] at hpair
    split at hpair
    · obtain ⟨rfl, rfl⟩ := slot_eq ‹_›
      cases hpair
      exact ⟨rfl, rfl⟩
    · cases hpair
  apart := slot_apart
  outsider := rfl
  nonzero := by decide

/-- A trade with an exact output takes what the splitter quotes for it, and gives just that
output. -/
theorem swapTokensForExactTokens_as_quoted {amountOut amountInMax totalInput : ℕ}
    (hdocumented : quotes.Documented) (hdeployed : Deployed splitter world)
    (hcall : splitter.swapTokensForExactTokens quotes world sender amountOut amountInMax path
      target deadline = .ok (totalInput, next)) :
    (∃ amounts, splitter.getAmountsIn quotes world amountOut path = .ok amounts ∧
        entry amounts 0 = .ok totalInput ∧
        entry amounts (path.length - 1) = .ok amountOut) ∧
      totalInput ≤ amountInMax ∧
      Split splitter world next sender target path totalInput amountOut := by
  obtain ⟨hpath, hfits, hmax, info, paid, _, _, uniAmounts, sushiAmounts, hsizes, hpaid, rfl,
    htrades⟩ := swapTokensForExactTokens_eq_ok hdocumented hdeployed hcall
  have hlast : uniAmounts.getLastD 0 + sushiAmounts.getLastD 0 = amountOut :=
    htrades.last.trans (sizes_add hpath hsizes)
  obtain ⟨amounts, hquote, hfirst, hfinal⟩ := getAmounts_eq_ok hpath hsizes
    (shifts_of_payment _ _ hpaid).2 htrades hfits
  exact ⟨⟨amounts, hquote, hfirst, hlast ▸ hfinal⟩, hmax,
    split_of_exactOutput hdocumented hdeployed hcall⟩

theorem swapTokensForExactTokens_as_quoted_twoPools :
    ∃ next, twoVenues.swapTokensForExactTokens .constantProduct twoPools 7 300 400 [1, 2] 8 0 =
        .ok (302, next) ∧
      (∃ amounts, twoVenues.getAmountsIn .constantProduct twoPools 300 [1, 2] = .ok amounts ∧
        entry amounts 0 = .ok 302 ∧ entry amounts 1 = .ok 300) ∧
      302 ≤ 400 ∧ Split twoVenues twoPools next 7 8 [1, 2] 302 300 := by
  have hreturns : Returns
      (twoVenues.swapTokensForExactTokens .constantProduct twoPools 7 300 400 [1, 2] 8 0)
      fun result => result.1 = 302 := by decide +kernel
  obtain ⟨⟨_, next⟩, hcall, rfl⟩ := returns_iff.mp hreturns
  exact ⟨next, hcall, swapTokensForExactTokens_as_quoted documented_constantProduct
    deployed_twoPools hcall⟩

/-- The payment of the caller does not change what the factories are asked about. -/
theorem getTradeSizes_of_payment {paid : World} {token : Address} {amount : ℕ}
    (hdeployed : Deployed splitter world) (hsender : world.Outsider sender)
    (hnonzero : sender ≠ zeroAddress)
    (hpaid : world.transferFrom token splitter.address sender splitter.address amount = .ok paid) :
    getTradeSizes (splitter.venues paid) path size =
      getTradeSizes (splitter.venues world) path size := by
  obtain ⟨-, -, rfl⟩ := World.transferFrom_eq_ok.mp hpaid
  have hsame : ∀ router : Router, router.Recorded world → ∀ tokenA tokenB,
      (world.moved token sender splitter.address amount).balances tokenB
          (router.getPair tokenA tokenB) =
        world.balances tokenB (router.getPair tokenA tokenB) := by
    intro router hrecorded tokenA tokenB
    have hne : ∀ account, world.Outsider account → account ≠ zeroAddress →
        router.getPair tokenA tokenB ≠ account := by
      rintro account houtside hsome rfl
      exact hrecorded.getPair tokenA tokenB hsome houtside
    exact World.balances_moved_of_ne (hne sender hsender hnonzero)
      (hne splitter.address hdeployed.outsider hdeployed.nonzero) tokenB
  exact getTradeSizes_congr rfl rfl (hsame splitter.uniRouter hdeployed.uni)
    (hsame splitter.sushiRouter hdeployed.sushi)

/-- The steps of a trade with an exact input. -/
theorem swapExactTokensForTokens_eq_ok {amountIn amountOutMin totalOutput : ℕ}
    (hdocumented : quotes.Documented) (hdeployed : Deployed splitter world)
    (hcall : splitter.swapExactTokensForTokens quotes world sender amountIn amountOutMin path
      target deadline = .ok (totalOutput, next)) :
    (path.length = 2 ∨ path.length = 3) ∧ amountOutMin ≤ totalOutput ∧
      ∃ info paid uniOutput sushiOutput uniAmounts sushiAmounts,
        getTradeSizes (splitter.venues paid) path amountIn = .ok info ∧
        world.transferFrom (path.headD 0) splitter.address sender splitter.address amountIn =
          .ok paid ∧
        uniOutput + sushiOutput = totalOutput ∧
        BothTrade quotes splitter (splitter.checkApprovals paid info.uniSize info.sushiSize
          (path.headD 0)) target info uniOutput sushiOutput path true uniAmounts sushiAmounts
          next := by
  simp only [Splitter.swapExactTokensForTokens, bind_eq_ok, require_eq_ok, pure_eq_ok,
    Prod.exists, Prod.mk.injEq, checkPath, SafeMath.add_eq_ok] at hcall
  obtain ⟨_, hpath, inputToken, hinput, paid, hpaid, info, hsizes, uniOutput, traded, huni,
    sushiOutput, final, hsushi, _, ⟨-, rfl⟩, _, hmin, rfl, rfl⟩ := hcall
  obtain rfl := entry_zero_eq_ok hinput
  have hpairs := (shifts_of_payment info.uniSize info.sushiSize hpaid).2
  obtain ⟨uniAmounts, sushiAmounts, htrades⟩ := executeTrades_eq_ok hdocumented
    (hdeployed.of_deepens (World.Deepens.of_same hpairs)) huni hsushi
  exact ⟨hpath, hmin, info, paid, uniOutput, sushiOutput, uniAmounts, sushiAmounts, hsizes, hpaid,
    rfl, htrades⟩

theorem split_of_exactInput {amountIn amountOutMin totalOutput : ℕ}
    (hdocumented : quotes.Documented) (hdeployed : Deployed splitter world)
    (hcall : splitter.swapExactTokensForTokens quotes world sender amountIn amountOutMin path
      target deadline = .ok (totalOutput, next)) :
    Split splitter world next sender target path amountIn totalOutput := by
  obtain ⟨hpath, -, info, paid, uniOutput, sushiOutput, uniAmounts, sushiAmounts, hsizes, hpaid,
    rfl, htrades⟩ := swapExactTokensForTokens_eq_ok hdocumented hdeployed hcall
  have hsplit := split_of_trades hpaid htrades (htrades.first.trans (sizes_add hpath hsizes))
  rwa [htrades.last] at hsplit

/-- A trade with an exact input takes just that input, and gives what the splitter quotes for
it. -/
theorem swapExactTokensForTokens_as_quoted {amountIn amountOutMin totalOutput : ℕ}
    (hdocumented : quotes.Documented) (hdeployed : Deployed splitter world)
    (hsender : world.Outsider sender) (hnonzero : sender ≠ zeroAddress)
    (hfits : amountIn ≤ maxUint256)
    (hcall : splitter.swapExactTokensForTokens quotes world sender amountIn amountOutMin path
      target deadline = .ok (totalOutput, next)) :
    (∃ amounts, splitter.getAmountsOut quotes world amountIn path = .ok amounts ∧
        entry amounts 0 = .ok amountIn ∧
        entry amounts (path.length - 1) = .ok totalOutput) ∧
      amountOutMin ≤ totalOutput ∧
      Split splitter world next sender target path amountIn totalOutput := by
  obtain ⟨hpath, hmin, info, paid, uniOutput, sushiOutput, uniAmounts, sushiAmounts, hsizes,
    hpaid, rfl, htrades⟩ := swapExactTokensForTokens_eq_ok hdocumented hdeployed hcall
  have hfirst : uniAmounts.headD 0 + sushiAmounts.headD 0 = amountIn :=
    htrades.first.trans (sizes_add hpath hsizes)
  have hlast : uniAmounts.getLastD 0 + sushiAmounts.getLastD 0 = uniOutput + sushiOutput :=
    htrades.last
  rw [getTradeSizes_of_payment hdeployed hsender hnonzero hpaid] at hsizes
  obtain ⟨amounts, hquote, hhead, hfinal⟩ := getAmounts_eq_ok hpath hsizes
    (shifts_of_payment _ _ hpaid).2 htrades (hfirst.trans_le hfits)
  exact ⟨⟨amounts, hquote, hfirst ▸ hhead, hlast ▸ hfinal⟩, hmin,
    split_of_exactInput hdocumented hdeployed hcall⟩

theorem swapExactTokensForTokens_as_quoted_twoPools :
    ∃ next, twoVenues.swapExactTokensForTokens .constantProduct twoPools 7 900 890 [1, 2] 8 0 =
        .ok (895, next) ∧
      (∃ amounts, twoVenues.getAmountsOut .constantProduct twoPools 900 [1, 2] = .ok amounts ∧
        entry amounts 0 = .ok 900 ∧ entry amounts 1 = .ok 895) ∧
      890 ≤ 895 ∧ Split twoVenues twoPools next 7 8 [1, 2] 900 895 := by
  have hreturns : Returns
      (twoVenues.swapExactTokensForTokens .constantProduct twoPools 7 900 890 [1, 2] 8 0)
      fun result => result.1 = 895 := by decide +kernel
  obtain ⟨⟨_, next⟩, hcall, rfl⟩ := returns_iff.mp hreturns
  exact ⟨next, hcall, swapExactTokensForTokens_as_quoted documented_constantProduct
    deployed_twoPools rfl (by decide) (by decide) hcall⟩

end SetProtocol.AMMSplitter
