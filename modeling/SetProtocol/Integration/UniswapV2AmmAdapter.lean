import SetProtocol.Library.Rounding
import SetProtocol.Modules.AmmModule

/-!
# The AMM adapter of Uniswap V2

The adapter works out how much of the pool token the greatest amounts of both components are
worth, and turns this back into least amounts for the router.  The router does not provide
both amounts: it keeps one and rounds the other down to the ratio of the reserves, and what
is lost there the pool does not pay for.
-/

namespace SetProtocol.UniswapV2AmmAdapter

open Transaction AddressArrayUtils

/-- The pair of two tokens, which the factory has sorted. -/
structure Pair where
  token0 : Address
  token1 : Address
  reserve0 : ℕ
  reserve1 : ℕ
  totalSupply : ℕ
  balanceOf : Address → ℕ
  nonzero : token0 ≠ zeroAddress
  sorted : token0 < token1

/-- Calls of the router. -/
structure AddLiquidity where
  tokenA : Address
  tokenB : Address
  amountADesired : ℕ
  amountBDesired : ℕ
  amountAMin : ℕ
  amountBMin : ℕ
  recipient : Address
  deadline : ℕ
  deriving DecidableEq

structure RemoveLiquidity where
  tokenA : Address
  tokenB : Address
  liquidity : ℕ
  amountAMin : ℕ
  amountBMin : ℕ
  recipient : Address
  deadline : ℕ
  deriving DecidableEq

/-! ## The adapter -/

/-- `_getReserves` -/
def Pair.getReserves (pair : Pair) (tokenA : Address) : ℕ × ℕ :=
  if tokenA = pair.token0 then (pair.reserve0, pair.reserve1)
  else (pair.reserve1, pair.reserve0)

/-- `SafeMath`, first the product. -/
def mulDiv (a b divisor : ℕ) : Outcome ℕ := do
  let product ← SafeMath.mul a b
  SafeMath.div product divisor

/-- At the time of the block, `timestamp`. -/
def getProvideLiquidityCalldata (router : Address) (pair : Pair) (timestamp : ℕ)
    (setToken : Address) (components : List Address) (maxTokensIn : List ℕ)
    (minLiquidity : ℕ) : Outcome (Address × ℕ × AddLiquidity) := do
  let maxTokenAIn ← readEntry maxTokensIn 0
  require (0 < maxTokenAIn) "Component quantity must be nonzero"
  let maxTokenBIn ← readEntry maxTokensIn 1
  require (0 < maxTokenBIn) "Component quantity must be nonzero"
  let totalSupply := pair.totalSupply
  let tokenA ← readEntry components 0
  let (reserveA, reserveB) := pair.getReserves tokenA
  let liquidityOfA ← mulDiv maxTokenAIn totalSupply reserveA
  let liquidityOfB ← mulDiv maxTokenBIn totalSupply reserveB
  let liquidityExpectedFromSuppliedTokens := min liquidityOfA liquidityOfB
  require (minLiquidity ≤ liquidityExpectedFromSuppliedTokens)
    "_minLiquidity is too high for input token limit"
  let amountAMin ← mulDiv liquidityExpectedFromSuppliedTokens reserveA totalSupply
  let amountBMin ← mulDiv liquidityExpectedFromSuppliedTokens reserveB totalSupply
  let tokenB ← readEntry components 1
  pure (router, 0, {
    tokenA := tokenA
    tokenB := tokenB
    amountADesired := maxTokenAIn
    amountBDesired := maxTokenBIn
    amountAMin := amountAMin
    amountBMin := amountBMin
    recipient := setToken
    deadline := timestamp })

def getProvideLiquiditySingleAssetCalldata : Outcome (Address × ℕ × AddLiquidity) :=
  .error "Uniswap V2 single asset addition is not supported"

def getRemoveLiquidityCalldata (router : Address) (pair : Pair) (timestamp : ℕ)
    (setToken : Address) (components : List Address) (minTokensOut : List ℕ)
    (liquidity : ℕ) : Outcome (Address × ℕ × RemoveLiquidity) := do
  require (liquidity ≤ pair.balanceOf setToken) "_liquidity must be <= to current balance"
  let totalSupply := pair.totalSupply
  let tokenA ← readEntry components 0
  let (reserveA, reserveB) := pair.getReserves tokenA
  let reservesOwnedByLiquidityA ← mulDiv reserveA liquidity totalSupply
  let reservesOwnedByLiquidityB ← mulDiv reserveB liquidity totalSupply
  let minTokenAOut ← readEntry minTokensOut 0
  require (minTokenAOut ≤ reservesOwnedByLiquidityA) "amounts must be <= ownedTokens"
  let minTokenBOut ← readEntry minTokensOut 1
  require (minTokenBOut ≤ reservesOwnedByLiquidityB) "amounts must be <= ownedTokens"
  let tokenB ← readEntry components 1
  pure (router, 0, {
    tokenA := tokenA
    tokenB := tokenB
    liquidity := liquidity
    amountAMin := minTokenAOut
    amountBMin := minTokenBOut
    recipient := setToken
    deadline := timestamp })

def getRemoveLiquiditySingleAssetCalldata : Outcome (Address × ℕ × RemoveLiquidity) :=
  .error "Uniswap V2 single asset removal is not supported"

/-! ## The router and the pair

An existing pair without a protocol fee, whose products fit 256 bits. -/

namespace Router

def sortTokens (tokenA tokenB : Address) : Outcome (Address × Address) := do
  require (tokenA ≠ tokenB) "UniswapV2Library: IDENTICAL_ADDRESSES"
  let (token0, token1) := if tokenA < tokenB then (tokenA, tokenB) else (tokenB, tokenA)
  require (token0 ≠ zeroAddress) "UniswapV2Library: ZERO_ADDRESS"
  pure (token0, token1)

def getReserves (pair : Pair) (tokenA tokenB : Address) : Outcome (ℕ × ℕ) := do
  let (token0, _) ← sortTokens tokenA tokenB
  pure (if tokenA = token0 then (pair.reserve0, pair.reserve1)
    else (pair.reserve1, pair.reserve0))

/-- The amount of the other token, by the ratio of the reserves and rounded down. -/
def quote (amountA reserveA reserveB : ℕ) : ℕ := amountA * reserveB / reserveA

/-- `_addLiquidity` -/
def suppliedAmounts (pair : Pair) (call : AddLiquidity) : Outcome (ℕ × ℕ) := do
  let (reserveA, reserveB) ← getReserves pair call.tokenA call.tokenB
  if reserveA = 0 ∧ reserveB = 0 then pure (call.amountADesired, call.amountBDesired)
  else
    let amountBOptimal := quote call.amountADesired reserveA reserveB
    if amountBOptimal ≤ call.amountBDesired then do
      require (call.amountBMin ≤ amountBOptimal) "UniswapV2Router: INSUFFICIENT_B_AMOUNT"
      pure (call.amountADesired, amountBOptimal)
    else do
      let amountAOptimal := quote call.amountBDesired reserveB reserveA
      require (amountAOptimal ≤ call.amountADesired) "invalid opcode"
      require (call.amountAMin ≤ amountAOptimal) "UniswapV2Router: INSUFFICIENT_A_AMOUNT"
      pure (amountAOptimal, call.amountBDesired)

/-- What the pair mints for the amounts it is sent. -/
def mintedLiquidity (totalSupply reserveA reserveB amountA amountB : ℕ) : ℕ :=
  min (amountA * totalSupply / reserveA) (amountB * totalSupply / reserveB)

/-- Both amounts that are supplied, and the liquidity minted. -/
def addLiquidity (pair : Pair) (timestamp : ℕ) (call : AddLiquidity) :
    Outcome (ℕ × ℕ × ℕ) := do
  require (timestamp ≤ call.deadline) "UniswapV2Router: EXPIRED"
  let (amountA, amountB) ← suppliedAmounts pair call
  let (reserveA, reserveB) ← getReserves pair call.tokenA call.tokenB
  pure (amountA, amountB, mintedLiquidity pair.totalSupply reserveA reserveB amountA amountB)

/-- Both amounts that are paid out to the account named by the call. -/
def removeLiquidity (pair : Pair) (timestamp : ℕ) (call : RemoveLiquidity) :
    Outcome (ℕ × ℕ) := do
  require (timestamp ≤ call.deadline) "UniswapV2Router: EXPIRED"
  let (reserveA, reserveB) ← getReserves pair call.tokenA call.tokenB
  let amountA := call.liquidity * reserveA / pair.totalSupply
  let amountB := call.liquidity * reserveB / pair.totalSupply
  require (call.amountAMin ≤ amountA) "UniswapV2Router: INSUFFICIENT_A_AMOUNT"
  require (call.amountBMin ≤ amountB) "UniswapV2Router: INSUFFICIENT_B_AMOUNT"
  pure (amountA, amountB)

end Router

/-! ## Accepted requests -/

variable {router setToken tokenA tokenB : Address} {pair : Pair} {timestamp : ℕ}
  {components : List Address} {maxA maxB minA minB liquidity minLiquidity : ℕ}

/-- The tokens of the pair, in either order. -/
def IsComponents (pair : Pair) (components : List Address) : Prop :=
  components = [pair.token0, pair.token1] ∨ components = [pair.token1, pair.token0]

theorem sortTokens_eq (hcomponents : IsComponents pair [tokenA, tokenB]) :
    Router.sortTokens tokenA tokenB = .ok (pair.token0, pair.token1) := by
  have hne : pair.token0 ≠ pair.token1 := pair.sorted.ne
  rcases hcomponents with heq | heq
  · obtain ⟨rfl, rfl⟩ : tokenA = pair.token0 ∧ tokenB = pair.token1 := by simpa using heq
    rw [Router.sortTokens, require, if_pos hne, ok_bind, if_pos pair.sorted]
    simp only [require, if_pos pair.nonzero, ok_bind]
    rfl
  · obtain ⟨rfl, rfl⟩ : tokenA = pair.token1 ∧ tokenB = pair.token0 := by simpa using heq
    rw [Router.sortTokens, require, if_pos hne.symm, ok_bind, if_neg pair.sorted.not_gt]
    simp only [require, if_pos pair.nonzero, ok_bind]
    rfl

/-- The router sees the reserves in the order of the adapter. -/
theorem getReserves_eq (hcomponents : IsComponents pair [tokenA, tokenB]) :
    Router.getReserves pair tokenA tokenB = .ok (pair.getReserves tokenA) := by
  rw [Router.getReserves, sortTokens_eq hcomponents, ok_bind, Pair.getReserves]
  rfl

theorem getReserves_pos (hreserve0 : 0 < pair.reserve0) (hreserve1 : 0 < pair.reserve1)
    (tokenA : Address) : 0 < (pair.getReserves tokenA).1 ∧ 0 < (pair.getReserves tokenA).2 := by
  rw [Pair.getReserves]
  split
  · exact ⟨hreserve0, hreserve1⟩
  · exact ⟨hreserve1, hreserve0⟩

theorem mulDiv_eq_ok {a b divisor quotient : ℕ} : mulDiv a b divisor = .ok quotient ↔
    a * b ≤ maxUint256 ∧ 0 < divisor ∧ a * b / divisor = quotient := by
  simp only [mulDiv, bind_eq_ok, SafeMath.mul_eq_ok, SafeMath.div_eq_ok]
  constructor
  · rintro ⟨_, ⟨hfits, rfl⟩, hdivisor, hquotient⟩
    exact ⟨hfits, hdivisor, hquotient⟩
  · rintro ⟨hfits, hdivisor, hquotient⟩
    exact ⟨_, ⟨hfits, rfl⟩, hdivisor, hquotient⟩

/-- What the adapter expects the greatest amounts to be worth. -/
def expectedLiquidity (pair : Pair) (tokenA : Address) (maxA maxB : ℕ) : ℕ :=
  Router.mintedLiquidity pair.totalSupply (pair.getReserves tokenA).1
    (pair.getReserves tokenA).2 maxA maxB

/-- The call made of an accepted request. -/
def provideCall (pair : Pair) (timestamp : ℕ) (setToken tokenA tokenB : Address)
    (maxA maxB : ℕ) : AddLiquidity where
  tokenA := tokenA
  tokenB := tokenB
  amountADesired := maxA
  amountBDesired := maxB
  amountAMin := expectedLiquidity pair tokenA maxA maxB * (pair.getReserves tokenA).1 /
    pair.totalSupply
  amountBMin := expectedLiquidity pair tokenA maxA maxB * (pair.getReserves tokenA).2 /
    pair.totalSupply
  recipient := setToken
  deadline := timestamp

theorem getProvideLiquidityCalldata_eq_ok {result : Address × ℕ × AddLiquidity}
    (hcall : getProvideLiquidityCalldata router pair timestamp setToken [tokenA, tokenB]
      [maxA, maxB] minLiquidity = .ok result) :
    minLiquidity ≤ expectedLiquidity pair tokenA maxA maxB ∧
      result = (router, 0, provideCall pair timestamp setToken tokenA tokenB maxA maxB) := by
  simp only [getProvideLiquidityCalldata, readEntry, List.getElem?_cons_zero,
    List.getElem?_cons_succ, bind_eq_ok, Except.ok.injEq, exists_eq_left', require_eq_ok,
    mulDiv_eq_ok, pure_eq_ok] at hcall
  obtain ⟨_, -, _, -, _, ⟨-, -, rfl⟩, _, ⟨-, -, rfl⟩, _, henough, _, ⟨-, -, rfl⟩, _,
    ⟨-, -, rfl⟩, rfl⟩ := hcall
  exact ⟨henough, rfl⟩

theorem getRemoveLiquidityCalldata_eq_ok {result : Address × ℕ × RemoveLiquidity}
    (hcall : getRemoveLiquidityCalldata router pair timestamp setToken [tokenA, tokenB]
      [minA, minB] liquidity = .ok result) :
    minA ≤ (pair.getReserves tokenA).1 * liquidity / pair.totalSupply ∧
      minB ≤ (pair.getReserves tokenA).2 * liquidity / pair.totalSupply ∧
      result = (router, 0, ⟨tokenA, tokenB, liquidity, minA, minB, setToken, timestamp⟩) := by
  simp only [getRemoveLiquidityCalldata, readEntry, List.getElem?_cons_zero,
    List.getElem?_cons_succ, bind_eq_ok, Except.ok.injEq, exists_eq_left', require_eq_ok,
    mulDiv_eq_ok, pure_eq_ok] at hcall
  obtain ⟨_, -, _, ⟨-, -, rfl⟩, _, ⟨-, -, rfl⟩, _, hownedA, _, hownedB, rfl⟩ := hcall
  exact ⟨hownedA, hownedB, rfl⟩

/-! ## What the router supplies -/

/-- Keeps the amount of the first token, or that of the second. -/
def keptAmounts (reserveA reserveB maxA maxB : ℕ) : ℕ × ℕ :=
  if maxA * reserveB / reserveA ≤ maxB then (maxA, maxA * reserveB / reserveA)
  else (maxB * reserveA / reserveB, maxB)

theorem keptAmounts_le {reserveA reserveB : ℕ} (hA : 0 < reserveA) :
    (keptAmounts reserveA reserveB maxA maxB).1 ≤ maxA ∧
      (keptAmounts reserveA reserveB maxA maxB).2 ≤ maxB := by
  rw [keptAmounts]
  split
  · rename_i hkeepsA
    exact ⟨le_refl _, hkeepsA⟩
  · rename_i hkeepsB
    refine ⟨?_, le_refl _⟩
    apply Nat.div_le_of_le_mul
    rw [Nat.mul_comm reserveB]
    have hless : maxB < maxA * reserveB / reserveA := not_le.mp hkeepsB
    exact (Nat.le_div_iff_mul_le hA).mp hless.le

/-- The least amounts of the adapter stop no call. -/
theorem suppliedAmounts_eq {reserveA reserveB : ℕ} (hA : 0 < reserveA) (hB : 0 < reserveB)
    (hsupply : 0 < pair.totalSupply) (hreserves : pair.getReserves tokenA = (reserveA, reserveB))
    (hcomponents : IsComponents pair [tokenA, tokenB]) :
    Router.suppliedAmounts pair (provideCall pair timestamp setToken tokenA tokenB maxA maxB) =
      .ok (keptAmounts reserveA reserveB maxA maxB) := by
  have hexpectedA : expectedLiquidity pair tokenA maxA maxB ≤
      maxA * pair.totalSupply / reserveA := by
    rw [expectedLiquidity, hreserves]
    exact min_le_left _ _
  have hexpectedB : expectedLiquidity pair tokenA maxA maxB ≤
      maxB * pair.totalSupply / reserveB := by
    rw [expectedLiquidity, hreserves]
    exact min_le_right _ _
  have hstarted : ¬(reserveA = 0 ∧ reserveB = 0) := fun hnone => hA.ne' hnone.1
  simp only [Router.suppliedAmounts, provideCall, getReserves_eq hcomponents, hreserves,
    ok_bind, if_neg hstarted, Router.quote, keptAmounts]
  split
  · rw [require, if_pos (Rounding.div_mul_div_le hA hsupply hexpectedA), ok_bind]
    rfl
  · rename_i hkeepsB
    have hkept := (@keptAmounts_le maxA maxB reserveA reserveB hA).1
    rw [keptAmounts, if_neg hkeepsB] at hkept
    rw [require, if_pos hkept, ok_bind, require,
      if_pos (Rounding.div_mul_div_le hB hsupply hexpectedB), ok_bind]
    rfl

theorem addLiquidity_provideCall {reserveA reserveB : ℕ} (hA : 0 < reserveA)
    (hB : 0 < reserveB) (hsupply : 0 < pair.totalSupply)
    (hreserves : pair.getReserves tokenA = (reserveA, reserveB))
    (hcomponents : IsComponents pair [tokenA, tokenB]) :
    Router.addLiquidity pair timestamp
        (provideCall pair timestamp setToken tokenA tokenB maxA maxB) =
      .ok ((keptAmounts reserveA reserveB maxA maxB).1,
        (keptAmounts reserveA reserveB maxA maxB).2,
        Router.mintedLiquidity pair.totalSupply reserveA reserveB
          (keptAmounts reserveA reserveB maxA maxB).1
          (keptAmounts reserveA reserveB maxA maxB).2) := by
  have hdeadline : timestamp ≤
      (provideCall pair timestamp setToken tokenA tokenB maxA maxB).deadline := le_refl timestamp
  rw [Router.addLiquidity, require, if_pos hdeadline, ok_bind,
    suppliedAmounts_eq hA hB hsupply hreserves hcomponents, ok_bind]
  simp only [provideCall, getReserves_eq hcomponents, hreserves, ok_bind]
  rfl

/-- The amount that is not kept covers what the liquidity needs of its token. -/
def OtherAmountCovers (reserveA reserveB totalSupply maxA maxB minLiquidity : ℕ) : Prop :=
  if maxA * reserveB < (maxB + 1) * reserveA then
    (minLiquidity * reserveB ⌈/⌉ totalSupply) * reserveA ≤ maxA * reserveB
  else (minLiquidity * reserveA ⌈/⌉ totalSupply) * reserveB ≤ maxB * reserveA

theorem le_mintedLiquidity_iff {reserveA reserveB totalSupply : ℕ} (hA : 0 < reserveA)
    (hB : 0 < reserveB) (hsupply : 0 < totalSupply)
    (hexpected : minLiquidity ≤
      Router.mintedLiquidity totalSupply reserveA reserveB maxA maxB) :
    minLiquidity ≤ Router.mintedLiquidity totalSupply reserveA reserveB
        (keptAmounts reserveA reserveB maxA maxB).1
        (keptAmounts reserveA reserveB maxA maxB).2 ↔
      OtherAmountCovers reserveA reserveB totalSupply maxA maxB minLiquidity := by
  rw [Router.mintedLiquidity, le_min_iff] at hexpected
  have hbranch : maxA * reserveB / reserveA ≤ maxB ↔
      maxA * reserveB < (maxB + 1) * reserveA := by
    rw [← Nat.lt_succ_iff, Nat.div_lt_iff_lt_mul hA]
  rw [keptAmounts, OtherAmountCovers, Router.mintedLiquidity, le_min_iff]
  by_cases hkeepsA : maxA * reserveB / reserveA ≤ maxB
  · rw [if_pos hkeepsA, if_pos (hbranch.mp hkeepsA),
      Rounding.le_div_mul_div_iff hA hsupply hB]
    exact and_iff_right hexpected.1
  · rw [if_neg hkeepsA, if_neg fun hless => hkeepsA (hbranch.mpr hless),
      Rounding.le_div_mul_div_iff hB hsupply hA]
    exact and_iff_left hexpected.2

/-- The call returns, spends no more than it may and mints enough for the check that the
module makes. -/
def Provides (pair : Pair) (timestamp : ℕ) (call : AddLiquidity)
    (maxA maxB minLiquidity : ℕ) : Prop :=
  ∃ amountA amountB liquidity,
    Router.addLiquidity pair timestamp call = .ok (amountA, amountB, liquidity) ∧
      amountA ≤ maxA ∧ amountB ≤ maxB ∧ minLiquidity ≤ liquidity ∧
      ∀ (chain : Chain) (actionInfo : AmmModule.ActionInfo),
        actionInfo.liquidityQuantity = minLiquidity →
        chain.heldBalance actionInfo.liquidityToken =
          actionInfo.preActionLiquidityTokenBalance + liquidity →
        chain.heldBalance actionInfo.liquidityToken ≤ maxUint256 →
          AmmModule.validateMinimumLiquidityReceived chain actionInfo = .ok ()

theorem validateMinimumLiquidityReceived_of_le {chain : Chain}
    {actionInfo : AmmModule.ActionInfo} (hleast : actionInfo.liquidityQuantity ≤ liquidity)
    (hheld : chain.heldBalance actionInfo.liquidityToken =
      actionInfo.preActionLiquidityTokenBalance + liquidity)
    (hfits : chain.heldBalance actionInfo.liquidityToken ≤ maxUint256) :
    AmmModule.validateMinimumLiquidityReceived chain actionInfo = .ok () := by
  simp only [AmmModule.validateMinimumLiquidityReceived, bind_eq_ok, SafeMath.add_eq_ok,
    require_eq_ok]
  refine ⟨_, ⟨?_, rfl⟩, ?_⟩
  · omega
  · omega

/-- A request for liquidity that is accepted returns and stays within its limits, and mints
enough exactly if the amount that the router rounds down covers it.  A request to remove
liquidity that is accepted is paid in full. -/
theorem accepted_requests (hreserve0 : 0 < pair.reserve0) (hreserve1 : 0 < pair.reserve1)
    (hsupply : 0 < pair.totalSupply) (hcomponents : IsComponents pair [tokenA, tokenB])
    (router setToken : Address) (timestamp maxA maxB minLiquidity minA minB liquidity : ℕ) :
    (∀ target value call, getProvideLiquidityCalldata router pair timestamp setToken
        [tokenA, tokenB] [maxA, maxB] minLiquidity = .ok (target, value, call) →
      (∃ amountA amountB minted, amountA ≤ maxA ∧ amountB ≤ maxB ∧
        Router.addLiquidity pair timestamp call = .ok (amountA, amountB, minted)) ∧
      (Provides pair timestamp call maxA maxB minLiquidity ↔
        OtherAmountCovers (pair.getReserves tokenA).1 (pair.getReserves tokenA).2
          pair.totalSupply maxA maxB minLiquidity)) ∧
    ∀ target value call, getRemoveLiquidityCalldata router pair timestamp setToken
        [tokenA, tokenB] [minA, minB] liquidity = .ok (target, value, call) →
      call.recipient = setToken ∧ ∃ amountA amountB, minA ≤ amountA ∧ minB ≤ amountB ∧
        Router.removeLiquidity pair timestamp call = .ok (amountA, amountB) := by
  obtain ⟨hA, hB⟩ := getReserves_pos hreserve0 hreserve1 tokenA
  generalize hreserves : pair.getReserves tokenA = reserves at hA hB
  obtain ⟨reserveA, reserveB⟩ := reserves
  constructor
  · intro target value call hcall
    obtain ⟨hexpected, heq⟩ := getProvideLiquidityCalldata_eq_ok hcall
    obtain ⟨rfl, rfl, rfl⟩ : target = router ∧ value = 0 ∧
      call = provideCall pair timestamp setToken tokenA tokenB maxA maxB := by simpa using heq
    have hkept := @keptAmounts_le maxA maxB reserveA reserveB hA
    have hreturns := @addLiquidity_provideCall setToken tokenA tokenB pair timestamp maxA maxB
      reserveA reserveB hA hB hsupply hreserves hcomponents
    rw [expectedLiquidity, hreserves] at hexpected
    refine ⟨⟨_, _, _, hkept.1, hkept.2, hreturns⟩, ?_⟩
    rw [← le_mintedLiquidity_iff hA hB hsupply hexpected]
    constructor
    · rintro ⟨amountA, amountB, minted, hcalled, -, -, henough, -⟩
      rw [hreturns, Except.ok.injEq, Prod.mk.injEq, Prod.mk.injEq] at hcalled
      rw [hcalled.2.2]
      exact henough
    · intro henough
      refine ⟨_, _, _, hreturns, hkept.1, hkept.2, henough, ?_⟩
      intro chain actionInfo hleast hheld hfits
      exact validateMinimumLiquidityReceived_of_le (hleast ▸ henough) hheld hfits
  · intro target value call hcall
    obtain ⟨hownedA, hownedB, heq⟩ := getRemoveLiquidityCalldata_eq_ok hcall
    obtain ⟨rfl, rfl, rfl⟩ : target = router ∧ value = 0 ∧
      call = ⟨tokenA, tokenB, liquidity, minA, minB, setToken, timestamp⟩ := by simpa using heq
    rw [hreserves] at hownedA hownedB
    rw [Nat.mul_comm reserveA] at hownedA
    rw [Nat.mul_comm reserveB] at hownedB
    refine ⟨rfl, _, _, hownedA, hownedB, ?_⟩
    rw [Router.removeLiquidity, require, if_pos (le_refl _), ok_bind]
    simp only [getReserves_eq hcomponents, hreserves, ok_bind, require, if_pos hownedA,
      if_pos hownedB]
    rfl

/-- A pair with few units of its second token. -/
def skewedPair : Pair where
  token0 := 1
  token1 := 2
  reserve0 := 1000
  reserve1 := 3
  totalSupply := 1000
  balanceOf _ := 500
  nonzero := by decide
  sorted := by decide

theorem accepted_requests_skewedPair :
    Provides skewedPair 0 (provideCall skewedPair 0 8 2 1 2 700) 2 700 600 ∧
      ∃ amountA amountB, 1 ≤ amountA ∧ 500 ≤ amountB ∧
        Router.removeLiquidity skewedPair 0 ⟨2, 1, 500, 1, 500, 8, 0⟩ =
          .ok (amountA, amountB) := by
  have hcomponents : IsComponents skewedPair [2, 1] := Or.inr rfl
  obtain ⟨hprovided, hremoved⟩ := @accepted_requests 2 1 skewedPair (by decide) (by decide)
    (by decide) hcomponents 9 8 0 2 700 600 1 500 500
  have hcovers : OtherAmountCovers 3 1000 1000 2 700 600 := by
    rw [OtherAmountCovers, Nat.ceilDiv_eq_add_pred_div, Nat.ceilDiv_eq_add_pred_div]
    decide
  have hreturns : Returns (getRemoveLiquidityCalldata 9 skewedPair 0 8 [2, 1] [1, 500] 500)
      fun result => result = (9, 0, ⟨2, 1, 500, 1, 500, 8, 0⟩) := by decide +kernel
  obtain ⟨_, haccepted, rfl⟩ := returns_iff.mp hreturns
  exact ⟨((hprovided 9 0 _ rfl).2).mpr hcovers, (hremoved _ _ _ haccepted).2⟩

/-- Of half of the first token and two units of the second the router takes one unit only. -/
theorem accepted_not_provided :
    ∃ call, getProvideLiquidityCalldata 9 skewedPair 0 8 [1, 2] [500, 2] 500 =
        .ok (9, 0, call) ∧
      Router.addLiquidity skewedPair 0 call = .ok (500, 1, 333) ∧
      ¬Provides skewedPair 0 call 500 2 500 := by
  have hreturns : Router.addLiquidity skewedPair 0
      (provideCall skewedPair 0 8 1 2 500 2) = .ok (500, 1, 333) := rfl
  refine ⟨provideCall skewedPair 0 8 1 2 500 2, rfl, hreturns, ?_⟩
  rintro ⟨amountA, amountB, liquidity, hcalled, -, -, henough, -⟩
  rw [hreturns, Except.ok.injEq, Prod.mk.injEq, Prod.mk.injEq] at hcalled
  omega

end SetProtocol.UniswapV2AmmAdapter
