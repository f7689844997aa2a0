import SetProtocol.Arithmetic.SafeMath
import SetProtocol.Library.Flows

/-!
# Uniswap V2

The pairs and the router that trades go through.  A pair pays first and then measures what it
was paid: the product of its reserves must not fall.  The router sends the input to the first
pair and has each pair pay to the next one.
-/

namespace SetProtocol.UniswapV2

open Transaction

def maxUint112 : ℕ := 2 ^ 112 - 1

/-- A pair, as the factory sets it up, and what it held at its last update. -/
structure Pair where
  token0 : Address
  token1 : Address
  reserve0 : ℕ
  reserve1 : ℕ
  sorted : token0 < token1
  fits0 : reserve0 ≤ maxUint112
  fits1 : reserve1 ≤ maxUint112

/-- Tokens and the pairs that trade them. -/
structure World where
  /-- By token and holder. -/
  balances : Address → Address → ℕ
  /-- By token, owner and spender. -/
  allowances : Address → Address → Address → ℕ
  pairs : Address → Option Pair
  timestamp : ℕ

namespace World

/-! ## Tokens -/

def moved (world : World) (token source target : Address) (amount : ℕ) : World :=
  { world with
    balances := Function.update world.balances token
      (Ledger.move (world.balances token) source target amount) }

def approve (world : World) (token owner spender : Address) (amount : ℕ) : World :=
  { world with
    allowances := Function.update world.allowances token
      (Function.update (world.allowances token) owner
        (Function.update (world.allowances token owner) spender amount)) }

def withPair (world : World) (address : Address) (pair : Pair) : World :=
  { world with pairs := Function.update world.pairs address (some pair) }

def transfer (world : World) (token source target : Address) (amount : ℕ) : Outcome World := do
  require (amount ≤ world.balances token source) "ERC20: transfer amount exceeds balance"
  pure (world.moved token source target amount)

/-- A transfer on behalf of the owner, out of the allowance of the spender. -/
def transferFrom (world : World) (token spender owner target : Address) (amount : ℕ) :
    Outcome World := do
  let paid ← world.transfer token owner target amount
  require (amount ≤ world.allowances token owner spender)
    "ERC20: transfer amount exceeds allowance"
  pure (paid.approve token owner spender (world.allowances token owner spender - amount))

/-! ## Pairs -/

/-- A call to an address without a contract reverts. -/
def pairAt (world : World) (address : Address) : Outcome Pair :=
  match world.pairs address with
  | some pair => .ok pair
  | none => .error ""

/-- `_safeTransfer`, of a pair -/
def safeTransfer (world : World) (token pair target : Address) (amount : ℕ) : Outcome World :=
  (world.transfer token pair target amount).mapError fun _ => "UniswapV2: TRANSFER_FAILED"

/-- A pair sends only what is more than nothing. -/
def payOut (world : World) (token pair target : Address) (amount : ℕ) : Outcome World :=
  if amount > 0 then world.safeTransfer token pair target amount else .ok world

/-- `_update`: the reserves become what the pair holds. -/
def update (world : World) (address : Address) (pair : Pair) : Outcome World :=
  let balance0 := world.balances pair.token0 address
  let balance1 := world.balances pair.token1 address
  if hfits : balance0 ≤ maxUint112 ∧ balance1 ≤ maxUint112 then
    .ok (world.withPair address
      { pair with
        reserve0 := balance0
        reserve1 := balance1
        fits0 := hfits.1
        fits1 := hfits.2 })
  else .error "UniswapV2: OVERFLOW"

/-- What a pair holds beyond the reserve it has not paid out. -/
def amountIn (balance reserve amountOut : ℕ) : ℕ :=
  if balance > reserve - amountOut then balance - (reserve - amountOut) else 0

/-- Three thousandths of what comes in are a fee. -/
def adjusted (balance amountIn : ℕ) : Outcome ℕ := do
  let scaled ← SafeMath.mul balance 1000
  let fee ← SafeMath.mul amountIn 3
  SafeMath.sub scaled fee

/-- `swap`, without a callback -/
def swap (world : World) (address : Address) (amount0Out amount1Out : ℕ) (target : Address) :
    Outcome World := do
  let pair ← world.pairAt address
  require (amount0Out > 0 ∨ amount1Out > 0) "UniswapV2: INSUFFICIENT_OUTPUT_AMOUNT"
  require (amount0Out < pair.reserve0 ∧ amount1Out < pair.reserve1)
    "UniswapV2: INSUFFICIENT_LIQUIDITY"
  require (target ≠ pair.token0 ∧ target ≠ pair.token1) "UniswapV2: INVALID_TO"
  let paid ← world.payOut pair.token0 address target amount0Out
  let paid ← paid.payOut pair.token1 address target amount1Out
  let balance0 := paid.balances pair.token0 address
  let balance1 := paid.balances pair.token1 address
  let amount0In := amountIn balance0 pair.reserve0 amount0Out
  let amount1In := amountIn balance1 pair.reserve1 amount1Out
  require (amount0In > 0 ∨ amount1In > 0) "UniswapV2: INSUFFICIENT_INPUT_AMOUNT"
  let balance0Adjusted ← adjusted balance0 amount0In
  let balance1Adjusted ← adjusted balance1 amount1In
  let product ← SafeMath.mul balance0Adjusted balance1Adjusted
  let reserves ← SafeMath.mul pair.reserve0 pair.reserve1
  let bound ← SafeMath.mul reserves (1000 ^ 2)
  require (product ≥ bound) "UniswapV2: K"
  paid.update address pair

/-- `skim`: what the reserves do not cover goes to whoever asks. -/
def skim (world : World) (address target : Address) : Outcome World := do
  let pair ← world.pairAt address
  let excess0 ← SafeMath.sub (world.balances pair.token0 address) pair.reserve0
  let paid ← world.safeTransfer pair.token0 address target excess0
  let excess1 ← SafeMath.sub (paid.balances pair.token1 address) pair.reserve1
  paid.safeTransfer pair.token1 address target excess1

/-- `sync` -/
def sync (world : World) (address : Address) : Outcome World := do
  let pair ← world.pairAt address
  world.update address pair

end World

/-! ## The router -/

def sortTokens (tokenA tokenB : Address) : Outcome (Address × Address) := do
  require (tokenA ≠ tokenB) "UniswapV2Library: IDENTICAL_ADDRESSES"
  let (token0, token1) := if tokenA < tokenB then (tokenA, tokenB) else (tokenB, tokenA)
  require (token0 ≠ zeroAddress) "UniswapV2Library: ZERO_ADDRESS"
  pure (token0, token1)

/-- A router and its factory. -/
structure Router where
  address : Address
  /-- The pairs that the factory has on record. -/
  getPair : Address → Address → Address
  /-- Where the factory puts the pair of two sorted tokens. -/
  create2 : Address → Address → Address

namespace Router

def pairFor (router : Router) (tokenA tokenB : Address) : Outcome Address := do
  let (token0, token1) ← sortTokens tokenA tokenB
  pure (router.create2 token0 token1)

def getReserves (router : Router) (world : World) (tokenA tokenB : Address) :
    Outcome (ℕ × ℕ) := do
  let (token0, _) ← sortTokens tokenA tokenB
  let address ← router.pairFor tokenA tokenB
  let pair ← world.pairAt address
  pure (if tokenA = token0 then (pair.reserve0, pair.reserve1)
    else (pair.reserve1, pair.reserve0))

end Router

/-- The amounts along a path, from the reserves of its pairs. -/
structure Quotes where
  getAmountsOut : (Address → Address → Outcome (ℕ × ℕ)) → ℕ → List Address → Outcome (List ℕ)
  getAmountsIn : (Address → Address → Outcome (ℕ × ℕ)) → ℕ → List Address → Outcome (List ℕ)

/-- One amount for each token, and the given amount where it belongs. -/
structure Quotes.Documented (quotes : Quotes) : Prop where
  out_length : ∀ reserves amount path amounts,
    quotes.getAmountsOut reserves amount path = .ok amounts → amounts.length = path.length
  out_first : ∀ reserves amount path amounts,
    quotes.getAmountsOut reserves amount path = .ok amounts → amounts.head? = some amount
  in_length : ∀ reserves amount path amounts,
    quotes.getAmountsIn reserves amount path = .ok amounts → amounts.length = path.length
  in_last : ∀ reserves amount path amounts,
    quotes.getAmountsIn reserves amount path = .ok amounts → amounts.getLast? = some amount

namespace Router

/-- Whom a pair of the path pays: the pair that comes next, or the target of the trade. -/
def receiver (router : Router) (target output : Address) : List Address → Outcome Address
  | [] => .ok target
  | next :: _ => router.pairFor output next

/-- `_swap`, with the amounts that come out of each pair. -/
def swapAlong (router : Router) (target : Address) :
    List ℕ → List Address → World → Outcome World
  | amountOut :: amounts, input :: output :: path, world => do
      let (token0, _) ← sortTokens input output
      let (amount0Out, amount1Out) := if input = token0 then (0, amountOut) else (amountOut, 0)
      let paidTo ← router.receiver target output path
      let pair ← router.pairFor input output
      let swapped ← world.swap pair amount0Out amount1Out paidTo
      router.swapAlong target amounts (output :: path) swapped
  | _, [_], world => .ok world
  | _, _, _ => .error ""

/-- The end of both swaps: the sender pays the first pair. -/
def execute (router : Router) (world : World) (sender : Address) (amounts : List ℕ)
    (path : List Address) (target : Address) : Outcome World :=
  match amounts, path with
  | amount :: amountsOut, input :: output :: rest => do
      let pair ← router.pairFor input output
      let paid ← (world.transferFrom input router.address sender pair amount).mapError
        fun _ => "TransferHelper: TRANSFER_FROM_FAILED"
      router.swapAlong target amountsOut (input :: output :: rest) paid
  | _, _ => .error ""

/-- The last entry of an array, which reverts if there is none. -/
def last (amounts : List ℕ) : Outcome ℕ :=
  match amounts.getLast? with
  | some amount => .ok amount
  | none => .error ""

/-- The first entry of an array, which reverts if there is none. -/
def first (amounts : List ℕ) : Outcome ℕ :=
  match amounts.head? with
  | some amount => .ok amount
  | none => .error ""

def swapExactTokensForTokens (quotes : Quotes) (router : Router) (world : World)
    (sender : Address) (amountIn amountOutMin : ℕ) (path : List Address) (target : Address)
    (deadline : ℕ) : Outcome (List ℕ × World) := do
  require (deadline ≥ world.timestamp) "UniswapV2Router: EXPIRED"
  let amounts ← quotes.getAmountsOut (router.getReserves world) amountIn path
  let amountOut ← last amounts
  require (amountOut ≥ amountOutMin) "UniswapV2Router: INSUFFICIENT_OUTPUT_AMOUNT"
  let swapped ← router.execute world sender amounts path target
  pure (amounts, swapped)

def swapTokensForExactTokens (quotes : Quotes) (router : Router) (world : World)
    (sender : Address) (amountOut amountInMax : ℕ) (path : List Address) (target : Address)
    (deadline : ℕ) : Outcome (List ℕ × World) := do
  require (deadline ≥ world.timestamp) "UniswapV2Router: EXPIRED"
  let amounts ← quotes.getAmountsIn (router.getReserves world) amountOut path
  let amountIn ← first amounts
  require (amountIn ≤ amountInMax) "UniswapV2Router: EXCESSIVE_INPUT_AMOUNT"
  let swapped ← router.execute world sender amounts path target
  pure (amounts, swapped)

end Router

/-! ## What a pair does -/

variable {world middle next : World} {token source target spender owner holder : Address}
variable {address other : Address} {pair : Pair} {amount : ℕ}

namespace World

/-- An account that is not a pair. -/
def Outsider (world : World) (holder : Address) : Prop := world.pairs holder = none

/-- Every pair has what its reserves say. -/
def Backed (world : World) : Prop :=
  ∀ address pair, world.pairs address = some pair →
    pair.reserve0 ≤ world.balances pair.token0 address ∧
      pair.reserve1 ≤ world.balances pair.token1 address

end World

/-- A pair has become no shallower. -/
structure Pair.Deepens (before after : Pair) : Prop where
  token0 : after.token0 = before.token0
  token1 : after.token1 = before.token1
  product : before.reserve0 * before.reserve1 ≤ after.reserve0 * after.reserve1

theorem Pair.Deepens.refl (pair : Pair) : pair.Deepens pair := ⟨rfl, rfl, le_rfl⟩

theorem Pair.Deepens.trans {before between after : Pair} (hfirst : before.Deepens between)
    (hsecond : between.Deepens after) : before.Deepens after :=
  ⟨hsecond.token0.trans hfirst.token0, hsecond.token1.trans hfirst.token1,
    hfirst.product.trans hsecond.product⟩

namespace World

/-- There are the same pairs, and none has become shallower. -/
def Deepens (world next : World) : Prop :=
  ∀ address, Option.Rel Pair.Deepens (world.pairs address) (next.pairs address)

theorem Deepens.of_same (hsame : next.pairs = world.pairs) : world.Deepens next := by
  intro address
  rw [hsame]
  cases world.pairs address with
  | none => exact .none
  | some pair => exact .some (Pair.Deepens.refl pair)

theorem Deepens.trans (hfirst : world.Deepens middle) (hsecond : middle.Deepens next) :
    world.Deepens next := by
  intro address
  have hpast := hfirst address
  have hrest := hsecond address
  generalize world.pairs address = before at hpast ⊢
  generalize middle.pairs address = between at hpast hrest
  generalize next.pairs address = after at hrest ⊢
  cases hpast with
  | none =>
      cases hrest
      exact .none
  | some hpair =>
      cases hrest with
      | some hnext => exact .some (hpair.trans hnext)

theorem Deepens.outsider_iff (hdeepens : world.Deepens next) :
    next.Outsider holder ↔ world.Outsider holder := by
  have hrel := hdeepens holder
  unfold Outsider
  generalize world.pairs holder = before at hrel ⊢
  generalize next.pairs holder = after at hrel ⊢
  cases hrel with
  | none => exact Iff.rfl
  | some _ => exact iff_of_false (Option.some_ne_none _) (Option.some_ne_none _)

theorem Deepens.outsider_eq (hdeepens : world.Deepens next) : next.Outsider = world.Outsider := by
  funext holder
  exact propext hdeepens.outsider_iff

theorem pairAt_eq_ok : world.pairAt address = .ok pair ↔ world.pairs address = some pair := by
  unfold pairAt
  cases world.pairs address with
  | none => simp
  | some found => simp

theorem transfer_eq_ok : world.transfer token source target amount = .ok next ↔
    amount ≤ world.balances token source ∧ world.moved token source target amount = next := by
  simp only [transfer, bind_eq_ok, require_eq_ok, pure_eq_ok]
  constructor
  · rintro ⟨_, hfunds, hnext⟩
    exact ⟨hfunds, hnext⟩
  · rintro ⟨hfunds, hnext⟩
    exact ⟨(), hfunds, hnext⟩

theorem safeTransfer_eq_ok : world.safeTransfer token source target amount = .ok next ↔
    world.transfer token source target amount = .ok next :=
  mapError_eq_ok

theorem moved_zero (world : World) (token source target : Address) :
    world.moved token source target 0 = world := by
  unfold moved
  rw [Ledger.move, Ledger.credit_zero, Ledger.debit, Nat.sub_zero, Function.update_eq_self,
    Function.update_eq_self]

@[simp]
theorem pairs_withPair_self : (world.withPair address pair).pairs address = some pair := by
  simp [withPair]

@[simp]
theorem pairs_withPair_of_ne (hne : other ≠ address) :
    (world.withPair address pair).pairs other = world.pairs other := by
  simp [withPair, hne]

/-- Whether nothing is sent or not looked at makes no difference. -/
theorem payOut_eq_ok : world.payOut token source target amount = .ok next ↔
    amount ≤ world.balances token source ∧ world.moved token source target amount = next := by
  unfold payOut
  by_cases hamount : amount > 0
  · rw [if_pos hamount, safeTransfer_eq_ok, transfer_eq_ok]
  · rw [if_neg hamount, Except.ok.injEq, Nat.eq_zero_of_not_pos hamount, moved_zero]
    exact (and_iff_right (Nat.zero_le _)).symm

theorem update_eq_ok : world.update address pair = .ok next ↔
    ∃ after : Pair, after.token0 = pair.token0 ∧ after.token1 = pair.token1 ∧
      after.reserve0 = world.balances pair.token0 address ∧
      after.reserve1 = world.balances pair.token1 address ∧
      world.withPair address after = next := by
  unfold update
  dsimp only
  split
  · rename_i hfits
    rw [Except.ok.injEq]
    constructor
    · rintro rfl
      exact ⟨⟨pair.token0, pair.token1, _, _, pair.sorted, hfits.1, hfits.2⟩, rfl, rfl, rfl, rfl,
        rfl⟩
    · rintro ⟨⟨_, _, _, _, _, _, _⟩, rfl, rfl, rfl, rfl, rfl⟩
      rfl
  · rename_i hfits
    refine iff_of_false (by simp) ?_
    rintro ⟨after, htoken0, htoken1, hreserve0, hreserve1, -⟩
    exact hfits ⟨hreserve0 ▸ after.fits0, hreserve1 ▸ after.fits1⟩

theorem adjusted_le {balance amountIn scaled : ℕ} (hcall : adjusted balance amountIn = .ok scaled) :
    scaled ≤ balance * 1000 := by
  simp only [adjusted, bind_eq_ok, SafeMath.mul_eq_ok, SafeMath.sub_eq_ok] at hcall
  obtain ⟨_, ⟨-, rfl⟩, fee, -, -, rfl⟩ := hcall
  exact Nat.sub_le _ _

/-- A swap pays out what is asked for, less than there is.  Afterwards the reserves are what
the pair holds, and their product has not fallen. -/
structure Swapped (world : World) (address : Address) (amount0Out amount1Out : ℕ)
    (target : Address) (pair after : Pair) (next : World) : Prop where
  before : world.pairs address = some pair
  lt0 : amount0Out < pair.reserve0
  lt1 : amount1Out < pair.reserve1
  funds0 : amount0Out ≤ world.balances pair.token0 address
  funds1 : amount1Out ≤
    (world.moved pair.token0 address target amount0Out).balances pair.token1 address
  deepens : pair.Deepens after
  reserve0 : after.reserve0 = next.balances pair.token0 address
  reserve1 : after.reserve1 = next.balances pair.token1 address
  effect : next = (((world.moved pair.token0 address target amount0Out).moved pair.token1 address
    target amount1Out).withPair address after)

theorem swap_eq_ok {amount0Out amount1Out : ℕ}
    (hcall : world.swap address amount0Out amount1Out target = .ok next) :
    ∃ pair after, Swapped world address amount0Out amount1Out target pair after next := by
  simp only [swap, bind_eq_ok, require_eq_ok, pairAt_eq_ok, payOut_eq_ok, SafeMath.mul_eq_ok,
    update_eq_ok] at hcall
  obtain ⟨pair, hpair, _, -, _, ⟨hlt0, hlt1⟩, _, -, _, ⟨hfunds0, rfl⟩, paid, ⟨hfunds1, hpaid⟩, _,
    -, scaled0, hscaled0, scaled1, hscaled1, _, ⟨-, rfl⟩, _, ⟨-, rfl⟩, _, ⟨-, rfl⟩, _, hproduct,
    after, htoken0, htoken1, hreserve0, hreserve1, hnext⟩ := hcall
  have hbound : scaled0 * scaled1 ≤ after.reserve0 * 1000 * (after.reserve1 * 1000) := by
    rw [hreserve0, hreserve1]
    exact Nat.mul_le_mul (adjusted_le hscaled0) (adjusted_le hscaled1)
  subst hnext hpaid
  refine ⟨pair, after, hpair, hlt0, hlt1, hfunds0, hfunds1, ⟨htoken0, htoken1, ?_⟩, hreserve0,
    hreserve1, rfl⟩
  have hgrown : pair.reserve0 * pair.reserve1 * 1000 ^ 2 ≤
      after.reserve0 * after.reserve1 * 1000 ^ 2 := by
    calc pair.reserve0 * pair.reserve1 * 1000 ^ 2 ≤ scaled0 * scaled1 := hproduct
      _ ≤ after.reserve0 * 1000 * (after.reserve1 * 1000) := hbound
      _ = after.reserve0 * after.reserve1 * 1000 ^ 2 := by ring
  exact Nat.le_of_mul_le_mul_right hgrown (by decide)

/-! ## Balances -/

open Flows

theorem shifts_moved (watched : Address → Prop) (hfunds : amount ≤ world.balances token source)
    (target : Address) :
    Shifts watched world.balances (world.moved token source target amount).balances
      (payment token source target amount) :=
  shifts_move watched hfunds target

/-- Nobody but the source of a transfer loses. -/
theorem le_moved (hne : holder ≠ source) (other : Address) :
    world.balances other holder ≤ (world.moved token source target amount).balances other holder := by
  unfold moved
  dsimp only
  by_cases hother : other = token
  · subst hother
    rw [Function.update_self, Ledger.move]
    exact (Ledger.debit_of_ne hne).symm.trans_le (Ledger.le_credit _ _ _ _)
  · rw [Function.update_of_ne hother]

theorem balances_moved_of_ne (hsource : holder ≠ source) (htarget : holder ≠ target)
    (other : Address) :
    (world.moved token source target amount).balances other holder =
      world.balances other holder := by
  unfold moved
  dsimp only
  by_cases hother : other = token
  · subst hother
    rw [Function.update_self, Ledger.move_of_ne hsource htarget]
  · rw [Function.update_of_ne hother]

theorem balances_moved_of_token {other : Address} (hne : other ≠ token) :
    (world.moved token source target amount).balances other = world.balances other :=
  Function.update_of_ne hne _ _

/-- What is not sent stays, and even more if it is sent to oneself. -/
theorem sub_le_moved {kept : ℕ} (hkept : kept ≤ world.balances token source)
    (target : Address) :
    kept ≤ (world.moved token source target (world.balances token source - kept)).balances token
      source := by
  unfold moved
  dsimp only
  rw [Function.update_self, Ledger.move]
  refine le_trans ?_ (Ledger.le_credit _ _ _ _)
  rw [Ledger.debit_self]
  omega

/-- No pair loses anything in between. -/
theorem Backed.of_le (hbacked : world.Backed) (hpairs : next.pairs = world.pairs)
    (hle : ∀ token address, world.pairs address ≠ none →
      world.balances token address ≤ next.balances token address) : next.Backed := by
  intro address pair hpair
  rw [hpairs] at hpair
  have hsome : world.pairs address ≠ none := hpair ▸ Option.some_ne_none pair
  obtain ⟨hreserve0, hreserve1⟩ := hbacked address pair hpair
  exact ⟨hreserve0.trans (hle _ address hsome), hreserve1.trans (hle _ address hsome)⟩

namespace Swapped

variable {amount0Out amount1Out : ℕ} {after : Pair}

theorem pairs (hswap : Swapped world address amount0Out amount1Out target pair after next) :
    next.pairs = Function.update world.pairs address (some after) := by
  rw [hswap.effect]
  rfl

theorem allowances (hswap : Swapped world address amount0Out amount1Out target pair after next) :
    next.allowances = world.allowances := by
  rw [hswap.effect]
  rfl

theorem worldDeepens
    (hswap : Swapped world address amount0Out amount1Out target pair after next) :
    world.Deepens next := by
  intro other
  rw [hswap.pairs]
  by_cases hother : other = address
  · subst hother
    rw [hswap.before, Function.update_self]
    exact .some hswap.deepens
  · rw [Function.update_of_ne hother]
    exact Deepens.of_same rfl other

/-- Only the pair itself pays. -/
theorem le_balances (hswap : Swapped world address amount0Out amount1Out target pair after next)
    (hne : holder ≠ address) (token : Address) :
    world.balances token holder ≤ next.balances token holder := by
  rw [hswap.effect]
  exact (le_moved hne token).trans (le_moved hne token)

theorem backed (hswap : Swapped world address amount0Out amount1Out target pair after next)
    (hbacked : world.Backed) : next.Backed := by
  intro other found hfound
  rw [hswap.pairs] at hfound
  by_cases hother : other = address
  · subst hother
    rw [Function.update_self] at hfound
    obtain rfl := Option.some.inj hfound
    rw [hswap.deepens.token0, hswap.deepens.token1, hswap.reserve0, hswap.reserve1]
    exact ⟨le_rfl, le_rfl⟩
  · rw [Function.update_of_ne hother] at hfound
    obtain ⟨hreserve0, hreserve1⟩ := hbacked other found hfound
    exact ⟨hreserve0.trans (hswap.le_balances hother _),
      hreserve1.trans (hswap.le_balances hother _)⟩

/-- What the accounts outside get from a swap. -/
theorem shifts (hswap : Swapped world address amount0Out amount1Out target pair after next) :
    Shifts world.Outsider world.balances next.balances
      (income pair.token0 target amount0Out + income pair.token1 target amount1Out) := by
  have hfirst := shifts_moved world.Outsider hswap.funds0 target
  have hsecond := shifts_moved world.Outsider hswap.funds1 target
  rw [hswap.effect]
  refine (hfirst.trans hsecond).congr fun token account houtside => ?_
  have hne : account ≠ address := by
    rintro rfl
    exact Option.some_ne_none pair (hswap.before.symm.trans houtside)
  simp only [payment, Pi.add_apply, Pi.sub_apply, income_of_ne hne, sub_zero]

end Swapped

end World

/-! ## Along a path -/

open Flows

theorem sortTokens_eq_ok {tokenA tokenB token0 token1 : Address}
    (hcall : sortTokens tokenA tokenB = .ok (token0, token1)) :
    token0 < token1 ∧
      (tokenA = token0 ∧ tokenB = token1 ∨ tokenA = token1 ∧ tokenB = token0) := by
  unfold sortTokens at hcall
  by_cases hlt : tokenA < tokenB
  · simp only [hlt, if_true, bind_eq_ok, require_eq_ok, pure_eq_ok, Prod.mk.injEq] at hcall
    obtain ⟨_, -, _, -, rfl, rfl⟩ := hcall
    exact ⟨hlt, .inl ⟨rfl, rfl⟩⟩
  · simp only [hlt, if_false, bind_eq_ok, require_eq_ok, pure_eq_ok, Prod.mk.injEq] at hcall
    obtain ⟨_, hne, _, -, rfl, rfl⟩ := hcall
    exact ⟨lt_of_le_of_ne (not_lt.mp hlt) (Ne.symm hne), .inr ⟨rfl, rfl⟩⟩

namespace Router

variable {router : Router}

/-- The pairs of a factory trade the tokens they were made for. -/
structure Recorded (router : Router) (world : World) : Prop where
  tokens : ∀ token0 token1 pair, token0 < token1 →
    world.pairs (router.create2 token0 token1) = some pair →
      pair.token0 = token0 ∧ pair.token1 = token1
  getPair : ∀ tokenA tokenB, router.getPair tokenA tokenB ≠ zeroAddress →
    ¬world.Outsider (router.getPair tokenA tokenB)

theorem Recorded.of_deepens (hrecorded : router.Recorded world) (hdeepens : world.Deepens next) :
    router.Recorded next where
  tokens := by
    intro token0 token1 pair hlt hpair
    have hrel := hdeepens (router.create2 token0 token1)
    rw [hpair] at hrel
    generalize hbefore : world.pairs (router.create2 token0 token1) = before at hrel
    cases hrel with
    | some hfound =>
        obtain ⟨htoken0, htoken1⟩ := hrecorded.tokens token0 token1 _ hlt hbefore
        exact ⟨hfound.token0.trans htoken0, hfound.token1.trans htoken1⟩
  getPair := fun tokenA tokenB hsome houtside =>
    hrecorded.getPair tokenA tokenB hsome (hdeepens.outsider_iff.mp houtside)

/-- What a trade may do to the pairs: those of the router only get deeper. -/
structure Trades (router : Router) (world next : World) : Prop where
  deepens : world.Deepens next
  elsewhere : ∀ address, (∀ token0 token1, address ≠ router.create2 token0 token1) →
    next.pairs address = world.pairs address
  backed : world.Backed → next.Backed
  allowances : next.allowances = world.allowances

theorem Trades.refl (router : Router) (world : World) : router.Trades world world :=
  ⟨.of_same rfl, fun _ _ => rfl, id, rfl⟩

theorem Trades.trans (hfirst : router.Trades world middle) (hsecond : router.Trades middle next) :
    router.Trades world next where
  deepens := hfirst.deepens.trans hsecond.deepens
  elsewhere := fun address hfar =>
    (hsecond.elsewhere address hfar).trans (hfirst.elsewhere address hfar)
  backed := fun hbacked => hsecond.backed (hfirst.backed hbacked)
  allowances := hsecond.allowances.trans hfirst.allowances

theorem trades_of_swapped {token0 token1 : Address} {amount0Out amount1Out : ℕ} {after : Pair}
    (hswap : World.Swapped world (router.create2 token0 token1) amount0Out amount1Out target pair
      after next) : router.Trades world next where
  deepens := hswap.worldDeepens
  elsewhere := fun address hfar => by
    rw [hswap.pairs, Function.update_of_ne (hfar token0 token1)]
  backed := hswap.backed
  allowances := hswap.allowances

theorem pairFor_eq_ok {tokenA tokenB : Address} : router.pairFor tokenA tokenB = .ok address ↔
    ∃ token0 token1, sortTokens tokenA tokenB = .ok (token0, token1) ∧
      router.create2 token0 token1 = address := by
  simp only [pairFor, bind_eq_ok, pure_eq_ok, Prod.exists]

theorem swapAlong_singleton (amounts : List ℕ) (token : Address) :
    router.swapAlong target amounts [token] world = .ok world := by
  cases amounts with
  | nil => rfl
  | cons amount amounts => rfl

/-- One hop, and the rest of the path. -/
theorem swapAlong_cons_eq_ok {amountOut : ℕ} {amounts : List ℕ} {input output : Address}
    {path : List Address}
    (hcall : router.swapAlong target (amountOut :: amounts) (input :: output :: path) world =
      .ok next) :
    ∃ token0 token1 paidTo pair after swapped,
      sortTokens input output = .ok (token0, token1) ∧
      router.receiver target output path = .ok paidTo ∧
      World.Swapped world (router.create2 token0 token1)
        (if input = token0 then (0, amountOut) else (amountOut, 0)).1
        (if input = token0 then (0, amountOut) else (amountOut, 0)).2 paidTo pair after swapped ∧
      router.swapAlong target amounts (output :: path) swapped = .ok next := by
  simp only [swapAlong, bind_eq_ok, pairFor_eq_ok, Prod.exists] at hcall
  obtain ⟨token0, token1, hsort, paidTo, hpaidTo, _, ⟨_, _, hagain, rfl⟩, swapped, hswap,
    hrest⟩ := hcall
  obtain ⟨rfl, rfl⟩ := Prod.mk.inj (Except.ok.inj (hsort.symm.trans hagain))
  obtain ⟨pair, after, hswap⟩ := World.swap_eq_ok hswap
  exact ⟨token0, token1, paidTo, pair, after, swapped, hsort, hpaidTo, hswap, hrest⟩

theorem trades_of_swapAlong {amounts : List ℕ} {path : List Address}
    (hcall : router.swapAlong target amounts path world = .ok next) :
    router.Trades world next := by
  induction path generalizing amounts world with
  | nil => simp [swapAlong] at hcall
  | cons input path ih =>
      cases path with
      | nil =>
          rw [swapAlong_singleton, Except.ok.injEq] at hcall
          subst hcall
          exact Trades.refl router world
      | cons output path =>
          cases amounts with
          | nil => simp [swapAlong] at hcall
          | cons amountOut amounts =>
              obtain ⟨_, _, _, _, _, swapped, -, -, hswap, hrest⟩ := swapAlong_cons_eq_ok hcall
              exact (trades_of_swapped hswap).trans (ih hrest)

/-- What a pair pays out is what comes out of it, whichever of its tokens that is. -/
theorem income_of_hop {token0 token1 input output paidTo : Address} {amountOut : ℕ}
    {after : Pair} (hrecorded : router.Recorded world)
    (hsort : sortTokens input output = .ok (token0, token1))
    (hswap : World.Swapped world (router.create2 token0 token1)
      (if input = token0 then (0, amountOut) else (amountOut, 0)).1
      (if input = token0 then (0, amountOut) else (amountOut, 0)).2 paidTo pair after next) :
    Shifts world.Outsider world.balances next.balances (income output paidTo amountOut) := by
  obtain ⟨hlt, hsides⟩ := sortTokens_eq_ok hsort
  obtain ⟨htoken0, htoken1⟩ := hrecorded.tokens token0 token1 pair hlt hswap.before
  have hshifts := hswap.shifts
  rw [htoken0, htoken1] at hshifts
  rcases hsides with ⟨rfl, rfl⟩ | ⟨rfl, rfl⟩
  · simpa only [if_true, income_zero, zero_add] using hshifts
  · simpa only [if_neg hlt.ne', income_zero, add_zero] using hshifts

theorem amountOut_le_of_hop {token0 token1 input paidTo : Address} {amountOut : ℕ}
    {after : Pair}
    (hswap : World.Swapped world (router.create2 token0 token1)
      (if input = token0 then (0, amountOut) else (amountOut, 0)).1
      (if input = token0 then (0, amountOut) else (amountOut, 0)).2 paidTo pair after next) :
    amountOut ≤ maxUint112 := by
  have hle0 := hswap.lt0.le.trans pair.fits0
  have hle1 := hswap.lt1.le.trans pair.fits1
  by_cases hinput : input = token0
  · rwa [if_pos hinput] at hle1
  · rwa [if_neg hinput] at hle0

/-- The first pair of a path is there. -/
theorem not_outsider_of_swapAlong {amounts : List ℕ} {input output : Address}
    {path : List Address}
    (hcall : router.swapAlong target amounts (input :: output :: path) world = .ok next)
    (hpair : router.pairFor input output = .ok address) : ¬world.Outsider address := by
  cases amounts with
  | nil => simp [swapAlong] at hcall
  | cons amountOut amounts =>
      obtain ⟨_, _, _, pair, _, _, hsort, -, hswap, -⟩ := swapAlong_cons_eq_ok hcall
      obtain ⟨_, _, hagain, rfl⟩ := pairFor_eq_ok.mp hpair
      obtain ⟨rfl, rfl⟩ := Prod.mk.inj (Except.ok.inj (hsort.symm.trans hagain))
      intro houtside
      exact Option.some_ne_none pair (hswap.before.symm.trans houtside)

/-- The last pair pays the target itself, and one before it the next pair, which is no account of
interest. -/
theorem income_of_receiver {input output paidTo : Address} {amountOut : ℕ} {amounts : List ℕ}
    {path : List Address} (hlengths : amounts.length = path.length)
    (hpaidTo : router.receiver target output path = .ok paidTo)
    (hne : path ≠ [] → holder ≠ paidTo) :
    (income output paidTo amountOut +
        income ((output :: path).getLastD 0) target (amounts.getLastD 0)) token holder =
      income ((input :: output :: path).getLastD 0) target ((amountOut :: amounts).getLastD 0)
        token holder := by
  cases path with
  | nil =>
      cases hpaidTo
      rw [List.eq_nil_of_length_eq_zero hlengths]
      simp
  | cons later path =>
      cases amounts with
      | nil => simp at hlengths
      | cons amount amounts =>
          rw [Pi.add_apply, Pi.add_apply, income_of_ne (hne (List.cons_ne_nil later path)),
            zero_add]
          simp only [List.getLastD_cons]

/-- Of all accounts but the pairs, only the target of the trade gets anything, and that is the
last amount in the last token. -/
theorem shifts_of_swapAlong {amounts : List ℕ} {path : List Address}
    (hrecorded : router.Recorded world) (hlength : amounts.length + 1 = path.length)
    (hcall : router.swapAlong target amounts path world = .ok next) :
    Shifts world.Outsider world.balances next.balances
      (income (path.getLastD 0) target (amounts.getLastD 0)) := by
  induction path generalizing amounts world with
  | nil => simp at hlength
  | cons input path ih =>
      cases path with
      | nil =>
          rw [swapAlong_singleton, Except.ok.injEq] at hcall
          subst hcall
          have hnone : amounts = [] := List.eq_nil_of_length_eq_zero (Nat.succ.inj hlength)
          rw [hnone, List.getLastD_nil, income_zero]
          exact Shifts.refl _ _
      | cons output path =>
          cases amounts with
          | nil => simp [swapAlong] at hcall
          | cons amountOut amounts =>
              obtain ⟨_, _, paidTo, pair, after, swapped, hsort, hpaidTo, hswap, hrest⟩ :=
                swapAlong_cons_eq_ok hcall
              have hfirst := income_of_hop hrecorded hsort hswap
              have htrades := trades_of_swapped hswap
              have hlater := ih (hrecorded.of_deepens htrades.deepens) (Nat.succ.inj hlength) hrest
              have hsame : swapped.Outsider = world.Outsider := htrades.deepens.outsider_eq
              rw [hsame] at hlater
              refine (hfirst.trans hlater).congr fun token holder houtside => ?_
              have hlengths : amounts.length = path.length := Nat.succ.inj (Nat.succ.inj hlength)
              apply income_of_receiver hlengths hpaidTo
              rintro hpath rfl
              obtain ⟨_, _, rfl⟩ := List.exists_cons_of_ne_nil hpath
              exact not_outsider_of_swapAlong hrest hpaidTo (hsame ▸ houtside)

theorem amounts_le_of_swapAlong {amounts : List ℕ} {path : List Address}
    (hlength : amounts.length + 1 = path.length)
    (hcall : router.swapAlong target amounts path world = .ok next) :
    ∀ amount ∈ amounts, amount ≤ maxUint112 := by
  induction path generalizing amounts world with
  | nil => simp at hlength
  | cons input path ih =>
      cases amounts with
      | nil => exact fun _ hmem => absurd hmem List.not_mem_nil
      | cons amountOut amounts =>
          cases path with
          | nil => simp at hlength
          | cons output path =>
              obtain ⟨_, _, _, _, _, _, -, -, hswap, hrest⟩ := swapAlong_cons_eq_ok hcall
              exact List.forall_mem_cons.mpr
                ⟨amountOut_le_of_hop hswap, ih (Nat.succ.inj hlength) hrest⟩

end Router

/-! ## Whole trades -/

namespace World

theorem transferFrom_eq_ok : world.transferFrom token spender owner target amount = .ok next ↔
    amount ≤ world.balances token owner ∧ amount ≤ world.allowances token owner spender ∧
      (world.moved token owner target amount).approve token owner spender
        (world.allowances token owner spender - amount) = next := by
  simp only [transferFrom, bind_eq_ok, transfer_eq_ok, require_eq_ok, pure_eq_ok]
  constructor
  · rintro ⟨_, ⟨hfunds, rfl⟩, _, hallowed, hnext⟩
    exact ⟨hfunds, hallowed, hnext⟩
  · rintro ⟨hfunds, hallowed, hnext⟩
    exact ⟨_, ⟨hfunds, rfl⟩, (), hallowed, hnext⟩

theorem allowances_approve (world : World) (token owner spender : Address) (amount : ℕ)
    (token' owner' spender' : Address) :
    (world.approve token owner spender amount).allowances token' owner' spender' =
      if token' = token ∧ owner' = owner ∧ spender' = spender then amount
      else world.allowances token' owner' spender' := by
  unfold approve
  dsimp only
  by_cases htoken : token' = token
  · subst htoken
    rw [Function.update_self]
    by_cases howner : owner' = owner
    · subst howner
      rw [Function.update_self, Function.update_apply]
      simp only [true_and]
    · rw [Function.update_of_ne howner, if_neg fun hsame => howner hsame.2.1]
  · rw [Function.update_of_ne htoken, if_neg fun hsame => htoken hsame.1]

theorem allowances_approve_of_ne {token' owner' spender' : Address}
    (hne : owner' ≠ owner ∨ spender' ≠ spender) :
    (world.approve token owner spender amount).allowances token' owner' spender' =
      world.allowances token' owner' spender' := by
  rw [allowances_approve, if_neg]
  rintro ⟨-, howner, hspender⟩
  exact hne.elim (absurd howner) (absurd hspender)

/-- To approve no more than before raises no allowance. -/
theorem allowances_approve_le (hle : amount ≤ world.allowances token owner spender)
    (token' owner' spender' : Address) :
    (world.approve token owner spender amount).allowances token' owner' spender' ≤
      world.allowances token' owner' spender' := by
  rw [allowances_approve]
  split
  · rename_i hsame
    obtain ⟨rfl, rfl, rfl⟩ := hsame
    exact hle
  · exact le_rfl

end World

namespace Router

variable {router : Router}

/-- What a trade through the router does. -/
structure Routed (router : Router) (world : World) (sender target : Address)
    (amounts : List ℕ) (path : List Address) (next : World) : Prop where
  deepens : world.Deepens next
  elsewhere : ∀ address, (∀ token0 token1, address ≠ router.create2 token0 token1) →
    next.pairs address = world.pairs address
  backed : world.Outsider sender → world.Backed → next.Backed
  allowances : ∀ token owner spender,
    next.allowances token owner spender ≤ world.allowances token owner spender
  amounts_le : ∀ amount ∈ amounts.tail, amount ≤ maxUint112
  shifts : Shifts world.Outsider world.balances next.balances
    (income (path.getLastD 0) target (amounts.getLastD 0) -
      income (path.headD 0) sender (amounts.headD 0))

theorem routed_of_execute {sender : Address} {amounts : List ℕ} {path : List Address}
    (hrecorded : router.Recorded world) (hlength : amounts.length = path.length)
    (hcall : router.execute world sender amounts path target = .ok next) :
    router.Routed world sender target amounts path next := by
  match amounts, path with
  | amountIn :: amounts, input :: output :: path =>
      simp only [execute, bind_eq_ok, mapError_eq_ok, World.transferFrom_eq_ok] at hcall
      obtain ⟨pair, hpair, paid, ⟨hfunds, hallowed, rfl⟩, hcall⟩ := hcall
      have hsame : world.Deepens ((world.moved input sender pair amountIn).approve input sender
          router.address (world.allowances input sender router.address - amountIn)) :=
        World.Deepens.of_same rfl
      have hlengths : amounts.length + 1 = (input :: output :: path).length := hlength
      have htrades := trades_of_swapAlong hcall
      have hpaid : ¬world.Outsider pair := fun houtside =>
        not_outsider_of_swapAlong hcall hpair houtside
      refine ⟨hsame.trans htrades.deepens, htrades.elsewhere, fun hsender hbacked => ?_,
        fun token owner spender => ?_, amounts_le_of_swapAlong hlengths hcall, ?_⟩
      · refine htrades.backed (hbacked.of_le rfl fun token address hsome => ?_)
        have hne : address ≠ sender := by
          rintro rfl
          exact hsome hsender
        exact World.le_moved hne token
      · rw [htrades.allowances]
        exact World.allowances_approve_le (Nat.sub_le _ _) token owner spender
      · have hfirst := World.shifts_moved world.Outsider hfunds pair
        have hrest := shifts_of_swapAlong (hrecorded.of_deepens hsame) hlengths hcall
        refine (hfirst.trans hrest).congr fun token holder houtside => ?_
        have hne : holder ≠ pair := by
          rintro rfl
          exact hpaid houtside
        have hsome : amounts ≠ [] := by
          rintro rfl
          simp at hlength
        obtain ⟨amount, amounts, rfl⟩ := List.exists_cons_of_ne_nil hsome
        simp only [payment, Pi.add_apply, Pi.sub_apply, income_of_ne hne, List.headD_cons,
          List.getLastD_cons]
        ring

theorem swapExactTokensForTokens_eq_ok {quotes : Quotes} {sender : Address}
    {amountIn amountOutMin deadline : ℕ} {amounts : List ℕ} {path : List Address}
    (hdocumented : quotes.Documented) (hrecorded : router.Recorded world)
    (hcall : router.swapExactTokensForTokens quotes world sender amountIn amountOutMin path target
      deadline = .ok (amounts, next)) :
    quotes.getAmountsOut (router.getReserves world) amountIn path = .ok amounts ∧
      router.Routed world sender target amounts path next := by
  simp only [swapExactTokensForTokens, bind_eq_ok, require_eq_ok, pure_eq_ok,
    Prod.mk.injEq] at hcall
  obtain ⟨_, -, _, hquote, _, -, _, -, _, hexecute, rfl, rfl⟩ := hcall
  have hlength := hdocumented.out_length _ _ _ _ hquote
  exact ⟨hquote, routed_of_execute hrecorded hlength hexecute⟩

theorem swapTokensForExactTokens_eq_ok {quotes : Quotes} {sender : Address}
    {amountOut amountInMax deadline : ℕ} {amounts : List ℕ} {path : List Address}
    (hdocumented : quotes.Documented) (hrecorded : router.Recorded world)
    (hcall : router.swapTokensForExactTokens quotes world sender amountOut amountInMax path target
      deadline = .ok (amounts, next)) :
    quotes.getAmountsIn (router.getReserves world) amountOut path = .ok amounts ∧
      router.Routed world sender target amounts path next := by
  simp only [swapTokensForExactTokens, bind_eq_ok, require_eq_ok, pure_eq_ok,
    Prod.mk.injEq] at hcall
  obtain ⟨_, -, _, hquote, _, -, _, -, _, hexecute, rfl, rfl⟩ := hcall
  have hlength := hdocumented.in_length _ _ _ _ hquote
  exact ⟨hquote, routed_of_execute hrecorded hlength hexecute⟩

end Router

/-! ## Constant products -/

/-- What leaves the product of the reserves where it is, after the fee. -/
def amountsOutFrom (reserves : Address → Address → Outcome (ℕ × ℕ)) :
    ℕ → List Address → Outcome (List ℕ)
  | amount, input :: output :: path => do
      let (reserveIn, reserveOut) ← reserves input output
      let later ← amountsOutFrom reserves
        (amount * 997 * reserveOut / (reserveIn * 1000 + amount * 997)) (output :: path)
      pure (amount :: later)
  | amount, [_] => .ok [amount]
  | _, [] => .error "UniswapV2Library: INVALID_PATH"

def amountsInFor (reserves : Address → Address → Outcome (ℕ × ℕ)) (amount : ℕ) :
    List Address → Outcome (List ℕ)
  | input :: output :: path => do
      let later ← amountsInFor reserves amount (output :: path)
      let (reserveIn, reserveOut) ← reserves input output
      let amountOut ← Router.first later
      require (amountOut < reserveOut) "UniswapV2Library: INSUFFICIENT_LIQUIDITY"
      pure ((reserveIn * amountOut * 1000 / ((reserveOut - amountOut) * 997) + 1) :: later)
  | [_] => .ok [amount]
  | [] => .error "UniswapV2Library: INVALID_PATH"

def Quotes.constantProduct : Quotes := ⟨amountsOutFrom, amountsInFor⟩

theorem amountsOutFrom_eq_ok {reserves : Address → Address → Outcome (ℕ × ℕ)}
    {path : List Address} {amounts : List ℕ}
    (hcall : amountsOutFrom reserves amount path = .ok amounts) :
    amounts.length = path.length ∧ amounts.head? = some amount := by
  induction path generalizing amount amounts with
  | nil => simp [amountsOutFrom] at hcall
  | cons input path ih =>
      cases path with
      | nil =>
          rw [amountsOutFrom, Except.ok.injEq] at hcall
          subst hcall
          exact ⟨rfl, rfl⟩
      | cons output path =>
          simp only [amountsOutFrom, bind_eq_ok, pure_eq_ok, Prod.exists] at hcall
          obtain ⟨_, _, -, later, hlater, rfl⟩ := hcall
          exact ⟨congrArg Nat.succ (ih hlater).1, rfl⟩

theorem amountsInFor_eq_ok {reserves : Address → Address → Outcome (ℕ × ℕ)}
    {path : List Address} {amounts : List ℕ}
    (hcall : amountsInFor reserves amount path = .ok amounts) :
    amounts.length = path.length ∧ amounts.getLast? = some amount := by
  induction path generalizing amounts with
  | nil => simp [amountsInFor] at hcall
  | cons input path ih =>
      cases path with
      | nil =>
          rw [amountsInFor, Except.ok.injEq] at hcall
          subst hcall
          exact ⟨rfl, rfl⟩
      | cons output path =>
          simp only [amountsInFor, bind_eq_ok, pure_eq_ok, Prod.exists, require_eq_ok] at hcall
          obtain ⟨later, hlater, _, _, -, _, -, _, -, rfl⟩ := hcall
          obtain ⟨hlength, hlast⟩ := ih hlater
          refine ⟨congrArg Nat.succ hlength, ?_⟩
          cases later with
          | nil => simp at hlength
          | cons first later => rw [List.getLast?_cons_cons, hlast]

theorem documented_constantProduct : Quotes.constantProduct.Documented where
  out_length := fun _ _ _ _ hcall => (amountsOutFrom_eq_ok hcall).1
  out_first := fun _ _ _ _ hcall => (amountsOutFrom_eq_ok hcall).2
  in_length := fun _ _ _ _ hcall => (amountsInFor_eq_ok hcall).1
  in_last := fun _ _ _ _ hcall => (amountsInFor_eq_ok hcall).2

end SetProtocol.UniswapV2
