import SetProtocol.Library.BigEndian
import SetProtocol.Library.Tally
import SetProtocol.Arithmetic.Overflow

/-!
# The adapter of the 0x API

The calldata of a trade is made elsewhere and passed on as it is.  The adapter reads from it
which tokens and amounts it trades and compares these with the request.  Of a batch of orders
it reads the tokens of the first one, and the amounts of all.
-/

namespace SetProtocol.ZeroExApiAdapter

open Transaction Tally

/-- What else is in an order is not read. -/
structure RfqOrder where
  makerToken : Address
  takerToken : Address
  makerAmount : ℕ
  takerAmount : ℕ
  deriving DecidableEq

/-- The calldata by its selector, with the arguments that the adapter decodes. -/
inductive Calldata
  /-- `0x415565b0` and, staging, `0x8182b61f` -/
  | transformERC20 (staging : Bool) (inputToken outputToken : Address)
      (inputTokenAmount minOutputTokenAmount : ℕ)
  /-- `0xf7fcd384` -/
  | sellToLiquidityProvider (inputToken outputToken provider recipient : Address)
      (sellAmount minBuyAmount : ℕ)
  /-- `0xd9627aa4` -/
  | sellToUniswap (path : List Address) (sellAmount minBuyAmount : ℕ)
  /-- `0xaa77476c` -/
  | fillRfqOrder (order : RfqOrder) (takerTokenFillAmount : ℕ)
  /-- `0x75103cb9` -/
  | batchFillRfqOrders (orders : List RfqOrder) (takerTokenFillAmounts : List ℕ)
      (revertIfIncomplete : Bool)
  /-- `0x6af479b2` -/
  | sellTokenForTokenToUniswapV3 (encodedPath : Bytes) (sellAmount minBuyAmount : ℕ)
      (recipient : Address)
  /-- `0x7a1eb1b9` -/
  | multiplexBatchSellTokenForToken (inputToken outputToken : Address)
      (sellAmount minBuyAmount : ℕ)
  /-- `0x0f3b31b2` -/
  | multiplexMultiHopSellTokenForToken (tokens : List Address) (sellAmount minBuyAmount : ℕ)
  /-- Any bytes that are none of these. -/
  | other (data : Bytes)
  deriving DecidableEq

/-- The selectors above. -/
def selectors : List ℕ :=
  [0x415565b0, 0x8182b61f, 0xf7fcd384, 0xd9627aa4, 0xaa77476c, 0x75103cb9, 0x6af479b2,
    0x7a1eb1b9, 0x0f3b31b2]

/-- The pseudo-token that the 0x API uses. -/
def ethAddress : Address := 0xEeeeeEeeeEeEeeEeEeEeeEEEeeeeEeeeeeeeEEeE

/-- The variables that decoding assigns. -/
structure Summary where
  inputToken : Address
  outputToken : Address
  recipient : Address := zeroAddress
  supportsRecipient : Bool := false
  inputTokenAmount : ℕ
  minOutputTokenAmount : ℕ
  deriving DecidableEq

/-! ## Decoding -/

/-- Reading outside of an array aborts the call. -/
def readAt {A : Type} (entries : List A) (index : ℕ) : Outcome A :=
  match entries[index]? with
  | some entry => .ok entry
  | none => .error "invalid opcode"

def getRfqOrderMakerFillAmount (overflow : Overflow) (order : RfqOrder)
    (takerTokenFillAmount : ℕ) : Outcome ℕ :=
  if order.takerAmount = 0 ∨ order.makerAmount = 0 ∨ takerTokenFillAmount = 0 then .ok 0
  else do
    let product ← overflow.mul order.makerAmount takerTokenFillAmount
    pure (product / order.takerAmount)

/-- `_decodeTokensFromUniswapV3EncodedPath`: 20 bytes for an address, 3 for a fee. -/
def decodeTokensFromUniswapV3EncodedPath (overflow : Overflow) (encodedPath : Bytes) :
    Outcome (Address × Address) := do
  require (43 ≤ encodedPath.length) "UniswapV3 token path too short"
  let hops ← overflow.sub encodedPath.length 20
  let numHops := hops / 23
  let lastTokenOffset ← overflow.mul numHops 23
  pure (BigEndian.decode (BigEndian.read encodedPath 0 20),
    BigEndian.decode (BigEndian.read encodedPath lastTokenOffset 20))

/-- Body of the loop over the orders, with both sums so far. -/
def addFill (overflow : Overflow) (orders : List RfqOrder) (takerTokenFillAmounts : List ℕ)
    (amounts : ℕ × ℕ) (i : ℕ) : Outcome (ℕ × ℕ) := do
  let fillAmount ← readAt takerTokenFillAmounts i
  let inputTokenAmount ← overflow.add amounts.1 fillAmount
  let order ← readAt orders i
  let makerFillAmount ← getRfqOrderMakerFillAmount overflow order fillAmount
  let minOutputTokenAmount ← overflow.add amounts.2 makerFillAmount
  pure (inputTokenAmount, minOutputTokenAmount)

/-- The ends of a list of at least two tokens. -/
def endTokens (overflow : Overflow) (tokens : List Address) (reason : String) :
    Outcome (Address × Address) := do
  require (1 < tokens.length) reason
  let inputToken ← readAt tokens 0
  let last ← overflow.sub tokens.length 1
  let outputToken ← readAt tokens last
  pure (inputToken, outputToken)

/-- The zero address stands for the destination. -/
def recipientOr (destinationAddress recipient : Address) : Address :=
  if recipient = zeroAddress then destinationAddress else recipient

def decode (overflow : Overflow) (destinationAddress : Address) : Calldata → Outcome Summary
  | .transformERC20 _ inputToken outputToken inputTokenAmount minOutputTokenAmount =>
      pure {
        inputToken := inputToken
        outputToken := outputToken
        inputTokenAmount := inputTokenAmount
        minOutputTokenAmount := minOutputTokenAmount }
  | .sellToLiquidityProvider inputToken outputToken _ recipient sellAmount minBuyAmount =>
      pure {
        inputToken := inputToken
        outputToken := outputToken
        recipient := recipientOr destinationAddress recipient
        supportsRecipient := true
        inputTokenAmount := sellAmount
        minOutputTokenAmount := minBuyAmount }
  | .sellToUniswap path sellAmount minBuyAmount => do
      let (inputToken, outputToken) ← endTokens overflow path "Uniswap token path too short"
      pure {
        inputToken := inputToken
        outputToken := outputToken
        inputTokenAmount := sellAmount
        minOutputTokenAmount := minBuyAmount }
  | .fillRfqOrder order takerTokenFillAmount => do
      let minOutputTokenAmount ←
        getRfqOrderMakerFillAmount overflow order takerTokenFillAmount
      pure {
        inputToken := order.takerToken
        outputToken := order.makerToken
        inputTokenAmount := takerTokenFillAmount
        minOutputTokenAmount := minOutputTokenAmount }
  | .batchFillRfqOrders orders takerTokenFillAmounts revertIfIncomplete => do
      require (0 < orders.length) "Empty RFQ orders"
      require (revertIfIncomplete = true) "batchFillRfqOrder must be all or nothing"
      let first ← readAt orders 0
      let (inputTokenAmount, minOutputTokenAmount) ←
        (List.range orders.length).foldlM
          (addFill overflow orders takerTokenFillAmounts) (0, 0)
      pure {
        inputToken := first.takerToken
        outputToken := first.makerToken
        inputTokenAmount := inputTokenAmount
        minOutputTokenAmount := minOutputTokenAmount }
  | .sellTokenForTokenToUniswapV3 encodedPath sellAmount minBuyAmount recipient => do
      let (inputToken, outputToken) ←
        decodeTokensFromUniswapV3EncodedPath overflow encodedPath
      pure {
        inputToken := inputToken
        outputToken := outputToken
        recipient := recipientOr destinationAddress recipient
        supportsRecipient := true
        inputTokenAmount := sellAmount
        minOutputTokenAmount := minBuyAmount }
  | .multiplexBatchSellTokenForToken inputToken outputToken sellAmount minBuyAmount =>
      pure {
        inputToken := inputToken
        outputToken := outputToken
        inputTokenAmount := sellAmount
        minOutputTokenAmount := minBuyAmount }
  | .multiplexMultiHopSellTokenForToken tokens sellAmount minBuyAmount => do
      let (inputToken, outputToken) ←
        endTokens overflow tokens "Multihop token path too short"
      pure {
        inputToken := inputToken
        outputToken := outputToken
        inputTokenAmount := sellAmount
        minOutputTokenAmount := minBuyAmount }
  | .other data =>
      if data.length < 4 then .error "Invalid calldata"
      else if BigEndian.decode (BigEndian.read data 0 4) ∈ selectors then .error ""
      else .error "Unsupported 0xAPI function selector"

def getTradeCalldata (overflow : Overflow) (zeroExAddress sourceToken destinationToken
    destinationAddress : Address) (sourceQuantity minDestinationQuantity : ℕ)
    (data : Calldata) : Outcome (Address × ℕ × Calldata) := do
  let decoded ← decode overflow destinationAddress data
  require (decoded.inputToken ≠ ethAddress ∧ decoded.outputToken ≠ ethAddress)
    "ETH not supported"
  require (decoded.inputToken = sourceToken) "Mismatched input token"
  require (decoded.outputToken = destinationToken) "Mismatched output token"
  require (decoded.supportsRecipient = false ∨ decoded.recipient = destinationAddress)
    "Mismatched recipient"
  require (decoded.inputTokenAmount = sourceQuantity) "Mismatched input token quantity"
  require (minDestinationQuantity ≤ decoded.minOutputTokenAmount)
    "Mismatched output token quantity"
  pure (zeroExAddress, 0, data)

/-! ## The 0x proxy -/

/-- What a call moves. -/
structure Settlement where
  /-- By token, taken from the caller. -/
  sold : Address → ℕ
  /-- By recipient and token. -/
  delivered : Address → Address → ℕ

/-- What an order gives for a fill amount. -/
def makerFill (fill : RfqOrder × ℕ) : ℕ := fill.1.makerAmount * fill.2 / fill.1.takerAmount

/-- Exactly an amount of one token is sold, for at least a minimum of another. -/
def Trades (settlement : Settlement) (recipient inputToken outputToken : Address)
    (amount minimum : ℕ) : Prop :=
  settlement.sold = Function.update (fun _ => 0) inputToken amount ∧
    minimum ≤ settlement.delivered recipient outputToken

/-- Each order takes its fill amount from the caller and gives its share to the caller. -/
def Fills (settlement : Settlement) (caller : Address) (fills : List (RfqOrder × ℕ)) : Prop :=
  settlement.sold = totalOf (fun fill => fill.1.takerToken) Prod.snd fills ∧
    settlement.delivered caller = totalOf (fun fill => fill.1.makerToken) makerFill fills

/-- The rules of the proxy, for a call by `caller` that succeeds. -/
def Honours (caller : Address) (settlement : Settlement) : Calldata → Prop
  | .transformERC20 _ inputToken outputToken amount minimum =>
      Trades settlement caller inputToken outputToken amount minimum
  | .sellToLiquidityProvider inputToken outputToken _ recipient amount minimum =>
      Trades settlement (recipientOr caller recipient) inputToken outputToken amount minimum
  | .sellToUniswap path amount minimum =>
      ∀ inputToken outputToken, path.head? = some inputToken →
        path.getLast? = some outputToken →
          Trades settlement caller inputToken outputToken amount minimum
  | .fillRfqOrder order fillAmount => Fills settlement caller [(order, fillAmount)]
  | .batchFillRfqOrders orders fillAmounts revertIfIncomplete =>
      revertIfIncomplete = true → Fills settlement caller (orders.zip fillAmounts)
  | .sellTokenForTokenToUniswapV3 encodedPath amount minimum recipient =>
      Trades settlement (recipientOr caller recipient)
        (BigEndian.decode (BigEndian.read encodedPath 0 20))
        (BigEndian.decode (BigEndian.read encodedPath ((encodedPath.length - 20) / 23 * 23) 20))
        amount minimum
  | .multiplexBatchSellTokenForToken inputToken outputToken amount minimum =>
      Trades settlement caller inputToken outputToken amount minimum
  | .multiplexMultiHopSellTokenForToken tokens amount minimum =>
      ∀ inputToken outputToken, tokens.head? = some inputToken →
        tokens.getLast? = some outputToken →
          Trades settlement caller inputToken outputToken amount minimum
  | .other _ => True

/-- Amounts of an order are `uint128`, and no array has `2 ^ 64` entries. -/
def WellTyped : Calldata → Prop
  | .sellToUniswap path _ _ => path.length < 2 ^ 64
  | .fillRfqOrder order fillAmount => order.makerAmount < 2 ^ 128 ∧ fillAmount < 2 ^ 128
  | .batchFillRfqOrders orders fillAmounts _ =>
      orders.length < 2 ^ 64 ∧ (∀ order ∈ orders, order.makerAmount < 2 ^ 128) ∧
        ∀ fillAmount ∈ fillAmounts, fillAmount < 2 ^ 128
  | .sellTokenForTokenToUniswapV3 encodedPath _ _ _ => encodedPath.length < 2 ^ 64
  | .multiplexMultiHopSellTokenForToken tokens _ _ => tokens.length < 2 ^ 64
  | _ => True

/-- The trade that is asked for. -/
structure MatchesRequest (settlement : Settlement)
    (setToken sourceToken destinationToken : Address)
    (sourceQuantity minDestinationQuantity : ℕ) : Prop where
  sold : settlement.sold sourceToken = sourceQuantity
  others : ∀ other, other ≠ sourceToken → settlement.sold other = 0
  delivered : minDestinationQuantity ≤ settlement.delivered setToken destinationToken

/-- Of a batch every order that is filled takes the source token, the orders that give the
destination token give enough of it, and no total exceeds 256 bits. -/
def OrdersMatch (sourceToken destinationToken : Address) (minDestinationQuantity : ℕ) :
    Calldata → Prop
  | .batchFillRfqOrders orders fillAmounts _ =>
      (∀ fill ∈ orders.zip fillAmounts, fill.2 ≠ 0 → fill.1.takerToken = sourceToken) ∧
        minDestinationQuantity ≤ totalOf (fun fill => fill.1.makerToken) makerFill
          (orders.zip fillAmounts) destinationToken ∧
        total (orders.zip fillAmounts) makerFill ≤ maxUint256
  | _ => True

/-! ## Arithmetic that cannot wrap -/

variable {overflow : Overflow} {orders : List RfqOrder} {fillAmounts : List ℕ}
  {order : RfqOrder} {fillAmount : ℕ} {setToken : Address} {settlement : Settlement}

theorem getRfqOrderMakerFillAmount_eq (hmaker : order.makerAmount < 2 ^ 128)
    (hfill : fillAmount < 2 ^ 128) :
    getRfqOrderMakerFillAmount overflow order fillAmount =
      .ok (makerFill (order, fillAmount)) := by
  rw [getRfqOrderMakerFillAmount, makerFill]
  split
  · rename_i hnone
    rcases hnone with hzero | hzero | hzero
    · rw [hzero, Nat.div_zero]
    · rw [hzero, Nat.zero_mul, Nat.zero_div]
    · rw [hzero, Nat.mul_zero, Nat.zero_div]
  · have hproduct : order.makerAmount * fillAmount < 2 ^ 128 * 2 ^ 128 :=
      Nat.mul_lt_mul'' hmaker hfill
    have hfits : order.makerAmount * fillAmount ≤ maxUint256 := by
      rw [maxUint256]
      omega
    rw [overflow.mul_of_le hfits, ok_bind]
    rfl

theorem decodeTokens_eq {encodedPath : Bytes} (hlength : encodedPath.length < 2 ^ 64) :
    decodeTokensFromUniswapV3EncodedPath overflow encodedPath =
      (do
        require (43 ≤ encodedPath.length) "UniswapV3 token path too short"
        pure (BigEndian.decode (BigEndian.read encodedPath 0 20), BigEndian.decode
          (BigEndian.read encodedPath ((encodedPath.length - 20) / 23 * 23) 20))) := by
  rw [decodeTokensFromUniswapV3EncodedPath]
  by_cases hlong : 43 ≤ encodedPath.length
  · have hsmall : encodedPath.length ≤ maxUint256 := by
      rw [maxUint256]
      omega
    have hoffset : (encodedPath.length - 20) / 23 * 23 ≤ maxUint256 := by
      have hfloor := Nat.div_mul_le_self (encodedPath.length - 20) 23
      omega
    rw [require, if_pos hlong, ok_bind, ok_bind, overflow.sub_of_le (by omega) hsmall, ok_bind]
    simp only [overflow.mul_of_le hoffset, ok_bind]
  · rw [require, if_neg hlong]
    rfl

theorem endTokens_eq_ok {tokens : List Address} {reason : String} {ends : Address × Address}
    (hlength : tokens.length < 2 ^ 64) :
    endTokens overflow tokens reason = .ok ends ↔
      1 < tokens.length ∧ tokens.head? = some ends.1 ∧ tokens.getLast? = some ends.2 := by
  have hsmall : tokens.length ≤ maxUint256 := by
    rw [maxUint256]
    omega
  have hread : ∀ index token, readAt tokens index = .ok token ↔ tokens[index]? = some token := by
    intro index token
    rw [readAt]
    cases tokens[index]? with
    | none => simp
    | some entry => simp
  simp only [endTokens, bind_eq_ok, require_eq_ok, pure_eq_ok, hread]
  constructor
  · rintro ⟨_, hmany, first, hfirst, last, hlast, other, hother, rfl⟩
    rw [overflow.sub_of_le hmany.le hsmall, Except.ok.injEq] at hlast
    subst hlast
    rw [List.head?_eq_getElem?, List.getLast?_eq_getElem?]
    exact ⟨hmany, hfirst, hother⟩
  · rintro ⟨hmany, hfirst, hlast⟩
    rw [List.head?_eq_getElem?] at hfirst
    rw [List.getLast?_eq_getElem?] at hlast
    exact ⟨(), hmany, ends.1, hfirst, tokens.length - 1,
      overflow.sub_of_le hmany.le hsmall, ends.2, hlast, rfl⟩

/-! ## The sums over a batch -/

theorem addFill_eq_ok {amounts next : ℕ × ℕ} {i : ℕ}
    (hmaker : ∀ order ∈ orders, order.makerAmount < 2 ^ 128)
    (hfill : ∀ fillAmount ∈ fillAmounts, fillAmount < 2 ^ 128) :
    addFill overflow orders fillAmounts amounts i = .ok next ↔
      ∃ fill, (orders.zip fillAmounts)[i]? = some fill ∧
        overflow.add amounts.1 fill.2 = .ok next.1 ∧
        overflow.add amounts.2 (makerFill fill) = .ok next.2 := by
  simp only [addFill, bind_eq_ok, readAt]
  cases horder : orders[i]? with
  | none => simp [List.getElem?_zip_eq_some, horder]
  | some order =>
      cases hamount : fillAmounts[i]? with
      | none => simp [List.getElem?_zip_eq_some, hamount]
      | some fillAmount =>
          have hzip : (orders.zip fillAmounts)[i]? = some (order, fillAmount) :=
            List.getElem?_zip_eq_some.mpr ⟨horder, hamount⟩
          have hmakerFill := @getRfqOrderMakerFillAmount_eq overflow order fillAmount
            (hmaker order (List.mem_of_getElem? horder))
            (hfill fillAmount (List.mem_of_getElem? hamount))
          simp only [hzip, Except.ok.injEq, Option.some.injEq, exists_eq_left', hmakerFill,
            pure_eq_ok]
          constructor
          · rintro ⟨_, hin, _, hout, rfl⟩
            exact ⟨hin, hout⟩
          · rintro ⟨hin, hout⟩
            exact ⟨_, hin, _, hout, rfl⟩

theorem total_take_succ {fills : List (RfqOrder × ℕ)} {fill : RfqOrder × ℕ} {count : ℕ}
    (sizes : RfqOrder × ℕ → ℕ) (hfill : fills[count]? = some fill) :
    total (fills.take (count + 1)) sizes = total (fills.take count) sizes + sizes fill := by
  rw [List.take_add_one, hfill, total_append, Option.toList_some, total_singleton]

/-- Every turn reads its order and its amount. -/
theorem count_le_of_sums {count : ℕ} {start sums : ℕ × ℕ}
    (hmaker : ∀ order ∈ orders, order.makerAmount < 2 ^ 128)
    (hfill : ∀ fillAmount ∈ fillAmounts, fillAmount < 2 ^ 128)
    (hsums : (List.range count).foldlM (addFill overflow orders fillAmounts) start =
      .ok sums) : count ≤ (orders.zip fillAmounts).length := by
  cases count with
  | zero => exact Nat.zero_le _
  | succ count =>
      rw [List.range_succ, List.foldlM_append, bind_eq_ok] at hsums
      obtain ⟨before, -, hlast⟩ := hsums
      rw [List.foldlM_cons, bind_eq_ok] at hlast
      obtain ⟨next, hturn, -⟩ := hlast
      obtain ⟨fill, hmem, -⟩ := (addFill_eq_ok hmaker hfill).mp hturn
      exact (List.getElem?_eq_some_iff.mp hmem).1

theorem sums_wrapping {count : ℕ} (hmaker : ∀ order ∈ orders, order.makerAmount < 2 ^ 128)
    (hfill : ∀ fillAmount ∈ fillAmounts, fillAmount < 2 ^ 128)
    (hcount : count ≤ (orders.zip fillAmounts).length) :
    (List.range count).foldlM (addFill .wraps orders fillAmounts) (0, 0) =
      .ok (total ((orders.zip fillAmounts).take count) Prod.snd % 2 ^ 256,
        total ((orders.zip fillAmounts).take count) makerFill % 2 ^ 256) := by
  induction count with
  | zero => rfl
  | succ count ih =>
      have hread : (orders.zip fillAmounts)[count]? = some (orders.zip fillAmounts)[count] :=
        List.getElem?_eq_getElem hcount
      rw [List.range_succ, List.foldlM_append, ih (Nat.le_of_succ_le hcount), ok_bind,
        total_take_succ _ hread, total_take_succ _ hread]
      generalize total ((orders.zip fillAmounts).take count) Prod.snd = taken
      generalize total ((orders.zip fillAmounts).take count) makerFill = given
      have hturn : addFill .wraps orders fillAmounts (taken % 2 ^ 256, given % 2 ^ 256) count =
          .ok ((taken % 2 ^ 256 + (orders.zip fillAmounts)[count].2) % 2 ^ 256,
            (given % 2 ^ 256 + makerFill (orders.zip fillAmounts)[count]) % 2 ^ 256) :=
        (addFill_eq_ok hmaker hfill).mpr ⟨_, hread, rfl, rfl⟩
      rw [List.foldlM_cons, hturn, ok_bind, Nat.mod_add_mod, Nat.mod_add_mod]
      rfl

/-- Without wrapping the sums are there exactly if they fit. -/
theorem sums_stopping {count : ℕ} {sums : ℕ × ℕ}
    (hmaker : ∀ order ∈ orders, order.makerAmount < 2 ^ 128)
    (hfill : ∀ fillAmount ∈ fillAmounts, fillAmount < 2 ^ 128)
    (hcount : count ≤ (orders.zip fillAmounts).length) :
    (List.range count).foldlM (addFill .stops orders fillAmounts) (0, 0) = .ok sums ↔
      total ((orders.zip fillAmounts).take count) Prod.snd ≤ maxUint256 ∧
        total ((orders.zip fillAmounts).take count) makerFill ≤ maxUint256 ∧
        sums = (total ((orders.zip fillAmounts).take count) Prod.snd,
          total ((orders.zip fillAmounts).take count) makerFill) := by
  have hadd : ∀ a b c : ℕ, Overflow.stops.add a b = .ok c ↔
      a + b ≤ maxUint256 ∧ a + b = c := by
    intro a b c
    rw [Overflow.add]
    split <;> simp_all
  induction count generalizing sums with
  | zero =>
      rw [List.range_zero, List.foldlM_nil, pure_eq_ok, List.take_zero]
      exact ⟨fun heq => ⟨Nat.zero_le _, Nat.zero_le _, heq.symm⟩, fun hfits => hfits.2.2.symm⟩
  | succ count ih =>
      have hread : (orders.zip fillAmounts)[count]? = some (orders.zip fillAmounts)[count] :=
        List.getElem?_eq_getElem hcount
      rw [List.range_succ, List.foldlM_append, bind_eq_ok, total_take_succ _ hread,
        total_take_succ _ hread]
      simp only [ih (Nat.le_of_succ_le hcount), List.foldlM_cons, List.foldlM_nil, bind_eq_ok,
        addFill_eq_ok hmaker hfill, hread, Option.some.injEq, exists_eq_left', hadd, pure_eq_ok]
      constructor
      · rintro ⟨_, ⟨-, -, rfl⟩, next, ⟨⟨hin, hin'⟩, hout, hout'⟩, rfl⟩
        exact ⟨hin, hout, Prod.ext hin'.symm hout'.symm⟩
      · rintro ⟨hin, hout, rfl⟩
        exact ⟨_, ⟨(Nat.le_add_right _ _).trans hin, (Nat.le_add_right _ _).trans hout, rfl⟩, _,
          ⟨⟨hin, rfl⟩, hout, rfl⟩, rfl⟩

/-! ## Batches -/

/-- What the adapter reads from a batch that it decodes. -/
theorem decode_batch_eq_ok {revertIfIncomplete : Bool} {decoded : Summary}
    (hlength : orders.length < 2 ^ 64)
    (hmaker : ∀ order ∈ orders, order.makerAmount < 2 ^ 128)
    (hfill : ∀ fillAmount ∈ fillAmounts, fillAmount < 2 ^ 128)
    (hdecode : decode .wraps setToken
      (.batchFillRfqOrders orders fillAmounts revertIfIncomplete) = .ok decoded) :
    revertIfIncomplete = true ∧
      decoded.inputTokenAmount = total (orders.zip fillAmounts) Prod.snd ∧
      decoded.minOutputTokenAmount = total (orders.zip fillAmounts) makerFill % 2 ^ 256 ∧
      (∀ other, decode .stops setToken
          (.batchFillRfqOrders orders fillAmounts revertIfIncomplete) = .ok other ↔
        total (orders.zip fillAmounts) makerFill ≤ maxUint256 ∧ other = decoded) := by
  simp only [decode, bind_eq_ok, require_eq_ok, pure_eq_ok] at hdecode
  obtain ⟨_, hsome, _, hall, first, hfirst, sums, hsums, rfl⟩ := hdecode
  have hcount := count_le_of_sums hmaker hfill hsums
  have hwhole : (orders.zip fillAmounts).take orders.length = orders.zip fillAmounts := by
    apply List.take_of_length_le
    rw [List.length_zip]
    exact Nat.min_le_left _ _
  have htaken : total (orders.zip fillAmounts) Prod.snd ≤ maxUint256 := by
    have hbound : total (orders.zip fillAmounts) Prod.snd ≤
        (orders.zip fillAmounts).length * 2 ^ 128 :=
      total_le_length_mul fun fill hmem => (hfill fill.2 (List.of_mem_zip hmem).2).le
    have hsize : (orders.zip fillAmounts).length ≤ orders.length := by
      rw [List.length_zip]
      exact Nat.min_le_left _ _
    rw [maxUint256]
    omega
  rw [sums_wrapping hmaker hfill hcount, hwhole, Except.ok.injEq] at hsums
  subst hsums
  have hexact : total (orders.zip fillAmounts) Prod.snd % 2 ^ 256 =
      total (orders.zip fillAmounts) Prod.snd := by
    apply Nat.mod_eq_of_lt
    rw [maxUint256] at htaken
    omega
  refine ⟨hall, hexact, rfl, fun other => ?_⟩
  simp only [decode, bind_eq_ok, require_eq_ok, pure_eq_ok, hsome, hall, hfirst,
    Except.ok.injEq, exists_const, true_and, exists_eq_left',
    sums_stopping hmaker hfill hcount, hwhole, hexact]
  have hreduced : total (orders.zip fillAmounts) makerFill ≤ maxUint256 →
      total (orders.zip fillAmounts) makerFill % 2 ^ 256 =
        total (orders.zip fillAmounts) makerFill := by
    intro hgiven
    apply Nat.mod_eq_of_lt
    rw [maxUint256] at hgiven
    omega
  constructor
  · rintro ⟨_, ⟨-, hgiven, rfl⟩, rfl⟩
    rw [hreduced hgiven]
    exact ⟨hgiven, rfl⟩
  · rintro ⟨hgiven, rfl⟩
    refine ⟨_, ⟨htaken, hgiven, rfl⟩, ?_⟩
    rw [hreduced hgiven]

/-! ## The other calls -/

/-- Whom a decoded call pays. -/
def Summary.paid (decoded : Summary) (caller : Address) : Address :=
  if decoded.supportsRecipient = true then decoded.recipient else caller

/-- Any call that is no batch trades what the adapter reads, and nothing wraps. -/
theorem trades_of_decode {data : Calldata} {decoded : Summary} (hdata : WellTyped data)
    (hsingle : ∀ orders fillAmounts revertIfIncomplete,
      data ≠ .batchFillRfqOrders orders fillAmounts revertIfIncomplete)
    (hhonours : Honours setToken settlement data)
    (hdecode : decode .wraps setToken data = .ok decoded) :
    Trades settlement (decoded.paid setToken) decoded.inputToken decoded.outputToken
        decoded.inputTokenAmount decoded.minOutputTokenAmount ∧
      decode .stops setToken data = .ok decoded := by
  cases data with
  | transformERC20 staging inputToken outputToken amount minimum =>
      simp only [decode, pure_eq_ok] at hdecode ⊢
      subst hdecode
      exact ⟨hhonours, rfl⟩
  | sellToLiquidityProvider inputToken outputToken provider recipient amount minimum =>
      simp only [decode, pure_eq_ok] at hdecode ⊢
      subst hdecode
      exact ⟨hhonours, rfl⟩
  | sellToUniswap path amount minimum =>
      simp only [decode, bind_eq_ok, pure_eq_ok, endTokens_eq_ok hdata] at hdecode ⊢
      obtain ⟨ends, hends, rfl⟩ := hdecode
      exact ⟨hhonours _ _ hends.2.1 hends.2.2, ends, hends, rfl⟩
  | fillRfqOrder order fillAmount =>
      simp only [decode, getRfqOrderMakerFillAmount_eq hdata.1 hdata.2, ok_bind,
        pure_eq_ok] at hdecode ⊢
      subst hdecode
      obtain ⟨hsold, hdelivered⟩ := hhonours
      rw [totalOf_singleton] at hsold hdelivered
      refine ⟨⟨hsold, ?_⟩, rfl⟩
      have hgiven : settlement.delivered setToken order.makerToken =
          makerFill (order, fillAmount) := by
        rw [hdelivered, Function.update_self]
      exact hgiven.ge
  | batchFillRfqOrders orders fillAmounts revertIfIncomplete =>
      exact absurd rfl (hsingle orders fillAmounts revertIfIncomplete)
  | sellTokenForTokenToUniswapV3 encodedPath amount minimum recipient =>
      simp only [decode, decodeTokens_eq hdata, bind_eq_ok, require_eq_ok,
        pure_eq_ok] at hdecode ⊢
      obtain ⟨_, ⟨_, hlong, rfl⟩, rfl⟩ := hdecode
      exact ⟨hhonours, _, ⟨(), hlong, rfl⟩, rfl⟩
  | multiplexBatchSellTokenForToken inputToken outputToken amount minimum =>
      simp only [decode, pure_eq_ok] at hdecode ⊢
      subst hdecode
      exact ⟨hhonours, rfl⟩
  | multiplexMultiHopSellTokenForToken tokens amount minimum =>
      simp only [decode, bind_eq_ok, pure_eq_ok, endTokens_eq_ok hdata] at hdecode ⊢
      obtain ⟨ends, hends, rfl⟩ := hdecode
      exact ⟨hhonours _ _ hends.2.1 hends.2.2, ends, hends, rfl⟩
  | other bytes =>
      simp only [decode] at hdecode
      split at hdecode
      · cases hdecode
      · split at hdecode <;> cases hdecode

/-! ## Accepted calldata -/

variable {zeroExAddress sourceToken destinationToken : Address}
  {sourceQuantity minDestinationQuantity : ℕ} {data : Calldata} {decoded : Summary}

/-- The checks of what was decoded. -/
structure Accepts (decoded : Summary) (sourceToken destinationToken destinationAddress : Address)
    (sourceQuantity minDestinationQuantity : ℕ) : Prop where
  noEther : decoded.inputToken ≠ ethAddress ∧ decoded.outputToken ≠ ethAddress
  input : decoded.inputToken = sourceToken
  output : decoded.outputToken = destinationToken
  recipient : decoded.supportsRecipient = false ∨ decoded.recipient = destinationAddress
  amount : decoded.inputTokenAmount = sourceQuantity
  minimum : minDestinationQuantity ≤ decoded.minOutputTokenAmount

theorem getTradeCalldata_eq_ok {result : Address × ℕ × Calldata} :
    getTradeCalldata overflow zeroExAddress sourceToken destinationToken setToken sourceQuantity
        minDestinationQuantity data = .ok result ↔
      result = (zeroExAddress, 0, data) ∧ ∃ decoded,
        decode overflow setToken data = .ok decoded ∧
          Accepts decoded sourceToken destinationToken setToken sourceQuantity
            minDestinationQuantity := by
  simp only [getTradeCalldata, bind_eq_ok, require_eq_ok, pure_eq_ok]
  constructor
  · rintro ⟨decoded, hdecode, _, hether, _, hinput, _, houtput, _, hrecipient, _, hamount, _,
      hminimum, rfl⟩
    exact ⟨rfl, decoded, hdecode, hether, hinput, houtput, hrecipient, hamount, hminimum⟩
  · rintro ⟨rfl, decoded, hdecode, hether, hinput, houtput, hrecipient, hamount, hminimum⟩
    exact ⟨decoded, hdecode, (), hether, (), hinput, (), houtput, (), hrecipient, (), hamount,
      (), hminimum, rfl⟩

/-- A trade of what was decoded and accepted is the one asked for. -/
theorem Trades.matches
    (haccepts : Accepts decoded sourceToken destinationToken setToken sourceQuantity
      minDestinationQuantity)
    (htrades : Trades settlement (decoded.paid setToken) decoded.inputToken decoded.outputToken
      decoded.inputTokenAmount decoded.minOutputTokenAmount) :
    MatchesRequest settlement setToken sourceToken destinationToken sourceQuantity
      minDestinationQuantity := by
  obtain ⟨hsold, hdelivered⟩ := htrades
  have hpaid : decoded.paid setToken = setToken := by
    rw [Summary.paid]
    split
    · rename_i hsupported
      rcases haccepts.recipient with hnone | hrecipient
      · exact absurd (hsupported.symm.trans hnone) (by decide)
      · exact hrecipient
    · rfl
  rw [hpaid, haccepts.output] at hdelivered
  rw [haccepts.input, haccepts.amount] at hsold
  refine ⟨?_, fun other hother => ?_, haccepts.minimum.trans hdelivered⟩
  · rw [hsold, Function.update_self]
  · rw [hsold, Function.update_of_ne hother]

/-- A batch is the trade asked for exactly if its orders match. -/
theorem Fills.matches_iff (hfills : Fills settlement setToken (orders.zip fillAmounts))
    (htotal : total (orders.zip fillAmounts) Prod.snd = sourceQuantity) :
    MatchesRequest settlement setToken sourceToken destinationToken sourceQuantity
        minDestinationQuantity ↔
      (∀ fill ∈ orders.zip fillAmounts, fill.2 ≠ 0 → fill.1.takerToken = sourceToken) ∧
        minDestinationQuantity ≤ totalOf (fun fill => fill.1.makerToken) makerFill
          (orders.zip fillAmounts) destinationToken := by
  obtain ⟨hsold, hdelivered⟩ := hfills
  constructor
  · intro hmatches
    have hothers := hmatches.others
    have hgiven := hmatches.delivered
    rw [hsold] at hothers
    rw [hdelivered] at hgiven
    exact ⟨totalOf_others_iff.mp hothers, hgiven⟩
  · rintro ⟨htakers, hgiven⟩
    refine ⟨?_, ?_, ?_⟩
    · rw [hsold, totalOf_eq_total htakers, htotal]
    · rw [hsold]
      exact totalOf_others_iff.mpr htakers
    · rw [hdelivered]
      exact hgiven

theorem ordersMatch_of_single (hsingle : ∀ orders fillAmounts revertIfIncomplete,
    data ≠ .batchFillRfqOrders orders fillAmounts revertIfIncomplete) :
    OrdersMatch sourceToken destinationToken minDestinationQuantity data := by
  cases data with
  | batchFillRfqOrders orders fillAmounts revertIfIncomplete =>
      exact absurd rfl (hsingle orders fillAmounts revertIfIncomplete)
  | _ => trivial

/-- Calldata that is accepted is passed on.  It makes the trade asked for, and is read without
wrapping, exactly if it is no batch or one whose orders match. -/
theorem accepted_matches_iff (hdata : WellTyped data) {target : Address} {value : ℕ}
    {call : Calldata}
    (haccepted : getTradeCalldata .wraps zeroExAddress sourceToken destinationToken setToken
      sourceQuantity minDestinationQuantity data = .ok (target, value, call))
    (hhonours : Honours setToken settlement call) :
    target = zeroExAddress ∧ value = 0 ∧ call = data ∧
      (MatchesRequest settlement setToken sourceToken destinationToken sourceQuantity
          minDestinationQuantity ∧
        getTradeCalldata .stops zeroExAddress sourceToken destinationToken setToken
          sourceQuantity minDestinationQuantity data = .ok (target, value, call) ↔
      OrdersMatch sourceToken destinationToken minDestinationQuantity data) := by
  obtain ⟨hresult, decoded, hdecode, haccepts⟩ := getTradeCalldata_eq_ok.mp haccepted
  obtain ⟨rfl, rfl, rfl⟩ : target = zeroExAddress ∧ value = 0 ∧ call = data := by
    simpa using hresult
  refine ⟨rfl, rfl, rfl, ?_⟩
  have hstops : getTradeCalldata .stops target sourceToken destinationToken setToken
      sourceQuantity minDestinationQuantity call = .ok (target, 0, call) ↔
        ∃ other, decode .stops setToken call = .ok other ∧
          Accepts other sourceToken destinationToken setToken sourceQuantity
            minDestinationQuantity := by
    rw [getTradeCalldata_eq_ok]
    exact and_iff_right rfl
  rw [hstops]
  by_cases hsingle : ∀ orders fillAmounts revertIfIncomplete,
      call ≠ .batchFillRfqOrders orders fillAmounts revertIfIncomplete
  · obtain ⟨htrades, hsame⟩ := trades_of_decode hdata hsingle hhonours hdecode
    exact iff_of_true ⟨htrades.matches haccepts, decoded, hsame, haccepts⟩
      (ordersMatch_of_single hsingle)
  · push Not at hsingle
    obtain ⟨orders, fillAmounts, revertIfIncomplete, rfl⟩ := hsingle
    obtain ⟨hlength, hmaker, hfill⟩ := hdata
    obtain ⟨hall, htaken, -, hfits⟩ := decode_batch_eq_ok hlength hmaker hfill hdecode
    have htotal := htaken.symm.trans haccepts.amount
    rw [(hhonours hall).matches_iff htotal, OrdersMatch, and_assoc]
    refine and_congr_right fun _ => and_congr_right fun _ => ?_
    constructor
    · rintro ⟨other, hother, -⟩
      exact ((hfits other).mp hother).1
    · intro hgiven
      exact ⟨decoded, (hfits decoded).mpr ⟨hgiven, rfl⟩, haccepts⟩

/-- The settlement of a batch, as the rules of the proxy have it. -/
def settlementOf (caller : Address) (fills : List (RfqOrder × ℕ)) : Settlement where
  sold := totalOf (fun fill => fill.1.takerToken) Prod.snd fills
  delivered recipient token :=
    if recipient = caller then totalOf (fun fill => fill.1.makerToken) makerFill fills token
    else 0

theorem fills_settlementOf (caller : Address) (fills : List (RfqOrder × ℕ)) :
    Fills (settlementOf caller fills) caller fills := by
  refine ⟨rfl, ?_⟩
  funext token
  exact if_pos rfl

/-- An order of a hundred for fifty, filled to a half. -/
theorem accepted_matches_iff_halfFilled :
    MatchesRequest (settlementOf 8 [(⟨2, 1, 100, 50⟩, 25)]) 8 1 2 25 50 := by
  have haccepted : getTradeCalldata .wraps 9 1 2 8 25 50
      (.batchFillRfqOrders [⟨2, 1, 100, 50⟩] [25] true) =
        .ok (9, 0, .batchFillRfqOrders [⟨2, 1, 100, 50⟩] [25] true) := rfl
  have hdata : WellTyped (.batchFillRfqOrders [⟨2, 1, 100, 50⟩] [25] true) :=
    ⟨by decide, by decide, by decide⟩
  have hhonours : Honours 8 (settlementOf 8 [(⟨2, 1, 100, 50⟩, 25)])
      (.batchFillRfqOrders [⟨2, 1, 100, 50⟩] [25] true) := fun _ => fills_settlementOf 8 _
  obtain ⟨-, -, -, hmatches⟩ := accepted_matches_iff hdata haccepted hhonours
  exact (hmatches.mpr ⟨by decide, by decide, by decide⟩).1

/-- The second order of a batch takes another token, and the shares of two orders that are
filled beyond their size wrap. -/
theorem accepted_not_matching :
    let foreign := .batchFillRfqOrders [⟨2, 1, 100, 50⟩, ⟨2, 3, 100, 50⟩] [10, 5] true
    let order : RfqOrder := ⟨2, 1, 2 ^ 128 - 1, 1⟩
    let large := .batchFillRfqOrders [order, order] [2 ^ 128 - 1, 2 ^ 128 - 1] true
    (getTradeCalldata .wraps 9 1 2 8 15 30 foreign = .ok (9, 0, foreign) ∧
      ∃ settlement, Honours 8 settlement foreign ∧ settlement.sold 1 = 10 ∧
        settlement.sold 3 = 5 ∧ ¬MatchesRequest settlement 8 1 2 15 30) ∧
    getTradeCalldata .wraps 9 1 2 8 (2 ^ 129 - 2) 1 large = .ok (9, 0, large) ∧
      getTradeCalldata .stops 9 1 2 8 (2 ^ 129 - 2) 1 large = .error "overflow" := by
  refine ⟨⟨rfl, settlementOf 8 [(⟨2, 1, 100, 50⟩, 10), (⟨2, 3, 100, 50⟩, 5)],
    fun _ => fills_settlementOf 8 _, rfl, rfl, fun hmatches => ?_⟩, rfl, rfl⟩
  exact absurd hmatches.sold (by decide)

end SetProtocol.ZeroExApiAdapter
