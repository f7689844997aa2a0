import SetProtocol.Library.BigEndian
import SetProtocol.Registry.AddressArrayUtils

/-!
# Paths of Uniswap V3

A path is packed into bytes, address, fee, address and so on, with a last byte that tells
which amount is fixed.  The adapters of the two routers read the ends of the path and the
last byte at fixed positions, however many hops there are in between.
-/

namespace SetProtocol

open Transaction

/-! ## Reading bytes

The sums of a position and a length are those of arrays in memory, which are too short for
a sum to wrap around. -/

namespace BytesLib

def toAddress (bytes : Bytes) (start : ℕ) : Outcome Address := do
  require (start ≤ start + 20) "toAddress_overflow"
  require (start + 20 ≤ bytes.length) "toAddress_outOfBounds"
  pure (BigEndian.decode (BigEndian.read bytes start 20))

def slice (bytes : Bytes) (start length : ℕ) : Outcome Bytes := do
  require (length ≤ length + 31) "slice_overflow"
  require (start ≤ start + length) "slice_overflow"
  require (start + length ≤ bytes.length) "slice_outOfBounds"
  pure (BigEndian.read bytes start length)

end BytesLib

namespace BytesArrayUtils

def toBool (bytes : Bytes) (start : ℕ) : Outcome Bool := do
  require (start ≤ start + 1) "toBool_overflow"
  require (start + 1 ≤ bytes.length) "toBool_outOfBounds"
  let tempUint := BigEndian.decode (BigEndian.read bytes start 1)
  require (tempUint ≤ 1) "Invalid bool data"
  pure (if tempUint = 0 then false else true)

end BytesArrayUtils

namespace UniswapV3Paths

open AddressArrayUtils

/-! ## Packed encodings -/

def packAddress (token : Address) : Bytes := BigEndian.encode 20 token

/-- A `uint24`. -/
def packFee (fee : ℕ) : Bytes := BigEndian.encode 3 fee

def packBool (flag : Bool) : Bytes := [if flag then 1 else 0]

/-- Without a last index, that of the empty path, the read of the last address fails. -/
def generateDataParam (path : List Address) (fees : List ℕ) (fixIn : Bool) :
    Outcome Bytes := do
  let data ← (List.range (path.length - 1)).foldlM (fun data i => do
    let token ← readEntry path i
    let fee ← readEntry fees i
    pure (data ++ packAddress token ++ packFee fee)) []
  let last ← readEntry path (path.length - 1)
  let data := data ++ packAddress last
  pure (data ++ packBool fixIn)

/-- The checks of the data, for routers with calls of type `C`. -/
def getTradeCalldata {C : Type} (exactInput exactOutput : Bytes → C) (swapRouter : Address)
    (sourceToken destinationToken : Address) (data : Bytes) :
    Outcome (Address × ℕ × C) := do
  require (44 ≤ data.length) "Invalid data"
  let fixInput ← BytesArrayUtils.toBool data (data.length - 1)
  let (sourceFromPath, destinationFromPath) ← (
    if fixInput = true then do
      let sourceFromPath ← BytesLib.toAddress data 0
      let destinationFromPath ← BytesLib.toAddress data (data.length - 21)
      pure (sourceFromPath, destinationFromPath)
    else do
      let sourceFromPath ← BytesLib.toAddress data (data.length - 21)
      let destinationFromPath ← BytesLib.toAddress data 0
      pure (sourceFromPath, destinationFromPath))
  require (sourceToken = sourceFromPath) "Source token path mismatch"
  require (destinationToken = destinationFromPath) "Destination token path mismatch"
  let pathData ← BytesLib.slice data 0 (data.length - 1)
  let callData := if fixInput then exactInput pathData else exactOutput pathData
  pure (swapRouter, 0, callData)

end UniswapV3Paths

namespace UniswapV3ExchangeAdapterV2

/-- `ISwapRouter.ExactInputParams` -/
structure ExactInputParams where
  path : Bytes
  recipient : Address
  deadline : ℕ
  amountIn : ℕ
  amountOutMinimum : ℕ
  deriving DecidableEq

/-- `ISwapRouter.ExactOutputParams` -/
structure ExactOutputParams where
  path : Bytes
  recipient : Address
  deadline : ℕ
  amountOut : ℕ
  amountInMaximum : ℕ
  deriving DecidableEq

/-- Calls of `ISwapRouter`. -/
inductive Calldata
  | exactInput (params : ExactInputParams)
  | exactOutput (params : ExactOutputParams)
  deriving DecidableEq

def generateDataParam (path : List Address) (fees : List ℕ) (fixIn : Bool) : Outcome Bytes :=
  UniswapV3Paths.generateDataParam path fees fixIn

/-- At the time of the block, `timestamp`. -/
def getTradeCalldata (swapRouter : Address) (timestamp : ℕ)
    (sourceToken destinationToken destinationAddress : Address)
    (sourceQuantity destinationQuantity : ℕ) (data : Bytes) :
    Outcome (Address × ℕ × Calldata) :=
  UniswapV3Paths.getTradeCalldata
    (fun pathData => .exactInput
      ⟨pathData, destinationAddress, timestamp, sourceQuantity, destinationQuantity⟩)
    (fun pathData => .exactOutput
      ⟨pathData, destinationAddress, timestamp, destinationQuantity, sourceQuantity⟩)
    swapRouter sourceToken destinationToken data

end UniswapV3ExchangeAdapterV2

namespace UniswapV3ExchangeAdapterV3

/-- `ISwapRouter02.ExactInputParams` -/
structure ExactInputParams where
  path : Bytes
  recipient : Address
  amountIn : ℕ
  amountOutMinimum : ℕ
  deriving DecidableEq

/-- `ISwapRouter02.ExactOutputParams` -/
structure ExactOutputParams where
  path : Bytes
  recipient : Address
  amountOut : ℕ
  amountInMaximum : ℕ
  deriving DecidableEq

/-- Calls of `ISwapRouter02`. -/
inductive Calldata
  | exactInput (params : ExactInputParams)
  | exactOutput (params : ExactOutputParams)
  deriving DecidableEq

def generateDataParam (path : List Address) (fees : List ℕ) (fixIn : Bool) : Outcome Bytes :=
  UniswapV3Paths.generateDataParam path fees fixIn

def getTradeCalldata (swapRouter : Address)
    (sourceToken destinationToken destinationAddress : Address)
    (sourceQuantity destinationQuantity : ℕ) (data : Bytes) :
    Outcome (Address × ℕ × Calldata) :=
  UniswapV3Paths.getTradeCalldata
    (fun pathData => .exactInput
      ⟨pathData, destinationAddress, sourceQuantity, destinationQuantity⟩)
    (fun pathData => .exactOutput
      ⟨pathData, destinationAddress, destinationQuantity, sourceQuantity⟩)
    swapRouter sourceToken destinationToken data

end UniswapV3ExchangeAdapterV3

namespace UniswapV3Paths

open AddressArrayUtils

/-- The encoding that a router reads: address, fee, address and so on. -/
def packedPath : List Address → List ℕ → Bytes
  | [token], _ => packAddress token
  | token :: tokens, fee :: fees => packAddress token ++ packFee fee ++ packedPath tokens fees
  | _, _ => []

/-- One fee for each hop, addresses of 20 bytes and fees of 24 bits. -/
structure IsPath (path : List Address) (fees : List ℕ) : Prop where
  length : path.length = fees.length + 1
  addresses : ∀ token ∈ path, token < 2 ^ 160
  fees : ∀ fee ∈ fees, fee < 2 ^ 24

variable {path otherPath : List Address} {fees otherFees : List ℕ} {fixIn otherFix : Bool}
  {first last token : Address} {fee : ℕ} {data : Bytes}

theorem IsPath.tail {tokens : List Address} (hpath : IsPath (token :: tokens) (fee :: fees)) :
    IsPath tokens fees where
  length := Nat.succ_injective hpath.length
  addresses other hother := hpath.addresses other (List.mem_cons_of_mem token hother)
  fees other hother := hpath.fees other (List.mem_cons_of_mem fee hother)

@[simp]
theorem length_packAddress (token : Address) : (packAddress token).length = 20 :=
  BigEndian.length_encode 20 token

@[simp]
theorem length_packFee (fee : ℕ) : (packFee fee).length = 3 := BigEndian.length_encode 3 fee

@[simp]
theorem length_packBool (flag : Bool) : (packBool flag).length = 1 := rfl

/-! ## What the loop packs -/

/-- The bytes that the turn for a hop appends. -/
def packHop (path : List Address) (fees : List ℕ) (hop : ℕ) : Bytes :=
  packAddress (path.getD hop zeroAddress) ++ packFee (fees.getD hop 0)

theorem readEntry_of_lt {A : List ℕ} {index : ℕ} (hindex : index < A.length) :
    readEntry A index = .ok (A.getD index 0) := by
  rw [readEntry, List.getD_eq_getElem?_getD, List.getElem?_eq_getElem hindex]
  rfl

/-- After any number of turns the bytes of all their hops are there. -/
theorem packHops_eq {hops : List ℕ} (start : Bytes)
    (hhops : ∀ hop ∈ hops, hop < path.length ∧ hop < fees.length) :
    hops.foldlM (fun data i => do
      let token ← readEntry path i
      let fee ← readEntry fees i
      pure (data ++ packAddress token ++ packFee fee)) start =
        (.ok (start ++ hops.flatMap (packHop path fees)) : Outcome Bytes) := by
  induction hops generalizing start with
  | nil =>
      rw [List.foldlM_nil, List.flatMap_nil, List.append_nil]
      rfl
  | cons hop hops ih =>
      obtain ⟨htoken, hfee⟩ := hhops hop List.mem_cons_self
      rw [List.foldlM_cons, readEntry_of_lt htoken, readEntry_of_lt hfee, ok_bind, ok_bind]
      have hrest := ih (start ++ packHop path fees hop)
        fun other hother => hhops other (List.mem_cons_of_mem hop hother)
      rw [List.append_assoc, ← List.flatMap_cons] at hrest
      rw [← hrest, packHop, ← List.append_assoc]
      rfl

theorem packedPath_cons {tokens : List Address} (htokens : tokens.length = fees.length + 1) :
    packedPath (token :: tokens) (fee :: fees) =
      packAddress token ++ packFee fee ++ packedPath tokens fees := by
  rw [packedPath]
  rintro rfl
  exact Nat.succ_ne_zero _ htokens.symm

theorem packedPath_eq (hlength : path.length = fees.length + 1) :
    packedPath path fees =
      (List.range fees.length).flatMap (packHop path fees) ++
        packAddress (path.getD fees.length zeroAddress) := by
  induction path generalizing fees with
  | nil => simp at hlength
  | cons token tokens ih =>
      cases fees with
      | nil =>
          have hlast : tokens = [] := by simpa using hlength
          subst hlast
          rw [packedPath, List.length_nil, List.range_zero, List.flatMap_nil, List.nil_append,
            List.getD_cons_zero]
      | cons fee fees =>
          have htokens : tokens.length = fees.length + 1 := Nat.succ_injective hlength
          have hfirst : packHop (token :: tokens) (fee :: fees) 0 =
              packAddress token ++ packFee fee := rfl
          have hshift : ∀ hop, packHop (token :: tokens) (fee :: fees) (hop + 1) =
              packHop tokens fees hop := fun _ => rfl
          rw [packedPath_cons htokens, ih htokens, List.length_cons, List.range_succ_eq_map,
            List.flatMap_cons, List.flatMap_map, List.getD_cons_succ, hfirst]
          simp only [Nat.succ_eq_add_one, hshift, List.append_assoc]

theorem generateDataParam_eq (hlength : path.length = fees.length + 1) :
    generateDataParam path fees fixIn = .ok (packedPath path fees ++ packBool fixIn) := by
  have hhops : ∀ hop ∈ List.range fees.length, hop < path.length ∧ hop < fees.length := by
    intro hop hmem
    have hlt := List.mem_range.mp hmem
    omega
  have hsize : path.length - 1 = fees.length := by omega
  have hlast : readEntry path fees.length = .ok (path.getD fees.length zeroAddress) :=
    readEntry_of_lt (hlength ▸ Nat.lt_succ_self fees.length)
  rw [generateDataParam, hsize, packHops_eq [] hhops, ok_bind, hlast, ok_bind,
    List.nil_append, ← packedPath_eq hlength]
  rfl

/-! ## Both ends of a path -/

theorem length_packedPath (hlength : path.length = fees.length + 1) :
    (packedPath path fees).length = 20 + 23 * fees.length := by
  induction path generalizing fees with
  | nil => simp at hlength
  | cons token tokens ih =>
      cases fees with
      | nil =>
          have hlast : tokens = [] := by simpa using hlength
          subst hlast
          rw [packedPath, length_packAddress, List.length_nil]
      | cons fee fees =>
          have htokens : tokens.length = fees.length + 1 := Nat.succ_injective hlength
          rw [packedPath_cons htokens, List.length_append, List.length_append, ih htokens,
            length_packAddress, length_packFee, List.length_cons]
          omega

/-- A path starts with its first address. -/
theorem packedPath_head (hlength : path.length = fees.length + 1)
    (hfirst : path[0]? = some first) :
    ∃ behind, packedPath path fees = packAddress first ++ behind := by
  cases path with
  | nil => simp at hlength
  | cons token tokens =>
      have htoken : token = first := by simpa using hfirst
      subst htoken
      cases fees with
      | nil =>
          have hlast : tokens = [] := by simpa using hlength
          subst hlast
          exact ⟨[], by rw [packedPath, List.append_nil]⟩
      | cons fee fees =>
          refine ⟨packFee fee ++ packedPath tokens fees, ?_⟩
          rw [packedPath_cons (Nat.succ_injective hlength), List.append_assoc]

/-- A path ends with its last address. -/
theorem packedPath_last (hlength : path.length = fees.length + 1)
    (hlast : path[path.length - 1]? = some last) :
    ∃ before, packedPath path fees = before ++ packAddress last := by
  refine ⟨(List.range fees.length).flatMap (packHop path fees), ?_⟩
  have hindex : path.length - 1 = fees.length := by omega
  rw [hindex] at hlast
  rw [packedPath_eq hlength, List.getD_eq_getElem?_getD, hlast, Option.getD_some]

theorem packAddress_inj {other : Address} (htoken : token < 2 ^ 160) (hother : other < 2 ^ 160)
    (heq : packAddress token = packAddress other) : token = other := by
  apply BigEndian.encode_inj _ _ heq
  · norm_num
    exact htoken
  · norm_num
    exact hother

theorem packFee_inj {other : ℕ} (hfee : fee < 2 ^ 24) (hother : other < 2 ^ 24)
    (heq : packFee fee = packFee other) : fee = other := by
  apply BigEndian.encode_inj _ _ heq
  · norm_num
    exact hfee
  · norm_num
    exact hother

theorem packBool_inj (heq : packBool fixIn = packBool otherFix) : fixIn = otherFix := by
  revert heq
  cases fixIn <;> cases otherFix <;> decide

theorem packedPath_inj (hpath : IsPath path fees) (hother : IsPath otherPath otherFees)
    (heq : packedPath path fees = packedPath otherPath otherFees) :
    path = otherPath ∧ fees = otherFees := by
  have hsize : fees.length = otherFees.length := by
    have hbytes := congrArg List.length heq
    rw [length_packedPath hpath.length, length_packedPath hother.length] at hbytes
    omega
  induction fees generalizing path otherPath otherFees with
  | nil =>
      obtain rfl := List.length_eq_zero_iff.mp hsize.symm
      obtain ⟨token, rfl⟩ := List.length_eq_one_iff.mp hpath.length
      obtain ⟨other, rfl⟩ := List.length_eq_one_iff.mp hother.length
      rw [packedPath, packedPath] at heq
      have hsame := packAddress_inj (hpath.addresses token List.mem_cons_self)
        (hother.addresses other List.mem_cons_self) heq
      exact ⟨congrArg (fun entry => [entry]) hsame, rfl⟩
  | cons fee fees ih =>
      obtain ⟨token, tokens, rfl⟩ := List.exists_cons_of_length_eq_add_one hpath.length
      obtain ⟨other, others, rfl⟩ := List.exists_cons_of_length_eq_add_one hother.length
      obtain ⟨otherFee, otherFees, rfl⟩ := List.exists_cons_of_length_eq_add_one hsize.symm
      rw [packedPath_cons hpath.tail.length, packedPath_cons hother.tail.length,
        List.append_assoc, List.append_assoc] at heq
      obtain ⟨haddress, hrest⟩ := List.append_inj heq (by simp)
      obtain ⟨hfee, hrest⟩ := List.append_inj hrest (by simp)
      obtain ⟨rfl, rfl⟩ := ih hpath.tail hother.tail hrest (Nat.succ_injective hsize)
      have hsame := packAddress_inj (hpath.addresses token List.mem_cons_self)
        (hother.addresses other List.mem_cons_self) haddress
      have hcharge := packFee_inj (hpath.fees fee List.mem_cons_self)
        (hother.fees otherFee List.mem_cons_self) hfee
      rw [hsame, hcharge]
      exact ⟨rfl, rfl⟩

/-! ## What the adapters read -/

theorem toAddress_field {before behind : Bytes} (htoken : token < 2 ^ 160) :
    BytesLib.toAddress (before ++ packAddress token ++ behind) before.length = .ok token := by
  have hroom : before.length + 20 ≤ (before ++ packAddress token ++ behind).length := by
    rw [List.length_append, List.length_append, length_packAddress]
    omega
  have hread := BigEndian.read_field before (packAddress token) behind
  rw [length_packAddress] at hread
  rw [BytesLib.toAddress, require, if_pos (Nat.le_add_right _ _), ok_bind, require,
    if_pos hroom, ok_bind, hread, packAddress, BigEndian.decode_encode]
  · rfl
  · norm_num
    exact htoken

theorem toBool_field {before : Bytes} :
    BytesArrayUtils.toBool (before ++ packBool fixIn) before.length = .ok fixIn := by
  have hroom : before.length + 1 ≤ (before ++ packBool fixIn).length := by
    rw [List.length_append, length_packBool]
  have hread := BigEndian.read_field before (packBool fixIn) []
  rw [List.append_nil, length_packBool] at hread
  rw [BytesArrayUtils.toBool, require, if_pos (Nat.le_add_right _ _), ok_bind, require,
    if_pos hroom, ok_bind, hread]
  cases fixIn <;> rfl

theorem slice_front (before behind : Bytes) :
    BytesLib.slice (before ++ behind) 0 before.length = .ok before := by
  have hroom : 0 + before.length ≤ (before ++ behind).length := by
    rw [List.length_append]
    omega
  rw [BytesLib.slice, require, if_pos (Nat.le_add_right _ _), ok_bind, require,
    if_pos (Nat.zero_le _), ok_bind, require, if_pos hroom, ok_bind,
    BigEndian.read_zero_length]
  rfl

/-- The tokens a trade along a path sells and buys. -/
def tradedTokens (fixIn : Bool) (first last : Address) : Address × Address :=
  if fixIn = true then (first, last) else (last, first)

theorem getTradeCalldata_eq_ok {C : Type} {exactInput exactOutput : Bytes → C}
    {swapRouter source destination : Address} {result : Address × ℕ × C}
    (hmany : 2 ≤ path.length) (hpath : IsPath path fees) (hfirst : path[0]? = some first)
    (hlast : path[path.length - 1]? = some last) :
    getTradeCalldata exactInput exactOutput swapRouter source destination
        (packedPath path fees ++ packBool fixIn) = .ok result ↔
      (source, destination) = tradedTokens fixIn first last ∧
        result = (swapRouter, 0, if fixIn then exactInput (packedPath path fees)
          else exactOutput (packedPath path fees)) := by
  have hbytes := length_packedPath hpath.length
  have hfees : 1 ≤ fees.length := by
    have := hpath.length
    omega
  have hsize : (packedPath path fees ++ packBool fixIn).length =
      (packedPath path fees).length + 1 := by
    rw [List.length_append, length_packBool]
  have hhead : BytesLib.toAddress (packedPath path fees ++ packBool fixIn) 0 = .ok first := by
    obtain ⟨behind, hbehind⟩ := packedPath_head hpath.length hfirst
    have hread := @toAddress_field first [] (behind ++ packBool fixIn)
      (hpath.addresses first (List.mem_of_getElem? hfirst))
    rw [List.nil_append, List.length_nil] at hread
    rw [hbehind, List.append_assoc]
    exact hread
  have hend : BytesLib.toAddress (packedPath path fees ++ packBool fixIn)
      ((packedPath path fees ++ packBool fixIn).length - 21) = .ok last := by
    obtain ⟨before, hbefore⟩ := packedPath_last hpath.length hlast
    have hoffset : (before ++ packAddress last ++ packBool fixIn).length - 21 =
        before.length := by
      rw [List.length_append, List.length_append, length_packAddress, length_packBool]
      omega
    rw [hbefore, hoffset]
    exact toAddress_field (hpath.addresses last (List.mem_of_getElem? hlast))
  have hlong : 44 ≤ (packedPath path fees ++ packBool fixIn).length := by omega
  rw [getTradeCalldata, require, if_pos hlong, ok_bind, hhead, hend, hsize,
    Nat.add_sub_cancel, toBool_field, ok_bind, slice_front]
  cases fixIn with
  | true =>
      simp only [if_true, ok_bind, bind_eq_ok, require_eq_ok, pure_eq_ok, tradedTokens,
        Prod.mk.injEq]
      constructor
      · rintro ⟨_, rfl, _, hsource, _, hdestination, rfl⟩
        exact ⟨⟨hsource, hdestination⟩, rfl⟩
      · rintro ⟨⟨rfl, rfl⟩, rfl⟩
        exact ⟨_, rfl, (), rfl, (), rfl, rfl⟩
  | false =>
      simp only [if_false, ok_bind, bind_eq_ok, require_eq_ok, pure_eq_ok, tradedTokens,
        Prod.mk.injEq, Bool.false_eq_true]
      constructor
      · rintro ⟨_, rfl, _, hsource, _, hdestination, rfl⟩
        exact ⟨⟨hsource, hdestination⟩, rfl⟩
      · rintro ⟨⟨rfl, rfl⟩, rfl⟩
        exact ⟨_, rfl, (), rfl, (), rfl, rfl⟩

theorem generateDataParam_inj (hpath : IsPath path fees) (hother : IsPath otherPath otherFees)
    (heq : generateDataParam path fees fixIn = generateDataParam otherPath otherFees otherFix) :
    path = otherPath ∧ fees = otherFees ∧ fixIn = otherFix := by
  rw [generateDataParam_eq hpath.length, generateDataParam_eq hother.length,
    Except.ok.injEq] at heq
  obtain ⟨hpacked, hflag⟩ := List.append_inj' heq rfl
  obtain ⟨rfl, rfl⟩ := packedPath_inj hpath hother hpacked
  exact ⟨rfl, rfl, packBool_inj hflag⟩

/-- Data of a path is accepted for the tokens at its ends, and makes both routers swap along
that very path.  Different paths, fees or flags have different data. -/
theorem pathData_roundTrips (swapRouter recipient : Address)
    (timestamp sourceQuantity destinationQuantity : ℕ) (hmany : 2 ≤ path.length)
    (hpath : IsPath path fees) (hfirst : path[0]? = some first)
    (hlast : path[path.length - 1]? = some last) (fixIn : Bool) :
    (packedPath path fees).length = 20 + 23 * (path.length - 1) ∧
    (∃ data, UniswapV3ExchangeAdapterV2.generateDataParam path fees fixIn = .ok data ∧
      ∀ source destination result,
        UniswapV3ExchangeAdapterV2.getTradeCalldata swapRouter timestamp source destination
          recipient sourceQuantity destinationQuantity data = .ok result ↔
        (source, destination) = tradedTokens fixIn first last ∧
          result = (swapRouter, 0,
            if fixIn then .exactInput ⟨packedPath path fees, recipient, timestamp,
              sourceQuantity, destinationQuantity⟩
            else .exactOutput ⟨packedPath path fees, recipient, timestamp,
              destinationQuantity, sourceQuantity⟩)) ∧
    (∃ data, UniswapV3ExchangeAdapterV3.generateDataParam path fees fixIn = .ok data ∧
      ∀ source destination result,
        UniswapV3ExchangeAdapterV3.getTradeCalldata swapRouter source destination
          recipient sourceQuantity destinationQuantity data = .ok result ↔
        (source, destination) = tradedTokens fixIn first last ∧
          result = (swapRouter, 0,
            if fixIn then .exactInput ⟨packedPath path fees, recipient,
              sourceQuantity, destinationQuantity⟩
            else .exactOutput ⟨packedPath path fees, recipient,
              destinationQuantity, sourceQuantity⟩)) ∧
    ∀ otherPath otherFees otherFix, 2 ≤ otherPath.length → IsPath otherPath otherFees →
      (UniswapV3ExchangeAdapterV2.generateDataParam path fees fixIn =
          UniswapV3ExchangeAdapterV2.generateDataParam otherPath otherFees otherFix ∨
        UniswapV3ExchangeAdapterV3.generateDataParam path fees fixIn =
          UniswapV3ExchangeAdapterV3.generateDataParam otherPath otherFees otherFix) →
      path = otherPath ∧ fees = otherFees ∧ fixIn = otherFix := by
  refine ⟨?_, ⟨_, generateDataParam_eq hpath.length, fun source destination result => ?_⟩,
    ⟨_, generateDataParam_eq hpath.length, fun source destination result => ?_⟩, ?_⟩
  · have hfees : path.length - 1 = fees.length := by
      have := hpath.length
      omega
    rw [length_packedPath hpath.length, hfees]
  · exact getTradeCalldata_eq_ok hmany hpath hfirst hlast
  · exact getTradeCalldata_eq_ok hmany hpath hfirst hlast
  · intro otherPath otherFees otherFix _ hother hsame
    rcases hsame with hsame | hsame
    · exact generateDataParam_inj hpath hother hsame
    · exact generateDataParam_inj hpath hother hsame

/-- Over two hops, with the amount bought fixed. -/
theorem pathData_roundTrips_twoHops :
    ∃ data, UniswapV3ExchangeAdapterV3.generateDataParam [1, 2, 3] [500, 3000] false =
        .ok data ∧
      UniswapV3ExchangeAdapterV3.getTradeCalldata 9 3 1 7 1000 900 data =
        .ok (9, 0, .exactOutput ⟨packedPath [1, 2, 3] [500, 3000], 7, 900, 1000⟩) := by
  have hpath : IsPath [1, 2, 3] [500, 3000] := ⟨rfl, by decide, by decide⟩
  have hround := @pathData_roundTrips _ _ 1 3 9 7 0 1000 900 (by decide) hpath rfl rfl false
  obtain ⟨-, -, ⟨data, hdata, haccepted⟩, -⟩ := hround
  exact ⟨data, hdata, (haccepted 3 1 _).mpr ⟨rfl, rfl⟩⟩

end UniswapV3Paths

end SetProtocol
