import SetProtocol.Product.AMMSplitterTrades

/-!
# The splitter among strangers

Anybody may call the splitter, its routers, the pairs and the tokens, in any order.  The
splitter approves its routers without limit, and yet nobody can take from it; and whoever
trades, no pair becomes shallower.
-/

namespace SetProtocol.AMMSplitter

open Transaction UniswapV2 Flows

inductive Venue where
  | uni
  | sushi
  deriving DecidableEq

def Splitter.routerOf (splitter : Splitter) : Venue → Router
  | .uni => splitter.uniRouter
  | .sushi => splitter.sushiRouter

/-- What the accounts outside can do. -/
inductive Call where
  | approve (owner token spender : Address) (amount : ℕ)
  | transfer (sender token target : Address) (amount : ℕ)
  | transferFrom (spender token owner target : Address) (amount : ℕ)
  | swap (pair : Address) (amount0Out amount1Out : ℕ) (target : Address)
  | skim (pair target : Address)
  | sync (pair : Address)
  | routeExactInput (venue : Venue) (sender : Address) (amountIn amountOutMin : ℕ)
      (path : List Address) (target : Address) (deadline : ℕ)
  | routeExactOutput (venue : Venue) (sender : Address) (amountOut amountInMax : ℕ)
      (path : List Address) (target : Address) (deadline : ℕ)
  | splitExactInput (sender : Address) (amountIn amountOutMin : ℕ) (path : List Address)
      (target : Address) (deadline : ℕ)
  | splitExactOutput (sender : Address) (amountOut amountInMax : ℕ) (path : List Address)
      (target : Address) (deadline : ℕ)
  | wait (seconds : ℕ)

def perform (quotes : Quotes) (splitter : Splitter) : Call → World → Outcome World
  | .approve owner token spender amount, world => .ok (world.approve token owner spender amount)
  | .transfer sender token target amount, world => world.transfer token sender target amount
  | .transferFrom spender token owner target amount, world =>
      world.transferFrom token spender owner target amount
  | .swap pair amount0Out amount1Out target, world => world.swap pair amount0Out amount1Out target
  | .skim pair target, world => world.skim pair target
  | .sync pair, world => world.sync pair
  | .routeExactInput venue sender amountIn amountOutMin path target deadline, world => do
      let (_, next) ← (splitter.routerOf venue).swapExactTokensForTokens quotes world sender
        amountIn amountOutMin path target deadline
      pure next
  | .routeExactOutput venue sender amountOut amountInMax path target deadline, world => do
      let (_, next) ← (splitter.routerOf venue).swapTokensForExactTokens quotes world sender
        amountOut amountInMax path target deadline
      pure next
  | .splitExactInput sender amountIn amountOutMin path target deadline, world => do
      let (_, next) ← splitter.swapExactTokensForTokens quotes world sender amountIn amountOutMin
        path target deadline
      pure next
  | .splitExactOutput sender amountOut amountInMax path target deadline, world => do
      let (_, next) ← splitter.swapTokensForExactTokens quotes world sender amountOut amountInMax
        path target deadline
      pure next
  | .wait seconds, world => .ok { world with timestamp := world.timestamp + seconds }

/-- Neither a pair nor the splitter, which do only what their code says. -/
structure Stranger (splitter : Splitter) (world : World) (account : Address) : Prop where
  outsider : world.Outsider account
  splitter : account ≠ splitter.address

/-- The routers spend in their swaps only, on behalf of whoever calls them. -/
def Call.FromStrangers (splitter : Splitter) (world : World) : Call → Prop
  | .approve owner .. => Stranger splitter world owner
  | .transfer sender .. => Stranger splitter world sender
  | .transferFrom spender .. =>
      spender ≠ splitter.uniRouter.address ∧ spender ≠ splitter.sushiRouter.address
  | .swap .. => True
  | .skim .. => True
  | .sync _ => True
  | .routeExactInput _ sender .. => Stranger splitter world sender
  | .routeExactOutput _ sender .. => Stranger splitter world sender
  | .splitExactInput sender .. => Stranger splitter world sender
  | .splitExactOutput sender .. => Stranger splitter world sender
  | .wait _ => True

/-- Allowances that nobody but the routers may use. -/
def Guarded (splitter : Splitter) (world : World) (owner spender : Address) : Prop :=
  ¬world.Outsider owner ∨
    owner = splitter.address ∧ spender ≠ splitter.uniRouter.address ∧
      spender ≠ splitter.sushiRouter.address

/-- Every pair has its reserves, and nobody may spend what is not theirs. -/
structure Sound (splitter : Splitter) (world : World) : Prop where
  deployed : Deployed splitter world
  backed : world.Backed
  guarded : ∀ token owner spender, Guarded splitter world owner spender →
    world.allowances token owner spender = 0

/-- What no call of a stranger breaks. -/
structure Keeps (splitter : Splitter) (world next : World) : Prop where
  deepens : world.Deepens next
  backed : next.Backed
  holds : ∀ token,
    world.balances token splitter.address ≤ next.balances token splitter.address
  allowances : ∀ token owner spender, Guarded splitter world owner spender →
    next.allowances token owner spender ≤ world.allowances token owner spender

variable {quotes : Quotes} {splitter : Splitter} {world middle next : World}
variable {token source target owner spender address sender : Address} {amount : ℕ}

theorem Sound.of_keeps (hsound : Sound splitter world) (hkeeps : Keeps splitter world next) :
    Sound splitter next where
  deployed := hsound.deployed.of_deepens hkeeps.deepens
  backed := hkeeps.backed
  guarded := by
    intro token owner spender hguarded
    unfold Guarded at hguarded
    rw [hkeeps.deepens.outsider_iff] at hguarded
    have hle := hkeeps.allowances token owner spender hguarded
    rw [hsound.guarded token owner spender hguarded] at hle
    exact Nat.eq_zero_of_le_zero hle

theorem Stranger.of_deepens (hstranger : Stranger splitter world sender)
    (hdeepens : world.Deepens next) : Stranger splitter next sender :=
  ⟨hdeepens.outsider_iff.mpr hstranger.outsider, hstranger.splitter⟩

theorem Call.FromStrangers.of_deepens {call : Call} (hcall : call.FromStrangers splitter world)
    (hdeepens : world.Deepens next) : call.FromStrangers splitter next := by
  cases call with
  | transferFrom => exact hcall
  | swap => trivial
  | skim => trivial
  | sync => trivial
  | wait => trivial
  | splitExactInput => exact Stranger.of_deepens hcall hdeepens
  | approve => exact Stranger.of_deepens hcall hdeepens
  | transfer => exact Stranger.of_deepens hcall hdeepens
  | routeExactInput => exact Stranger.of_deepens hcall hdeepens
  | routeExactOutput => exact Stranger.of_deepens hcall hdeepens
  | splitExactOutput => exact Stranger.of_deepens hcall hdeepens

/-! ## Tokens -/

/-- A transfer from an account that is no pair and not the splitter, and allowances that only
sink where they matter. -/
theorem keeps_of_moved (hsound : Sound splitter world) (houtsider : world.Outsider source)
    (hne : source ≠ splitter.address) (target : Address)
    (hbalances : next.balances = (world.moved token source target amount).balances)
    (hpairs : next.pairs = world.pairs)
    (hallowances : ∀ token owner spender, Guarded splitter world owner spender →
      next.allowances token owner spender ≤ world.allowances token owner spender) :
    Keeps splitter world next where
  deepens := .of_same hpairs
  backed := hsound.backed.of_le hpairs fun token address hsome => by
    have hother : address ≠ source := by
      rintro rfl
      exact hsome houtsider
    rw [hbalances]
    exact World.le_moved hother token
  holds := fun token => by
    rw [hbalances]
    exact World.le_moved hne.symm token
  allowances := hallowances

theorem keeps_of_same (hsound : Sound splitter world) (hbalances : next.balances = world.balances)
    (hpairs : next.pairs = world.pairs)
    (hallowances : ∀ token owner spender, Guarded splitter world owner spender →
      next.allowances token owner spender ≤ world.allowances token owner spender) :
    Keeps splitter world next where
  deepens := .of_same hpairs
  backed := hsound.backed.of_le hpairs fun token address _ => by rw [hbalances]
  holds := fun token => by rw [hbalances]
  allowances := hallowances

/-- To spend what is guarded takes an allowance of nothing. -/
theorem keeps_of_transferFrom (hsound : Sound splitter world)
    (hspender : spender ≠ splitter.uniRouter.address ∧ spender ≠ splitter.sushiRouter.address)
    (hcall : world.transferFrom token spender owner target amount = .ok next) :
    Keeps splitter world next := by
  obtain ⟨hfunds, hallowed, rfl⟩ := World.transferFrom_eq_ok.mp hcall
  have hallowances : ∀ token' owner' spender', Guarded splitter world owner' spender' →
      ((world.moved token owner target amount).approve token owner spender
        (world.allowances token owner spender - amount)).allowances token' owner' spender' ≤
          world.allowances token' owner' spender' :=
    fun token' owner' spender' _ =>
      World.allowances_approve_le (Nat.sub_le _ _) token' owner' spender'
  by_cases hguarded : Guarded splitter world owner spender
  · rw [hsound.guarded token owner spender hguarded] at hallowed
    obtain rfl := Nat.eq_zero_of_le_zero hallowed
    refine keeps_of_same hsound ?_ rfl hallowances
    change (world.moved token owner target 0).balances = world.balances
    rw [World.moved_zero]
  · have houtsider : world.Outsider owner := by
      by_contra hpair
      exact hguarded (.inl hpair)
    have hne : owner ≠ splitter.address := fun heq => hguarded (.inr ⟨heq, hspender⟩)
    exact keeps_of_moved hsound houtsider hne target rfl rfl hallowances

/-! ## Pairs -/

theorem Sound.ne_of_pair {pair : Pair} (hsound : Sound splitter world)
    (hpair : world.pairs address = some pair) : splitter.address ≠ address := by
  rintro rfl
  exact Option.some_ne_none pair (hpair.symm.trans hsound.deployed.outsider)

theorem keeps_of_swap {amount0Out amount1Out : ℕ} (hsound : Sound splitter world)
    (hcall : world.swap address amount0Out amount1Out target = .ok next) :
    Keeps splitter world next := by
  obtain ⟨pair, after, hswap⟩ := World.swap_eq_ok hcall
  have hne : splitter.address ≠ address := hsound.ne_of_pair hswap.before
  exact ⟨hswap.worldDeepens, hswap.backed hsound.backed, hswap.le_balances hne,
    fun token owner spender _ => (congrFun (congrFun (congrFun hswap.allowances token) owner)
      spender).le⟩

/-- The reserves of a pair are what it holds, which is no less than before. -/
theorem keeps_of_sync (hsound : Sound splitter world) (hcall : world.sync address = .ok next) :
    Keeps splitter world next := by
  simp only [World.sync, bind_eq_ok, World.pairAt_eq_ok, World.update_eq_ok] at hcall
  obtain ⟨pair, hpair, after, htoken0, htoken1, hreserve0, hreserve1, rfl⟩ := hcall
  obtain ⟨hbacked0, hbacked1⟩ := hsound.backed address pair hpair
  refine ⟨fun other => ?_, fun other found hfound => ?_, fun _ => le_rfl, fun _ _ _ _ => le_rfl⟩
  · by_cases hother : other = address
    · subst hother
      rw [hpair, World.pairs_withPair_self]
      refine .some ⟨htoken0, htoken1, ?_⟩
      rw [hreserve0, hreserve1]
      exact Nat.mul_le_mul hbacked0 hbacked1
    · rw [World.pairs_withPair_of_ne hother]
      exact World.Deepens.of_same rfl other
  · by_cases hother : other = address
    · subst hother
      rw [World.pairs_withPair_self] at hfound
      obtain rfl := Option.some.inj hfound
      rw [htoken0, htoken1, hreserve0, hreserve1]
      exact ⟨le_rfl, le_rfl⟩
    · rw [World.pairs_withPair_of_ne hother] at hfound
      exact hsound.backed other found hfound

/-- What is skimmed is what the reserves do not need, of either token. -/
theorem keeps_of_skim (hsound : Sound splitter world)
    (hcall : world.skim address target = .ok next) : Keeps splitter world next := by
  simp only [World.skim, bind_eq_ok, World.pairAt_eq_ok, SafeMath.sub_eq_ok,
    World.safeTransfer_eq_ok, World.transfer_eq_ok] at hcall
  obtain ⟨pair, hpair, _, ⟨hreserve0, rfl⟩, _, ⟨hfunds0, rfl⟩, _, ⟨hreserve1, rfl⟩, hfunds1,
    rfl⟩ := hcall
  have hne : splitter.address ≠ address := hsound.ne_of_pair hpair
  have htokens : pair.token0 ≠ pair.token1 := pair.sorted.ne
  refine ⟨.of_same rfl, fun other found hfound => ?_,
    fun token => (World.le_moved hne token).trans (World.le_moved hne token),
    fun _ _ _ _ => le_rfl⟩
  by_cases hother : other = address
  · subst hother
    obtain rfl := Option.some.inj (hpair.symm.trans hfound)
    constructor
    · rw [World.balances_moved_of_token htokens]
      exact World.sub_le_moved hreserve0 target
    · exact World.sub_le_moved hreserve1 target
  · obtain ⟨hbacked0, hbacked1⟩ := hsound.backed other found hfound
    exact ⟨hbacked0.trans ((World.le_moved hother _).trans (World.le_moved hother _)),
      hbacked1.trans ((World.le_moved hother _).trans (World.le_moved hother _))⟩

/-! ## Trades -/

/-- Who is not the sender does not lose by a trade. -/
theorem holds_of_shifts {path : List Address} {totalInput totalOutput : ℕ}
    (houtsider : world.Outsider splitter.address) (hne : sender ≠ splitter.address)
    (hshifts : Shifts world.Outsider world.balances next.balances
      (income (path.getLastD 0) target totalOutput - income (path.headD 0) sender totalInput))
    (token : Address) :
    world.balances token splitter.address ≤ next.balances token splitter.address :=
  hshifts.le_of_paid (income_nonneg _ _ _) houtsider hne.symm token

theorem keeps_of_routed {venue : Venue} {amounts : List ℕ} {path : List Address}
    (hsound : Sound splitter world) (hsender : Stranger splitter world sender)
    (hrouted : (splitter.routerOf venue).Routed world sender target amounts path next) :
    Keeps splitter world next where
  deepens := hrouted.deepens
  backed := hrouted.backed hsender.outsider hsound.backed
  holds := holds_of_shifts hsound.deployed.outsider hsender.splitter hrouted.shifts
  allowances := fun token owner spender _ => hrouted.allowances token owner spender

theorem keeps_of_split {path : List Address} {totalInput totalOutput : ℕ}
    (hsound : Sound splitter world) (hsender : Stranger splitter world sender)
    (hsplit : Split splitter world next sender target path totalInput totalOutput) :
    Keeps splitter world next where
  deepens := hsplit.deepens
  backed := hsplit.backed hsender.outsider hsound.backed
  holds := holds_of_shifts hsound.deployed.outsider hsender.splitter hsplit.shifts
  allowances := by
    intro token owner spender hguarded
    refine hsplit.allowances token owner spender fun howner => ?_
    rcases hguarded with hpair | ⟨-, hspender⟩
    · exact absurd (howner ▸ hsound.deployed.outsider) hpair
    · exact hspender

theorem Sound.recorded (hsound : Sound splitter world) (venue : Venue) :
    (splitter.routerOf venue).Recorded world := by
  cases venue with
  | uni => exact hsound.deployed.uni
  | sushi => exact hsound.deployed.sushi

theorem perform_keeps {call : Call} (hdocumented : quotes.Documented)
    (hsound : Sound splitter world) (hstrangers : call.FromStrangers splitter world)
    (hcall : perform quotes splitter call world = .ok next) : Keeps splitter world next := by
  cases call with
  | approve owner token spender amount =>
      rw [perform, Except.ok.injEq] at hcall
      subst hcall
      refine keeps_of_same hsound rfl rfl fun token' owner' spender' hguarded => ?_
      refine (World.allowances_approve_of_ne (.inl ?_)).le
      rintro rfl
      rcases hguarded with hpair | ⟨howner, -⟩
      · exact hpair hstrangers.outsider
      · exact hstrangers.splitter howner
  | transfer sender token target amount =>
      obtain ⟨-, rfl⟩ := World.transfer_eq_ok.mp hcall
      exact keeps_of_moved hsound hstrangers.outsider hstrangers.splitter target rfl rfl
        fun _ _ _ _ => le_rfl
  | transferFrom spender token owner target amount =>
      exact keeps_of_transferFrom hsound hstrangers hcall
  | swap pair amount0Out amount1Out target => exact keeps_of_swap hsound hcall
  | skim pair target => exact keeps_of_skim hsound hcall
  | sync pair => exact keeps_of_sync hsound hcall
  | routeExactInput venue sender amountIn amountOutMin path target deadline =>
      simp only [perform, bind_eq_ok, pure_eq_ok, Prod.exists] at hcall
      obtain ⟨_, _, hswap, rfl⟩ := hcall
      obtain ⟨-, hrouted⟩ :=
        Router.swapExactTokensForTokens_eq_ok hdocumented (hsound.recorded venue) hswap
      exact keeps_of_routed hsound hstrangers hrouted
  | routeExactOutput venue sender amountOut amountInMax path target deadline =>
      simp only [perform, bind_eq_ok, pure_eq_ok, Prod.exists] at hcall
      obtain ⟨_, _, hswap, rfl⟩ := hcall
      obtain ⟨-, hrouted⟩ :=
        Router.swapTokensForExactTokens_eq_ok hdocumented (hsound.recorded venue) hswap
      exact keeps_of_routed hsound hstrangers hrouted
  | splitExactInput sender amountIn amountOutMin path target deadline =>
      simp only [perform, bind_eq_ok, pure_eq_ok, Prod.exists] at hcall
      obtain ⟨_, _, hswap, rfl⟩ := hcall
      exact keeps_of_split hsound hstrangers
        (split_of_exactInput hdocumented hsound.deployed hswap)
  | splitExactOutput sender amountOut amountInMax path target deadline =>
      simp only [perform, bind_eq_ok, pure_eq_ok, Prod.exists] at hcall
      obtain ⟨_, _, hswap, rfl⟩ := hcall
      exact keeps_of_split hsound hstrangers
        (split_of_exactOutput hdocumented hsound.deployed hswap)
  | wait seconds =>
      rw [perform, Except.ok.injEq] at hcall
      subst hcall
      exact keeps_of_same hsound rfl rfl fun _ _ _ _ => le_rfl

/-! ## Any order of calls -/

/-- Whatever strangers do, and in whatever order: the splitter never loses, no pair becomes
shallower, and only the routers ever get an allowance of the splitter. -/
theorem pools_of_history (hdocumented : quotes.Documented) (hsound : Sound splitter world)
    (calls : List Call) (hstrangers : ∀ call ∈ calls, call.FromStrangers splitter world) :
    Sound splitter (run (perform quotes splitter) calls world) ∧
      world.Deepens (run (perform quotes splitter) calls world) ∧
      ∀ token, world.balances token splitter.address ≤
        (run (perform quotes splitter) calls world).balances token splitter.address := by
  apply run_preserves fun state => Sound splitter state ∧ world.Deepens state ∧
    ∀ token, world.balances token splitter.address ≤ state.balances token splitter.address
  · intro call hmem state next hstate hcall
    obtain ⟨hsoundState, hdeepens, hholds⟩ := hstate
    have hkeeps := perform_keeps hdocumented hsoundState
      ((hstrangers call hmem).of_deepens hdeepens) hcall
    exact ⟨hsoundState.of_keeps hkeeps, hdeepens.trans hkeeps.deepens,
      fun token => (hholds token).trans (hkeeps.holds token)⟩
  · exact ⟨hsound, World.Deepens.of_same rfl, fun _ => le_rfl⟩

theorem sound_twoPools : Sound twoVenues twoPools where
  deployed := deployed_twoPools
  backed := by
    intro address pair hpair
    simp only [twoPools] at hpair ⊢
    split at hpair
    · rename_i haddress
      cases hpair
      rw [haddress]
      decide
    · split at hpair
      · rename_i haddress
        cases hpair
        rw [haddress]
        decide
      · cases hpair
  guarded := by
    intro token owner spender hguarded
    apply if_neg
    rintro ⟨rfl, rfl⟩
    rcases hguarded with hpair | ⟨hsplitter, -⟩
    · exact hpair rfl
    · exact absurd hsplitter (by decide)

/-- A split trade, a gift to the splitter on behalf of another account, an attempt to take it
back, and a pair that is paid twice over. -/
def strangersCalls : List Call :=
  [.splitExactInput 7 300 0 [1, 2] 8 0, .approve 8 2 9 100, .transferFrom 9 2 8 50 40,
    .transferFrom 9 2 50 9 40, .transfer 7 1 (slot 100 1 2) 90, .swap (slot 100 1 2) 0 80 9,
    .sync (slot 101 1 2), .splitExactOutput 7 100 200 [1, 2] 9 0]

theorem pools_of_strangersCalls :
    Sound twoVenues (run (perform .constantProduct twoVenues) strangersCalls twoPools) ∧
      twoPools.Deepens (run (perform .constantProduct twoVenues) strangersCalls twoPools) ∧
      ∀ token, twoPools.balances token 50 ≤
        (run (perform .constantProduct twoVenues) strangersCalls twoPools).balances token 50 := by
  apply pools_of_history documented_constantProduct sound_twoPools
  have hstranger : ∀ account, account ∈ [7, 8] → Stranger twoVenues twoPools account := by
    intro account haccount
    rcases List.mem_pair.mp haccount with rfl | rfl
    · exact ⟨rfl, by decide⟩
    · exact ⟨rfl, by decide⟩
  intro call hcall
  simp only [strangersCalls, List.mem_cons, List.not_mem_nil, or_false] at hcall
  rcases hcall with rfl | rfl | rfl | rfl | rfl | rfl | rfl | rfl
  · exact hstranger 7 (by decide)
  · exact hstranger 8 (by decide)
  · exact ⟨by decide, by decide⟩
  · exact ⟨by decide, by decide⟩
  · exact hstranger 7 (by decide)
  · trivial
  · trivial
  · exact hstranger 7 (by decide)

end SetProtocol.AMMSplitter
