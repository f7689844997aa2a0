import SetProtocol.Core.Spending
import SetProtocol.Modules.DebtIssuanceHooks
import SetProtocol.Modules.RebasingSync

/-!
# Issuance of rebasing components

Between two calls the balances of rebasing components may become anything.  Issuance and
redemption sync first, and from there on they keep the SetToken collateralized: whoever
issues pays by the balances of that moment, and whoever redeems never finds too little.
-/

namespace SetProtocol.RebasingComponentModule

open Transaction Backing PreciseUnitMath FlaggedList
open DebtIssuanceModule (Hooks DefaultOnly Issuable SamePositions OnlyChain passingHooks)

variable {others : Hooks Storage} {module issuanceModule : Address}
variable {world hooked ready next : World} {sender target token : Address} {quantity : ℕ}

/-! ## The hooks -/

/-- The hooks of the issuance module, where this module is one of those that it calls. -/
def withSync (others : Hooks Storage) (module issuanceModule : Address) : Hooks Storage :=
  { others with
    moduleIssueHook := fun hook quantity world =>
      if hook = module then moduleIssueHook module world issuanceModule quantity
      else others.moduleIssueHook hook quantity world
    moduleRedeemHook := fun hook quantity world =>
      if hook = module then moduleRedeemHook module world issuanceModule quantity
      else others.moduleRedeemHook hook quantity world }

/-- A hook that changes neither the SetToken nor what the two modules store, and takes
nothing out of the SetToken. -/
structure Bystander (hook : World → Outcome World) : Prop where
  setTokenAddress : ∀ world next, hook world = .ok next →
    next.setTokenAddress = world.setTokenAddress
  controller : ∀ world next, hook world = .ok next → next.controller = world.controller
  setToken : ∀ world next, hook world = .ok next → next.setToken = world.setToken
  issuanceSettings : ∀ world next, hook world = .ok next →
    next.issuanceSettings = world.issuanceSettings
  environment : ∀ world next, hook world = .ok next → next.environment = world.environment
  holdings : ∀ world next, hook world = .ok next →
    ∀ token, world.heldBalance token ≤ next.heldBalance token
  funded : ∀ world, Chain.Funded (hook world)

structure Bystanders (hooks : Hooks Storage) : Prop where
  invokePreIssueHook : ∀ hook quantity caller target,
    Bystander (hooks.invokePreIssueHook hook quantity caller target)
  moduleIssueHook : ∀ hook quantity, Bystander (hooks.moduleIssueHook hook quantity)
  moduleRedeemHook : ∀ hook quantity, Bystander (hooks.moduleRedeemHook hook quantity)

/-- The hooks so far: they have changed units of listed components at most, and have taken
nothing. -/
structure Prepared (world ready : World) : Prop where
  setTokenAddress : ready.setTokenAddress = world.setTokenAddress
  controller : ready.controller = world.controller
  issuanceSettings : ready.issuanceSettings = world.issuanceSettings
  environment : ready.environment = world.environment
  setToken : ready.setToken = { world.setToken with
    components := ready.setToken.components
    componentPositions := ready.setToken.componentPositions }
  externals : ∀ component, ready.setToken.getExternalPositionModules component =
    world.setToken.getExternalPositionModules component
  bookkept : Bookkept ready.setToken
  others : ∀ component ∉ world.environment.rebasingComponents,
    ready.setToken.componentPositions component = world.setToken.componentPositions component
  holdings : ∀ token, world.heldBalance token ≤ ready.heldBalance token

/-- The listed components are backed by what is held of them. -/
def ListedBacked (world : World) : Prop :=
  ∀ component ∈ world.environment.rebasingComponents,
    Backed preciseUnit world.setToken.totalSupply (world.setToken.defaultRealUnit component)
      (world.heldBalance component)

theorem Prepared.refl (hkept : Bookkept world.setToken) : Prepared world world :=
  ⟨rfl, rfl, rfl, rfl, rfl, fun _ => rfl, hkept, fun _ _ => rfl, fun _ => le_rfl⟩

theorem Prepared.bystander {hook : World → Outcome World} (hprepared : Prepared world ready)
    (hbystander : Bystander hook) (hcall : hook ready = .ok next) :
    Prepared world next ∧ (ListedBacked ready → ListedBacked next) := by
  have hsetToken := hbystander.setToken _ _ hcall
  have henvironment := hbystander.environment _ _ hcall
  refine ⟨⟨(hbystander.setTokenAddress _ _ hcall).trans hprepared.setTokenAddress,
    (hbystander.controller _ _ hcall).trans hprepared.controller,
    (hbystander.issuanceSettings _ _ hcall).trans hprepared.issuanceSettings,
    henvironment.trans hprepared.environment, ?_, ?_, ?_, ?_, fun token =>
      (hprepared.holdings token).trans (hbystander.holdings _ _ hcall token)⟩, ?_⟩
  · rw [hsetToken]
    exact hprepared.setToken
  · rw [hsetToken]
    exact hprepared.externals
  · rw [hsetToken]
    exact hprepared.bookkept
  · rw [hsetToken]
    exact hprepared.others
  · intro hbacked component hcomponent
    rw [henvironment] at hcomponent
    rw [hsetToken]
    exact (hbacked component hcomponent).mono le_rfl (hbystander.holdings _ _ hcall component)

/-- The sync brings the listed components up to date, and that backs them. -/
theorem Prepared.sync {after : Chain} (hprepared : Prepared world ready)
    (hsync : sync module ready.environment ready.toChain = .ok after) :
    Prepared world (ready.withChain after) ∧ ListedBacked (ready.withChain after) := by
  obtain ⟨-, hafter, honly, hdate, hothers⟩ := sync_eq_ok hprepared.bookkept hsync
  refine ⟨⟨honly.setTokenAddress.trans hprepared.setTokenAddress,
    honly.controller.trans hprepared.controller, hprepared.issuanceSettings,
    hprepared.environment, ?_, fun component =>
      (honly.externals component).trans (hprepared.externals component), hafter,
    fun component hcomponent => ?_, fun token => ?_⟩, fun component hcomponent => ?_⟩
  · change after.setToken = _
    rw [honly.setToken, hprepared.setToken]
    rfl
  · rw [← hprepared.environment] at hcomponent
    exact (hothers component hcomponent).trans
      (hprepared.others component (hprepared.environment ▸ hcomponent))
  · exact (hprepared.holdings token).trans_eq (honly.heldBalance token).symm
  · change Backed _ after.setToken.totalSupply (after.setToken.defaultRealUnit component)
      (after.heldBalance component)
    rw [Backed, honly.totalSupply]
    by_cases hsupply : 0 < ready.setToken.totalSupply
    · exact ((hdate hsupply component hcomponent).bounds hafter).1
    · rw [Nat.eq_zero_of_not_pos hsupply, Nat.zero_mul]
      exact Nat.zero_le _

theorem Prepared.hook (hprepared : Prepared world ready)
    (hcall : syncFor module ready sender = .ok next) :
    Prepared world next ∧ ListedBacked next := by
  simp only [syncFor, bind_eq_ok, pure_eq_ok] at hcall
  obtain ⟨_, -, after, hsync, rfl⟩ := hcall
  exact hprepared.sync hsync

/-- A loop over the registered hooks, of which the sync is one. -/
theorem hooks_prepared {hook : Address → World → Outcome World} {hooks : List Address}
    (hlisted : module ∈ hooks)
    (hself : ∀ state, hook module state = syncFor module state issuanceModule)
    (hbystander : ∀ other, other ≠ module → Bystander (hook other))
    (hstart : Prepared world hooked)
    (hcall : hooks.foldlM (fun state other => hook other state) hooked = .ok ready) :
    Prepared world ready ∧ ListedBacked ready := by
  obtain ⟨hprepared, hsettled, -⟩ := foldlM_settles
    (fun other _ state next (hstate : Prepared world state) hturn => by
      change Prepared world next ∧ (other = module → ListedBacked next) ∧
        ∀ later, (later = module → ListedBacked state) → later = module → ListedBacked next
      by_cases heq : other = module
      · rw [heq, hself] at hturn
        obtain ⟨hnext, hbacked⟩ := hstate.hook hturn
        exact ⟨hnext, fun _ => hbacked, fun _ _ _ => hbacked⟩
      · obtain ⟨hnext, hkeeps⟩ := hstate.bystander (hbystander other heq) hturn
        exact ⟨hnext, fun hsame => absurd hsame heq,
          fun _ hlater hsame => hkeeps (hlater hsame)⟩) hstart hcall
  exact ⟨hprepared, hsettled module hlisted rfl⟩

/-! ## The invariant -/

/-- Components that are not listed are backed; the others may be anything until they are
synced, which the issuance module asks for. -/
structure Tended (module : Address) (world : World) : Prop where
  bookkept : Bookkept world.setToken
  default_only : DefaultOnly world.setToken
  registered : module ∈ world.issuanceSettings.moduleIssuanceHooks
  agrees : Agrees world.environment.rebasingComponents
    world.environment.rebasingComponentEnabled
  still : ∀ component ∈ world.setToken.components,
    component ∉ world.environment.rebasingComponents →
      Backed preciseUnit world.setToken.totalSupply (world.setToken.defaultRealUnit component)
        (world.heldBalance component)

/-- Without a position there is no external position. -/
theorem getExternalPositionModules_of_not_listed {setToken : SetToken} {component : Address}
    (hkept : Bookkept setToken) (habsent : component ∉ setToken.components) :
    setToken.getExternalPositionModules component = [] := by
  by_contra hsome
  exact habsent ((hkept.components.mem_iff component).mpr (Or.inr hsome))

/-- Once the hooks have run, everything is backed. -/
theorem Prepared.issuable (hprepared : Prepared world ready) (hbacked : ListedBacked ready)
    (htended : Tended module world) : Issuable ready.toChain where
  components_nodup := hprepared.bookkept.components.nodup
  default_only := by
    intro component _
    rw [hprepared.externals]
    by_cases hlisted : component ∈ world.setToken.components
    · exact htended.default_only component hlisted
    · exact getExternalPositionModules_of_not_listed htended.bookkept hlisted
  collateralized := by
    intro component hcomponent
    by_cases hrebases : component ∈ world.environment.rebasingComponents
    · rw [← hprepared.environment] at hrebases
      exact hbacked component hrebases
    · have hposition := hprepared.others component hrebases
      have hlisted : component ∈ world.setToken.components := by
        rw [htended.bookkept.components.mem_iff, ← hposition,
          ← hprepared.bookkept.components.mem_iff]
        exact hcomponent
      have hunit : ready.setToken.defaultRealUnit component =
          world.setToken.defaultRealUnit component := by
        rw [SetToken.defaultRealUnit, SetToken.defaultPositionVirtualUnit, hposition,
          hprepared.setToken]
        rfl
      have hsupply : ready.setToken.totalSupply = world.setToken.totalSupply := by
        rw [hprepared.setToken]
      rw [hunit, hsupply]
      exact (htended.still component hlisted hrebases).mono le_rfl
        (hprepared.holdings component)

theorem Prepared.valid_iff (hprepared : Prepared world ready) {account : Address} :
    ready.isSetValidAndInitialized account ↔ world.isSetValidAndInitialized account := by
  unfold Chain.isSetValidAndInitialized
  rw [hprepared.controller, hprepared.setTokenAddress, hprepared.setToken]

/-- What an issuance or a redemption leaves behind. -/
theorem Prepared.tended (hprepared : Prepared world ready) (htended : Tended module world)
    (honly : OnlyChain ready next) (hissuable : Issuable next.toChain)
    (hsame : SamePositions ready.toChain next.toChain) :
    Tended module next ∧ next.environment = world.environment ∧
      next.setTokenAddress = world.setTokenAddress := by
  have haddress := hsame.1.trans hprepared.setTokenAddress
  have hkept : Bookkept next.setToken := by
    rw [hsame.2]
    exact hprepared.bookkept.of_same_positions rfl rfl rfl
  obtain ⟨_, rfl⟩ := honly
  have henvironment := hprepared.environment
  refine ⟨⟨hkept, hissuable.default_only, ?_, ?_, fun component hcomponent _ =>
    hissuable.collateralized component hcomponent⟩, henvironment, haddress⟩
  · change module ∈ ready.issuanceSettings.moduleIssuanceHooks
    rw [hprepared.issuanceSettings]
    exact htended.registered
  · change Agrees ready.environment.rebasingComponents ready.environment.rebasingComponentEnabled
    rw [henvironment]
    exact htended.agrees

/-! ## Issuance and redemption -/

theorem issueHooks_prepared (hothers : Bystanders others) (htended : Tended module world)
    (hmanager : DebtIssuanceModule.callManagerPreIssueHooks
      (withSync others module issuanceModule) world quantity sender target = .ok hooked)
    (hmodules : DebtIssuanceModule.callModulePreIssueHooks
      (withSync others module issuanceModule) hooked quantity = .ok ready) :
    Prepared world ready ∧ ListedBacked ready := by
  have hfirst : Prepared world hooked := by
    unfold DebtIssuanceModule.callManagerPreIssueHooks at hmanager
    dsimp only at hmanager
    split at hmanager
    · exact ((Prepared.refl htended.bookkept).bystander
        (hothers.invokePreIssueHook _ _ _ _) hmanager).1
    · rw [pure_eq_ok] at hmanager
      exact hmanager ▸ Prepared.refl htended.bookkept
  have hlisted : module ∈ hooked.issuanceSettings.moduleIssuanceHooks := by
    rw [hfirst.issuanceSettings]
    exact htended.registered
  refine hooks_prepared hlisted (fun state => if_pos rfl) (fun other hother => ?_) hfirst
    hmodules
  have hsame : (withSync others module issuanceModule).moduleIssueHook other quantity =
      others.moduleIssueHook other quantity := by
    funext state
    exact if_neg hother
  rw [hsame]
  exact hothers.moduleIssueHook other quantity

theorem redeemHooks_prepared (hothers : Bystanders others) (htended : Tended module world)
    (hmodules : DebtIssuanceModule.callModulePreRedeemHooks
      (withSync others module issuanceModule) world quantity = .ok ready) :
    Prepared world ready ∧ ListedBacked ready := by
  refine hooks_prepared htended.registered (fun state => if_pos rfl)
    (fun other hother => ?_) (Prepared.refl htended.bookkept) hmodules
  have hsame : (withSync others module issuanceModule).moduleRedeemHook other quantity =
      others.moduleRedeemHook other quantity := by
    funext state
    exact if_neg hother
  rw [hsame]
  exact hothers.moduleRedeemHook other quantity

/-- Issuance leaves everything backed, whatever the balances were before. -/
theorem issue_tended (hothers : Bystanders others) (htended : Tended module world)
    (hcall : DebtIssuanceModule.issue (withSync others module issuanceModule) issuanceModule
      world sender quantity target = .ok next) :
    (Tended module next ∧ next.environment = world.environment ∧
      next.setTokenAddress = world.setTokenAddress) ∧ next.Collateralized := by
  have hphases := hcall
  simp only [DebtIssuanceModule.issue, DebtIssuanceModule.collectForIssue, bind_eq_ok] at hphases
  obtain ⟨_, ⟨_, -, _, -, hooked, hmanager, ready, hmodules, -⟩, -⟩ := hphases
  obtain ⟨hprepared, hbacked⟩ := issueHooks_prepared hothers htended hmanager hmodules
  have hissuable := hprepared.issuable hbacked htended
  rw [DebtIssuanceModule.issue_after_hooks hprepared.valid_iff hissuable.default_only hmanager
    hmodules] at hcall
  obtain ⟨hnext, hsame⟩ := DebtIssuanceModule.issue_preserves
    DebtIssuanceModule.harmlessHooks_passing hissuable hcall
  have honly := DebtIssuanceModule.onlyChain_of_issue hissuable.default_only hcall
  exact ⟨hprepared.tended htended honly hnext hsame, hnext.collateralized⟩

theorem redeem_tended (hothers : Bystanders others) (htended : Tended module world)
    (hsender : sender ≠ world.setTokenAddress)
    (hcall : DebtIssuanceModule.redeem (withSync others module issuanceModule) issuanceModule
      world sender quantity target = .ok next) :
    (Tended module next ∧ next.environment = world.environment ∧
      next.setTokenAddress = world.setTokenAddress) ∧ next.Collateralized := by
  have hphases := hcall
  simp only [DebtIssuanceModule.redeem, DebtIssuanceModule.releaseForRedeem,
    bind_eq_ok] at hphases
  obtain ⟨_, ⟨_, -, _, -, ready, hmodules, -⟩, -⟩ := hphases
  obtain ⟨hprepared, hbacked⟩ := redeemHooks_prepared hothers htended hmodules
  have hissuable := hprepared.issuable hbacked htended
  rw [DebtIssuanceModule.redeem_after_hooks hprepared.valid_iff hissuable.default_only
    hmodules] at hcall
  obtain ⟨hnext, hsame⟩ := DebtIssuanceModule.redeem_preserves
    DebtIssuanceModule.harmlessHooks_passing hissuable
    (fun hself => absurd (hself.trans hprepared.setTokenAddress) hsender) hcall
  have honly := DebtIssuanceModule.onlyChain_of_redeem hissuable.default_only hcall
  exact ⟨hprepared.tended htended honly hnext hsame, hnext.collateralized⟩

/-! ## Nothing is lacking -/

open Chain

theorem funded_removeStorage (addresses : List Address) (removed : Address) :
    Funded (AddressArrayUtils.removeStorage addresses removed) := by
  by_cases hmem : removed ∈ addresses
  · exact AddressArrayUtils.revertsOnly_removeStorage hmem
  · rw [AddressArrayUtils.removeStorage_of_not_mem hmem]
    exact revertsOnly_error (by decide)

theorem funded_convert (setToken : SetToken) (unit : ℤ) :
    Funded (setToken.convertRealToVirtualUnit unit) := by
  refine (funded_of_arithmetic (arithmetic_conservativePreciseDiv _ _)).bind fun _ _ => ?_
  refine RevertsOnly.ite (fun _ => ?_) fun _ => revertsOnly_pure _
  refine (revertsOnly_require fun _ => by decide).bind fun _ _ => ?_
  refine (funded_of_arithmetic
    (setToken.arithmetic_convertVirtualToRealUnit _)).bind fun _ _ => ?_
  exact (revertsOnly_require fun _ => by decide).bind fun _ _ => revertsOnly_pure _

theorem funded_editDefaultPosition (setToken : SetToken) (controller : Controller)
    (component : Address) (newUnit : ℕ) :
    Funded (Position.editDefaultPosition setToken controller module component newUnit) := by
  refine (funded_of_arithmetic (Position.arithmetic_hasDefaultPosition _ _)).bind
    fun found _ => ?_
  refine RevertsOnly.bind ?_ fun edited _ => ?_
  · refine RevertsOnly.ite (fun _ => RevertsOnly.ite (fun _ => ?_) fun _ => revertsOnly_pure _)
      fun _ => RevertsOnly.ite (fun _ => RevertsOnly.ite (fun _ => ?_)
        fun _ => revertsOnly_pure _) fun _ => revertsOnly_pure _
    · exact funded_guard.bind fun _ _ => (revertsOnly_require fun _ => by decide).bind
        fun _ _ => revertsOnly_pure _
    · exact funded_guard.bind fun _ _ => (funded_removeStorage _ _).bind
        fun _ _ => revertsOnly_pure _
  · refine (funded_of_arithmetic (SafeCast.arithmetic_toInt256 _)).bind fun _ _ => ?_
    exact funded_guard.bind fun _ _ => (funded_convert _ _).bind fun _ _ => revertsOnly_pure _

theorem funded_sync (storage : Storage) (chain : Chain) : Funded (sync module storage chain) := by
  refine (revertsOnly_require fun _ => by decide).bind fun _ _ => ?_
  refine RevertsOnly.ite (fun _ => revertsOnly_foldlM (fun component _ state => ?_) chain)
    fun _ => revertsOnly_pure _
  refine (funded_of_arithmetic
    (state.setToken.arithmetic_convertVirtualToRealUnit _)).bind fun _ _ => ?_
  refine (funded_of_arithmetic (SafeCast.arithmetic_toUint256 _)).bind fun _ _ => ?_
  refine RevertsOnly.bind ((funded_of_arithmetic (SafeMath.arithmetic_mul _ _)).bind
    fun _ _ => funded_of_arithmetic (SafeMath.arithmetic_div _ _)) fun _ _ => ?_
  exact RevertsOnly.ite (fun _ => (funded_editDefaultPosition _ _ _ _).bind
    fun _ _ => revertsOnly_pure _) fun _ => revertsOnly_pure _

theorem funded_syncFor (state : World) : Funded (syncFor module state sender) := by
  refine RevertsOnly.bind ?_ fun _ _ => (funded_sync _ _).bind fun _ _ => revertsOnly_pure _
  exact (revertsOnly_require fun _ => by decide).bind fun _ _ =>
    revertsOnly_require fun _ => by decide

theorem funded_hooks (hothers : Bystanders others) :
    Funded (DebtIssuanceModule.callModulePreRedeemHooks
      (withSync others module issuanceModule) world quantity) := by
  refine revertsOnly_foldlM (fun hook _ state => ?_) world
  exact RevertsOnly.ite (fun _ => funded_syncFor state)
    fun _ => (hothers.moduleRedeemHook hook quantity).funded state

/-- A redemption never fails because the SetToken holds too little of a component, however
the balances have changed. -/
theorem funded_redeem (hothers : Bystanders others) (htended : Tended module world)
    (hsender : sender ≠ world.setTokenAddress) :
    Funded (DebtIssuanceModule.redeem (withSync others module issuanceModule) issuanceModule
      world sender quantity target) := by
  cases hmodules : DebtIssuanceModule.callModulePreRedeemHooks
      (withSync others module issuanceModule) world quantity with
  | error reason =>
      refine RevertsOnly.bind ?_ fun _ _ => DebtIssuanceModule.funded_resolveFees
      refine (revertsOnly_require fun _ => by decide).bind fun _ _ => ?_
      refine (revertsOnly_require fun _ => by decide).bind fun _ _ => ?_
      refine (funded_hooks hothers).bind fun _ hready => ?_
      rw [hmodules] at hready
      cases hready
  | ok ready =>
      obtain ⟨hprepared, hbacked⟩ := redeemHooks_prepared hothers htended hmodules
      have hissuable := hprepared.issuable hbacked htended
      rw [DebtIssuanceModule.redeem_after_hooks hprepared.valid_iff hissuable.default_only
        hmodules]
      exact DebtIssuanceModule.funded_redeem DebtIssuanceModule.harmlessHooks_passing hissuable
        fun hself => absurd (hself.trans hprepared.setTokenAddress) hsender

/-! ## Histories -/

/-- Holders issue, redeem and transfer, anybody syncs, the manager lists components, and
tokens rebase. -/
inductive Call
  | issue (sender : Address) (quantity : ℕ) (target : Address)
  | redeem (sender : Address) (quantity : ℕ) (target : Address)
  | transfer (token sender target : Address) (quantity : ℕ)
  | sync
  | addRebasingComponents (sender : Address) (newRebasingComponents : List Address)
  | rebase (token : Address) (ledger : Address → ℕ)

def perform (others : Hooks Storage) (module issuanceModule : Address) :
    Call → World → Outcome World
  | .issue sender quantity target => fun world =>
      DebtIssuanceModule.issue (withSync others module issuanceModule) issuanceModule world
        sender quantity target
  | .redeem sender quantity target => fun world =>
      DebtIssuanceModule.redeem (withSync others module issuanceModule) issuanceModule world
        sender quantity target
  | .transfer token sender target quantity => fun world => do
      let chain ← world.moveTokens token sender target quantity
      pure (world.withChain chain)
  | .sync => fun world => do
      let chain ← RebasingComponentModule.sync module world.environment world.toChain
      pure (world.withChain chain)
  | .addRebasingComponents sender newRebasingComponents => fun world =>
      RebasingComponentModule.addRebasingComponents module world sender newRebasingComponents
  | .rebase token ledger => fun world => .ok (world.withChain (world.withLedger token ledger))

/-- The SetToken calls nobody by itself, and only components that are listed by then
rebase. -/
def Lawful : Call → World → Prop
  | .redeem sender _ _, world => sender ≠ world.setTokenAddress
  | .transfer _ sender _ _, world => sender ≠ world.setTokenAddress
  | .rebase token _, world => world.environment.rebasingComponentEnabled token = true
  | _, _ => True

/-- Balances that do not fall, other than those of listed components. -/
theorem Tended.of_balances (htended : Tended module world) {chain : Chain}
    (hsetToken : chain.setToken = world.setToken)
    (hholdings : ∀ component ∉ world.environment.rebasingComponents,
      world.heldBalance component ≤ chain.heldBalance component) :
    Tended module (world.withChain chain) := by
  have hsame : (world.withChain chain).setToken = world.setToken := hsetToken
  refine ⟨?_, ?_, htended.registered, htended.agrees, fun component hcomponent hrebases => ?_⟩
  · rw [hsame]
    exact htended.bookkept
  · rw [hsame]
    exact htended.default_only
  · rw [hsame] at hcomponent ⊢
    exact (htended.still component hcomponent hrebases).mono le_rfl
      (hholdings component hrebases)

theorem addRebasingComponents_agrees {storage listed : Storage} {components : List Address}
    (hagrees : Agrees storage.rebasingComponents storage.rebasingComponentEnabled)
    (hcall : components.foldlM addRebasingComponent storage = .ok listed) :
    Agrees listed.rebasingComponents listed.rebasingComponentEnabled ∧
      ∀ token, storage.rebasingComponentEnabled token = true →
        listed.rebasingComponentEnabled token = true := by
  have hturn : ∀ component ∈ components, ∀ state next : Storage,
      (Agrees state.rebasingComponents state.rebasingComponentEnabled ∧
        ∀ token, storage.rebasingComponentEnabled token = true →
          state.rebasingComponentEnabled token = true) →
      addRebasingComponent state component = .ok next →
      Agrees next.rebasingComponents next.rebasingComponentEnabled ∧
        ∀ token, storage.rebasingComponentEnabled token = true →
          next.rebasingComponentEnabled token = true := by
    intro component _ state next hstate hadd
    simp only [addRebasingComponent, bind_eq_ok, require_eq_ok, pure_eq_ok] at hadd
    obtain ⟨_, hfresh, rfl⟩ := hadd
    refine ⟨hstate.1.push hfresh, fun token htoken => ?_⟩
    by_cases heq : token = component
    · simp [heq]
    · simpa [heq] using hstate.2 token htoken
  exact foldlM_preserves hturn ⟨hagrees, fun _ htoken => htoken⟩ hcall

theorem perform_tended (hothers : Bystanders others) (htended : Tended module world)
    {call : Call} (hlawful : Lawful call world)
    (hcall : perform others module issuanceModule call world = .ok next) :
    Tended module next ∧ next.setTokenAddress = world.setTokenAddress := by
  cases call with
  | issue sender quantity target =>
      obtain ⟨⟨hnext, -, haddress⟩, -⟩ := issue_tended hothers htended hcall
      exact ⟨hnext, haddress⟩
  | redeem sender quantity target =>
      obtain ⟨⟨hnext, -, haddress⟩, -⟩ :=
        redeem_tended hothers htended hlawful hcall
      exact ⟨hnext, haddress⟩
  | transfer token sender target quantity =>
      simp only [perform, bind_eq_ok, pure_eq_ok] at hcall
      obtain ⟨moved, hmoved, rfl⟩ := hcall
      obtain ⟨-, rfl⟩ := Chain.moveTokens_eq_ok.mp hmoved
      refine ⟨htended.of_balances rfl fun component _ => ?_, rfl⟩
      by_cases heq : component = token
      · subst heq
        rw [Chain.heldBalance_withLedger_self, Ledger.move]
        refine le_of_eq_of_le ?_ (Ledger.le_credit _ _ _ _)
        exact (Ledger.debit_of_ne (Ne.symm hlawful)).symm
      · exact (Chain.heldBalance_withLedger_of_ne heq).symm.le
  | sync =>
      simp only [perform, bind_eq_ok, pure_eq_ok] at hcall
      obtain ⟨after, hsync, rfl⟩ := hcall
      obtain ⟨hprepared, hbacked⟩ := (Prepared.refl htended.bookkept).sync hsync
      obtain ⟨hnext, -, haddress⟩ := hprepared.tended htended ⟨after, rfl⟩
        (hprepared.issuable hbacked htended) (SamePositions.refl _)
      exact ⟨hnext, haddress⟩
  | addRebasingComponents sender newRebasingComponents =>
      simp only [perform, RebasingComponentModule.addRebasingComponents, bind_eq_ok,
        pure_eq_ok] at hcall
      obtain ⟨_, -, listed, hadd, rfl⟩ := hcall
      obtain ⟨hagrees, hgrows⟩ := addRebasingComponents_agrees htended.agrees hadd
      refine ⟨⟨htended.bookkept, htended.default_only, htended.registered, hagrees,
        fun component hcomponent hrebases => htended.still component hcomponent fun hlisted =>
          hrebases ?_⟩, rfl⟩
      exact (hagrees.mem_iff component).mp
        (hgrows component ((htended.agrees.mem_iff component).mpr hlisted))
  | rebase token ledger =>
      cases hcall
      refine ⟨htended.of_balances rfl fun component hrebases => ?_, rfl⟩
      have hne : component ≠ token := by
        rintro rfl
        exact hrebases ((htended.agrees.mem_iff component).mp hlawful)
      exact (Chain.heldBalance_withLedger_of_ne hne).symm.le

theorem tended_of_history (hothers : Bystanders others) (htended : Tended module world)
    (calls : List Call)
    (hlawful : ∀ earlier call, earlier ++ [call] <+: calls →
      Lawful call (run (perform others module issuanceModule) earlier world)) :
    Tended module (run (perform others module issuanceModule) calls world) ∧
      (run (perform others module issuanceModule) calls world).setTokenAddress =
        world.setTokenAddress := by
  refine run_preserves_of_allowed
    (fun state => Tended module state ∧ state.setTokenAddress = world.setTokenAddress) ?_
    ⟨htended, rfl⟩ (fun earlier call hcall _ _ _ => hlawful earlier call hcall)
    (List.prefix_refl calls)
  intro call state after hlawfulCall hstate hperform
  obtain ⟨hafter, haddress⟩ := perform_tended hothers hstate.1 hlawfulCall hperform
  exact ⟨hafter, haddress.trans hstate.2⟩

/-- However the components that are listed by then rebase between the calls, an issuance or
a redemption that returns leaves the SetToken collateralized by what it holds by then, and no
redemption fails for lack of a component. -/
theorem collateralized_under_rebases (hothers : Bystanders others)
    (htended : Tended module world) (calls : List Call)
    (hlawful : ∀ earlier call, earlier ++ [call] <+: calls →
      Lawful call (run (perform others module issuanceModule) earlier world)) :
    (∀ sender quantity target next,
      DebtIssuanceModule.issue (withSync others module issuanceModule) issuanceModule
        (run (perform others module issuanceModule) calls world) sender quantity target =
          .ok next → next.Collateralized) ∧
    ∀ sender quantity target, sender ≠ world.setTokenAddress →
      (∀ next, DebtIssuanceModule.redeem (withSync others module issuanceModule) issuanceModule
        (run (perform others module issuanceModule) calls world) sender quantity target =
          .ok next → next.Collateralized) ∧
      Chain.Funded (DebtIssuanceModule.redeem (withSync others module issuanceModule)
        issuanceModule (run (perform others module issuanceModule) calls world) sender quantity
          target) := by
  obtain ⟨hstate, haddress⟩ := tended_of_history hothers htended calls hlawful
  refine ⟨fun sender quantity target next hissue => (issue_tended hothers hstate hissue).2,
    fun sender quantity target hsender => ?_⟩
  rw [← haddress] at hsender
  exact ⟨fun next hredeem => (redeem_tended hothers hstate hsender hredeem).2,
    funded_redeem hothers hstate hsender⟩

theorem bystander_passing : Bystander (Except.ok : World → Outcome World) where
  setTokenAddress := by rintro world _ ⟨⟩; rfl
  controller := by rintro world _ ⟨⟩; rfl
  setToken := by rintro world _ ⟨⟩; rfl
  issuanceSettings := by rintro world _ ⟨⟩; rfl
  environment := by rintro world _ ⟨⟩; rfl
  holdings := by rintro world _ ⟨⟩ token; exact le_rfl
  funded := fun world => revertsOnly_pure world

theorem bystanders_passing : Bystanders passingHooks :=
  ⟨fun _ _ _ _ => bystander_passing, fun _ _ => bystander_passing,
    fun _ _ => bystander_passing⟩

/-- The shares of `rebasingWorld`, with nothing listed yet. -/
def unlistedWorld : World := { rebasingWorld with environment := ⟨fun _ => false, []⟩ }

theorem tended_unlistedWorld : Tended 6 unlistedWorld where
  bookkept := bookkept_rebasingWorld
  default_only := by
    intro component hcomponent
    rw [List.mem_singleton.mp hcomponent]
    rfl
  registered := by decide
  agrees := ⟨by decide, fun value => by simp [unlistedWorld]⟩
  still := by
    intro component hcomponent _
    rw [List.mem_singleton.mp hcomponent, Backed]
    decide +kernel

/-- Shares are issued before the component is listed and slashed. -/
def listAndSlash : List Call :=
  [.issue 3 7 3, .addRebasingComponents 7 [10], .rebase 10 slashedLedger, .redeem 3 2 3]

theorem collateralized_after_slashing :
    ∃ next, DebtIssuanceModule.issue (withSync passingHooks 6 5) 5
        (run (perform passingHooks 6 5) listAndSlash unlistedWorld) 3 1 3 = .ok next ∧
      next.Collateralized := by
  obtain ⟨next, hissue, -⟩ := returns_iff.mp (by decide +kernel :
    Returns (DebtIssuanceModule.issue (withSync passingHooks 6 5) 5
      (run (perform passingHooks 6 5) listAndSlash unlistedWorld) 3 1 3) fun _ => True)
  refine ⟨next, hissue, (collateralized_under_rebases bystanders_passing tended_unlistedWorld
    _ ?_).1 3 1 3 next hissue⟩
  simp only [listAndSlash, forall_prefix_cons, Lawful]
  refine ⟨trivial, trivial, by decide +kernel, by decide +kernel, fun earlier call hprefix => ?_⟩
  exact absurd (List.prefix_nil.mp hprefix) (by simp)

end SetProtocol.RebasingComponentModule
