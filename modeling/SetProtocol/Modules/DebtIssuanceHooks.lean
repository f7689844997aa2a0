import SetProtocol.Modules.DebtIssuanceBacking

/-!
# Issuance after its hooks

The hooks of managers and modules run before anything is computed.  Where no component has
an external position no further hook is called, so that an issuance is what its hooks do,
followed by an issuance without hooks.  The same holds of a redemption.
-/

namespace SetProtocol.DebtIssuanceModule

open Transaction

variable {E : Type} {hooks others : Hooks E} {module : Address}
variable {world hooked ready : World E} {sender target : Address} {quantity : ℕ}

theorem callManagerPreIssueHooks_passing :
    callManagerPreIssueHooks passingHooks world quantity sender target = .ok world := by
  unfold callManagerPreIssueHooks
  dsimp only
  split
  · rfl
  · rfl

theorem foldlM_passing (entries : List Address) :
    entries.foldlM (fun (state : World E) _ => (Except.ok state : Outcome (World E))) world =
      .ok world := by
  induction entries with
  | nil => rfl
  | cons entry entries ih => exact ih

theorem resolveEquityPosition_hooks {isIssue : Bool} {units : ComponentUnits}
    (hnone : world.setToken.getExternalPositionModules units.component = []) :
    resolveEquityPosition hooks module sender target quantity isIssue world units =
      resolveEquityPosition others module sender target quantity isIssue world units := by
  have hsame : ∀ (state : World E) hooks, state.setToken = world.setToken →
      executeExternalPositionHooks hooks state quantity units.component isIssue true =
        .ok state := by
    intro state hooks hsetToken
    rw [executeExternalPositionHooks, hsetToken, hnone]
    rfl
  unfold resolveEquityPosition
  split
  · cases isIssue
    · rw [if_neg Bool.false_ne_true, if_neg Bool.false_ne_true, hsame world hooks rfl,
        hsame world others rfl]
    · rw [if_pos rfl, if_pos rfl]
      cases htransfer : world.transferFrom units.component sender world.setTokenAddress
          units.equity with
      | error reason => rfl
      | ok chain =>
          obtain ⟨_, hframe⟩ := Chain.transferFrom_frame htransfer
          have hsetToken : (world.withChain chain).setToken = world.setToken := by
            change chain.setToken = world.setToken
            rw [hframe]
          rw [ok_bind, ok_bind, hsame _ hooks hsetToken, hsame _ others hsetToken]
  · rfl

/-- The equity loop calls no hook. -/
theorem resolveEquityPositions_hooks {isIssue : Bool} {required : List ComponentUnits}
    (hnone : ∀ units ∈ required,
      world.setToken.getExternalPositionModules units.component = []) :
    resolveEquityPositions hooks module world sender quantity target isIssue required =
      resolveEquityPositions others module world sender quantity target isIssue required := by
  unfold resolveEquityPositions
  induction required generalizing world with
  | nil => rfl
  | cons units required ih =>
      rw [List.foldlM_cons, List.foldlM_cons,
        resolveEquityPosition_hooks (hnone units List.mem_cons_self)]
      cases hturn : resolveEquityPosition others module sender target quantity isIssue world
          units with
      | error reason => rfl
      | ok next =>
          have hsetToken : next.setToken = world.setToken := by
            cases isIssue
            · exact (resolveEquityPosition_redeem
                (hnone units List.mem_cons_self) hturn).1
            · exact (resolveEquityPosition_issue
                (hnone units List.mem_cons_self) hturn).1
          rw [ok_bind, ok_bind]
          apply ih
          intro other hother
          rw [hsetToken]
          exact hnone other (List.mem_cons_of_mem units hother)

/-- An issuance goes on from where its hooks have ended. -/
theorem issue_after_hooks
    (hvalid : ready.isSetValidAndInitialized module ↔ world.isSetValidAndInitialized module)
    (hdefault : DefaultOnly ready.setToken)
    (hmanager : callManagerPreIssueHooks hooks world quantity sender target = .ok hooked)
    (hmodules : callModulePreIssueHooks hooks hooked quantity = .ok ready) :
    issue hooks module world sender quantity target =
      issue passingHooks module ready sender quantity target := by
  have hpassing : callModulePreIssueHooks passingHooks ready quantity = .ok ready :=
    foldlM_passing _
  have hcollect : collectForIssue hooks module world sender quantity target =
      collectForIssue passingHooks module ready sender quantity target := by
    unfold collectForIssue Chain.validateOnlyValidAndInitializedSet
    rw [hmanager, callManagerPreIssueHooks_passing, ok_bind, ok_bind, hmodules, hpassing,
      ok_bind, ok_bind]
    simp only [hvalid]
    cases hfees : calculateTotalFees module ready quantity true with
    | error reason => rfl
    | ok fees =>
        rw [ok_bind, ok_bind]
        cases hrequired : calculateRequiredComponentIssuanceUnits ready.setToken
            fees.totalQuantity true with
        | error reason => rfl
        | ok required =>
            obtain ⟨hcomponents, hunits⟩ :=
              calculateRequiredComponentIssuanceUnits_eq_ok hdefault hrequired
            have hdebt : ∀ units ∈ required, units.debt = 0 :=
              fun units hmem => (hunits units hmem).1
            have hequity : resolveEquityPositions hooks module ready sender
                fees.totalQuantity target true required =
                  resolveEquityPositions passingHooks module ready sender fees.totalQuantity
                    target true required :=
              resolveEquityPositions_hooks (none_of_components hdefault hcomponents)
            rw [ok_bind, ok_bind, hequity]
            simp only [resolveDebtPositions_of_no_debt hdebt]
  rw [issue, issue, hcollect]

/-- A redemption goes on from where its hooks have ended. -/
theorem redeem_after_hooks
    (hvalid : ready.isSetValidAndInitialized module ↔ world.isSetValidAndInitialized module)
    (hdefault : DefaultOnly ready.setToken)
    (hmodules : callModulePreRedeemHooks hooks world quantity = .ok ready) :
    redeem hooks module world sender quantity target =
      redeem passingHooks module ready sender quantity target := by
  have hpassing : callModulePreRedeemHooks passingHooks ready quantity = .ok ready :=
    foldlM_passing _
  have hrelease : releaseForRedeem hooks module world sender quantity target =
      releaseForRedeem passingHooks module ready sender quantity target := by
    unfold releaseForRedeem Chain.validateOnlyValidAndInitializedSet
    rw [hmodules, hpassing, ok_bind, ok_bind]
    simp only [hvalid]
    cases hburn : ready.burn module sender quantity with
    | error reason => rfl
    | ok burnt =>
        obtain ⟨-, -, hsetToken, -⟩ := Chain.burn_holdings hburn
        have hburntDefault : DefaultOnly (ready.withChain burnt).setToken := by
          change DefaultOnly burnt.setToken
          rw [hsetToken]
          exact hdefault
        rw [ok_bind, ok_bind]
        cases hfees : calculateTotalFees module (ready.withChain burnt) quantity false with
        | error reason => rfl
        | ok fees =>
            rw [ok_bind, ok_bind]
            cases hrequired : calculateRequiredComponentIssuanceUnits
                (ready.withChain burnt).setToken fees.totalQuantity false with
            | error reason => rfl
            | ok required =>
                obtain ⟨hcomponents, hunits⟩ :=
                  calculateRequiredComponentIssuanceUnits_eq_ok hburntDefault hrequired
                have hdebt : ∀ units ∈ required, units.debt = 0 :=
                  fun units hmem => (hunits units hmem).1
                have hequity : resolveEquityPositions hooks module (ready.withChain burnt)
                    sender fees.totalQuantity target false required =
                      resolveEquityPositions passingHooks module (ready.withChain burnt)
                        sender fees.totalQuantity target false required :=
                  resolveEquityPositions_hooks
                    (none_of_components hburntDefault hcomponents)
                rw [ok_bind, ok_bind, resolveDebtPositions_of_no_debt hdebt,
                  resolveDebtPositions_of_no_debt hdebt, ok_bind, ok_bind, hequity]
  rw [redeem, redeem, hrelease]

/-! ## The storage of the module -/

/-- Only the chain has changed. -/
def OnlyChain (world next : World E) : Prop := ∃ chain, next = world.withChain chain

variable {next : World E}

theorem OnlyChain.withChain (honly : OnlyChain world next) (chain : Chain) :
    OnlyChain world (next.withChain chain) := by
  obtain ⟨_, rfl⟩ := honly
  exact ⟨chain, rfl⟩

theorem executeExternalPositionHooks_passing {component : Address} {isIssue isEquity : Bool} :
    executeExternalPositionHooks passingHooks world quantity component isIssue isEquity =
      .ok world := by
  unfold executeExternalPositionHooks
  simp only [passingHooks, ite_self]
  exact foldlM_passing _

theorem onlyChain_of_equity {isIssue : Bool} {required : List ComponentUnits}
    (hcall : resolveEquityPositions passingHooks module world sender quantity target isIssue
      required = .ok next) : OnlyChain world next := by
  refine foldlM_preserves (fun units _ state after hstate hturn => ?_)
    ⟨world.toChain, rfl⟩ hcall
  unfold resolveEquityPosition at hturn
  simp only [executeExternalPositionHooks_passing, ok_bind] at hturn
  split at hturn
  · split at hturn
    · simp only [bind_eq_ok, Except.ok.injEq] at hturn
      obtain ⟨chain, -, rfl⟩ := hturn
      exact hstate.withChain chain
    · simp only [bind_eq_ok, pure_eq_ok] at hturn
      obtain ⟨chain, -, rfl⟩ := hturn
      exact hstate.withChain chain
  · rw [pure_eq_ok] at hturn
    exact hturn ▸ hstate

theorem onlyChain_of_fees {managerFee protocolFee : ℕ}
    (hcall : resolveFees module world managerFee protocolFee = .ok next) :
    OnlyChain world next := by
  unfold resolveFees at hcall
  split at hcall
  · rw [bind_eq_ok] at hcall
    obtain ⟨chain, -, hcall⟩ := hcall
    split at hcall
    · simp only [bind_eq_ok, pure_eq_ok] at hcall
      obtain ⟨minted, -, rfl⟩ := hcall
      exact ⟨minted, rfl⟩
    · rw [pure_eq_ok] at hcall
      exact ⟨chain, hcall.symm⟩
  · rw [pure_eq_ok] at hcall
    exact ⟨world.toChain, hcall.symm⟩

theorem OnlyChain.trans (hfirst : OnlyChain world hooked) (hsecond : OnlyChain hooked next) :
    OnlyChain world next := by
  obtain ⟨_, rfl⟩ := hsecond
  exact hfirst.withChain _

/-- Without hooks an issuance writes nothing but the chain. -/
theorem onlyChain_of_issue (hdefault : DefaultOnly world.setToken)
    (hcall : issue passingHooks module world sender quantity target = .ok next) :
    OnlyChain world next := by
  simp only [issue, collectForIssue, callManagerPreIssueHooks_passing, bind_eq_ok, pure_eq_ok,
    Except.ok.injEq, exists_eq_left'] at hcall
  obtain ⟨_, ⟨_, -, _, -, ready, hmodules, fees, -, required, hrequired, paid, hequity,
    collected, hdebt, rfl⟩, charged, hfees, minted, -, rfl⟩ := hcall
  obtain rfl : world = ready := Except.ok.inj ((foldlM_passing _).symm.trans hmodules)
  obtain ⟨-, hunits⟩ := calculateRequiredComponentIssuanceUnits_eq_ok hdefault hrequired
  rw [resolveDebtPositions_of_no_debt fun units hmem => (hunits units hmem).1,
    Except.ok.injEq] at hdebt
  subst hdebt
  exact ((onlyChain_of_equity hequity).trans (onlyChain_of_fees hfees)).withChain minted

/-- Nor does a redemption. -/
theorem onlyChain_of_redeem (hdefault : DefaultOnly world.setToken)
    (hcall : redeem passingHooks module world sender quantity target = .ok next) :
    OnlyChain world next := by
  simp only [redeem, releaseForRedeem, bind_eq_ok, pure_eq_ok] at hcall
  obtain ⟨_, ⟨_, -, _, -, ready, hmodules, burnt, hburn, fees, -, required, hrequired, repaid,
    hdebt, paid, hequity, rfl⟩, hfees⟩ := hcall
  obtain rfl : world = ready := Except.ok.inj ((foldlM_passing _).symm.trans hmodules)
  obtain ⟨-, -, hsetToken, -⟩ := Chain.burn_holdings hburn
  have hburntDefault : DefaultOnly (world.withChain burnt).setToken := by
    change DefaultOnly burnt.setToken
    rw [hsetToken]
    exact hdefault
  obtain ⟨-, hunits⟩ := calculateRequiredComponentIssuanceUnits_eq_ok hburntDefault hrequired
  rw [resolveDebtPositions_of_no_debt fun units hmem => (hunits units hmem).1,
    Except.ok.injEq] at hdebt
  subst hdebt
  have hstart : OnlyChain world (world.withChain burnt) := ⟨burnt, rfl⟩
  exact (hstart.trans (onlyChain_of_equity hequity)).trans (onlyChain_of_fees hfees)

end SetProtocol.DebtIssuanceModule
