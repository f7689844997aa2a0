import SetProtocol.Core.ModuleRegistry
import SetProtocol.Library.FlaggedList
import SetProtocol.Modules.CompoundLeverageAssets
import SetProtocol.Modules.LeverageRemoval

/-!
# The asset registry of the Compound leverage module

Both arrays of cTokens agree with their flags, and the SetToken is in the markets of the
flagged cTokens, in every run.  The array of underlyings is shortened by a search of its
own: it keeps to the order of the borrowed cTokens as long as the search for the
underlying ends where the one for its cToken does, and an edited market can part them.
-/

namespace SetProtocol.CompoundLeverageModule

open Transaction ModuleRegistry FlaggedList LeverageModule

variable {M : Type} {cTokens : CTokens M} {module sender cToken asset : Address}
variable {world next : World M}

/-- The SetToken is in the market of a cToken. -/
def World.entered (world : World M) (cToken : Address) : Bool :=
  world.protocols.accountMembership cToken world.setTokenAddress

/-! ## What the calls change -/

/-- Neither the account nor the map of markets changes. -/
structure Stays (world next : World M) : Prop where
  setTokenAddress : next.setTokenAddress = world.setTokenAddress
  underlyingToCToken : next.underlyingToCToken = world.underlyingToCToken

theorem Stays.refl (world : World M) : Stays world world := ⟨rfl, rfl⟩

theorem Stays.trans {middle : World M} (hfirst : Stays world middle)
    (hsecond : Stays middle next) : Stays world next :=
  ⟨hsecond.setTokenAddress.trans hfirst.setTokenAddress,
    hsecond.underlyingToCToken.trans hfirst.underlyingToCToken⟩

theorem addToMarketInternal_membership {storage : CompoundStorage M} {borrower : Address}
    (hcode : (addToMarketInternal storage cToken borrower).2 = .NO_ERROR) (other : Address) :
    (addToMarketInternal storage cToken borrower).1.accountMembership other borrower = true ↔
      other = cToken ∨ storage.accountMembership other borrower = true := by
  unfold addToMarketInternal at hcode ⊢
  split_ifs at hcode ⊢ with hlisted hmember hspace
  · refine ⟨Or.inr, fun hother => hother.elim (fun heq => ?_) id⟩
    exact heq ▸ hmember
  · by_cases heq : other = cToken
    · simp [heq]
    · simp [heq]

theorem exitMarket_membership {storage : CompoundStorage M} {account : Address}
    {exited : CompoundStorage M × ComptrollerError}
    (hcall : exitMarket cTokens storage cToken account = .ok exited)
    (hcode : exited.2 = .NO_ERROR) (other : Address) :
    exited.1.accountMembership other account = true ↔
      other ≠ cToken ∧ storage.accountMembership other account = true := by
  simp only [exitMarket, bind_eq_ok, require_eq_ok] at hcall
  obtain ⟨_, -, hcall⟩ := hcall
  split_ifs at hcall with howed hallowed hmember
  · rw [pure_eq_ok] at hcall
    subst hcall
    cases hcode
  · rw [pure_eq_ok] at hcall
    subst hcall
    cases hcode
  · rw [pure_eq_ok] at hcall
    subst hcall
    refine ⟨fun hother => ⟨?_, hother⟩, And.right⟩
    rintro rfl
    rw [hmember] at hother
    cases hother
  · simp only [bind_eq_ok, pure_eq_ok] at hcall
    obtain ⟨_, -, last, -, rfl⟩ := hcall
    by_cases heq : other = cToken
    · simp [heq]
    · simp [heq]

/-- Entering a market, unless the SetToken is in it for the other role. -/
theorem enterUnless_eq_ok {flag : Bool}
    (hcall : (if flag = false then invokeEnterMarkets module world cToken else pure world) =
      .ok next) :
    Stays world next ∧ next.enabledAssets = world.enabledAssets ∧ ∀ other,
      next.entered other = true ↔
        (other = cToken ∧ flag = false) ∨ world.entered other = true := by
  split at hcall
  · rename_i hflag
    simp only [invokeEnterMarkets, bind_eq_ok, require_eq_ok, pure_eq_ok] at hcall
    obtain ⟨_, -, _, hcode, rfl⟩ := hcall
    refine ⟨⟨rfl, rfl⟩, rfl, fun other => ?_⟩
    rw [hflag, eq_self, and_true]
    exact addToMarketInternal_membership hcode other
  · rename_i hflag
    rw [pure_eq_ok] at hcall
    subst hcall
    exact ⟨Stays.refl world, rfl, fun other => by simp [hflag]⟩

theorem invokeExitMarket_eq_ok
    (hcall : invokeExitMarket cTokens module world cToken = .ok next) :
    Stays world next ∧ next.enabledAssets = world.enabledAssets ∧ ∀ other,
      next.entered other = true ↔ other ≠ cToken ∧ world.entered other = true := by
  simp only [invokeExitMarket, bind_eq_ok, require_eq_ok, pure_eq_ok] at hcall
  obtain ⟨_, -, exited, hexited, _, hcode, rfl⟩ := hcall
  exact ⟨⟨rfl, rfl⟩, rfl, fun other => exitMarket_membership hexited hcode other⟩

theorem exitUnless_eq_ok {flag : Bool}
    (hcall : (if flag = false then invokeExitMarket cTokens module world cToken
      else pure world) = .ok next) :
    Stays world next ∧ next.enabledAssets = world.enabledAssets ∧ ∀ other,
      next.entered other = true ↔
        ¬(other = cToken ∧ flag = false) ∧ world.entered other = true := by
  split at hcall
  · rename_i hflag
    obtain ⟨hstays, hassets, hentered⟩ := invokeExitMarket_eq_ok hcall
    refine ⟨hstays, hassets, fun other => ?_⟩
    rw [hentered, hflag]
    simp
  · rename_i hflag
    rw [pure_eq_ok] at hcall
    subst hcall
    exact ⟨Stays.refl world, rfl, fun other => by simp [hflag]⟩

/-- What a turn of `sync` leaves alone. -/
structure Unmoved (venue after : Venue (CompoundStorage M)) : Prop where
  setTokenAddress : after.setTokenAddress = venue.setTokenAddress
  accountMembership :
    after.protocols.accountMembership = venue.protocols.accountMembership

theorem Unmoved.refl (venue : Venue (CompoundStorage M)) : Unmoved venue venue :=
  ⟨rfl, rfl⟩

theorem Unmoved.trans {venue middle after : Venue (CompoundStorage M)}
    (hfirst : Unmoved venue middle) (hsecond : Unmoved middle after) :
    Unmoved venue after :=
  ⟨hsecond.setTokenAddress.trans hfirst.setTokenAddress,
    hsecond.accountMembership.trans hfirst.accountMembership⟩

theorem syncCollateralCToken_unmoved {venue after : Venue (CompoundStorage M)}
    (hcall : syncCollateralCToken module venue cToken = .ok after) : Unmoved venue after := by
  simp only [syncCollateralCToken, bind_eq_ok] at hcall
  obtain ⟨_, -, _, -, _, -, hedited⟩ := hcall
  split at hedited
  · simp only [bind_eq_ok, pure_eq_ok] at hedited
    obtain ⟨setToken, -, rfl⟩ := hedited
    exact ⟨rfl, rfl⟩
  · rw [pure_eq_ok] at hedited
    exact hedited ▸ Unmoved.refl venue

theorem syncBorrowCToken_unmoved {borrowAssets : List Address} {shouldAccrueInterest : Bool}
    {venue after : Venue (CompoundStorage M)} {entry : Address × ℕ}
    (hcall : syncBorrowCToken cTokens module borrowAssets shouldAccrueInterest venue entry =
      .ok after) : Unmoved venue after := by
  simp only [syncBorrowCToken, bind_eq_ok, pure_eq_ok] at hcall
  obtain ⟨_, -, _, -, setToken, -, rfl⟩ := hcall
  exact ⟨rfl, rfl⟩

/-- Syncing writes positions and accrues interest. -/
theorem sync_eq_ok {shouldAccrueInterest : Bool}
    (hcall : sync cTokens module world shouldAccrueInterest = .ok next) :
    Stays world next ∧ next.enabledAssets = world.enabledAssets ∧
      next.entered = world.entered := by
  simp only [sync, bind_eq_ok] at hcall
  obtain ⟨_, -, hsynced⟩ := hcall
  split at hsynced
  · simp only [bind_eq_ok, pure_eq_ok] at hsynced
    obtain ⟨middle, hcollateral, after, hborrow, rfl⟩ := hsynced
    have hmiddle : Unmoved world.toVenue middle := foldlM_preserves
      (fun _ _ _ _ hvenue hturn => hvenue.trans (syncCollateralCToken_unmoved hturn))
      (Unmoved.refl world.toVenue) hcollateral
    have hafter : Unmoved world.toVenue after := foldlM_preserves
      (fun _ _ _ _ hvenue hturn => hvenue.trans (syncBorrowCToken_unmoved hturn))
      hmiddle hborrow
    refine ⟨⟨hafter.setTokenAddress, rfl⟩, rfl, ?_⟩
    funext other
    change after.protocols.accountMembership other after.setTokenAddress = _
    rw [hafter.setTokenAddress, hafter.accountMembership]
    rfl
  · rw [pure_eq_ok] at hsynced
    subst hsynced
    exact ⟨Stays.refl world, rfl, rfl⟩

/-! ## Flags, arrays and markets -/

/-- What holds whatever governance does: arrays agree with flags, and the SetToken is in
exactly the markets of its flagged cTokens. -/
structure Consistent (enabled : EnabledAssets) (entered : Address → Bool) : Prop where
  collateral : Agrees enabled.collateralCTokens enabled.collateralCTokenEnabled
  borrow : Agrees enabled.borrowCTokens enabled.borrowCTokenEnabled
  aligned : enabled.borrowAssets.length = enabled.borrowCTokens.length
  entered_iff : ∀ cToken, entered cToken = true ↔
    enabled.collateralCTokenEnabled cToken = true ∨ enabled.borrowCTokenEnabled cToken = true

/-- The underlyings with which the borrowed cTokens were enabled, in their order. -/
def Matched (enabled : EnabledAssets) (enabledWith : Address → Address) : Prop :=
  enabled.borrowAssets = enabled.borrowCTokens.map enabledWith

theorem addCollateralAsset_consistent (hconsistent : Consistent world.enabledAssets world.entered)
    (hcall : addCollateralAsset module world asset = .ok next) :
    Consistent next.enabledAssets next.entered ∧ Stays world next ∧
      next.enabledAssets.borrowCTokens = world.enabledAssets.borrowCTokens ∧
      next.enabledAssets.borrowAssets = world.enabledAssets.borrowAssets := by
  simp only [addCollateralAsset, bind_eq_ok, require_eq_ok, pure_eq_ok] at hcall
  obtain ⟨_, -, _, hfresh, entered, hmarket, rfl⟩ := hcall
  obtain ⟨hstays, -, hentered⟩ := enterUnless_eq_ok hmarket
  have hcollateral := hconsistent.collateral.push (Bool.eq_false_iff.mp hfresh)
  refine ⟨⟨hcollateral, hconsistent.borrow, hconsistent.aligned, fun other => ?_⟩,
    ⟨hstays.setTokenAddress, hstays.underlyingToCToken⟩, rfl, rfl⟩
  change entered.entered other = true ↔ _
  rw [hentered, hconsistent.entered_iff other]
  by_cases heq : other = world.underlyingToCToken asset
  · subst heq
    cases hflag : world.enabledAssets.borrowCTokenEnabled
      (world.underlyingToCToken asset) <;> simp [World.withAssets, hflag]
  · simp [World.withAssets, heq]

theorem removeCollateralAsset_consistent (hconsistent : Consistent world.enabledAssets world.entered)
    (hcall : removeCollateralAsset cTokens module world asset = .ok next) :
    Consistent next.enabledAssets next.entered ∧ Stays world next ∧
      next.enabledAssets.borrowCTokens = world.enabledAssets.borrowCTokens ∧
      next.enabledAssets.borrowAssets = world.enabledAssets.borrowAssets := by
  simp only [removeCollateralAsset, bind_eq_ok, require_eq_ok, pure_eq_ok] at hcall
  obtain ⟨_, hlisted, exited, hmarket, collateralCTokens, hremove, rfl⟩ := hcall
  obtain ⟨hstays, -, hentered⟩ := exitUnless_eq_ok hmarket
  obtain ⟨-, hperm⟩ := AddressArrayUtils.removeStorage_eq_ok hremove
  have hcollateral := (hconsistent.collateral.erase _).perm hperm
  refine ⟨⟨hcollateral, hconsistent.borrow, hconsistent.aligned, fun other => ?_⟩,
    ⟨hstays.setTokenAddress, hstays.underlyingToCToken⟩, rfl, rfl⟩
  change exited.entered other = true ↔ _
  rw [hentered, hconsistent.entered_iff other]
  by_cases heq : other = world.underlyingToCToken asset
  · subst heq
    simp [World.withAssets, hlisted]
  · simp [World.withAssets, heq]

/-- A turn of `addBorrowAssets` only takes a cToken that is not borrowed yet. -/
theorem addBorrowAsset_consistent (hconsistent : Consistent world.enabledAssets world.entered)
    (hcall : addBorrowAsset module world asset = .ok next) :
    Consistent next.enabledAssets next.entered ∧ Stays world next ∧
      world.underlyingToCToken asset ∉ world.enabledAssets.borrowCTokens ∧
      next.enabledAssets =
        world.enabledAssets.addBorrow (world.underlyingToCToken asset) asset := by
  simp only [addBorrowAsset, bind_eq_ok, require_eq_ok, pure_eq_ok] at hcall
  obtain ⟨_, -, _, hfresh, entered, hmarket, rfl⟩ := hcall
  obtain ⟨hstays, -, hentered⟩ := enterUnless_eq_ok hmarket
  have hborrow := hconsistent.borrow.push (Bool.eq_false_iff.mp hfresh)
  refine ⟨⟨hconsistent.collateral, hborrow, ?_, fun other => ?_⟩,
    ⟨hstays.setTokenAddress, hstays.underlyingToCToken⟩, ?_, rfl⟩
  · simp [World.withAssets, EnabledAssets.addBorrow, hconsistent.aligned]
  · change entered.entered other = true ↔ _
    rw [hentered, hconsistent.entered_iff other]
    by_cases heq : other = world.underlyingToCToken asset
    · subst heq
      simp [World.withAssets, EnabledAssets.addBorrow, hfresh]
    · simp [World.withAssets, EnabledAssets.addBorrow, heq]
  · rw [← hconsistent.borrow.mem_iff, hfresh]
    exact Bool.false_ne_true

theorem removeBorrowAsset_consistent (hconsistent : Consistent world.enabledAssets world.entered)
    (hcall : removeBorrowAsset cTokens module world asset = .ok next) :
    Consistent next.enabledAssets next.entered ∧ Stays world next ∧
      world.enabledAssets.removeBorrow (world.underlyingToCToken asset) asset =
        .ok next.enabledAssets := by
  simp only [removeBorrowAsset, bind_eq_ok, require_eq_ok, pure_eq_ok] at hcall
  obtain ⟨_, hlisted, exited, hmarket, removed, hremoved, rfl⟩ := hcall
  obtain ⟨hstays, -, hentered⟩ := exitUnless_eq_ok hmarket
  refine ⟨?_, ⟨hstays.setTokenAddress, hstays.underlyingToCToken⟩,
    hremoved⟩
  simp only [EnabledAssets.removeBorrow, bind_eq_ok, pure_eq_ok] at hremoved
  obtain ⟨borrowCTokens, hkeys, borrowAssets, hassets, rfl⟩ := hremoved
  obtain ⟨hmem, hperm⟩ := AddressArrayUtils.removeStorage_eq_ok hkeys
  obtain ⟨hassetMem, hassetPerm⟩ := AddressArrayUtils.removeStorage_eq_ok hassets
  refine ⟨hconsistent.collateral, (hconsistent.borrow.erase _).perm hperm, ?_,
    fun other => ?_⟩
  · change borrowAssets.length = borrowCTokens.length
    rw [hassetPerm.length_eq, hperm.length_eq, List.length_erase_of_mem hassetMem,
      List.length_erase_of_mem hmem, hconsistent.aligned]
  · change exited.entered other = true ↔ _
    rw [hentered, hconsistent.entered_iff other]
    by_cases heq : other = world.underlyingToCToken asset
    · subst heq
      simp [World.withAssets, hlisted]
    · simp [World.withAssets, heq]

/-! ## The order of the underlyings -/

/-- Both searches of a removal end at the same index, or hit the last underlying. -/
def RemovesSameEntry (enabled : EnabledAssets) (cToken borrowAsset : Address) : Prop :=
  enabled.borrowAssets.idxOf borrowAsset = enabled.borrowCTokens.idxOf cToken ∨
    enabled.borrowAssets.getLast? = some borrowAsset ∧
      enabled.borrowAssets[enabled.borrowCTokens.idxOf cToken]? = some borrowAsset

/-- A removal keeps the order exactly in these cases. -/
theorem removeBorrow_matched_iff {enabled removed : EnabledAssets}
    {enabledWith : Address → Address} (hmatched : Matched enabled enabledWith)
    (hcall : enabled.removeBorrow cToken asset = .ok removed) :
    Matched removed enabledWith ↔ RemovesSameEntry enabled cToken asset := by
  simp only [EnabledAssets.removeBorrow, bind_eq_ok, pure_eq_ok] at hcall
  obtain ⟨borrowCTokens, hkeys, borrowAssets, hassets, rfl⟩ := hcall
  have hkeyMem := (AddressArrayUtils.removeStorage_eq_ok hkeys).1
  have hassetMem := (AddressArrayUtils.removeStorage_eq_ok hassets).1
  obtain ⟨lastKey, hlastKey⟩ : ∃ last, enabled.borrowCTokens.getLast? = some last :=
    ⟨_, List.getLast?_eq_some_getLast (List.ne_nil_of_mem hkeyMem)⟩
  have hlast : enabled.borrowAssets.getLast? = some (enabledWith lastKey) := by
    rw [hmatched, List.getLast?_map, hlastKey, Option.map_some]
  rw [AddressArrayUtils.removeStorage_eq_swapRemove hkeyMem hlastKey, Except.ok.injEq]
    at hkeys
  rw [AddressArrayUtils.removeStorage_eq_swapRemove hassetMem hlast, Except.ok.injEq]
    at hassets
  have hkeyIndex : enabled.borrowCTokens.idxOf cToken < enabled.borrowAssets.length := by
    rw [hmatched, List.length_map]
    exact List.idxOf_lt_length_of_mem hkeyMem
  have hassetIndex := List.idxOf_lt_length_of_mem hassetMem
  have hparallel : borrowCTokens.map enabledWith =
      SwapRemoval.swapRemove enabled.borrowAssets (enabled.borrowCTokens.idxOf cToken)
        (enabledWith lastKey) := by
    rw [← hkeys, SwapRemoval.map_swapRemove, ← hmatched]
  change borrowAssets = borrowCTokens.map enabledWith ↔ _
  rw [hparallel, ← hassets, SwapRemoval.swapRemove_eq_iff hassetIndex hkeyIndex hlast,
    RemovesSameEntry, hlast, List.getElem?_eq_getElem hkeyIndex, List.getElem_idxOf]
  refine or_congr_right ⟨fun ⟨hone, htwo⟩ => ?_, fun ⟨hone, htwo⟩ => ?_⟩
  · exact ⟨congrArg some hone.symm, congrArg some (htwo.trans hone.symm)⟩
  · rw [Option.some.injEq] at hone htwo
    exact ⟨hone.symm, htwo.trans hone.symm⟩

/-- The underlying that each cToken was enabled with last, after a batch. -/
def recordBorrows (underlyingToCToken : Address → Address) (borrowAssets : List Address)
    (enabledWith : Address → Address) : Address → Address :=
  borrowAssets.foldl
    (fun record borrowAsset =>
      Function.update record (underlyingToCToken borrowAsset) borrowAsset) enabledWith

theorem addBorrow_matched {enabled : EnabledAssets} {enabledWith : Address → Address}
    (hmatched : Matched enabled enabledWith) (hfresh : cToken ∉ enabled.borrowCTokens) :
    Matched (enabled.addBorrow cToken asset) (Function.update enabledWith cToken asset) := by
  have hsame : enabled.borrowCTokens.map (Function.update enabledWith cToken asset) =
      enabled.borrowCTokens.map enabledWith :=
    List.map_congr_left fun other hother =>
      Function.update_of_ne (ne_of_mem_of_not_mem hother hfresh) _ _
  change enabled.borrowAssets ++ [asset] = (enabled.borrowCTokens ++ [cToken]).map _
  rw [List.map_append, hsame, ← hmatched, List.map_singleton, Function.update_self]

/-! ## Batches -/

variable {assets : List Address} {enabledWith : Address → Address}

/-- A batch of collateral assets leaves the borrow assets alone. -/
structure KeepsBorrows (world next : World M) : Prop where
  consistent : Consistent next.enabledAssets next.entered
  stays : Stays world next
  borrowCTokens : next.enabledAssets.borrowCTokens = world.enabledAssets.borrowCTokens
  borrowAssets : next.enabledAssets.borrowAssets = world.enabledAssets.borrowAssets

theorem KeepsBorrows.matched (hkeeps : KeepsBorrows world next)
    (hmatched : Matched world.enabledAssets enabledWith) :
    Matched next.enabledAssets enabledWith := by
  rw [Matched, hkeeps.borrowAssets, hkeeps.borrowCTokens]
  exact hmatched

theorem addCollateralAssets_keeps
    (hconsistent : Consistent world.enabledAssets world.entered)
    (hcall : addCollateralAssets module world sender assets = .ok next) :
    KeepsBorrows world next := by
  simp only [addCollateralAssets, bind_eq_ok] at hcall
  obtain ⟨_, -, hfold⟩ := hcall
  have hstart : KeepsBorrows world world := ⟨hconsistent, Stays.refl world, rfl, rfl⟩
  refine foldlM_preserves (fun asset _ state after hstate hturn => ?_) hstart hfold
  obtain ⟨hbefore, hstays, hkeys, hassets⟩ := hstate
  obtain ⟨hafter, hturnStays, hturnKeys, hturnAssets⟩ :=
    addCollateralAsset_consistent hbefore hturn
  exact ⟨hafter, hstays.trans hturnStays, hturnKeys.trans hkeys, hturnAssets.trans hassets⟩

theorem removeCollateralAssets_keeps
    (hconsistent : Consistent world.enabledAssets world.entered)
    (hcall : removeCollateralAssets cTokens module world sender assets = .ok next) :
    KeepsBorrows world next := by
  simp only [removeCollateralAssets, bind_eq_ok] at hcall
  obtain ⟨_, -, synced, hsynced, hfold⟩ := hcall
  obtain ⟨hsyncedStays, hsyncedAssets, hsyncedEntered⟩ := sync_eq_ok hsynced
  have hstart : KeepsBorrows world synced :=
    ⟨hsyncedAssets ▸ hsyncedEntered ▸ hconsistent, hsyncedStays,
      congrArg EnabledAssets.borrowCTokens hsyncedAssets,
      congrArg EnabledAssets.borrowAssets hsyncedAssets⟩
  refine foldlM_preserves (fun asset _ state after hstate hturn => ?_) hstart hfold
  obtain ⟨hbefore, hstays, hkeys, hassets⟩ := hstate
  obtain ⟨hafter, hturnStays, hturnKeys, hturnAssets⟩ :=
    removeCollateralAsset_consistent hbefore hturn
  exact ⟨hafter, hstays.trans hturnStays, hturnKeys.trans hkeys, hturnAssets.trans hassets⟩

theorem foldlM_addBorrowAsset (hconsistent : Consistent world.enabledAssets world.entered)
    (hfold : assets.foldlM (addBorrowAsset module) world = .ok next) :
    Consistent next.enabledAssets next.entered ∧ Stays world next ∧
      (Matched world.enabledAssets enabledWith →
        Matched next.enabledAssets
          (recordBorrows world.underlyingToCToken assets enabledWith)) := by
  induction assets generalizing world enabledWith with
  | nil =>
      rw [List.foldlM_nil, pure_eq_ok] at hfold
      subst hfold
      exact ⟨hconsistent, Stays.refl world, id⟩
  | cons asset assets ih =>
      rw [List.foldlM_cons, bind_eq_ok] at hfold
      obtain ⟨middle, hturn, hrest⟩ := hfold
      obtain ⟨hmiddle, hstays, hfresh, hassets⟩ := addBorrowAsset_consistent hconsistent hturn
      obtain ⟨hnext, hrestStays, hmatched⟩ := ih hmiddle hrest
      refine ⟨hnext, hstays.trans hrestStays, fun hbefore => ?_⟩
      rw [recordBorrows, List.foldl_cons, ← hstays.underlyingToCToken]
      apply hmatched
      rw [hassets, hstays.underlyingToCToken]
      exact addBorrow_matched hbefore hfresh

theorem addBorrowAssets_consistent
    (hconsistent : Consistent world.enabledAssets world.entered)
    (hcall : addBorrowAssets module world sender assets = .ok next) :
    Consistent next.enabledAssets next.entered ∧
      (Matched world.enabledAssets enabledWith →
        Matched next.enabledAssets
          (recordBorrows world.underlyingToCToken assets enabledWith)) := by
  simp only [addBorrowAssets, bind_eq_ok] at hcall
  obtain ⟨_, -, hfold⟩ := hcall
  obtain ⟨hnext, -, hmatched⟩ := foldlM_addBorrowAsset hconsistent hfold
  exact ⟨hnext, hmatched⟩

/-- Every removal of a batch takes the underlying that belongs to its cToken. -/
def RemovesSameEntries (world : World M) (borrowAssets : List Address) : Prop :=
  EachTurn
    (fun borrowAsset enabled =>
      RemovesSameEntry enabled (world.underlyingToCToken borrowAsset) borrowAsset)
    (fun enabled borrowAsset =>
      enabled.removeBorrow (world.underlyingToCToken borrowAsset) borrowAsset)
    borrowAssets world.enabledAssets

theorem foldlM_removeBorrowAsset (hconsistent : Consistent world.enabledAssets world.entered)
    (hfold : assets.foldlM (removeBorrowAsset cTokens module) world = .ok next) :
    Consistent next.enabledAssets next.entered ∧
      (RemovesSameEntries world assets → Matched world.enabledAssets enabledWith →
        Matched next.enabledAssets enabledWith) := by
  induction assets generalizing world with
  | nil =>
      rw [List.foldlM_nil, pure_eq_ok] at hfold
      subst hfold
      exact ⟨hconsistent, fun _ => id⟩
  | cons asset assets ih =>
      rw [List.foldlM_cons, bind_eq_ok] at hfold
      obtain ⟨middle, hturn, hrest⟩ := hfold
      obtain ⟨hmiddle, hstays, hremoved⟩ := removeBorrowAsset_consistent hconsistent hturn
      obtain ⟨hnext, hmatched⟩ := ih hmiddle hrest
      refine ⟨hnext, fun hsame hbefore => hmatched ?_ ?_⟩
      · have hrestSame := hsame.2 _ hremoved
        rwa [RemovesSameEntries, hstays.underlyingToCToken]
      · exact (removeBorrow_matched_iff hbefore hremoved).mpr hsame.1

theorem removeBorrowAssets_consistent
    (hconsistent : Consistent world.enabledAssets world.entered)
    (hcall : removeBorrowAssets cTokens module world sender assets = .ok next) :
    Consistent next.enabledAssets next.entered ∧
      (RemovesSameEntries world assets → Matched world.enabledAssets enabledWith →
        Matched next.enabledAssets enabledWith) := by
  simp only [removeBorrowAssets, bind_eq_ok] at hcall
  obtain ⟨_, -, synced, hsynced, hfold⟩ := hcall
  obtain ⟨hstays, hassets, hentered⟩ := sync_eq_ok hsynced
  obtain ⟨hnext, hmatched⟩ :=
    foldlM_removeBorrowAsset (hassets ▸ hentered ▸ hconsistent) hfold
  refine ⟨hnext, fun hsame hbefore => hmatched ?_ (hassets ▸ hbefore)⟩
  rwa [RemovesSameEntries, hstays.underlyingToCToken, hassets]

/-! ## Leaving and coming -/

theorem entered_withVenue {venue : Venue (CompoundStorage M)}
    (haddress : venue.setTokenAddress = world.setTokenAddress)
    (hprotocols : venue.protocols = world.protocols) :
    (world.withVenue venue).entered = world.entered := by
  funext cToken
  change venue.protocols.accountMembership cToken venue.setTokenAddress = _
  rw [haddress, hprotocols]
  rfl

/-- The SetToken is in exactly the markets of its flagged cTokens. -/
def EntersFlagged (world : World M) : Prop :=
  ∀ cToken, world.entered cToken = true ↔
    world.enabledAssets.collateralCTokenEnabled cToken = true ∨
      world.enabledAssets.borrowCTokenEnabled cToken = true

/-- The first loop of a removal takes the borrow flags down. -/
theorem foldlM_leaveBorrowCToken {keys : List Address} (henters : EntersFlagged world)
    (hfold : keys.foldlM (leaveBorrowCToken cTokens module) world = .ok next) :
    EntersFlagged next ∧ next.enabledAssets = { world.enabledAssets with
      borrowCTokenEnabled := unmark world.enabledAssets.borrowCTokenEnabled keys } := by
  induction keys generalizing world with
  | nil =>
      rw [List.foldlM_nil, pure_eq_ok] at hfold
      subst hfold
      exact ⟨henters, rfl⟩
  | cons key keys ih =>
      rw [List.foldlM_cons, bind_eq_ok] at hfold
      obtain ⟨middle, hturn, hrest⟩ := hfold
      simp only [leaveBorrowCToken, bind_eq_ok, pure_eq_ok] at hturn
      obtain ⟨exited, hmarket, rfl⟩ := hturn
      obtain ⟨-, -, hentered⟩ := exitUnless_eq_ok hmarket
      refine ih (fun other => ?_) hrest
      change exited.entered other = true ↔ _
      rw [hentered, henters other]
      by_cases heq : other = key
      · subst heq
        simp +contextual [World.withAssets]
      · simp [World.withAssets, heq]

/-- The second loop exits the markets of the collateral as well. -/
theorem foldlM_leaveCollateralCToken {keys : List Address} (henters : EntersFlagged world)
    (hborrow : ∀ cToken, world.enabledAssets.borrowCTokenEnabled cToken = false)
    (hfold : keys.foldlM (leaveCollateralCToken cTokens module) world = .ok next) :
    EntersFlagged next ∧ next.enabledAssets = { world.enabledAssets with
      collateralCTokenEnabled := unmark world.enabledAssets.collateralCTokenEnabled keys } := by
  induction keys generalizing world with
  | nil =>
      rw [List.foldlM_nil, pure_eq_ok] at hfold
      subst hfold
      exact ⟨henters, rfl⟩
  | cons key keys ih =>
      rw [List.foldlM_cons, bind_eq_ok] at hfold
      obtain ⟨middle, hturn, hrest⟩ := hfold
      simp only [leaveCollateralCToken, bind_eq_ok, pure_eq_ok] at hturn
      obtain ⟨exited, hmarket, rfl⟩ := hturn
      obtain ⟨-, -, hentered⟩ := invokeExitMarket_eq_ok hmarket
      refine ih (fun other => ?_) ?_ hrest
      · change exited.entered other = true ↔ _
        rw [hentered, henters other]
        by_cases heq : other = key
        · subst heq
          simp [World.withAssets, hborrow]
        · simp [World.withAssets, heq]
      · exact hborrow

variable {register unregister :
  Address → Venue (CompoundStorage M) → Outcome (Venue (CompoundStorage M))}

/-- A removal leaves nothing in storage, and no market entered. -/
theorem removeModule_consistent (hunregister : KeepsVenue unregister)
    (hconsistent : Consistent world.enabledAssets world.entered)
    (hcall : removeModule cTokens unregister module world = .ok next) :
    Consistent next.enabledAssets next.entered ∧
      next.enabledAssets.collateralCTokens = [] ∧
      Matched next.enabledAssets enabledWith := by
  simp only [removeModule, bind_eq_ok, pure_eq_ok] at hcall
  obtain ⟨_, -, synced, hsynced, borrowsLeft, hborrows, left, hleft, rfl⟩ := hcall
  obtain ⟨-, hassets, hentered⟩ := sync_eq_ok hsynced
  have hsyncedConsistent : Consistent synced.enabledAssets synced.entered :=
    hassets ▸ hentered ▸ hconsistent
  obtain ⟨hborrowsEnter, hborrowsAssets⟩ :=
    foldlM_leaveBorrowCToken hsyncedConsistent.entered_iff hborrows
  have hborrowFlags : Agrees [] borrowsLeft.enabledAssets.borrowCTokenEnabled := by
    rw [hborrowsAssets]
    exact hsyncedConsistent.borrow.unmark
  obtain ⟨hleftEnter, hleftAssets⟩ :=
    foldlM_leaveCollateralCToken hborrowsEnter hborrowFlags.flag_eq_false hleft
  have hcollateralFlags : Agrees [] left.enabledAssets.collateralCTokenEnabled := by
    rw [hleftAssets, hborrowsAssets]
    exact hsyncedConsistent.collateral.unmark
  have hleftBorrow : Agrees [] left.enabledAssets.borrowCTokenEnabled := by
    rw [hleftAssets]
    exact hborrowFlags
  refine ⟨⟨hcollateralFlags, hleftBorrow, rfl, fun other => ?_⟩, rfl, rfl⟩
  have hunregistered : Venue.SameSetToken left.toVenue _ ∧ _ :=
    unregisterFromModules_same hunregister
  obtain ⟨hsame, hprotocols⟩ := hunregistered
  change (left.toVenue.unregisterFromModules unregister).protocols.accountMembership other
    (left.toVenue.unregisterFromModules unregister).setTokenAddress = true ↔ _
  rw [hprotocols, hsame.setTokenAddress]
  exact hleftEnter other

theorem initializeModule_consistent (hregister : KeepsVenue register)
    {collateralAssets : List Address}
    (hconsistent : Consistent world.enabledAssets world.entered)
    (hcall : initializeModule register module world sender collateralAssets assets =
      .ok next) :
    Consistent next.enabledAssets next.entered ∧
      (Matched world.enabledAssets enabledWith →
        Matched next.enabledAssets
          (recordBorrows world.underlyingToCToken assets enabledWith)) := by
  simp only [initializeModule, bind_eq_ok] at hcall
  obtain ⟨_, -, _, -, _, -, setToken, -, _, -, _, -, added, hcollateral, hborrow⟩ := hcall
  have hregistered : Venue.SameSetToken
      (world.withChain (world.withSetToken setToken)).toVenue _ ∧ _ :=
    unregisterFromModules_same hregister
  obtain ⟨hsame, hprotocols⟩ := hregistered
  have hentered : World.entered ((world.withChain (world.withSetToken setToken)).withVenue
      ((world.withChain (world.withSetToken setToken)).toVenue.unregisterFromModules
        register)) = world.entered :=
    entered_withVenue hsame.setTokenAddress hprotocols
  have hstart : Consistent world.enabledAssets (World.entered
      ((world.withChain (world.withSetToken setToken)).withVenue
        ((world.withChain (world.withSetToken setToken)).toVenue.unregisterFromModules
          register))) := by
    rw [hentered]
    exact hconsistent
  have hkeeps := addCollateralAssets_keeps hstart hcollateral
  obtain ⟨hnext, hmatched⟩ := addBorrowAssets_consistent hkeeps.consistent hborrow
  refine ⟨hnext, fun hbefore => ?_⟩
  have hafter := hmatched (hkeeps.matched hbefore)
  rwa [hkeeps.stays.underlyingToCToken] at hafter

/-! ## Runs -/

/-- A transaction at Compound: prices, interest, liquidations, the entries of others. -/
structure MarketCall (M : Type) where
  execute : CompoundStorage M → Outcome (CompoundStorage M)
  accountMembership_eq : ∀ storage next, execute storage = .ok next →
    next.accountMembership = storage.accountMembership

inductive RegistryCall (M : Type) (module : Address)
  | initializeModule (sender : Address) (collateralAssets borrowAssets : List Address)
  | addCollateralAssets (sender : Address) (newCollateralAssets : List Address)
  | removeCollateralAssets (sender : Address) (collateralAssets : List Address)
  | addBorrowAssets (sender : Address) (newBorrowAssets : List Address)
  | removeBorrowAssets (sender : Address) (borrowAssets : List Address)
  | addCompoundMarket (sender cToken underlying : Address)
  | removeCompoundMarket (sender underlying : Address)
  | compound (call : MarketCall M)
  | tenancy (call : TenancyCall module)

/-- The world, with a record of the underlying that each borrowed cToken was enabled
with. -/
structure Recorded (M : Type) where
  world : World M
  enabledWith : Address → Address

def Recorded.onto (recorded : Recorded M) (world : World M) : Recorded M :=
  { recorded with world := world }

def tenancy (cTokens : CTokens M) (unregister : Address → Venue (CompoundStorage M) →
      Outcome (Venue (CompoundStorage M))) (module : Address) :
    Tenancy (Recorded M) (EnabledAssets × (Address → Bool) × (Address → Address)) where
  chain recorded := recorded.world.toChain
  withChain recorded onto := recorded.onto (recorded.world.withChain onto)
  registry recorded :=
    (recorded.world.enabledAssets, recorded.world.entered, recorded.enabledWith)
  removeModule recorded := do
    let world ← removeModule cTokens unregister module recorded.world
    pure (recorded.onto world)
  chain_withChain _ _ := rfl
  registry_withChain recorded onto haddress := by
    have hentered : (recorded.world.withChain onto).entered = recorded.world.entered :=
      entered_withVenue haddress rfl
    simp only [Recorded.onto, hentered]
    rfl

def performRegistry (cTokens : CTokens M) (register unregister : Address →
      Venue (CompoundStorage M) → Outcome (Venue (CompoundStorage M))) (module : Address) :
    RegistryCall M module → Recorded M → Outcome (Recorded M)
  | .initializeModule sender collateralAssets borrowAssets => fun recorded => do
      let world ← initializeModule register module recorded.world sender collateralAssets
        borrowAssets
      pure ⟨world, recordBorrows recorded.world.underlyingToCToken borrowAssets
        recorded.enabledWith⟩
  | .addCollateralAssets sender newCollateralAssets => fun recorded => do
      let world ← addCollateralAssets module recorded.world sender newCollateralAssets
      pure (recorded.onto world)
  | .removeCollateralAssets sender collateralAssets => fun recorded => do
      let world ← removeCollateralAssets cTokens module recorded.world sender
        collateralAssets
      pure (recorded.onto world)
  | .addBorrowAssets sender newBorrowAssets => fun recorded => do
      let world ← addBorrowAssets module recorded.world sender newBorrowAssets
      pure ⟨world, recordBorrows recorded.world.underlyingToCToken newBorrowAssets
        recorded.enabledWith⟩
  | .removeBorrowAssets sender borrowAssets => fun recorded => do
      let world ← removeBorrowAssets cTokens module recorded.world sender borrowAssets
      pure (recorded.onto world)
  | .addCompoundMarket sender cToken underlying => fun recorded => do
      let world ← addCompoundMarket recorded.world sender cToken underlying
      pure (recorded.onto world)
  | .removeCompoundMarket sender underlying => fun recorded => do
      let world ← removeCompoundMarket recorded.world sender underlying
      pure (recorded.onto world)
  | .compound call => fun recorded => do
      let storage ← call.execute recorded.world.protocols
      pure (recorded.onto
        (recorded.world.withVenue { recorded.world.toVenue with protocols := storage }))
  | .tenancy call => performTenancy (tenancy cTokens unregister module) module call

/-- The condition of a call: it removes borrow assets with their own cTokens. -/
def KeepsOrder : RegistryCall M module → Recorded M → Prop
  | .removeBorrowAssets _ borrowAssets, recorded =>
      RemovesSameEntries recorded.world borrowAssets
  | _, _ => True

/-- All of the registry: arrays, flags, markets and the order of the underlyings. -/
structure RegistryHolds (recorded : Recorded M) : Prop where
  consistent : Consistent recorded.world.enabledAssets recorded.world.entered
  matched : Matched recorded.world.enabledAssets recorded.enabledWith

/-- The SetToken has no storage in the module and is in no market. -/
def Unserved (recorded : Recorded M) : Prop :=
  recorded.world.enabledAssets = noEnabledAssets ∧
    ∀ cToken, recorded.world.entered cToken = false

/-- The step lemma: consistency is kept anyway, the order if the call keeps it. -/
theorem registry_of_ok (hregister : KeepsVenue register) (hunregister : KeepsVenue unregister)
    {call : RegistryCall M module} {recorded after : Recorded M}
    (hconsistent : Consistent recorded.world.enabledAssets recorded.world.entered)
    (hcall : performRegistry cTokens register unregister module call recorded = .ok after) :
    Consistent after.world.enabledAssets after.world.entered ∧
      (KeepsOrder call recorded →
        Matched recorded.world.enabledAssets recorded.enabledWith →
          Matched after.world.enabledAssets after.enabledWith) := by
  cases call with
  | initializeModule sender collateralAssets borrowAssets =>
      simp only [performRegistry, bind_eq_ok, pure_eq_ok] at hcall
      obtain ⟨world, hworld, rfl⟩ := hcall
      obtain ⟨hnext, hmatched⟩ := initializeModule_consistent hregister hconsistent hworld
      exact ⟨hnext, fun _ => hmatched⟩
  | addCollateralAssets sender newCollateralAssets =>
      simp only [performRegistry, bind_eq_ok, pure_eq_ok] at hcall
      obtain ⟨world, hworld, rfl⟩ := hcall
      have hkeeps := addCollateralAssets_keeps hconsistent hworld
      exact ⟨hkeeps.consistent, fun _ => hkeeps.matched⟩
  | removeCollateralAssets sender collateralAssets =>
      simp only [performRegistry, bind_eq_ok, pure_eq_ok] at hcall
      obtain ⟨world, hworld, rfl⟩ := hcall
      have hkeeps := removeCollateralAssets_keeps hconsistent hworld
      exact ⟨hkeeps.consistent, fun _ => hkeeps.matched⟩
  | addBorrowAssets sender newBorrowAssets =>
      simp only [performRegistry, bind_eq_ok, pure_eq_ok] at hcall
      obtain ⟨world, hworld, rfl⟩ := hcall
      obtain ⟨hnext, hmatched⟩ := addBorrowAssets_consistent hconsistent hworld
      exact ⟨hnext, fun _ => hmatched⟩
  | removeBorrowAssets sender borrowAssets =>
      simp only [performRegistry, bind_eq_ok, pure_eq_ok] at hcall
      obtain ⟨world, hworld, rfl⟩ := hcall
      exact removeBorrowAssets_consistent hconsistent hworld
  | addCompoundMarket sender cToken underlying =>
      simp only [performRegistry, addCompoundMarket, bind_eq_ok, pure_eq_ok] at hcall
      obtain ⟨_, ⟨_, -, _, -, rfl⟩, rfl⟩ := hcall
      exact ⟨hconsistent, fun _ => id⟩
  | removeCompoundMarket sender underlying =>
      simp only [performRegistry, removeCompoundMarket, bind_eq_ok, pure_eq_ok] at hcall
      obtain ⟨_, ⟨_, -, _, -, rfl⟩, rfl⟩ := hcall
      exact ⟨hconsistent, fun _ => id⟩
  | compound call =>
      simp only [performRegistry, bind_eq_ok, pure_eq_ok] at hcall
      obtain ⟨storage, hstorage, rfl⟩ := hcall
      have hentered : World.entered (recorded.world.withVenue
          { recorded.world.toVenue with protocols := storage }) = recorded.world.entered := by
        funext cToken
        exact congrFun (congrFun (call.accountMembership_eq _ _ hstorage) cToken) _
      exact ⟨hentered ▸ hconsistent, fun _ => id⟩
  | tenancy call =>
      have hleaves : ∀ before left : Recorded M,
          Consistent before.world.enabledAssets before.world.entered →
            (tenancy cTokens unregister module).removeModule before = .ok left →
              Consistent left.world.enabledAssets left.world.entered ∧
                Matched left.world.enabledAssets left.enabledWith := by
        intro before left hbefore hleft
        simp only [tenancy, bind_eq_ok, pure_eq_ok] at hleft
        obtain ⟨world, hworld, rfl⟩ := hleft
        obtain ⟨hnext, -, hmatched⟩ := removeModule_consistent hunregister hbefore hworld
        exact ⟨hnext, hmatched⟩
      have hkept : Kept (tenancy cTokens unregister module) module
          (fun registry => Consistent registry.1 registry.2.1) (fun _ => True) after :=
        kept_of_performTenancy
          (fun before left hbefore hleft => ⟨(hleaves before left hbefore hleft).1, trivial⟩)
          ⟨hconsistent, fun _ => trivial⟩ hcall
      refine ⟨hkept.consistent, fun _ hmatched => ?_⟩
      have hboth : Kept (tenancy cTokens unregister module) module
          (fun registry => Consistent registry.1 registry.2.1 ∧
            Matched registry.1 registry.2.2) (fun _ => True) after :=
        kept_of_performTenancy
          (fun before left hbefore hleft => ⟨hleaves before left hbefore.1 hleft, trivial⟩)
          ⟨⟨hconsistent, hmatched⟩, fun _ => trivial⟩ hcall
      exact hboth.consistent.2

theorem Unserved.holds {recorded : Recorded M} (hunserved : Unserved recorded) :
    RegistryHolds recorded := by
  obtain ⟨hassets, hentered⟩ := hunserved
  refine ⟨?_, ?_⟩
  · rw [hassets]
    exact ⟨Agrees.empty, Agrees.empty, rfl, fun cToken => by
      simp [hentered, noEnabledAssets]⟩
  · rw [hassets]
    rfl

/-- Over every run, the arrays of cTokens, the flags and the markets agree; and if every
removal of borrow assets finds both entries at the same index, the underlyings keep the
order of the cTokens that they were enabled with. -/
theorem registry_of_run (hregister : KeepsVenue register)
    (hunregister : KeepsVenue unregister) (calls : List (RegistryCall M module))
    {recorded : Recorded M} (hunserved : Unserved recorded) :
    (∀ earlier, earlier <+: calls →
      Consistent
        (run (performRegistry cTokens register unregister module) earlier
          recorded).world.enabledAssets
        (run (performRegistry cTokens register unregister module) earlier
          recorded).world.entered) ∧
    ((∀ earlier call, earlier ++ [call] <+: calls → ∀ after,
        performRegistry cTokens register unregister module call
          (run (performRegistry cTokens register unregister module) earlier recorded) =
            .ok after →
        KeepsOrder call
          (run (performRegistry cTokens register unregister module) earlier recorded)) →
      ∀ earlier, earlier <+: calls →
        RegistryHolds
          (run (performRegistry cTokens register unregister module) earlier recorded)) := by
  refine ⟨fun earlier _ => ?_, fun hcalls earlier hearlier => ?_⟩
  · exact run_preserves
      (fun state : Recorded M => Consistent state.world.enabledAssets state.world.entered)
      (fun call _ state next hstate hcall =>
        (registry_of_ok hregister hunregister hstate hcall).1) hunserved.holds.consistent
  · refine run_preserves_of_allowed RegistryHolds
      (fun call state next hallowed hstate hcall => ?_) hunserved.holds
      (fun before call hprefix _ => hcalls before call hprefix) hearlier
    obtain ⟨hconsistent, hmatched⟩ :=
      registry_of_ok hregister hunregister hstate.consistent hcall
    exact ⟨hconsistent, hmatched hallowed hstate.matched⟩

/-! ## A market that moves to a new cToken -/

/-- cTokens without balances. -/
def emptyCTokens : CTokens Unit where
  getAccountSnapshot _ _ _ := (false, 0, 0)
  redeemAllowed _ _ _ _ := true
  borrowBalanceStored _ _ _ := .ok 0
  borrowBalanceCurrent _ _ _ cTokens := .ok (cTokens, 0)

/-- Module 5 is pending on a SetToken of manager 7; assets 21 and 22 have the markets 31
and 32, which account 3 governs. -/
def marketsBefore : Recorded Unit where
  world := {
    controller := { Controller.deploy 1 2 with
      isSet := fun setToken => setToken = 9
      isModule := fun module => module = 5 ∨ module = 6 }
    setTokenAddress := 9
    setToken := { SetToken.deploy [] [] [5] 7 with
      modules := [6]
      moduleStates := fun module =>
        if module = 5 then .PENDING else if module = 6 then .INITIALIZED else .NONE
      totalSupply := 100000000000000000000 }
    balances := fun _ _ => 0
    timestamp := 0
    protocols := ⟨fun _ => true, fun _ _ => false, fun _ => [], 20, ()⟩
    protocolCalls := []
    owner := 3
    underlyingToCToken := fun underlying =>
      if underlying = 21 then 31 else if underlying = 22 then 32 else 0
    enabledAssets := noEnabledAssets
    allowedSetToken := true
    anySetAllowed := false
    integrations := fun _ _ => 6 }
  enabledWith _ := 0

/-- Asset 21 is borrowed from market 31 and, after it moved, from market 33 as well. -/
def movingMarket : List (RegistryCall Unit 5) :=
  [.initializeModule 7 [] [21], .removeCompoundMarket 3 21, .addCompoundMarket 3 33 21,
    .addBorrowAssets 7 [21, 22], .removeBorrowAssets 7 [21]]

/-- Removing the first of two borrow assets. -/
def twoMarkets : List (RegistryCall Unit 5) :=
  [.initializeModule 7 [22] [21, 22], .removeBorrowAssets 7 [21]]

theorem registry_of_run_two_markets :
    RegistryHolds (run (performRegistry emptyCTokens noRegistration noRegistration 5)
      twoMarkets marketsBefore) := by
  have hunserved : Unserved marketsBefore := ⟨rfl, fun _ => rfl⟩
  have hmiddle : Returns (performRegistry emptyCTokens noRegistration noRegistration 5
      (.initializeModule 7 [22] [21, 22]) marketsBefore) fun after =>
        after.world.enabledAssets.borrowCTokens = [31, 32] ∧
          after.world.enabledAssets.borrowAssets = [21, 22] ∧
          after.world.underlyingToCToken 21 = 31 := by decide +kernel
  obtain ⟨middle, hinitialized, hkeys, hassets, hmarket⟩ := returns_iff.mp hmiddle
  refine (registry_of_run keepsVenue_noRegistration keepsVenue_noRegistration twoMarkets
    hunserved).2 (fun earlier call hprefix after _ => ?_) _ (List.prefix_refl _)
  rcases earlier with _ | ⟨first, _ | ⟨second, rest⟩⟩
  · obtain rfl : call = _ := (List.cons_prefix_cons.mp hprefix).1
    trivial
  · obtain ⟨rfl, hsecond⟩ := List.cons_prefix_cons.mp hprefix
    obtain rfl : call = _ := (List.cons_prefix_cons.mp hsecond).1
    rw [run_cons, run_nil, settle_of_ok hinitialized]
    refine ⟨Or.inl ?_, fun _ _ => trivial⟩
    rw [hkeys, hassets, hmarket]
    decide
  · have hlength := hprefix.length_le
    simp [twoMarkets] at hlength

/-- Removing asset 21 drops market 33, and the first of the two entries of the asset. -/
theorem order_lost_when_market_moves :
    (run (performRegistry emptyCTokens noRegistration noRegistration 5) movingMarket
        marketsBefore).world.enabledAssets.borrowCTokens = [31, 32] ∧
      (run (performRegistry emptyCTokens noRegistration noRegistration 5) movingMarket
        marketsBefore).world.enabledAssets.borrowAssets = [22, 21] ∧
      ¬RegistryHolds (run (performRegistry emptyCTokens noRegistration noRegistration 5)
        movingMarket marketsBefore) := by
  have hkeys : (run (performRegistry emptyCTokens noRegistration noRegistration 5)
      movingMarket marketsBefore).world.enabledAssets.borrowCTokens = [31, 32] := by
    decide +kernel
  have hassets : (run (performRegistry emptyCTokens noRegistration noRegistration 5)
      movingMarket marketsBefore).world.enabledAssets.borrowAssets = [22, 21] := by
    decide +kernel
  have hrecord : (run (performRegistry emptyCTokens noRegistration noRegistration 5)
      movingMarket marketsBefore).enabledWith 31 = 21 := by
    decide +kernel
  refine ⟨hkeys, hassets, fun hholds => ?_⟩
  have hmatched := hholds.matched
  rw [Matched, hkeys, hassets, List.map_cons, hrecord] at hmatched
  exact absurd (List.cons.inj hmatched).1 (by decide)

end SetProtocol.CompoundLeverageModule
