import SetProtocol.Library.Transaction
import SetProtocol.Library.SwapRemoval
import SetProtocol.Library.Index
import SetProtocol.Library.FlaggedList
import SetProtocol.Arithmetic.SafeMath
import SetProtocol.Arithmetic.PreciseUnitMath
import SetProtocol.Registry.AddressArrayUtils
import SetProtocol.Registry.Controller
import SetProtocol.Registry.ControllerRegistry
import SetProtocol.Core.SetToken
import SetProtocol.Library.Rounding
import SetProtocol.Core.Position
import SetProtocol.Core.Bookkeeping
import SetProtocol.Core.SetTokenCreator
import SetProtocol.Core.PositionHistory
import SetProtocol.Library.Ledger
import SetProtocol.Core.Chain
import SetProtocol.Library.Backing
import SetProtocol.Modules.StreamingFeeModule
import SetProtocol.Modules.StreamingFeeBacking
import SetProtocol.Modules.DebtIssuanceModule
import SetProtocol.Modules.DebtIssuanceBacking
import SetProtocol.Modules.DebtIssuanceSupply
import SetProtocol.Modules.AuctionRebalanceModule
import SetProtocol.Modules.AuctionRebalanceUnlock
import SetProtocol.Modules.AuctionRebalanceBids
import SetProtocol.Core.SetValuer
import SetProtocol.Modules.NavIssuanceModule
import SetProtocol.Library.Coupling
import SetProtocol.Core.AlikeChains
import SetProtocol.Modules.NavIssuanceEffects
import SetProtocol.Modules.NavIssuanceRoundTrip
import SetProtocol.Modules.NavIssuanceBacking
import SetProtocol.Modules.NavIssuancePreview
import SetProtocol.Core.ModuleHistory
import SetProtocol.Modules.AuctionRebalanceLifecycle
import SetProtocol.Library.History
import SetProtocol.Modules.AuctionRebalanceIndependence
import SetProtocol.Core.Venue
import SetProtocol.Modules.MorphoLeverageModule
import SetProtocol.Modules.MorphoLeverageBacking
import SetProtocol.Core.ExternalPositions
import SetProtocol.Modules.AaveV3LeverageModule
import SetProtocol.Modules.AaveV3LeverageDebt
import SetProtocol.Modules.LeverageRemoval
import SetProtocol.Library.Tally
import SetProtocol.Modules.StakingModule
import SetProtocol.Modules.StakingAgreement
import SetProtocol.Modules.DebtIssuanceUnits
import SetProtocol.Modules.ExternalHooks
import SetProtocol.Modules.PositionReplication
import SetProtocol.Modules.DebtReplication
import SetProtocol.Modules.StreamingFeeSplitting
import SetProtocol.Core.PositionCredit
import SetProtocol.Modules.AirdropRepetition
import SetProtocol.Modules.DebtIssuanceRedemption
import SetProtocol.Modules.DebtIssuanceQuotes
import SetProtocol.Modules.RegistryLifecycles
import SetProtocol.Modules.CompoundLeverageRegistry
import SetProtocol.Core.Spending
import SetProtocol.Modules.TradeModule
import SetProtocol.Modules.WrapModuleV2
import SetProtocol.Modules.AmmModule
import SetProtocol.Modules.TrackedSpending
import SetProtocol.Library.Journal
import SetProtocol.Arithmetic.UnitConversionUtils
import SetProtocol.Core.PerpV2Library
import SetProtocol.Modules.PerpV2LeverageModuleV2
import SetProtocol.Modules.PerpV2BasisTradingModule
import SetProtocol.Modules.PerpFunding
import SetProtocol.Library.Saturation
import SetProtocol.Integration.PriceAdapters
import SetProtocol.Integration.PriceCurves
import SetProtocol.Product.AMMSplitter
import SetProtocol.Core.UnitRoundTrip
import SetProtocol.Modules.AuctionRebalanceSettlement
import SetProtocol.Library.Allocation
import SetProtocol.Library.Roster
import SetProtocol.Modules.GeneralIndexModule
import SetProtocol.Modules.GeneralIndexTrades
import SetProtocol.Modules.GeneralIndexHistories
import SetProtocol.Modules.PermissionLists
import SetProtocol.Modules.GeneralIndexDirection
import SetProtocol.Modules.RebalanceSpending
import SetProtocol.Library.Search
import SetProtocol.Core.RebalanceTargets
import SetProtocol.Modules.GeneralIndexTargets
import SetProtocol.Library.Trace
import SetProtocol.Core.PositionList
import SetProtocol.Modules.NotionalTradeModule
import SetProtocol.Modules.MaturedPositions
import SetProtocol.Modules.MaturityClearing
import SetProtocol.Modules.PerpRounding
import SetProtocol.Modules.PerpPositions
import SetProtocol.Library.Loops
import SetProtocol.Arithmetic.Overflow
import SetProtocol.Registry.AddressArrayLoops
import SetProtocol.Product.CachedSetValuer
import SetProtocol.Library.BigEndian
import SetProtocol.Integration.UniswapV3Paths
import SetProtocol.Integration.UniswapV2AmmAdapter
import SetProtocol.Integration.ZeroExApiAdapter
import SetProtocol.Modules.DebtIssuanceTransfers
import SetProtocol.Modules.SlippageIssuanceModule
import SetProtocol.Modules.PerpPreviews
import SetProtocol.Library.Conservation
import SetProtocol.Library.Agreement
import SetProtocol.Core.ShareSupply
import SetProtocol.Modules.BasicIssuanceModule
import SetProtocol.Modules.BasicIssuanceSolvency
import SetProtocol.Modules.IssuanceAgreement
import SetProtocol.Modules.DebtIssuanceHooks
import SetProtocol.Modules.RebasingComponentModule
import SetProtocol.Modules.RebasingSync
import SetProtocol.Modules.RebasingIssuance
import SetProtocol.Library.Compounding
import SetProtocol.Library.PooledShares
import SetProtocol.Modules.MorphoAccrual
import SetProtocol.Library.Potential
import SetProtocol.Modules.FeeBearingIssuance
import SetProtocol.Library.Extension
import SetProtocol.Core.PriceOracle
import SetProtocol.Modules.FundTrading
import SetProtocol.Modules.SingleIndexModule
import SetProtocol.Modules.SingleIndexHistories
import SetProtocol.Core.PositionArray
import SetProtocol.Product.AMMSplitterTrades
import SetProtocol.Product.AMMSplitterHistories
