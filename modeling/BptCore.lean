import BptCore.Analytics.AnalyticsService
import BptCore.Analytics.RealTimeMarkouts
import BptCore.Backtester.Harness.Backtest
import BptCore.Backtester.Harness.FillAgreement
import BptCore.Backtester.Harness.FillConsumers
import BptCore.Backtester.Harness.FillDelivery
import BptCore.Backtester.Harness.LiveMatches
import BptCore.Backtester.Harness.LiveOrders
import BptCore.Backtester.Harness.ModifiedOrders
import BptCore.Backtester.Harness.OrderGatewayClient
import BptCore.Backtester.Harness.RemainingQuantity
import BptCore.Backtester.Harness.StepEffect
import BptCore.Backtester.Harness.SynchronousReports
import BptCore.Backtester.Matching.DeliveryOrder
import BptCore.Backtester.Matching.DrainTimes
import BptCore.Backtester.Matching.EngineRun
import BptCore.Backtester.Matching.EntryPoints
import BptCore.Backtester.Matching.GreedyWalk
import BptCore.Backtester.Matching.HeldOrders
import BptCore.Backtester.Matching.MatchingEngine
import BptCore.Backtester.Matching.OpenOrder
import BptCore.Backtester.Matching.OrderFills
import BptCore.Backtester.Matching.OrderSlots
import BptCore.Backtester.Matching.PrintPriority
import BptCore.Backtester.Matching.SimulatedTime
import BptCore.Backtester.Matching.SlotQueue
import BptCore.Backtester.Matching.SnapshotSizes
import BptCore.Backtester.Matching.TradedSlots
import BptCore.Backtester.Matching.VenueCancels
import BptCore.Backtester.Results.EquityAccount
import BptCore.Backtester.Results.MaxDrawdown
import BptCore.Backtester.Results.PositionBooks
import BptCore.Backtester.Results.ResultsCollector
import BptCore.Canon.CanonFormat
import BptCore.Canon.CanonReader
import BptCore.Canon.CanonRecording
import BptCore.Canon.CanonSbe
import BptCore.Canon.CanonWriter
import BptCore.Canon.IngestOkxL2
import BptCore.Canon.MergeMain
import BptCore.Canon.PythonReader
import BptCore.Common.Book.OrderBookState
import BptCore.Common.Util.Json
import BptCore.Common.Util.LatencyHistogram
import BptCore.Common.Util.SpscRing
import BptCore.Features.Ewma
import BptCore.Features.OFICalculator
import BptCore.Features.RealizedVol
import BptCore.Features.RegimeDetector
import BptCore.Features.VolatilityGate
import BptCore.Lib.AppendFiles
import BptCore.Lib.AverageCost
import BptCore.Lib.Calendar
import BptCore.Lib.ChangeLog
import BptCore.Lib.Consecutive
import BptCore.Lib.DecimalText
import BptCore.Lib.Drawdown
import BptCore.Lib.DueQueue
import BptCore.Lib.FixedCodec
import BptCore.Lib.Flyweight
import BptCore.Lib.FrontFirst
import BptCore.Lib.Hinges
import BptCore.Lib.Histogram
import BptCore.Lib.KWayMerge
import BptCore.Lib.Machine
import BptCore.Lib.MessagePack
import BptCore.Lib.OpenItems
import BptCore.Lib.RetryLoop
import BptCore.Lib.RingLog
import BptCore.Lib.Rounding
import BptCore.Lib.SecondaryIndex
import BptCore.Lib.SortedEntries
import BptCore.Lib.Sweep
import BptCore.Lib.Table
import BptCore.Lib.TemporalTable
import BptCore.Lib.Tickets
import BptCore.MdGateway.Adapter.BookCapacity
import BptCore.MdGateway.Adapter.DeribitBookStream
import BptCore.MdGateway.Adapter.DeribitGaps
import BptCore.MdGateway.Adapter.DeribitMdDecoder
import BptCore.MdGateway.Adapter.HyperliquidMdDecoder
import BptCore.MdGateway.Adapter.LostFrames
import BptCore.MdGateway.Adapter.OkxBookStream
import BptCore.MdGateway.Adapter.OkxMdDecoder
import BptCore.MdGateway.Adapter.SubscriptionMap
import BptCore.MdGateway.Adapter.TradePrints
import BptCore.MdGateway.Md.MdTypes
import BptCore.MdGateway.Md.SortedLadder
import BptCore.MdGateway.Messaging.MdPublisher
import BptCore.MdGateway.Subscription.SubscriptionManager
import BptCore.Messages
import BptCore.Messaging.GatewayReports
import BptCore.Messaging.OrderCommands
import BptCore.OrderGateway.Adapter.AccountSnapshots
import BptCore.OrderGateway.Adapter.ActionEncoders
import BptCore.OrderGateway.Adapter.BinanceExecDecoder
import BptCore.OrderGateway.Adapter.BinanceReplacements
import BptCore.OrderGateway.Adapter.DeribitExecDecoder
import BptCore.OrderGateway.Adapter.DeribitOrderAdapter
import BptCore.OrderGateway.Adapter.DeribitSends
import BptCore.OrderGateway.Adapter.ExecDecoder
import BptCore.OrderGateway.Adapter.FillRouting
import BptCore.OrderGateway.Adapter.HyperliquidActions
import BptCore.OrderGateway.Adapter.HyperliquidExecDecoder
import BptCore.OrderGateway.Adapter.HyperliquidFills
import BptCore.OrderGateway.Adapter.HyperliquidNonces
import BptCore.OrderGateway.Adapter.HyperliquidOrderAdapter
import BptCore.OrderGateway.Adapter.HyperliquidReconciler
import BptCore.OrderGateway.Adapter.HyperliquidReports
import BptCore.OrderGateway.Adapter.HyperliquidResponses
import BptCore.OrderGateway.Adapter.HyperliquidSigner
import BptCore.OrderGateway.Adapter.OKXExecDecoder
import BptCore.OrderGateway.Adapter.OrderAdapter
import BptCore.OrderGateway.Adapter.OrderResponses
import BptCore.OrderGateway.Adapter.PriceRounding
import BptCore.OrderGateway.Adapter.RecoveredFills
import BptCore.OrderGateway.Adapter.SendExecutor
import BptCore.OrderGateway.Adapter.TerminalReports
import BptCore.OrderGateway.Adapter.VenueOids
import BptCore.OrderGateway.Adapter.WireDecimal
import BptCore.OrderGateway.Adapter.WireOrders
import BptCore.OrderGateway.FillBooking
import BptCore.OrderGateway.KillSwitch
import BptCore.OrderGateway.OrderLimits
import BptCore.OrderGateway.OrderProcessor
import BptCore.OrderGateway.OrderStateManager
import BptCore.OrderGateway.PositionKeys
import BptCore.OrderGateway.Risk.AcceptedOrders
import BptCore.OrderGateway.Risk.BreakerWindows
import BptCore.OrderGateway.Risk.PnlLedger
import BptCore.OrderGateway.Risk.PnlTracker
import BptCore.OrderGateway.Risk.PreTradeRiskGate
import BptCore.OrderGateway.Risk.RefusedOrders
import BptCore.OrderGateway.Risk.RiskChecker
import BptCore.OrderGateway.SlotAccounting
import BptCore.Radar.Analysis.MaxPain
import BptCore.Recorder.Tape
import BptCore.Recorder.TapeRoundTrip
import BptCore.Recorder.WslogFormat
import BptCore.Refdata.Adapter.OKXRefDataAdapter
import BptCore.Refdata.Adapter.OKXRefdataDecoder
import BptCore.Refdata.RefdataMessages
import BptCore.Refdata.RefdataService
import BptCore.Refdata.RegistryCalls
import BptCore.Refdata.VenueSymbolIndex
import BptCore.SecMaster.Db
import BptCore.SecMaster.History
import BptCore.SecMaster.Refresh
import BptCore.SecMaster.Readback
import BptCore.Strategy.App.RefdataRecovery
import BptCore.Strategy.App.StrategyService
import BptCore.Strategy.App.TradingHalt
import BptCore.Strategy.AvellanedaStoikov.ASPricer
import BptCore.Strategy.AvellanedaStoikov.AccountReconcile
import BptCore.Strategy.AvellanedaStoikov.AvellanedaStoikovStrategy
import BptCore.Strategy.AvellanedaStoikov.Estimators
import BptCore.Strategy.AvellanedaStoikov.HostClock
import BptCore.Strategy.AvellanedaStoikov.InstrumentState
import BptCore.Strategy.AvellanedaStoikov.InventoryBound
import BptCore.Strategy.AvellanedaStoikov.OrderSlots
import BptCore.Strategy.AvellanedaStoikov.QuoteDesk
import BptCore.Strategy.AvellanedaStoikov.QuoteGrid
import BptCore.Strategy.AvellanedaStoikov.QuoteHandles
import BptCore.Strategy.AvellanedaStoikov.Quoting
import BptCore.Strategy.AvellanedaStoikov.WarmStart
import BptCore.Strategy.FundingArb.FundingArbStrategy
import BptCore.Strategy.FundingArb.HedgedPairs
import BptCore.Strategy.FundingArb.OutstandingOrders
import BptCore.Strategy.Order.OrderManager
import BptCore.Strategy.Order.ReportOrder
import BptCore.Strategy.Order.Requests
import BptCore.Strategy.Order.SendNewOrder
import BptCore.Strategy.Refdata.DeltaHandling
import BptCore.Strategy.Refdata.MissingDeltas
import BptCore.Strategy.Refdata.OKXListings
import BptCore.Strategy.Refdata.RateCaches
import BptCore.Strategy.Refdata.RefdataClient
import BptCore.Strategy.Refdata.RegistryChanges
import BptCore.Strategy.Refdata.Replication
import BptCore.Strategy.Strategy.FillAverages
import BptCore.Strategy.Strategy.IStrategy
import BptCore.Strategy.Strategy.OFI
import BptCore.Strategy.Strategy.PassiveMaker
import BptCore.Strategy.Strategy.PassiveMakerQuotes
import BptCore.Strategy.Strategy.PositionLabels
import BptCore.Strategy.Strategy.PositionTracker
import BptCore.Strategy.Strategy.QuoteExposure
import BptCore.Strategy.Strategy.Reconciler
import BptCore.Strategy.Strategy.ShortVol
import BptCore.Strategy.Unwind.GracefulUnwinder
import BptCore.Strategy.Unwind.IocRetries
import BptCore.Strategy.Unwind.OneOrder
import BptCore.Strategy.Unwind.UnwindOrders
import BptCore.Lib.ForwardFilter
import BptCore.Strategy.Hmm.HmmFilter
import BptCore.Strategy.Hmm.HmmStrategy
import BptCore.Strategy.Hmm.RepeatedCloses
