import ExchangeRouter.Binance.Candles
import ExchangeRouter.Bybit.BookTickers
import ExchangeRouter.Bybit.Candles
import ExchangeRouter.Bybit.Tickers
import ExchangeRouter.Client.Batch
import ExchangeRouter.Client.Bridge
import ExchangeRouter.Client.BridgeRuns
import ExchangeRouter.Client.Frames
import ExchangeRouter.Client.FundingPaid
import ExchangeRouter.Client.FundingShapes
import ExchangeRouter.Client.Model
import ExchangeRouter.Client.Refusals
import ExchangeRouter.Client.Requests
import ExchangeRouter.Funding.Anchored
import ExchangeRouter.Funding.Model
import ExchangeRouter.Funding.Walk
import ExchangeRouter.History.Paged
import ExchangeRouter.History.Pagination
import ExchangeRouter.History.Rejections
import ExchangeRouter.History.Repeats
import ExchangeRouter.History.Statistics
import ExchangeRouter.History.WindowRoutes
import ExchangeRouter.History.Windowed
import ExchangeRouter.History.Windows
import ExchangeRouter.Hyperliquid.Directory
import ExchangeRouter.Hyperliquid.Model
import ExchangeRouter.Hyperliquid.Placement
import ExchangeRouter.Hyperliquid.Refs
import ExchangeRouter.Hyperliquid.Snapshots
import ExchangeRouter.Hyperliquid.Tickers
import ExchangeRouter.InfoCache.Instruments
import ExchangeRouter.InfoCache.Model
import ExchangeRouter.InfoCache.Protocol
import ExchangeRouter.InfoCache.SideCaches
import ExchangeRouter.Kraken.Answers
import ExchangeRouter.Kraken.Candles
import ExchangeRouter.Kraken.ForwardWalk
import ExchangeRouter.Kraken.Hubs
import ExchangeRouter.Kraken.Requests
import ExchangeRouter.Kraken.Throttle
import ExchangeRouter.Kucoin.Candles
import ExchangeRouter.Kucoin.QuietIntervals
import ExchangeRouter.Lib.Dict
import ExchangeRouter.Lib.DropOldest
import ExchangeRouter.Lib.FirstOf
import ExchangeRouter.Lib.Gather
import ExchangeRouter.Lib.Guarded
import ExchangeRouter.Lib.Json
import ExchangeRouter.Lib.Ladder
import ExchangeRouter.Lib.Newest
import ExchangeRouter.Lib.PyText
import ExchangeRouter.Lib.ReadThrough
import ExchangeRouter.Lib.Retry
import ExchangeRouter.Lib.Run
import ExchangeRouter.Lib.Scope
import ExchangeRouter.Lib.Sequenced
import ExchangeRouter.Lib.Spelling
import ExchangeRouter.Lib.Stream
import ExchangeRouter.Lib.Timeline
import ExchangeRouter.Lib.Window
import ExchangeRouter.Okx.Candles
import ExchangeRouter.Okx.LiquidationRepeats
import ExchangeRouter.Okx.Liquidations
import ExchangeRouter.Okx.RateBucket
import ExchangeRouter.Okx.Stitching
import ExchangeRouter.OrderBooks.Bybit
import ExchangeRouter.OrderBooks.Kraken
import ExchangeRouter.OrderBooks.Loss
import ExchangeRouter.OrderBooks.Model
import ExchangeRouter.OrderBooks.Okx
import ExchangeRouter.OrderBooks.Overflow
import ExchangeRouter.OrderBooks.Scope
import ExchangeRouter.Records.Model
import ExchangeRouter.Requests.Backoff
import ExchangeRouter.Requests.Budget
import ExchangeRouter.Requests.Model
import ExchangeRouter.Routes.OpenInterest
import ExchangeRouter.Routes.PricedRows
import ExchangeRouter.StreamHub.Bootstrap
import ExchangeRouter.StreamHub.Builders
import ExchangeRouter.StreamHub.Consumers
import ExchangeRouter.StreamHub.Frames
import ExchangeRouter.StreamHub.Freshness
import ExchangeRouter.StreamHub.Model
import ExchangeRouter.StreamHub.Orphans
import ExchangeRouter.StreamHub.Overflow
import ExchangeRouter.StreamHub.Queues
import ExchangeRouter.StreamHub.Starvation
import ExchangeRouter.StreamHub.Steps
import ExchangeRouter.StreamHub.Wire
import ExchangeRouter.StreamManager.Delivery
import ExchangeRouter.StreamManager.Model
import ExchangeRouter.StreamManager.Registry
import ExchangeRouter.StreamManager.Shutdown
import ExchangeRouter.StreamManager.Steps
import ExchangeRouter.Streams.Books
import ExchangeRouter.Streams.Feeds
import ExchangeRouter.Streams.Model
import ExchangeRouter.Symbols.Model
import ExchangeRouter.Symbols.RoundTrip
import ExchangeRouter.Symbols.SpotMaps
