import GhostBazaar.Agents.BuyerAgent
import GhostBazaar.Agents.BuyerBudget
import GhostBazaar.Agents.BuyerDecision
import GhostBazaar.Agents.BuyerFeed
import GhostBazaar.Agents.ClientCalls
import GhostBazaar.Agents.EngineClient
import GhostBazaar.Agents.EngineEvents
import GhostBazaar.Agents.Overlap
import GhostBazaar.Agents.SellerAgent
import GhostBazaar.Agents.SellerFeed
import GhostBazaar.Agents.SellerOffers
import GhostBazaar.Agents.SellerPolling
import GhostBazaar.Agents.SellerQuotes
import GhostBazaar.Agents.SellerRetries
import GhostBazaar.Agents.ServedBuyer
import GhostBazaar.Agents.ServedSeller
import GhostBazaar.Core.Amounts
import GhostBazaar.Core.Canonical
import GhostBazaar.Core.CanonicalInjective
import GhostBazaar.Core.DecimalOrder
import GhostBazaar.Core.DecimalText
import GhostBazaar.Core.Profile
import GhostBazaar.Core.Quote
import GhostBazaar.Core.Rounding
import GhostBazaar.Core.Schemas
import GhostBazaar.Core.SigningPayload
import GhostBazaar.Engine.AdminAuth
import GhostBazaar.Engine.AdminLimits
import GhostBazaar.Engine.AdminSessions
import GhostBazaar.Engine.Admission
import GhostBazaar.Engine.Answers
import GhostBazaar.Engine.AtomicAppend
import GhostBazaar.Engine.BidAnswers
import GhostBazaar.Engine.BidReplay
import GhostBazaar.Engine.Callback
import GhostBazaar.Engine.CleanNames
import GhostBazaar.Engine.CommittedQuote
import GhostBazaar.Engine.ConnectionLimits
import GhostBazaar.Engine.ConnectionMaps
import GhostBazaar.Engine.ControlActions
import GhostBazaar.Engine.ControlEnvelope
import GhostBazaar.Engine.DeadlineEnforcer
import GhostBazaar.Engine.Delivery
import GhostBazaar.Engine.DomainSeparation
import GhostBazaar.Engine.Due
import GhostBazaar.Engine.Enforcement
import GhostBazaar.Engine.EngineInvariant
import GhostBazaar.Engine.EngineState
import GhostBazaar.Engine.EnvelopeReplay
import GhostBazaar.Engine.EventStore
import GhostBazaar.Engine.EventStream
import GhostBazaar.Engine.Feeds
import GhostBazaar.Engine.FreeLock
import GhostBazaar.Engine.Growth
import GhostBazaar.Engine.Journal
import GhostBazaar.Engine.Lateness
import GhostBazaar.Engine.ListingEnricher
import GhostBazaar.Engine.ListingLimits
import GhostBazaar.Engine.LockOrder
import GhostBazaar.Engine.Middleware
import GhostBazaar.Engine.NamePlaces
import GhostBazaar.Engine.Noninterference
import GhostBazaar.Engine.Polling
import GhostBazaar.Engine.QuoteBuilder
import GhostBazaar.Engine.QuotePaths
import GhostBazaar.Engine.Registry.Listings
import GhostBazaar.Engine.Registry.Provenance
import GhostBazaar.Engine.Registry.Registration
import GhostBazaar.Engine.Registry.RegistryCache
import GhostBazaar.Engine.RfqListing
import GhostBazaar.Engine.Routes.Bidding
import GhostBazaar.Engine.Routes.Commitment
import GhostBazaar.Engine.Routes.Listings
import GhostBazaar.Engine.Routes.Reading
import GhostBazaar.Engine.Routes.Settlement
import GhostBazaar.Engine.Segment
import GhostBazaar.Engine.SellerServer
import GhostBazaar.Engine.SellerView
import GhostBazaar.Engine.Session
import GhostBazaar.Engine.SessionInvariant
import GhostBazaar.Engine.SessionLock
import GhostBazaar.Engine.SessionManager
import GhostBazaar.Engine.Settleable
import GhostBazaar.Engine.SettlementBinding
import GhostBazaar.Engine.SettlementCompletes
import GhostBazaar.Engine.SignedPayloads
import GhostBazaar.Engine.SqliteEventStore
import GhostBazaar.Engine.StateMachine
import GhostBazaar.Engine.StoreEquivalence
import GhostBazaar.Engine.StreamDelivery
import GhostBazaar.Engine.StreamHoldings
import GhostBazaar.Engine.StreamLifeCycle
import GhostBazaar.Engine.StreamMessages
import GhostBazaar.Engine.Subscriptions
import GhostBazaar.Engine.TerminalEvents
import GhostBazaar.Engine.Tombstones
import GhostBazaar.Engine.Visibility
import GhostBazaar.Engine.Walkers
import GhostBazaar.FixedWindow
import GhostBazaar.Js.Coerce
import GhostBazaar.Js.Date
import GhostBazaar.Js.Json
import GhostBazaar.Js.Map
import GhostBazaar.Js.Number
import GhostBazaar.Js.Parse
import GhostBazaar.Js.Property
import GhostBazaar.Js.SameJson
import GhostBazaar.Js.Stringify
import GhostBazaar.Js.Text
import GhostBazaar.Js.Throw
import GhostBazaar.Js.Throwing
import GhostBazaar.Js.Verdicts
import GhostBazaar.LucasCertificate
import GhostBazaar.Mcp.SellerFloor
import GhostBazaar.Mcp.SellerTools
import GhostBazaar.Retention
import GhostBazaar.Settlement.Escapes
import GhostBazaar.Settlement.Execute
import GhostBazaar.Settlement.Nonce
import GhostBazaar.Settlement.NormativeOrder
import GhostBazaar.Settlement.PaymentSound
import GhostBazaar.Settlement.SettlementSound
import GhostBazaar.Settlement.Transaction
import GhostBazaar.Settlement.Transfers
import GhostBazaar.Sorting
import GhostBazaar.Stats.Activity
import GhostBazaar.Stats.Collector
import GhostBazaar.Stats.Replay
import GhostBazaar.Stats.Tallies
import GhostBazaar.Strategy.Asks
import GhostBazaar.Strategy.BuyerRanking
import GhostBazaar.Strategy.Concessions
import GhostBazaar.Strategy.Interfaces
import GhostBazaar.Strategy.LlmBuyer
import GhostBazaar.Strategy.Refinement
import GhostBazaar.Strategy.RuleBased
import GhostBazaar.Strategy.Sellers
import GhostBazaar.Transition
import GhostBazaar.Zk.BudgetRangeProof
import GhostBazaar.Zk.Comparators
import GhostBazaar.Zk.ScalarField
import GhostBazaar.Zk.Scale
