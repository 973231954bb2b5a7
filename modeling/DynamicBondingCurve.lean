import DynamicBondingCurve.Instructions.SingleSwap
import DynamicBondingCurve.Sdk.Quote
import DynamicBondingCurve.CompoundingOpening
import DynamicBondingCurve.ExactBuys
import DynamicBondingCurve.Locker
import DynamicBondingCurve.LpShares
import DynamicBondingCurve.LiquidityLock
import DynamicBondingCurve.Market
import DynamicBondingCurve.PartialFill
import DynamicBondingCurve.Solvency
import DynamicBondingCurve.TransferHook
import DynamicBondingCurve.SplitBuys
import DynamicBondingCurve.ConcentratedOpening
import DynamicBondingCurve.VestingSizes
import DynamicBondingCurve.Fee.Decay
import DynamicBondingCurve.State.Volatility
import DynamicBondingCurve.WalkSafety
import DynamicBondingCurve.Fee.RateLimiterInverse
import DynamicBondingCurve.Surplus
import DynamicBondingCurve.Funding
import DynamicBondingCurve.TradingIndependence
import DynamicBondingCurve.Withdrawals
import DynamicBondingCurve.Emptied
import DynamicBondingCurve.Platform
import DynamicBondingCurve.Instructions.RemainingAccounts
import DynamicBondingCurve.MigratedPoolFees
import DynamicBondingCurve.BuyerTerms
import DynamicBondingCurve.FirstSwap
import DynamicBondingCurve.QuotedSwaps
import DynamicBondingCurve.SaleCompletion
import DynamicBondingCurve.MigratedPositions
import DynamicBondingCurve.Orders
