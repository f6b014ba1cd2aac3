import NewApi.Tasks.RefundOnce
import NewApi.Tasks.FinalBilling
import NewApi.Billing.NetDebit
import NewApi.Billing.PreConsume
import NewApi.Billing.Realtime
import NewApi.Subscriptions.Periods
import NewApi.Subscriptions.Bounds
import NewApi.Redemptions.Redeem
import NewApi.Relay.GroupRatio
import NewApi.Streams.Validity
import NewApi.Streams.ToolDelivery
import NewApi.Channels.KeyUpdates
import NewApi.Channels.KeyRace
import NewApi.Billing.BatchUpdate
import NewApi.Billing.Admission
import NewApi.Responses.Agreement
import NewApi.Relay.StreamRetry
import NewApi.Gemini.FromOpenAI
import NewApi.Channels.AbilityTable
import NewApi.Users.QuotaCache
import NewApi.Users.TwoFactor
import NewApi.Subscriptions.PurchaseLimit
import NewApi.Billing.Remix
import NewApi.Channels.Draw
import NewApi.Billing.TextQuotaSign
import NewApi.Subscriptions.RefundRetry
import NewApi.Requests.FromClaude
import NewApi.Requests.FromGemini
import NewApi.TopUps.EpayCredit
import NewApi.Gemini.Usage
import NewApi.Channels.KeyPolling
import NewApi.Tasks.Pass
import NewApi.Gemini.Finish
import NewApi.Streams.ScannerStop
import NewApi.RateLimit.Shared
import NewApi.Billing.ClaudeUsage
import NewApi.Relay.ModelMapping
import NewApi.Requests.ToResponses
import NewApi.Analytics.EventMark
import NewApi.Streams.PassThrough
