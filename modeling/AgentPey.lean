import AgentPey.RateLimits
import AgentPey.RedeemedCodes
import AgentPey.SpendEntryLifetime
import AgentPey.InProcessLimit
import AgentPey.MandateRevocation
import AgentPey.VaultAgreement
import AgentPey.VaultAlarms
import AgentPey.PaidSessions
import AgentPey.StorefrontGuards
import AgentPey.GuaranteeLosses
import AgentPey.SdJwtRoundTrip
import AgentPey.MandateChains
import AgentPey.PurchaseReplay
import AgentPey.AuthorisationDecisions
import AgentPey.ShopperLimit
import AgentPey.IdempotencyKeys
import AgentPey.PaidCompletions
import AgentPey.MirroredRevocations
import AgentPey.ConsentedMandates
import AgentPey.CheckoutLines
import AgentPey.PayerGuard
import AgentPey.LocalPrices
import AgentPey.ReceiptDocuments
import AgentPey.Shipments
import AgentPey.WebhookDeliveries
import AgentPey.Jcs
import AgentPey.VaultChains
import AgentPey.Reservations
import AgentPey.IdempotencyCache
import AgentPey.ReceiptCounts
import AgentPey.Quotes
import AgentPey.WebhookDrains
import AgentPey.OrderDurability
import AgentPey.SponsoredRails
import AgentPey.AnchoredOrders
import AgentPey.TenantAgents
import AgentPey.CreditDeliveries
import AgentPey.SeparateDirectories
import AgentPey.DisputeDocuments
import AgentPey.AmountParsers
import AgentPey.FollowedSignatures
import AgentPey.KeptWebhooks
import AgentPey.PlatformRuns
import AgentPey.OpenedDisputes
