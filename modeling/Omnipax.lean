import Omnipax.Amounts
import Omnipax.Analytics
import Omnipax.AnomalyDetection
import Omnipax.Applications
import Omnipax.Availability
import Omnipax.Breaker
import Omnipax.Captured
import Omnipax.Catalogue
import Omnipax.Checkouts
import Omnipax.Conc.Transcript
import Omnipax.DeviceRevocation
import Omnipax.DiscountAmounts
import Omnipax.DueBookings
import Omnipax.ExpiryJobs
import Omnipax.FeatureFlags
import Omnipax.Fidelity
import Omnipax.GateRules
import Omnipax.Idempotency
import Omnipax.LedgerOnce
import Omnipax.Middleware
import Omnipax.Monetization
import Omnipax.OfflineSync
import Omnipax.Onboarding
import Omnipax.OrderNotes
import Omnipax.Ownership
import Omnipax.PaymentOnce
import Omnipax.QrUtil
import Omnipax.RefundOnce
import Omnipax.Refunds
import Omnipax.Retries
import Omnipax.Rollback
import Omnipax.ScanAdmission
import Omnipax.ScanLedger
import Omnipax.ScanWorker
import Omnipax.SeatRepair
import Omnipax.SeatScreen
import Omnipax.Settlement
import Omnipax.StrandedSeats
import Omnipax.Tenancy
import Omnipax.TenantExtension
import Omnipax.TenantSlugs
import Omnipax.TicketGeneration
import Omnipax.TicketTokens
import Omnipax.Ticketing
import Omnipax.ValidatedOnce
import Omnipax.Verification
