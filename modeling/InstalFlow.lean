import InstalFlow.Transition.Interleaving
import InstalFlow.Accounting.Fund
import InstalFlow.CommissionStatuses
import InstalFlow.FinalFailure
import InstalFlow.ContractCompletion
import InstalFlow.ChargeDelivery
import InstalFlow.WebhookController
import InstalFlow.ConcurrentRequests
import InstalFlow.ConcurrentTransfers
import InstalFlow.LedgerReconciliation
import InstalFlow.RolledBackIntents
import InstalFlow.InstallmentCollection
import InstalFlow.TransitAccount
import InstalFlow.CommissionLiability
import InstalFlow.TransferInitiations
import InstalFlow.ReviewTenancy
import InstalFlow.CustomerCompany
import InstalFlow.KycDecisions
import InstalFlow.KycActivation
import InstalFlow.ReminderDays
import InstalFlow.SettledObligations
import InstalFlow.CustomerReceivable
import InstalFlow.PaymentOpening
import InstalFlow.SessionPasswords
import InstalFlow.SweepAnnouncements
import InstalFlow.DualSignature
import InstalFlow.LiveSubscriptions
import InstalFlow.PaymentLinks
import InstalFlow.SubscriptionGuard
import InstalFlow.PaidPlans
import InstalFlow.SuspendedUsers
import InstalFlow.ActiveAdmins
import InstalFlow.ApprovalDecisions
import InstalFlow.LinkedSettlements
import InstalFlow.SettlementSuccess
import InstalFlow.KycOffers
import InstalFlow.PayoutTenancy
import InstalFlow.WholeKobo
import InstalFlow.LedgerAccounts
import InstalFlow.LedgerCredits
import InstalFlow.SettlementPrograms
import InstalFlow.MerchantShares
import InstalFlow.SettlementAccounts
import InstalFlow.OldestFirst
import InstalFlow.DueDates
import InstalFlow.Restructuring
import InstalFlow.WriteOffs
import InstalFlow.FinancedVariants
import InstalFlow.OnePrimary
import InstalFlow.PrimaryImages
import InstalFlow.OldestInstallment
import InstalFlow.Rejections
import InstalFlow.Registrations
import InstalFlow.PlanRevenue
import InstalFlow.PlanPeriods
import InstalFlow.TransferCodes
import InstalFlow.SettlementSweep
import InstalFlow.Reapplications
import InstalFlow.ReviewAccess
import InstalFlow.FinishedApplications
import InstalFlow.ProductListing
import InstalFlow.ProductSearch
import InstalFlow.TenantActivity
import InstalFlow.SessionStore
import InstalFlow.PasswordResets
import InstalFlow.PaystackHttpClient
import InstalFlow.VariantImages
import InstalFlow.ProgressFigures
import InstalFlow.Relational.Joined
import InstalFlow.OutstandingBalances
import InstalFlow.PaymentRounds
import InstalFlow.ContractPayOff
import InstalFlow.ContractLives
import InstalFlow.MarketerBalances
import InstalFlow.ExclusiveIntents
import InstalFlow.StrandedTransfers
import InstalFlow.ReminderSettings
import InstalFlow.Text.Tagged
import InstalFlow.Notifications
import InstalFlow.NotificationOrchestrator
import InstalFlow.SubscriptionReminders
import InstalFlow.DocumentRetention
import InstalFlow.Text.Slug
import InstalFlow.Categories
import InstalFlow.Relational.Appends
import InstalFlow.ProductImport
import InstalFlow.CatalogueTenancy
import InstalFlow.MarketerRequests
import InstalFlow.SuspendedTenants
import InstalFlow.CustomerViews
import InstalFlow.Relational.Grouping
import InstalFlow.CommissionReports
import InstalFlow.Relational.OrderBy
import InstalFlow.PlatformRevenue
import InstalFlow.StaffReports
import InstalFlow.ApprovalLists
