import Mhvp.Accounting.AdminFeeRuns
import Mhvp.Accounting.CoveredDebits
import Mhvp.Accounting.DebitEvidence
import Mhvp.Accounting.DunningCases
import Mhvp.Accounting.FourEyes
import Mhvp.Accounting.InvoiceChains
import Mhvp.Accounting.LockedReports
import Mhvp.Accounting.PeriodLocks
import Mhvp.Accounting.RentInvoiceRuns
import Mhvp.Accounting.StatutoryOrder
import Mhvp.Accounting.Withholding
import Mhvp.Accounting.WriteOffRuns
import Mhvp.Auth.LoginRuns
import Mhvp.Auth.MfaResetRuns
import Mhvp.Auth.SessionRuns
import Mhvp.Automation.MarkedEvents
import Mhvp.Banking.BankLimits
import Mhvp.Banking.ContentHash
import Mhvp.Banking.LevelRaises
import Mhvp.Banking.LevelRatios
import Mhvp.Banking.OnePosting
import Mhvp.Banking.OrderStatuses
import Mhvp.Banking.Reimports
import Mhvp.Banking.ReviewRuns
import Mhvp.Banking.RunnerLimits
import Mhvp.Billing.FairShares
import Mhvp.Billing.HeatingTotals
import Mhvp.Billing.KeyWeights
import Mhvp.Billing.LateClaims
import Mhvp.Billing.PaidAdvances
import Mhvp.Contracts.DepositInterest
import Mhvp.Core.ListParams
import Mhvp.Core.RateLimit
import Mhvp.Core.RequestIdentity
import Mhvp.Core.RotationRuns
import Mhvp.Hoa.CarryoverRuns
import Mhvp.Hoa.CashBridge
import Mhvp.Hoa.LedgerCosts
import Mhvp.Hoa.LevyMonths
import Mhvp.Hoa.LevyRefunds
import Mhvp.Hoa.LoanSchedule
import Mhvp.Hoa.Majority
import Mhvp.Hoa.PlanAmounts
import Mhvp.Hoa.ReserveDevelopment
import Mhvp.Hoa.ReserveSplit
import Mhvp.Hoa.ResultsOnce
import Mhvp.Receivables.Instalments
import Mhvp.Receivables.PostedRuns
import Mhvp.Requests.ForgedKeys
import Mhvp.Sla.ClockRuns
import Mhvp.Sla.Colors
import Mhvp.Sla.CutSpans
import Mhvp.Sla.Pauses
import Mhvp.Sla.StoredCalendars
import Mhvp.Sqldump.RoundTrip
import Mhvp.Webhooks.DispatchRuns
import Mhvp.Webhooks.Enqueue
import Mhvp.Automation.Rules
import Mhvp.Billing.Periods
import Mhvp.Contacts.Recipients
import Mhvp.Core.BodyLimit
