import ImigrAI.Foundations.Runs
import ImigrAI.Foundations.Digits
import ImigrAI.Foundations.Rounding
import ImigrAI.Foundations.Binary64
import ImigrAI.Foundations.Numerals
import ImigrAI.Billing.Quota
import ImigrAI.Python.Uuid
import ImigrAI.Python.Datetime
import ImigrAI.Assessments.ProcessingRuns
import ImigrAI.Python.Text
import ImigrAI.Python.Float
import ImigrAI.Python.Value
import ImigrAI.Python.Dumps
import ImigrAI.Python.Decimal
import ImigrAI.Foundations.Sorting
import ImigrAI.Assessments.Profile
import ImigrAI.Assessments.Engine
import ImigrAI.Foundations.Fallible
import ImigrAI.Assessments.Score
import ImigrAI.Assessments.RulesHash
import ImigrAI.Assessments.Results
import ImigrAI.Roadmaps.ProviderPayload
import ImigrAI.Foundations.Periods
import ImigrAI.Python.Columns
import ImigrAI.Python.Objects
import ImigrAI.Foundations.Rows
import ImigrAI.ImmigrationRules.Models
import ImigrAI.ImmigrationRules.Services
import ImigrAI.Ingestion.Models
import ImigrAI.Ingestion.Schemas
import ImigrAI.Ingestion.Publisher
import ImigrAI.ImmigrationRules.ActiveVersions
import ImigrAI.Assessments.Processing
import ImigrAI.Assessments.VersionInForce
import ImigrAI.Foundations.Patterns
import ImigrAI.Ingestion.Extractors
import ImigrAI.Assessments.PublishedRules
import ImigrAI.Assessments.ExtractedRules
import ImigrAI.Billing.Models
import ImigrAI.Billing.Repositories
import ImigrAI.Billing.Webhooks
import ImigrAI.Billing.WebhookEffects
import ImigrAI.Billing.ActiveEntitlements
import ImigrAI.Billing.Access
import ImigrAI.Billing.PlanInStep
import ImigrAI.Billing.Redeliveries
import ImigrAI.Billing.Reordering
import ImigrAI.Billing.FirstRequests
import ImigrAI.Assessments.Creation
import ImigrAI.Billing.AccessEffects
import ImigrAI.Assessments.CreationEffects
import ImigrAI.Assessments.Charging
import ImigrAI.Assessments.CreationRuns
import ImigrAI.Billing.OnePlan
import ImigrAI.Billing.FailedWebhooks
import ImigrAI.Assessments.FailedProcessing
import ImigrAI.Assessments.InactiveGroups
import ImigrAI.Assessments.MalformedProfiles
import ImigrAI.Frontend.Onboarding
import ImigrAI.Foundations.Statements
import ImigrAI.ImmigrationRules.ExclusionConstraint
import ImigrAI.Ingestion.Pipeline
import ImigrAI.Ingestion.ProcessingEffects
import ImigrAI.Ingestion.HandOver
import ImigrAI.Assessments.Rearrangements
import ImigrAI.Assessments.ConditionValues
import ImigrAI.Security.RlsContext
import ImigrAI.Ingestion.Extraction
import ImigrAI.Ingestion.PublicationGate
import ImigrAI.Ingestion.RunCreation
import ImigrAI.Ingestion.RunFinalization
import ImigrAI.Foundations.Streaks
import ImigrAI.Ingestion.Quarantine
import ImigrAI.Ingestion.DiffEngine
import ImigrAI.Roadmaps.CircuitBreaker
import ImigrAI.Foundations.Arrangements
import ImigrAI.Roadmaps.StoredSteps
import ImigrAI.Roadmaps.Creation
import ImigrAI.Assessments.Monotonicity
import ImigrAI.ImmigrationRules.ForcedActivation
import ImigrAI.ImmigrationRules.Creation
import ImigrAI.Ingestion.ArchivedPeriods
import ImigrAI.Core.Retry
import ImigrAI.Common.Jobs
import ImigrAI.Common.JobRuns
import ImigrAI.Assessments.TaskAttempts
import ImigrAI.Roadmaps.TaskAttempts
import ImigrAI.Roadmaps.KeyPrivacy
import ImigrAI.ProfileMatch.Submissions
import ImigrAI.ProfileMatch.Ownership
import ImigrAI.Foundations.Upserts
import ImigrAI.Foundations.UpsertScripts
import ImigrAI.Scripts.Models
import ImigrAI.Scripts.SeedCatalog
import ImigrAI.Scripts.SeedRules
import ImigrAI.Scripts.MvpCatalog
import ImigrAI.Scripts.MvpRules
import ImigrAI.Scripts.SeedInitialData
import ImigrAI.Scripts.SourceTargets
import ImigrAI.Scripts.SeededVersions
import ImigrAI.Ingestion.IncomeThresholds
import ImigrAI.Ingestion.AuditRecords
import ImigrAI.Ingestion.ProcessingSessions
import ImigrAI.Ingestion.FailureHandling
import ImigrAI.Ingestion.ExecutionEffects
import ImigrAI.Ingestion.Reexecution
import ImigrAI.Foundations.Answers
import ImigrAI.Core.RateLimit
import ImigrAI.ProfileMatch.Ranking
import ImigrAI.Foundations.Json
import ImigrAI.Foundations.Recency
import ImigrAI.Frontend.RecentItems
import ImigrAI.Foundations.Breakers
import ImigrAI.Roadmaps.ResilientCalls
import ImigrAI.Roadmaps.StubContracts
import ImigrAI.ImmigrationRules.GroupDeletion
import ImigrAI.Foundations.PartialUpdates
import ImigrAI.ImmigrationRules.Updates
import ImigrAI.ImmigrationRules.UpdateOutcomes
import ImigrAI.Security.TenantPolicies
import ImigrAI.Security.TenantReads
import ImigrAI.Foundations.RowPolicies
import ImigrAI.Security.TenantWrites
import ImigrAI.Python.UuidText
import ImigrAI.Accounts.Tokens
import ImigrAI.Accounts.Auth
import ImigrAI.Accounts.AuthRuns
import ImigrAI.Frontend.ApiClient
import ImigrAI.Frontend.SignedInCalls
import ImigrAI.Frontend.Polling
import ImigrAI.Billing.Checkout
import ImigrAI.Foundations.FixedWindows
import ImigrAI.Core.RateLimitRuns
import ImigrAI.Scripts.SeedCheck
import ImigrAI.Ingestion.HtmlText
import ImigrAI.Python.JsonTexts
import ImigrAI.Ingestion.ApiBodies
