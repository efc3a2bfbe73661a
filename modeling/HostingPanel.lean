import HostingPanel.Access.Login
import HostingPanel.Access.Password
import HostingPanel.Access.Roles
import HostingPanel.Access.SigningKey
import HostingPanel.Access.Token
import HostingPanel.Access.User
import HostingPanel.Calendar
import HostingPanel.CommandLine
import HostingPanel.Context
import HostingPanel.Daemon.Exchange
import HostingPanel.Daemon.Notifier
import HostingPanel.Daemon.Peer
import HostingPanel.Debugger
import HostingPanel.Edit
import HostingPanel.Failure
import HostingPanel.Hash.Hmac
import HostingPanel.Hash.Sha256
import HostingPanel.Http.Api
import HostingPanel.Http.Endpoint
import HostingPanel.Http.Guard
import HostingPanel.Http.Host
import HostingPanel.Http.Message
import HostingPanel.Http.Reference
import HostingPanel.Http.Target
import HostingPanel.Interval
import HostingPanel.Jobs.Autoreplies
import HostingPanel.Jobs.Backups
import HostingPanel.Jobs.Catalogue
import HostingPanel.Jobs.Certificates
import HostingPanel.Jobs.CustomerDeletion
import HostingPanel.Jobs.CustomerStatus
import HostingPanel.Jobs.DnsRecords
import HostingPanel.Jobs.DomainAliases
import HostingPanel.Jobs.FtpAccounts
import HostingPanel.Jobs.FtpGroups
import HostingPanel.Jobs.MailAccounts
import HostingPanel.Jobs.Ownership
import HostingPanel.Jobs.Plan
import HostingPanel.Jobs.ProtectedAreas
import HostingPanel.Jobs.Subdomains
import HostingPanel.Journal
import HostingPanel.Json.Basic
import HostingPanel.Json.Equality
import HostingPanel.Json.Parser
import HostingPanel.Json.Printer
import HostingPanel.Main
import HostingPanel.Number.Binary64
import HostingPanel.Number.Extended
import HostingPanel.Number.Layout
import HostingPanel.Number.Literal
import HostingPanel.Operation
import HostingPanel.Outbox
import HostingPanel.Proofs.AliasCoverage
import HostingPanel.Proofs.Announcement
import HostingPanel.Proofs.Atomicity
import HostingPanel.Proofs.Authorization
import HostingPanel.Proofs.AutoreplyLogs
import HostingPanel.Proofs.Blocks
import HostingPanel.Proofs.Cascades
import HostingPanel.Proofs.CertificateOwners
import HostingPanel.Proofs.Commutation
import HostingPanel.Proofs.CustomerEstate
import HostingPanel.Proofs.DaemonIndependence
import HostingPanel.Proofs.DefaultAccounts
import HostingPanel.Proofs.ErrorReports
import HostingPanel.Proofs.Exchange
import HostingPanel.Proofs.FaultFree
import HostingPanel.Proofs.FtpIsolation
import HostingPanel.Proofs.GroupMembers
import HostingPanel.Proofs.GroupPruning
import HostingPanel.Proofs.Interleaving
import HostingPanel.Proofs.ItemIsolation
import HostingPanel.Proofs.JobStatements
import HostingPanel.Proofs.Ledger
import HostingPanel.Proofs.LockedItems
import HostingPanel.Proofs.MailFamilies
import HostingPanel.Proofs.MailPruning
import HostingPanel.Proofs.MountedAreas
import HostingPanel.Proofs.NewAttempts
import HostingPanel.Proofs.NormalPaths
import HostingPanel.Proofs.NotifierUse
import HostingPanel.Proofs.PendingRecords
import HostingPanel.Proofs.PendingWork
import HostingPanel.Proofs.Plans
import HostingPanel.Proofs.Quiet
import HostingPanel.Proofs.RelayRuns
import HostingPanel.Proofs.RepeatedDeletions
import HostingPanel.Proofs.Resumption
import HostingPanel.Proofs.Scheduling
import HostingPanel.Proofs.SettledTables
import HostingPanel.Proofs.StaleChecks
import HostingPanel.Proofs.StatusMoves
import HostingPanel.Proofs.StatusRuns
import HostingPanel.Proofs.Suspension
import HostingPanel.Proofs.Sweeps
import HostingPanel.Proofs.WebSpace
import HostingPanel.Proofs.Workers
import HostingPanel.Registry
import HostingPanel.Rules
import HostingPanel.Schedule
import HostingPanel.ScheduledChange
import HostingPanel.Settings
import HostingPanel.Setup
import HostingPanel.Status
import HostingPanel.Store.Basic
import HostingPanel.Store.Parameter
import HostingPanel.Store.Quantity
import HostingPanel.Store.Row
import HostingPanel.Store.Schema
import HostingPanel.Store.Statement
import HostingPanel.Store.Table
import HostingPanel.Text.Base64Url
import HostingPanel.Text.Blank
import HostingPanel.Text.DecimalDigit
import HostingPanel.Text.Encoding
import HostingPanel.Text.Hex
import HostingPanel.Text.Items
import HostingPanel.Text.Lowercase
import HostingPanel.Text.MountPath
import HostingPanel.Text.Pattern
import HostingPanel.Text.Percent
import HostingPanel.Text.Printable
import HostingPanel.Text.Quoted
import HostingPanel.Text.Split
import HostingPanel.Text.Uppercase
import HostingPanel.Text.Utf8
import HostingPanel.Transaction
