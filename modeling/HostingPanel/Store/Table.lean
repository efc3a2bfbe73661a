import HostingPanel.Store.Row
import HostingPanel.Text.Lowercase

/-!
# Tables

The tables of the panel's database and the kind of row that each holds.
-/

namespace HostingPanel

/-- The tables. -/
inductive Table where
  | admin
  | domain
  | subdomain
  | domainAlias
  /-- Subdomains of aliases. -/
  | aliasSubdomain
  | dns
  | mail
  | ftpUser
  | ftpGroup
  | quotaLimit
  | quotaTally
  | certificate
  | area
  /-- Groups of users of protected areas. -/
  | areaGroup
  /-- Users of protected areas. -/
  | areaUser
  | serverIp
  | plugin
  | php
  | autoreply
  | traffic
  | ticket
  /-- Appearance settings. -/
  | gui
  | sqlDatabase
  | login
  | outbox
deriving DecidableEq, Repr

namespace Table

/-- The rows of a table. -/
abbrev Row : Table → Type
  | .admin => Admin
  | .domain => Domain
  | .subdomain => Subdomain
  | .domainAlias => DomainAlias
  | .aliasSubdomain => AliasSubdomain
  | .dns => DnsRecord
  | .mail => Mailbox
  | .ftpUser => FtpUser
  | .ftpGroup => FtpGroup
  | .quotaLimit => QuotaLimit
  | .quotaTally => QuotaTally
  | .certificate => Certificate
  | .area => ProtectedArea
  | .areaGroup => AreaGroup
  | .areaUser => AreaUser
  | .serverIp => ServerIp
  | .plugin => Plugin
  | .php => PhpSetting
  | .autoreply => AutoreplyLog
  | .traffic => DomainTraffic
  | .ticket => Ticket
  | .gui => GuiSetting
  | .sqlDatabase => SqlDatabase
  | .login => LoginSession
  | .outbox => OutboxEntry

/-- The name of a table in the database. -/
def name : Table → String
  | .admin => "admin"
  | .domain => "domain"
  | .subdomain => "subdomain"
  | .domainAlias => "domain_aliases"
  | .aliasSubdomain => "subdomain_alias"
  | .dns => "domain_dns"
  | .mail => "mail_users"
  | .ftpUser => "ftp_users"
  | .ftpGroup => "ftp_group"
  | .quotaLimit => "quotalimits"
  | .quotaTally => "quotatallies"
  | .certificate => "ssl_certs"
  | .area => "htaccess"
  | .areaGroup => "htaccess_groups"
  | .areaUser => "htaccess_users"
  | .serverIp => "server_ips"
  | .plugin => "plugin"
  | .php => "php_ini"
  | .autoreply => "autoreplies_log"
  | .traffic => "domain_traffic"
  | .ticket => "tickets"
  | .gui => "user_gui_props"
  | .sqlDatabase => "sql_database"
  | .login => "login"
  | .outbox => "daemon_outbox"

/-- All tables. -/
def all : List Table :=
  [.admin, .domain, .subdomain, .domainAlias, .aliasSubdomain, .dns, .mail, .ftpUser, .ftpGroup,
    .quotaLimit, .quotaTally, .certificate, .area, .areaGroup, .areaUser, .serverIp, .plugin, .php,
    .autoreply, .traffic, .ticket, .gui, .sqlDatabase, .login, .outbox]

/-- The table with a name, whose ASCII letters may have either case. -/
def named? (s : String) : Option Table :=
  all.find? fun t => Text.isNameInAnyCase t.name s

theorem named?_name (t : Table) : named? t.name = some t := by
  cases t <;> decide +kernel

end Table

end HostingPanel
