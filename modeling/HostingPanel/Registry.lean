import HostingPanel.Status
import HostingPanel.Store.Basic
import HostingPanel.Store.Parameter

/-!
# The registry of item types

The kinds of items whose status the panel watches: where each is kept, which of its columns are its
key, its name and its status, and which statuses are normal for it.
-/

namespace HostingPanel

/-- A kind of items. -/
structure ItemType where
  name : String
  table : Table
  idColumn : String
  statusColumn : String
  nameColumn : String
  /-- The statuses that are no error. -/
  normal : List String
  /-- The condition on rows of the table that are items, as a text. -/
  conditionText : Option String := none
  /-- Whether a row of the table is an item. -/
  isItem : table.Row → Bool := fun _ => true
  id : table.Row → Json
  /-- Whether an item has a key. -/
  hasId : Json → table.Row → Bool
  label : table.Row → Option String
  status : table.Row → Option String
  setStatus : Option String → table.Row → table.Row

namespace ItemType

open Status

/-- The normal statuses of items that carry a web space. -/
def siteStatuses : List String :=
  [ok, disabled, toAdd, toChange, toRestore, toEnable, toDisable, toDelete]

/-- The normal statuses of accounts and protected areas. -/
def accountStatuses : List String :=
  [ok, disabled, toAdd, toChange, toEnable, toDisable, toDelete]

/-- Customers. -/
def user : ItemType where
  name := "user"
  table := .admin
  idColumn := "admin_id"
  statusColumn := "admin_status"
  nameColumn := "admin_name"
  normal := [ok, toAdd, toChange, toChangePassword, toDelete]
  conditionText := some "admin_type = 'user'"
  isItem (r : Admin) := Cell.isText "user" r.role
  id (r : Admin) := .int r.id
  hasId p (r : Admin) := p.equalsKey r.id
  label (r : Admin) := r.name
  status (r : Admin) := r.status
  setStatus s (r : Admin) := { r with status := s }

/-- Main domains. -/
def domain : ItemType where
  name := "domain"
  table := .domain
  idColumn := "domain_id"
  statusColumn := "domain_status"
  nameColumn := "domain_name"
  normal := siteStatuses
  id (r : Domain) := .int r.id
  hasId p (r : Domain) := p.equalsKey r.id
  label (r : Domain) := r.name
  status (r : Domain) := r.status
  setStatus s (r : Domain) := { r with status := s }

/-- Domain aliases. -/
def domainAlias : ItemType where
  name := "alias"
  table := .domainAlias
  idColumn := "alias_id"
  statusColumn := "alias_status"
  nameColumn := "alias_name"
  normal := siteStatuses ++ [ordered]
  id (r : DomainAlias) := .int r.id
  hasId p (r : DomainAlias) := p.equalsKey r.id
  label (r : DomainAlias) := r.name
  status (r : DomainAlias) := r.status
  setStatus s (r : DomainAlias) := { r with status := s }

/-- Subdomains. -/
def subdomain : ItemType where
  name := "subdomain"
  table := .subdomain
  idColumn := "subdomain_id"
  statusColumn := "subdomain_status"
  nameColumn := "subdomain_name"
  normal := siteStatuses
  id (r : Subdomain) := .int r.id
  hasId p (r : Subdomain) := p.equalsKey r.id
  label (r : Subdomain) := r.name
  status (r : Subdomain) := r.status
  setStatus s (r : Subdomain) := { r with status := s }

/-- Subdomains of aliases. -/
def aliasSubdomain : ItemType where
  name := "subdomain_alias"
  table := .aliasSubdomain
  idColumn := "subdomain_alias_id"
  statusColumn := "subdomain_alias_status"
  nameColumn := "subdomain_alias_name"
  normal := siteStatuses
  id (r : AliasSubdomain) := .int r.id
  hasId p (r : AliasSubdomain) := p.equalsKey r.id
  label (r : AliasSubdomain) := r.name
  status (r : AliasSubdomain) := r.status
  setStatus s (r : AliasSubdomain) := { r with status := s }

/-- DNS records. -/
def dns : ItemType where
  name := "custom_dns"
  table := .dns
  idColumn := "domain_dns_id"
  statusColumn := "domain_dns_status"
  nameColumn := "domain_dns"
  normal := siteStatuses
  id (r : DnsRecord) := .int r.id
  hasId p (r : DnsRecord) := p.equalsKey r.id
  label (r : DnsRecord) := r.record
  status (r : DnsRecord) := r.status
  setStatus s (r : DnsRecord) := { r with status := s }

/-- FTP accounts. -/
def ftp : ItemType where
  name := "ftp"
  table := .ftpUser
  idColumn := "userid"
  statusColumn := "status"
  nameColumn := "userid"
  normal := accountStatuses
  id (r : FtpUser) := .ofText? r.userid
  hasId p (r : FtpUser) := p.equalsText r.userid
  label (r : FtpUser) := r.userid
  status (r : FtpUser) := r.status
  setStatus s (r : FtpUser) := { r with status := s }

/-- Mail accounts. -/
def mail : ItemType where
  name := "mail"
  table := .mail
  idColumn := "mail_id"
  statusColumn := "status"
  nameColumn := "mail_addr"
  normal := accountStatuses
  id (r : Mailbox) := .int r.id
  hasId p (r : Mailbox) := p.equalsKey r.id
  label (r : Mailbox) := r.address
  status (r : Mailbox) := r.status
  setStatus s (r : Mailbox) := { r with status := s }

/-- Protected areas. -/
def area : ItemType where
  name := "htaccess"
  table := .area
  idColumn := "id"
  statusColumn := "status"
  nameColumn := "auth_name"
  normal := accountStatuses
  id (r : ProtectedArea) := .int r.id
  hasId p (r : ProtectedArea) := p.equalsKey r.id
  label (r : ProtectedArea) := r.name
  status (r : ProtectedArea) := r.status
  setStatus s (r : ProtectedArea) := { r with status := s }

/-- Groups of users of protected areas. -/
def areaGroup : ItemType where
  name := "htgroup"
  table := .areaGroup
  idColumn := "id"
  statusColumn := "status"
  nameColumn := "ugroup"
  normal := accountStatuses
  id (r : AreaGroup) := .int r.id
  hasId p (r : AreaGroup) := p.equalsKey r.id
  label (r : AreaGroup) := r.name
  status (r : AreaGroup) := r.status
  setStatus s (r : AreaGroup) := { r with status := s }

/-- Users of protected areas. -/
def areaUser : ItemType where
  name := "htpasswd"
  table := .areaUser
  idColumn := "id"
  statusColumn := "status"
  nameColumn := "uname"
  normal := accountStatuses
  id (r : AreaUser) := .int r.id
  hasId p (r : AreaUser) := p.equalsKey r.id
  label (r : AreaUser) := r.name
  status (r : AreaUser) := r.status
  setStatus s (r : AreaUser) := { r with status := s }

/-- Addresses of the server. -/
def serverIp : ItemType where
  name := "ip"
  table := .serverIp
  idColumn := "ip_id"
  statusColumn := "ip_status"
  nameColumn := "ip_number"
  normal := [ok, toAdd, toChange, toDelete]
  id (r : ServerIp) := .int r.id
  hasId p (r : ServerIp) := p.equalsKey r.id
  label (r : ServerIp) := r.address
  status (r : ServerIp) := r.status
  setStatus s (r : ServerIp) := { r with status := s }

/-- Plugins of the panel. -/
def plugin : ItemType where
  name := "plugin"
  table := .plugin
  idColumn := "plugin_id"
  statusColumn := "plugin_status"
  nameColumn := "plugin_name"
  normal :=
    ["enabled", "disabled", "uninstalled", "installed", "toinstall", "toupdate", "touninstall",
      toEnable, toDisable, toChange, toDelete]
  id (r : Plugin) := .int r.id
  hasId p (r : Plugin) := p.equalsKey r.id
  label (r : Plugin) := r.name
  status (r : Plugin) := r.status
  setStatus s (r : Plugin) := { r with status := s }

/-- All kinds of items. -/
def all : List ItemType :=
  [user, domain, domainAlias, subdomain, aliasSubdomain, dns, ftp, mail, area, areaGroup, areaUser,
    serverIp, plugin]

/-- The kind with a name. -/
def named? (name : Json) : Option ItemType :=
  all.find? fun t => name.isText t.name

/-- The kind with a name that has to exist. -/
def named (name : Json) : Except Failure ItemType :=
  match named? name with
  | some t => .ok t
  | none => .error (.unknownName .unknownItemType name)

theorem nodup_tables : (all.map (·.table)).Nodup := by
  decide

end ItemType

end HostingPanel
