import HostingPanel.Store.Quantity

/-!
# Rows

One structure for each kind of row that the panel keeps.  A row has an integer `id` where its table
has a key column; where it has none the database numbers the rows itself, and `rowNumber` is that
number.  Every other column may be absent.  The defaults are what a new row gets for a column that
is left out.
-/

namespace HostingPanel

/-- What the password column of an account holds. -/
inductive Secret where
  | absent
  /-- A valid hash of a password. -/
  | hashOf (password : String)
  /-- A text that is not a valid hash. -/
  | text (s : String)
deriving DecidableEq, Repr

/-- An account: an administrator, a reseller or a customer. -/
structure Admin where
  id : Int
  name : Option String := none
  secret : Secret := .absent
  /-- `admin`, `reseller` or `user`. -/
  role : Option String := none
  createdBy : Option Quantity := some (.whole 0)
  status : Option String := some "ok"
deriving DecidableEq, Repr

/-- The main domain of a customer. -/
structure Domain where
  id : Int
  name : Option String := none
  ownerId : Option Quantity := none
  status : Option String := some "ok"
  /-- When the customer's account expires, in seconds since 1970; zero is never. -/
  expires : Option Quantity := some (.whole 0)
deriving DecidableEq, Repr

/-- A subdomain of a domain. -/
structure Subdomain where
  id : Int
  domainId : Option Quantity := none
  /-- The name below the domain. -/
  name : Option String := none
  mount : Option String := none
  status : Option String := some "ok"
deriving DecidableEq, Repr

/-- A further domain of a customer. -/
structure DomainAlias where
  id : Int
  domainId : Option Quantity := none
  name : Option String := none
  mount : Option String := none
  status : Option String := some "ok"
deriving DecidableEq, Repr

/-- A subdomain of a domain alias. -/
structure AliasSubdomain where
  id : Int
  aliasId : Option Quantity := none
  /-- The name below the alias. -/
  name : Option String := none
  mount : Option String := none
  status : Option String := some "ok"
deriving DecidableEq, Repr

/-- A DNS record. -/
structure DnsRecord where
  id : Int
  domainId : Option Quantity := none
  /-- The alias, or zero. -/
  aliasId : Option Quantity := some (.whole 0)
  record : Option String := none
  /-- The part of the panel that keeps the record. -/
  ownedBy : Option String := some "custom_dns_feature"
  status : Option String := some "ok"
deriving DecidableEq, Repr

/-- A mail account: a mailbox, a forward or a catch-all. -/
structure Mailbox where
  id : Int
  /-- The local part of the address, or the targets of a catch-all. -/
  account : Option String := none
  /-- The targets of a forward, or `_no_`. -/
  forward : Option String := some "_no_"
  domainId : Option Quantity := none
  /-- The kinds of the account, separated by commas. -/
  kind : Option String := none
  /-- The subdomain, alias or alias subdomain, or zero. -/
  subId : Option Quantity := some (.whole 0)
  status : Option String := some "ok"
  /-- Whether the mailbox can be read. -/
  poActive : Option String := some "yes"
  address : Option String := none
deriving DecidableEq, Repr

/-- An FTP account. -/
structure FtpUser where
  rowNumber : Int
  userid : Option String := none
  adminId : Option Quantity := none
  gid : Option Quantity := none
  status : Option String := some "ok"
deriving DecidableEq, Repr

/-- A group of FTP accounts. -/
structure FtpGroup where
  rowNumber : Int
  name : Option String := none
  gid : Option Quantity := none
  /-- The members, separated by commas. -/
  members : Option String := none
deriving DecidableEq, Repr

/-- The limits of an FTP quota. -/
structure QuotaLimit where
  rowNumber : Int
  name : Option String := none
deriving DecidableEq, Repr

/-- The use of an FTP quota. -/
structure QuotaTally where
  rowNumber : Int
  name : Option String := none
deriving DecidableEq, Repr

/-- A certificate. -/
structure Certificate where
  id : Int
  /-- The domain, alias, subdomain or alias subdomain. -/
  ownerId : Option Quantity := none
  /-- Which of these the owner is. -/
  ownerType : Option String := none
  status : Option String := some "ok"
deriving DecidableEq, Repr

/-- A protected area of a web space. -/
structure ProtectedArea where
  id : Int
  domainId : Option Quantity := none
  /-- The name shown to visitors. -/
  name : Option String := none
  path : Option String := none
  status : Option String := some "ok"
deriving DecidableEq, Repr

/-- A group of users of protected areas. -/
structure AreaGroup where
  id : Int
  domainId : Option Quantity := none
  name : Option String := none
  status : Option String := some "ok"
deriving DecidableEq, Repr

/-- A user of protected areas. -/
structure AreaUser where
  id : Int
  domainId : Option Quantity := none
  name : Option String := none
  status : Option String := some "ok"
deriving DecidableEq, Repr

/-- An address of the server. -/
structure ServerIp where
  id : Int
  address : Option String := none
  status : Option String := some "ok"
deriving DecidableEq, Repr

/-- A plugin of the panel. -/
structure Plugin where
  id : Int
  name : Option String := none
  status : Option String := some "enabled"
deriving DecidableEq, Repr

/-- The PHP settings of a domain, alias, subdomain or alias subdomain. -/
structure PhpSetting where
  id : Int
  adminId : Option Quantity := none
  /-- The domain, alias, subdomain or alias subdomain. -/
  ownerId : Option Quantity := none
  /-- Which of these the owner is. -/
  ownerType : Option String := none
deriving DecidableEq, Repr

/-- A record that an automatic reply has been sent. -/
structure AutoreplyLog where
  rowNumber : Int
  /-- The address that replied. -/
  sender : Option String := none
  recipient : Option String := none
deriving DecidableEq, Repr

/-- The traffic of a domain. -/
structure DomainTraffic where
  rowNumber : Int
  domainId : Option Quantity := none
  /-- The bytes of web traffic. -/
  web : Option Quantity := some (.whole 0)
deriving DecidableEq, Repr

/-- A support ticket. -/
structure Ticket where
  id : Int
  sender : Option Quantity := none
  recipient : Option Quantity := none
deriving DecidableEq, Repr

/-- The appearance settings of an account. -/
structure GuiSetting where
  rowNumber : Int
  userId : Option Quantity := none
deriving DecidableEq, Repr

/-- A database of a customer. -/
structure SqlDatabase where
  id : Int
  domainId : Option Quantity := none
  name : Option String := none
deriving DecidableEq, Repr

/-- Somebody who is signed in. -/
structure LoginSession where
  rowNumber : Int
  sessionId : Option String := none
  userName : Option String := none
deriving DecidableEq, Repr

/-- A committed change that the daemon has to be told about. -/
structure OutboxEntry where
  id : Int
  /-- What has been scheduled. -/
  reason : String := ""
  createdAt : String := ""
  /-- When the daemon was told. -/
  dispatchedAt : Option String := none
deriving DecidableEq, Repr

end HostingPanel
