import HostingPanel.Store.Basic
import HostingPanel.Store.Parameter

/-!
# Columns

The columns of every table by their names in the database, in the order of the schema.  They serve
the operations that name a column: writing and reading rows as lists of values, inserting a row
given by its columns, and changing a single cell.  Every table has a key, and its rows are in the
order of their keys; where no column holds the key, it is the number of the row.
-/

namespace HostingPanel

/-- The key of a kind of row, with its name. -/
structure KeyColumn (ρ : Type) where
  name : String
  get : ρ → Int
  set : Int → ρ → ρ

/-- A column of a kind of row, with its name. -/
inductive Column (ρ : Type) where
  | key (k : KeyColumn ρ)
  | quantity (name : String) (get : ρ → Option Quantity) (set : Option Quantity → ρ → ρ)
  | text (name : String) (get : ρ → Option String) (set : Option String → ρ → ρ)
  /-- A text that no two rows share. -/
  | unique (name : String) (get : ρ → Option String) (set : Option String → ρ → ρ)
  /-- A text that has to be present. -/
  | required (name : String) (get : ρ → String) (set : String → ρ → ρ)
  /-- The hash of a password. -/
  | secret (name : String) (get : ρ → Secret) (set : Secret → ρ → ρ)

namespace Column

variable {ρ : Type}

/-- The name of a column. -/
def name : Column ρ → String
  | .key k => k.name
  | .quantity n _ _ => n
  | .text n _ _ => n
  | .unique n _ _ => n
  | .required n _ _ => n
  | .secret n _ _ => n

/-- Whether a name, in any case, is the name of a column. -/
def hasName (c : Column ρ) (name : String) : Bool :=
  Text.isNameInAnyCase c.name name

/-- Whether a column holds the key. -/
def isKey : Column ρ → Bool
  | .key _ => true
  | _ => false

/-- The value of a column, unless it is kept secret. -/
def read? (c : Column ρ) (r : ρ) : Option Json :=
  match c with
  | .key k => some (.int (k.get r))
  | .quantity _ get _ => some (.ofQuantity? (get r))
  | .text _ get _ => some (.ofText? (get r))
  | .unique _ get _ => some (.ofText? (get r))
  | .required _ get _ => some (.text (get r))
  | .secret _ _ _ => none

/-- What a value is stored as in the password column. -/
def storedSecret (v : Json) : Secret :=
  match v with
  | .object fields =>
    match Json.field? "bcrypt" fields with
    | some (.text password) => .hashOf password
    | _ => .absent
  | v => v.asText?.elim .absent .text

/-- Writes a value into a column of a table.  A key takes integers only, and a required column takes
no absent value. -/
def write (table : String) (c : Column ρ) (v : Json) (r : ρ) : Except Failure ρ :=
  match c with
  | .key k =>
    match v.asKey? with
    | some n => .ok (k.set n r)
    | none => .error .typeMismatch
  | .quantity _ _ set => .ok (set v.asQuantity? r)
  | .text _ _ set => .ok (set v.asText? r)
  | .unique _ _ set => .ok (set v.asText? r)
  | .required name _ set =>
    match v.asText? with
    | some s => .ok (set s r)
    | none => .error (.columnAbsent (table ++ "." ++ name))
  | .secret _ _ set => .ok (set (storedSecret v) r)

/-- Whether a column is equal to a parameter. -/
def isEqual (c : Column ρ) (p : Json) (r : ρ) : Bool :=
  match c with
  | .key k => p.equalsKey (k.get r)
  | .quantity _ get _ => p.equalsQuantity (get r)
  | .text _ get _ => p.equalsText (get r)
  | .unique _ get _ => p.equalsText (get r)
  | .required _ get _ => p.equalsText (some (get r))
  | .secret _ get _ =>
    match get r with
    | .text s => p.equalsText (some s)
    | _ => false

/-- Whether two rows must not stand in one table because they have the same value in a column. -/
def clash (c : Column ρ) (q r : ρ) : Bool :=
  match c with
  | .key k => k.get q == k.get r
  | .unique _ get _ => Cell.agree (get q) (get r)
  | _ => false

end Column

namespace Table

/-- The key of a table.  A table without a column for it numbers its rows. -/
def keyColumn : (t : Table) → KeyColumn t.Row
  | .admin => ⟨"admin_id", (·.id), fun v r => { r with id := v }⟩
  | .domain => ⟨"domain_id", (·.id), fun v r => { r with id := v }⟩
  | .subdomain => ⟨"subdomain_id", (·.id), fun v r => { r with id := v }⟩
  | .domainAlias => ⟨"alias_id", (·.id), fun v r => { r with id := v }⟩
  | .aliasSubdomain => ⟨"subdomain_alias_id", (·.id), fun v r => { r with id := v }⟩
  | .dns => ⟨"domain_dns_id", (·.id), fun v r => { r with id := v }⟩
  | .mail => ⟨"mail_id", (·.id), fun v r => { r with id := v }⟩
  | .ftpUser => ⟨"rowid", (·.rowNumber), fun v r => { r with rowNumber := v }⟩
  | .ftpGroup => ⟨"rowid", (·.rowNumber), fun v r => { r with rowNumber := v }⟩
  | .quotaLimit => ⟨"rowid", (·.rowNumber), fun v r => { r with rowNumber := v }⟩
  | .quotaTally => ⟨"rowid", (·.rowNumber), fun v r => { r with rowNumber := v }⟩
  | .certificate => ⟨"cert_id", (·.id), fun v r => { r with id := v }⟩
  | .area => ⟨"id", (·.id), fun v r => { r with id := v }⟩
  | .areaGroup => ⟨"id", (·.id), fun v r => { r with id := v }⟩
  | .areaUser => ⟨"id", (·.id), fun v r => { r with id := v }⟩
  | .serverIp => ⟨"ip_id", (·.id), fun v r => { r with id := v }⟩
  | .plugin => ⟨"plugin_id", (·.id), fun v r => { r with id := v }⟩
  | .php => ⟨"id", (·.id), fun v r => { r with id := v }⟩
  | .autoreply => ⟨"rowid", (·.rowNumber), fun v r => { r with rowNumber := v }⟩
  | .traffic => ⟨"rowid", (·.rowNumber), fun v r => { r with rowNumber := v }⟩
  | .ticket => ⟨"ticket_id", (·.id), fun v r => { r with id := v }⟩
  | .gui => ⟨"rowid", (·.rowNumber), fun v r => { r with rowNumber := v }⟩
  | .sqlDatabase => ⟨"sqld_id", (·.id), fun v r => { r with id := v }⟩
  | .login => ⟨"rowid", (·.rowNumber), fun v r => { r with rowNumber := v }⟩
  | .outbox => ⟨"id", (·.id), fun v r => { r with id := v }⟩

/-- The columns of a table, in the order of the schema. -/
def columns : (t : Table) → List (Column t.Row)
  | .admin =>
    [.key (keyColumn .admin),
      .text "admin_name" (·.name) fun v r => { r with name := v },
      .secret "admin_pass" (·.secret) fun v r => { r with secret := v },
      .text "admin_type" (·.role) fun v r => { r with role := v },
      .quantity "created_by" (·.createdBy) fun v r => { r with createdBy := v },
      .text "admin_status" (·.status) fun v r => { r with status := v }]
  | .domain =>
    [.key (keyColumn .domain),
      .text "domain_name" (·.name) fun v r => { r with name := v },
      .quantity "domain_admin_id" (·.ownerId) fun v r => { r with ownerId := v },
      .text "domain_status" (·.status) fun v r => { r with status := v },
      .quantity "domain_expires" (·.expires) fun v r => { r with expires := v }]
  | .subdomain =>
    [.key (keyColumn .subdomain),
      .quantity "domain_id" (·.domainId) fun v r => { r with domainId := v },
      .text "subdomain_name" (·.name) fun v r => { r with name := v },
      .text "subdomain_mount" (·.mount) fun v r => { r with mount := v },
      .text "subdomain_status" (·.status) fun v r => { r with status := v }]
  | .domainAlias =>
    [.key (keyColumn .domainAlias),
      .quantity "domain_id" (·.domainId) fun v r => { r with domainId := v },
      .text "alias_name" (·.name) fun v r => { r with name := v },
      .text "alias_mount" (·.mount) fun v r => { r with mount := v },
      .text "alias_status" (·.status) fun v r => { r with status := v }]
  | .aliasSubdomain =>
    [.key (keyColumn .aliasSubdomain),
      .quantity "alias_id" (·.aliasId) fun v r => { r with aliasId := v },
      .text "subdomain_alias_name" (·.name) fun v r => { r with name := v },
      .text "subdomain_alias_mount" (·.mount) fun v r => { r with mount := v },
      .text "subdomain_alias_status" (·.status) fun v r => { r with status := v }]
  | .dns =>
    [.key (keyColumn .dns),
      .quantity "domain_id" (·.domainId) fun v r => { r with domainId := v },
      .quantity "alias_id" (·.aliasId) fun v r => { r with aliasId := v },
      .text "domain_dns" (·.record) fun v r => { r with record := v },
      .text "owned_by" (·.ownedBy) fun v r => { r with ownedBy := v },
      .text "domain_dns_status" (·.status) fun v r => { r with status := v }]
  | .mail =>
    [.key (keyColumn .mail),
      .text "mail_acc" (·.account) fun v r => { r with account := v },
      .text "mail_forward" (·.forward) fun v r => { r with forward := v },
      .quantity "domain_id" (·.domainId) fun v r => { r with domainId := v },
      .text "mail_type" (·.kind) fun v r => { r with kind := v },
      .quantity "sub_id" (·.subId) fun v r => { r with subId := v },
      .text "status" (·.status) fun v r => { r with status := v },
      .text "po_active" (·.poActive) fun v r => { r with poActive := v },
      .text "mail_addr" (·.address) fun v r => { r with address := v }]
  | .ftpUser =>
    [.unique "userid" (·.userid) fun v r => { r with userid := v },
      .quantity "admin_id" (·.adminId) fun v r => { r with adminId := v },
      .quantity "gid" (·.gid) fun v r => { r with gid := v },
      .text "status" (·.status) fun v r => { r with status := v }]
  | .ftpGroup =>
    [.unique "groupname" (·.name) fun v r => { r with name := v },
      .quantity "gid" (·.gid) fun v r => { r with gid := v },
      .text "members" (·.members) fun v r => { r with members := v }]
  | .quotaLimit => [.text "name" (·.name) fun v r => { r with name := v }]
  | .quotaTally => [.text "name" (·.name) fun v r => { r with name := v }]
  | .certificate =>
    [.key (keyColumn .certificate),
      .quantity "domain_id" (·.ownerId) fun v r => { r with ownerId := v },
      .text "domain_type" (·.ownerType) fun v r => { r with ownerType := v },
      .text "status" (·.status) fun v r => { r with status := v }]
  | .area =>
    [.key (keyColumn .area),
      .quantity "dmn_id" (·.domainId) fun v r => { r with domainId := v },
      .text "auth_name" (·.name) fun v r => { r with name := v },
      .text "path" (·.path) fun v r => { r with path := v },
      .text "status" (·.status) fun v r => { r with status := v }]
  | .areaGroup =>
    [.key (keyColumn .areaGroup),
      .quantity "dmn_id" (·.domainId) fun v r => { r with domainId := v },
      .text "ugroup" (·.name) fun v r => { r with name := v },
      .text "status" (·.status) fun v r => { r with status := v }]
  | .areaUser =>
    [.key (keyColumn .areaUser),
      .quantity "dmn_id" (·.domainId) fun v r => { r with domainId := v },
      .text "uname" (·.name) fun v r => { r with name := v },
      .text "status" (·.status) fun v r => { r with status := v }]
  | .serverIp =>
    [.key (keyColumn .serverIp),
      .text "ip_number" (·.address) fun v r => { r with address := v },
      .text "ip_status" (·.status) fun v r => { r with status := v }]
  | .plugin =>
    [.key (keyColumn .plugin),
      .text "plugin_name" (·.name) fun v r => { r with name := v },
      .text "plugin_status" (·.status) fun v r => { r with status := v }]
  | .php =>
    [.key (keyColumn .php),
      .quantity "admin_id" (·.adminId) fun v r => { r with adminId := v },
      .quantity "domain_id" (·.ownerId) fun v r => { r with ownerId := v },
      .text "domain_type" (·.ownerType) fun v r => { r with ownerType := v }]
  | .autoreply =>
    [.text "from" (·.sender) fun v r => { r with sender := v },
      .text "to" (·.recipient) fun v r => { r with recipient := v }]
  | .traffic =>
    [.quantity "domain_id" (·.domainId) fun v r => { r with domainId := v },
      .quantity "dtraff_web" (·.web) fun v r => { r with web := v }]
  | .ticket =>
    [.key (keyColumn .ticket),
      .quantity "ticket_from" (·.sender) fun v r => { r with sender := v },
      .quantity "ticket_to" (·.recipient) fun v r => { r with recipient := v }]
  | .gui => [.quantity "user_id" (·.userId) fun v r => { r with userId := v }]
  | .sqlDatabase =>
    [.key (keyColumn .sqlDatabase),
      .quantity "domain_id" (·.domainId) fun v r => { r with domainId := v },
      .text "sqld_name" (·.name) fun v r => { r with name := v }]
  | .login =>
    [.text "session_id" (·.sessionId) fun v r => { r with sessionId := v },
      .text "user_name" (·.userName) fun v r => { r with userName := v }]
  | .outbox =>
    [.key (keyColumn .outbox),
      .required "reason" (·.reason) fun v r => { r with reason := v },
      .required "created_at" (·.createdAt) fun v r => { r with createdAt := v },
      .text "dispatched_at" (·.dispatchedAt) fun v r => { r with dispatchedAt := v }]

/-- A row of a table with nothing but defaults. -/
def blank : (t : Table) → t.Row
  | .admin => { id := 0 }
  | .domain => { id := 0 }
  | .subdomain => { id := 0 }
  | .domainAlias => { id := 0 }
  | .aliasSubdomain => { id := 0 }
  | .dns => { id := 0 }
  | .mail => { id := 0 }
  | .ftpUser => { rowNumber := 0 }
  | .ftpGroup => { rowNumber := 0 }
  | .quotaLimit => { rowNumber := 0 }
  | .quotaTally => { rowNumber := 0 }
  | .certificate => { id := 0 }
  | .area => { id := 0 }
  | .areaGroup => { id := 0 }
  | .areaUser => { id := 0 }
  | .serverIp => { id := 0 }
  | .plugin => { id := 0 }
  | .php => { id := 0 }
  | .autoreply => { rowNumber := 0 }
  | .traffic => { rowNumber := 0 }
  | .ticket => { id := 0 }
  | .gui => { rowNumber := 0 }
  | .sqlDatabase => { id := 0 }
  | .login => { rowNumber := 0 }
  | .outbox => { id := 0 }

/-- The names under which the key of every table is known besides its own. -/
def keyNames : List String :=
  ["rowid", "_rowid_", "oid"]

/-- The column with a name. -/
def column? (t : Table) (name : String) : Option (Column t.Row) :=
  match t.columns.find? (·.hasName name) with
  | some c => some c
  | none =>
    if keyNames.any fun known => Text.isNameInAnyCase known name then some (.key t.keyColumn)
    else none

/-- A row as the list of its values, without what is kept secret. -/
def cells (t : Table) (r : t.Row) : List Json :=
  t.columns.filterMap (·.read? r)

/-- A column of a table with the name of the table. -/
def qualified (t : Table) (column : String) : String :=
  t.name ++ "." ++ column

/-- Writes the values that are given for columns other than the key into a row.  A column that has
to be present is one that has to be given. -/
def fill (t : Table) (given : List (String × Json)) : Except Failure t.Row :=
  t.columns.foldlM (fun r c =>
    if c.isKey then .ok r
    else match given.find? (c.hasName ·.1), c with
      | some (_, v), c => c.write t.name v r
      | none, .required name _ _ => .error (.columnAbsent (t.qualified name))
      | none, _ => .ok r) t.blank

/-- The value that is given for the key. -/
def givenKey? (t : Table) (given : List (String × Json)) : Option Json :=
  (given.findRev? fun (name, _) => (t.column? name).any Column.isKey).map (·.2)

/-- The name of the first column in which a row has the same value as a row of a list. -/
def clash? (t : Table) (r : t.Row) (rows : List t.Row) : Option String :=
  ((.key t.keyColumn :: t.columns).find? fun c => rows.any (c.clash r)).map Column.name

/-- Puts a row into its place by key. -/
def place (t : Table) (r : t.Row) (rows : List t.Row) : List t.Row :=
  let isBefore (q : t.Row) : Bool := t.keyColumn.get q < t.keyColumn.get r
  rows.takeWhile isBefore ++ r :: rows.dropWhile isBefore

end Table

namespace Store

/-- The largest key that a row may have. -/
def largestKey : Int := Number.wordLimit - 1

/-- The key that the next row of a table gets: one more than the largest so far, if there is one.
The outbox never gives a key out twice. -/
def nextKey? (s : Store) (t : Table) : Option Int :=
  let keys := (s.rows t).map t.keyColumn.get
  let last := match t with
    | .outbox => some (keys.foldl max s.lastOutboxId)
    | _ => keys.max?
  match last with
  | none => some 1
  | some k => if k < largestKey then some (k + 1) else none

/-- Remembers a key that has been given out. -/
def remember (s : Store) (t : Table) (k : Int) : Store :=
  match t with
  | .outbox => { s with lastOutboxId := max s.lastOutboxId k }
  | _ => s

/-- The key of a new row: the one that is given for it, or else the next one. -/
def newKey (s : Store) (t : Table) (given : Option Json) : Except Failure Int :=
  match given.filter (!·.isAbsent) with
  | some v =>
    match v.asKey? with
    | some k => .ok k
    | none => .error .typeMismatch
  | none =>
    match s.nextKey? t with
    | some k => .ok k
    | none => .error .keysExhausted

/-- Inserts a row that is given by some of its columns.  The answer is the key of the row. -/
def insertRow (s : Store) (t : Table) (given : List (String × Json)) :
    Except Failure (Int × Store) := do
  let k ← s.newKey t (t.givenKey? given)
  let r := t.keyColumn.set k (← t.fill given)
  match t.clash? r (s.rows t) with
  | some column => throw (.notUnique (t.qualified column))
  | none => return (k, (s.set t (t.place r (s.rows t))).remember t k)

/-- The rows of a table as lists of values; a missing table has none. -/
def cells? (s : Store) (t : Table) : Option (List (List Json)) :=
  if s.missing.contains t then none else some ((s.rows t).map t.cells)

/-- The tables whose contents differ between two stores, with their contents in the second. -/
def changes (before after : Store) : List (Table × Option (List (List Json))) :=
  let texts (s : Store) (t : Table) : Option (List (List String)) :=
    (s.cells? t).map fun rows => rows.map fun row => row.map Json.nested
  (Table.all.filter fun t => texts before t != texts after t).map fun t => (t, after.cells? t)

end Store

end HostingPanel
