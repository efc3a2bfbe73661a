import HostingPanel.Proofs.Plans
import HostingPanel.Proofs.Quiet
import HostingPanel.Proofs.Suspension
import HostingPanel.Text.Split

/-!
# What entitles a request to act

A request that has an effect, on the database or on the daemon, comes with a title to it
(`Request.Entitles`): its header carries a token that is signed under the panel's secret and has not
expired (`Token.IsValid`), the token names a role to which the path is open (`actingRoles`), and if
that is the role of a reseller, the path names a customer whom the reseller has created.

The title is checked in three places.  The guard stands before the endpoint, so a request that it
turns away only looks (`Api.answer_cases`); the management check and the planning of the job look at
the database, each with a question of its own, and a request that fails either of them only looks as
well (`Api.managed_of_serveGuarded`).
-/

namespace HostingPanel

open OperationM

/-! ### Entitlement -/

/-- A token that names a user, is signed under the panel's secret and has not expired. -/
structure Token.IsValid (c : Context) (token : String) (user : User) : Prop where
  /-- The panel accepts the token for the user. -/
  accepted : verifyText c token = .ok (some user)
  /-- The token names the algorithm, its payload describes the user, and its signature is that of
  its own text under the key of the panel. -/
  signed : ∃ t key fields, read? token = some t ∧
    (Json.field? "alg" t.header).any (Json.isText "HS256") = true ∧
    Access.signingKey c.settings.tokenSecret = .ok key ∧
    t.signature = Hash.hmac key (utf8 t.signed) ∧
    object? t.payload = some fields ∧ user = ⟨.object fields⟩
  /-- If the payload says when the token expires, that is a time to come. -/
  current : ∀ v, user.property? "exp" = some v → ∃ n, time? v = some n ∧ c.now < n

/-- The roles to which the parts of the panel that act are open, by the parts of a path. -/
def actingRoles : List String → List String
  | "subdomains" :: _ => ["user"]
  | "subdomain-aliases" :: _ => ["user"]
  | "aliases" :: _ => ["user"]
  | "mail" :: _ => ["user"]
  | "ftp" :: _ => ["user"]
  | "dns" :: _ => ["user"]
  | "protected-areas" :: _ => ["user"]
  | "ssl" :: _ => ["user"]
  | "backup" :: _ => ["user"]
  | "customers" :: _ => ["admin", "reseller"]
  | "debugger" :: _ => ["admin"]
  | _ => []

/-- A key is that of a customer whom a user has created. -/
def User.Created (user : User) (s : Store) (key : Int) : Prop :=
  ∃ a : Admin, a ∈ s.rows .admin ∧ a.id = key ∧ a.role = some "user" ∧
    ∃ creator id, a.createdBy = some creator ∧ user.id = .ok id ∧ creator.toJson.same id = true

/-- A token and the user whom it names entitle a request to act on a database. -/
structure Request.Entitles (r : Request) (c : Context) (s : Store) (token : String) (user : User) :
    Prop where
  /-- The token is the second word of the header. -/
  word : ∃ header first more, r.authorization = some header ∧
    header.splitOn " " = first :: token :: more
  /-- The token is valid. -/
  valid : Token.IsValid c token user
  /-- The path is open to the role of the user. -/
  role : ∃ role ∈ actingRoles (Target.cut r.path), user.hasRole role = true
  /-- A reseller acts on a customer of their own. -/
  customer : user.hasRole "reseller" = true →
    ∃ part more key, Target.cut r.path = "customers" :: part :: more ∧
      Target.number? part = some key ∧ user.Created s key

/-! ### Tokens and roles -/

/-- A time that is there satisfies what is asked of it. -/
lemma Token.time_of_timeIs {condition : Int → Bool} {name : String} {fields : List (String × Json)}
    (h : timeIs condition name fields = true) {v : Json} (hv : Json.field? name fields = some v) :
    ∃ n, time? v = some n ∧ condition n = true := by
  unfold timeIs at h
  rw [hv] at h
  exact (Option.any_eq_true _ _).1 h

lemma Token.isValid_of_verifyText {c : Context} {token : String} {user : User}
    (h : verifyText c token = .ok (some user)) : IsValid c token user := by
  obtain ⟨t, key, hread, horder, hkey, hsignature, huser⟩ := verifyText_eq_some h
  unfold userOf? at huser
  obtain ⟨fields, hfields, huser⟩ := Option.bind_eq_some_iff.1 huser
  split at huser
  · rename_i hclaims
    cases huser
    simp only [isCurrent, Bool.and_eq_true] at hclaims
    simp only [isInOrder, Bool.and_eq_true] at horder
    refine ⟨h, ⟨t, key, fields, hread, horder.2, hkey, hsignature, hfields, rfl⟩, ?_⟩
    intro v hv
    obtain ⟨n, hn, hlater⟩ := time_of_timeIs hclaims.2.1.2 hv
    exact ⟨n, hn, of_decide_eq_true hlater⟩
  · cases huser

/-- A token that a request comes with is the second word of its header. -/
lemma Guard.word_of_token? {authorization : Option String} {token : String}
    (h : token? authorization = .ok (some token)) :
    ∃ header first more, authorization = some header ∧
      header.splitOn " " = first :: token :: more := by
  unfold token? at h
  split at h
  · cases h
  · rename_i header
    split at h
    · rename_i first second more hwords
      cases h
      exact ⟨header, first, more, rfl, hwords⟩
    · cases h

lemma User.eq_of_hasRole {user : User} {role other : String} (h : user.hasRole role = true)
    (h' : user.hasRole other = true) : role = other := by
  unfold hasRole at h h'
  obtain ⟨v, hv, htext⟩ := (Option.any_eq_true _ _).1 h
  obtain ⟨w, hw, htext'⟩ := (Option.any_eq_true _ _).1 h'
  rw [hv] at hw
  cases hw
  cases v with
  | text s =>
    simp only [Json.isText, beq_iff_eq] at htext htext'
    exact htext.symm.trans htext'
  | _ => cases htext

/-- Whoever has the role of a reseller does not have that of an administrator. -/
lemma User.isText_of_hasRole {user : User} {role : Json} (h : user.hasRole "reseller" = true)
    (hrole : user.role = .ok role) : role.isText "admin" = false := by
  cases htext : role.isText "admin" with
  | false => rfl
  | true =>
    have hadmin : user.hasRole "admin" = true := by
      rw [hasRole, property?, Json.member_eq_ok_iff.1 hrole]
      exact htext
    exact absurd (eq_of_hasRole h hadmin) (by decide)

/-- The guard lets in a user who has a role of the endpoint and whom the token of the request
names. -/
lemma Guard.enter_of_verifyText {c : Context} {r : Request} {e : GuardedEndpoint} {token : String}
    {user : User} {roles : List String} (hword : token? r.authorization = .ok (some token))
    (hempty : token.isEmpty = false) (haccepted : Token.verifyText c token = .ok (some user))
    (hgiven : user.description.isGiven = true) (hroles : e.roles? = some roles)
    (hheld : roles.any user.hasRole = true) : enter c r e = .ok user := by
  have hsigned : signedIn c r = .ok user := by
    unfold signedIn
    rw [hword]
    simp only [bind, Except.bind, hempty, Bool.false_eq_true, if_false, pure, Except.pure,
      haccepted, hgiven, Bool.not_true]
  have hadmitted : Access.admission (roles.map .text) (some user) = .allowed :=
    Access.admission_eq_allowed_iff.2 ⟨user, rfl, hgiven, hheld⟩
  unfold enter
  rw [hsigned]
  simp only [bind, Except.bind, hroles, refusal?_eq_none_iff.2 hadmitted, pure, Except.pure]

/-! ### Paths -/

/-- The customer that an endpoint is about. -/
def GuardedEndpoint.customer? : GuardedEndpoint → Option Int
  | .customer key => some key
  | .customerStatus key => some key
  | _ => none

/-- The endpoints that are open to resellers are about a customer. -/
lemma GuardedEndpoint.customer_of_reseller {e : GuardedEndpoint} {roles : List String}
    (hroles : e.roles? = some roles) (hreseller : "reseller" ∈ roles) :
    ∃ key, e.customer? = some key := by
  cases e with
  | customer key => exact ⟨key, rfl⟩
  | customerStatus key => exact ⟨key, rfl⟩
  | _ => cases hroles <;> simp at hreseller

namespace Endpoint

variable {number? : String → Option Int} {segments : List String} {e : GuardedEndpoint}

/-- A path leads to an endpoint that is open to the roles of the path, and if the endpoint is about
a customer, the path has the key of the customer. -/
lemma roles_and_customer_of_at? (h : at? number? segments = some (.guarded e)) :
    (∀ roles, e.roles? = some roles → roles = actingRoles segments) ∧
      ∀ key, e.customer? = some key →
        ∃ part more, segments = "customers" :: part :: more ∧ number? part = some key := by
  unfold at? at h
  split at h
  all_goals
    simp only [numbered, Option.map_eq_some_iff, Option.bind_eq_some_iff,
      Option.ite_none_left_eq_some, Option.some.injEq, guarded.injEq, reduceCtorEq,
      and_false] at h
  -- The paths without anything to read, then those with names, then those with numbers.
  case h_2 | h_11 | h_14 | h_15 =>
    subst h
    simp [GuardedEndpoint.roles?, GuardedEndpoint.customer?, actingRoles]
  case h_7 | h_16 =>
    obtain ⟨-, rfl⟩ := h
    simp [GuardedEndpoint.roles?, GuardedEndpoint.customer?, actingRoles]
  case h_10 =>
    obtain ⟨-, -, -, -, -, rfl⟩ := h
    simp [GuardedEndpoint.roles?, GuardedEndpoint.customer?, actingRoles]
  all_goals
    obtain ⟨key, hkey, rfl⟩ := h
    simp [GuardedEndpoint.roles?, GuardedEndpoint.customer?, actingRoles, hkey]

end Endpoint

/-! ### Requests that act -/

namespace Api

variable {r : Request} {user : User} {c : Context} {p : Panel}

/-- A guarded endpoint is served to the user whom the guard lets in. -/
lemma run_serve_of_enter {e : GuardedEndpoint} (h : Guard.enter c r e = .ok user) (p : Panel) :
    run (serve r (.guarded e)) c p = run (serveGuarded r user e) c p := by
  unfold serve
  rw [run_bind, run_read]
  simp only [h]

/-- A request that does more than to look has led to a guarded endpoint, and the guard has let its
user in. -/
lemma answer_cases (r : Request) (c : Context) (p : Panel) :
    p.Untouched (run (answer r) c p).2 ∨
      ∃ e user, r.destination = .endpoint (.guarded e) ∧ Guard.enter c r e = .ok user ∧
        (run (answer r) c p).2 = (run (serveGuarded r user e) c p).2 := by
  unfold answer
  cases hdestination : r.destination with
  | notFound => exact .inl (.refl p)
  | methodNotAllowed => exact .inl (.refl p)
  | elsewhere => exact .inl (.refl p)
  | endpoint e =>
    simp only
    split
    · exact .inl (.refl p)
    · cases e with
      | unguarded e => exact .inl (Quiet.serveOpen r e c p)
      | guarded e =>
        cases henter : Guard.enter c r e with
        | error response =>
          have hrefused : run (serve r (.guarded e)) c p = (.ok response, p) := by
            unfold serve
            rw [run_bind, run_read]
            simp only [henter, run_pure]
          rw [hrefused]
          exact .inl (.refl p)
        | ok user =>
          rw [run_serve_of_enter henter]
          exact .inr ⟨e, user, rfl, henter, rfl⟩

lemma serveGuarded_of_unrestricted {e : GuardedEndpoint} (h : e.roles? = none) :
    p.Untouched (run (serveGuarded r user e) c p).2 := by
  cases e with
  | identity => exact .refl p
  | _ => cases h

/-- A job that does more than to look has been planned. -/
lemma plan_of_run_job (task : Job) :
    p.Untouched (run (task.run user) c p).2 ∨ ∃ plan, task.plan user c p.store = .ok plan := by
  rw [run_job]
  cases task.plan user c p.store with
  | error e => exact .inl (.refl p)
  | ok plan => exact .inr ⟨plan, rfl⟩

/-- A job on a customer does more than to look only if the user manages the customer, and the
planning has found the job in order. -/
lemma withCustomer_cases (id : Json) (task : Job) (answer : String → Response) :
    p.Untouched (run (withCustomer user id (do return answer (← task.run user))) c p).2 ∨
      (run (Access.canManage user id) c p).1 = .ok true ∧
        ∃ plan, task.plan user c p.store = .ok plan := by
  unfold withCustomer
  have hquiet := Quiet.canManage user id c p
  rw [run_bind]
  rcases hrun : run (Access.canManage user id) c p with ⟨e | managed, q⟩
  · rw [hrun] at hquiet
    exact .inl hquiet
  · rw [hrun] at hquiet
    cases managed with
    | false => exact .inl hquiet
    | true =>
      simp only [if_true]
      rw [state_map]
      rcases plan_of_run_job task with huntouched | hplanned
      · exact .inl (hquiet.trans huntouched)
      · rw [hquiet.store] at hplanned
        exact .inr ⟨trivial, hplanned⟩

/-- An endpoint about a customer does more than to look only if the user manages the customer, and
the planning has found the customer. -/
lemma managed_of_serveGuarded {e : GuardedEndpoint} {key : Int} (h : e.customer? = some key) :
    p.Untouched (run (serveGuarded r user e) c p).2 ∨
      (run (Access.canManage user (.int key)) c p).1 = .ok true ∧
        ∃ account domain,
          Ownership.needManagedCustomer user (.int key) c p.store = .ok (account, domain) := by
  cases e with
  | customer id =>
    cases h
    rcases withCustomer_cases (.int key) (.deleteCustomer (.int key)) Response.done with
      huntouched | ⟨hmanages, plan, hplan⟩
    · exact .inl huntouched
    · obtain ⟨account, domain, hfound, -⟩ := Jobs.planCustomer_eq_ok hplan
      exact .inr ⟨hmanages, account, domain, hfound⟩
  | customerStatus id =>
    cases h
    simp only [serveGuarded, changeStatus]
    cases r.fields with
    | error response => exact .inl (.refl p)
    | ok fields =>
      simp only
      split
      · exact .inl (.refl p)
      · rcases withCustomer_cases (.int key)
          (.changeCustomerStatus (.int key) (Request.field "action" fields)) Response.done with
          huntouched | ⟨hmanages, plan, hplan⟩
        · exact .inl huntouched
        · obtain ⟨named, account, domain, -, hfound, -⟩ := Jobs.planCustomerStatus_eq_ok hplan
          exact .inr ⟨hmanages, account, domain, hfound⟩
  | _ => cases h

end Api

/-! ### Resellers -/

lemma Json.eq_null_of_same {v : Json} (h : Json.same .null v = true) : v = .null := by
  cases v <;> first | rfl | cases h

lemma Json.equalsQuantity_null (column : Option Quantity) :
    Json.equalsQuantity .null column = false := by
  rcases column with _ | _ | _ | _ <;> rfl

/-- The creator of a customer, as the management check reads it, stands in the row of the
customer. -/
lemma Access.mem_of_creatorOf {customer : Json} {s : Store} {creator : Option Quantity}
    (h : (creatorOf customer).answer s = some creator) :
    ∃ a : Admin, a ∈ s.rows .admin ∧ customer.equalsKey a.id = true ∧ a.role = some "user" ∧
      a.createdBy = creator := by
  obtain ⟨a, ha, rfl⟩ := Option.map_eq_some_iff.1 h
  have hpicked := List.find?_some ha
  simp only [Bool.and_eq_true] at hpicked
  exact ⟨a, List.mem_of_find?_eq_some ha, hpicked.1, by simpa [Cell.isText] using hpicked.2, rfl⟩

/-- A reseller manages those customers whose creator has the reseller's key. -/
lemma Access.creator_of_canManage {user : User} {customer : Json} {c : Context} {p : Panel}
    (hreseller : user.hasRole "reseller" = true)
    (h : (run (canManage user customer) c p).1 = .ok true) :
    ∃ creator id, (creatorOf customer).answer p.store = some creator ∧ user.id = .ok id ∧
      (Json.ofQuantity? creator).same id = true := by
  have hadmin : user.isAdmin = false := by
    cases hadmin : user.isAdmin with
    | false => rfl
    | true => exact absurd (User.eq_of_hasRole hreseller hadmin) (by decide)
  have hfetch : run (fetch (creatorOf customer)) c p =
      (readOnce c p.store (creatorOf customer), p) := rfl
  simp only [canManage, hadmin, User.isReseller, hreseller, Bool.false_eq_true, if_false,
    Bool.not_true] at h
  rw [run_bind, hfetch] at h
  cases hread : readOnce c p.store (creatorOf customer) with
  | error e =>
    rw [hread] at h
    cases h
  | ok found =>
    rw [hread] at h
    cases found with
    | none => cases h
    | some creator =>
      cases hid : user.id with
      | error e =>
        simp only [hid] at h
        cases h
      | ok id =>
        simp only [hid] at h
        exact ⟨creator, id, (readOnce_eq_ok hread).symm, rfl, Except.ok.inj h⟩

/-- A customer whom a reseller may act on is one whom the reseller has created. -/
lemma User.created_of_canManage {user : User} {key : Int} {c : Context} {p : Panel}
    {account : Admin} {domain : Domain} (hreseller : user.hasRole "reseller" = true)
    (hmanages : (run (Access.canManage user (.int key)) c p).1 = .ok true)
    (hfound : Ownership.needManagedCustomer user (.int key) c p.store = .ok (account, domain)) :
    user.Created p.store key := by
  obtain ⟨column, id, hcolumn, hid, hsame⟩ := Access.creator_of_canManage hreseller hmanages
  obtain ⟨a, ha, hkey, hrole, rfl⟩ := Access.mem_of_creatorOf hcolumn
  rw [Json.equalsKey_int, beq_iff_eq] at hkey
  cases hcreator : a.createdBy with
  | some creator =>
    rw [hcreator] at hsame
    exact ⟨a, ha, hkey.symm, hrole, creator, id, hcreator, hid, hsame⟩
  | none =>
    -- The absent value in the column is the same as an absent key of the user, but a question that
    -- asks for the customers of an absent creator finds nobody.
    rw [hcreator] at hsame
    cases Json.eq_null_of_same hsame
    obtain ⟨role, creator, hvalue, hanswer, hothers⟩ :=
      Ownership.creator_of_needManagedCustomer hfound
    have hnone : user.id = .ok .null ∧ creator = some .null := by
      obtain ⟨own, hown, rfl⟩ := hothers (User.isText_of_hasRole hreseller hvalue)
      rw [hid] at hown
      cases hown
      exact ⟨hid, rfl⟩
    have hcreated := (Ownership.role_of_customer hanswer).2
    rw [hnone.2, Option.all_some, Json.equalsQuantity_null] at hcreated
    cases hcreated

/-! ### The law -/

/-- Only requests with a title to it have an effect.  Take any panel and any request.  If the
request changes the database or tries to connect to the daemon, then the second word of its header
is a valid token, and it names a user to whose role the path is open; and if the user is a reseller,
the path has the key of a customer whom the reseller has created. -/
theorem effects_are_entitled {r : Request} {c : Context} {p q : Panel}
    (hrun : (run (Api.handle r) c p).2 = q)
    (heffect : q.store ≠ p.store ∨ q.contacts ≠ p.contacts) :
    ∃ token user, r.Entitles c p.store token user := by
  rw [Api.state_handle] at hrun
  have hacts : ¬ ({ p with notifier := Notifier.create c.settings } : Panel).Untouched q := by
    intro huntouched
    rcases heffect with hstore | hcontacts
    · exact hstore huntouched.store
    · exact hcontacts huntouched.contacts
  rcases Api.answer_cases r c { p with notifier := Notifier.create c.settings } with
    huntouched | ⟨e, user, hdestination, henter, hserved⟩
  · rw [hrun] at huntouched
    exact absurd huntouched hacts
  rw [hrun] at hserved
  subst hserved
  obtain ⟨hsigned, hheld⟩ := Guard.enter_eq_ok henter
  obtain ⟨token, hword, haccepted⟩ := Guard.signedIn_eq_ok hsigned
  obtain ⟨hpath, -⟩ := Request.destination_eq_endpoint hdestination
  obtain ⟨hopen, habout⟩ := Endpoint.roles_and_customer_of_at? hpath
  cases hroles : e.roles? with
  | none => exact absurd (Api.serveGuarded_of_unrestricted hroles) hacts
  | some roles =>
    obtain ⟨role, hmem, hhas⟩ := List.any_eq_true.1 (hheld roles hroles)
    refine ⟨token, user, Guard.word_of_token? hword, Token.isValid_of_verifyText haccepted,
      ⟨role, hopen roles hroles ▸ hmem, hhas⟩, fun hreseller => ?_⟩
    cases User.eq_of_hasRole hreseller hhas
    obtain ⟨key, hkey⟩ := GuardedEndpoint.customer_of_reseller hroles hmem
    obtain ⟨part, more, hcut, hnumber⟩ := habout key hkey
    rcases Api.managed_of_serveGuarded hkey with huntouched | ⟨hmanages, account, domain, hfound⟩
    · exact absurd huntouched hacts
    · have hcreated : user.Created p.store key :=
        User.created_of_canManage (p := { p with notifier := Notifier.create c.settings })
          hreseller hmanages hfound
      exact ⟨part, more, key, hcut, hnumber, hcreated⟩

/-- A token that the panel gave the reseller of the sample on signing in. -/
def sampleToken : String :=
  "eyJhbGciOiJIUzI1NiIsInR5cCI6IkpXVCJ9." ++
    "eyJ1c2VyX2lkIjoyLCJ1c2VybmFtZSI6InJpdGEiLCJyb2xlIjoicmVzZWxsZXIiLCJleHAiOjE3MDAwODY0MDAs" ++
    "ImlhdCI6MTcwMDAwMDAwMH0.QXMIX5J6VpYRXY7CtgT4EzPAPnIf_uCbR4Iil4IFmDs"

/-- With it the reseller asks for the deletion of a customer. -/
def sampleDeletionRequest : Request where
  method := .delete
  path := "customers/7".toList
  authorization := some ("Bearer " ++ sampleToken)

/-- The header of the request has the token for its second word. -/
lemma words_sampleDeletionRequest :
    ("Bearer " ++ sampleToken).splitOn " " = ["Bearer", sampleToken] := by
  rw [show " " = String.ofList [' '] from rfl, Text.splitOn_ofList]
  decide +kernel

/-- The panel still knows the reseller by the token, and what the request then asks for changes the
database. -/
lemma verifyText_sampleToken :
    ∃ user, Token.verifyText {} sampleToken = .ok (some user) ∧ user.description.isGiven = true ∧
      user.hasRole "reseller" = true ∧
      (run (Api.serveGuarded sampleDeletionRequest user (.customer 7)) {}
        sampleHosting).2.store.rows .domain ≠ sampleHosting.store.rows .domain := by
  have hparts : sampleToken.splitOn "." = (sampleToken.toList.splitOn '.').map String.ofList := by
    rw [show "." = String.ofList ['.'] from rfl, Text.splitOn_ofList]
  have hcheck : ((Token.verifyText {} sampleToken).toOption.join.any fun user =>
      user.description.isGiven && user.hasRole "reseller" && decide
        ((run (Api.serveGuarded sampleDeletionRequest user (.customer 7)) {}
          sampleHosting).2.store.rows .domain ≠ sampleHosting.store.rows .domain)) = true := by
    unfold Token.verifyText Token.read?
    rw [hparts]
    decide +kernel
  cases haccepted : Token.verifyText {} sampleToken with
  | error e =>
    rw [haccepted] at hcheck
    cases hcheck
  | ok found =>
    rw [haccepted] at hcheck
    cases found with
    | none => cases hcheck
    | some user =>
      simp only [Except.toOption, Option.join_some, Option.any_some, Bool.and_eq_true,
        decide_eq_true_eq] at hcheck
      exact ⟨user, rfl, hcheck.1.1, hcheck.1.2, hcheck.2⟩

/-- The reseller is entitled to delete the customer, whom the reseller has created. -/
theorem effects_are_entitled_sample :
    (run (Api.handle sampleDeletionRequest) {} sampleHosting).2.store ≠ sampleHosting.store ∧
      ∃ user, Token.IsValid {} sampleToken user ∧ user.hasRole "reseller" = true ∧
        user.Created sampleHosting.store 7 := by
  obtain ⟨user, haccepted, hgiven, hreseller, hchanged⟩ := verifyText_sampleToken
  have hword : Guard.token? sampleDeletionRequest.authorization = .ok (some sampleToken) := by
    simp only [Guard.token?, sampleDeletionRequest, words_sampleDeletionRequest]
  have henter : Guard.enter {} sampleDeletionRequest (.customer 7) = .ok user :=
    Guard.enter_of_verifyText hword (by decide +kernel) haccepted hgiven rfl (by simp [hreseller])
  have hdestination : sampleDeletionRequest.destination = .endpoint (.guarded (.customer 7)) := by
    decide +kernel
  have hstore : (run (Api.handle sampleDeletionRequest) {} sampleHosting).2.store ≠
      sampleHosting.store := by
    intro hsame
    rw [Api.state_handle] at hsame
    have hanswer : run (Api.answer sampleDeletionRequest) {} sampleHosting =
        run (Api.serveGuarded sampleDeletionRequest user (.customer 7)) {} sampleHosting := by
      unfold Api.answer
      rw [hdestination]
      exact Api.run_serve_of_enter henter sampleHosting
    have hunchanged : (run (Api.serveGuarded sampleDeletionRequest user (.customer 7)) {}
        sampleHosting).2.store = sampleHosting.store := by
      rw [← hanswer]
      exact hsame
    rw [hunchanged] at hchanged
    exact hchanged rfl
  obtain ⟨token, other, hentitles⟩ := effects_are_entitled rfl (.inl hstore)
  obtain ⟨header, first, more, hheader, hwords⟩ := hentitles.word
  cases hheader
  rw [words_sampleDeletionRequest] at hwords
  cases hwords
  have hsame := hentitles.valid.accepted
  rw [haccepted] at hsame
  cases hsame
  obtain ⟨part, rest, key, hcut, hnumber, hcreated⟩ := hentitles.customer hreseller
  have hpath : Target.cut sampleDeletionRequest.path = ["customers", "7"] := by decide +kernel
  rw [hpath] at hcut
  cases hcut
  have hseven : Target.number? "7" = some 7 := by decide +kernel
  rw [hseven] at hnumber
  cases hnumber
  exact ⟨hstore, user, hentitles.valid, hreseller, hcreated⟩

end HostingPanel
