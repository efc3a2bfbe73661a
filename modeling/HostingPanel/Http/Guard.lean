import HostingPanel.Access.Roles
import HostingPanel.Access.Token
import HostingPanel.Http.Endpoint

/-!
# The guard of the endpoints

A guarded endpoint lets a request in if the second word of its `Authorization` header is a token
that the panel accepts and if the user whom the token names has a role of the endpoint.
-/

namespace HostingPanel.Guard

/-- The token of a request: the second of the words of its header that single spaces separate.  A
header of one word is refused. -/
def token? (authorization : Option String) : Except Response (Option String) :=
  match authorization with
  | none => .ok none
  | some header =>
    match header.splitOn " " with
    | _ :: token :: _ => .ok (some token)
    | _ => .error (.error 401 "Invalid token format")

/-- The signed-in user of a request. -/
def signedIn (c : Context) (r : Request) : Except Response User := do
  match ← token? r.authorization with
  | none => throw (.error 401 "Token required")
  | some token =>
    if token.isEmpty then throw (.error 401 "Token required")
    match Token.verifyText c token with
    | .error e => throw (.ofFailure e)
    | .ok none => throw (.error 401 "Invalid or expired token")
    | .ok (some user) =>
      if !user.description.isGiven then throw (.error 401 "Invalid or expired token")
      return user

/-- The response to a user who may not go on. -/
def refusal? : Access.Admission → Option Response
  | .allowed => none
  | .unauthorized => some (.error 401 "Unauthorized")
  | .denied => some (.error 403 "Access denied")

/-- The user who may use an endpoint with a request. -/
def enter (c : Context) (r : Request) (e : GuardedEndpoint) : Except Response User := do
  let user ← signedIn c r
  match e.roles? with
  | none => return user
  | some roles =>
    match refusal? (Access.admission (roles.map .text) (some user)) with
    | some response => throw response
    | none => return user

/-! ### Who comes in -/

/-- A signed-in user is the one whom the token of the request names. -/
theorem signedIn_eq_ok {c : Context} {r : Request} {user : User}
    (h : signedIn c r = .ok user) :
    ∃ token, token? r.authorization = .ok (some token) ∧
      Token.verifyText c token = .ok (some user) := by
  unfold signedIn at h
  cases found : token? r.authorization with
  | error response => simp [found, bind, Except.bind] at h
  | ok word =>
    cases word with
    | none => simp [found, bind, Except.bind, throw, throwThe, MonadExceptOf.throw] at h
    | some token =>
      refine ⟨token, rfl, ?_⟩
      simp only [found, bind, Except.bind] at h
      split at h
      · cases h
      · simp only [pure, Except.pure] at h
        split at h
        · cases h
        · cases h
        · split at h
          · cases h
          · cases h
            assumption

/-- Only a user who is allowed to go on is not refused. -/
theorem refusal?_eq_none_iff {a : Access.Admission} : refusal? a = none ↔ a = .allowed := by
  cases a <;> simp [refusal?]

/-- Whoever may use an endpoint is signed in and has one of its roles. -/
theorem enter_eq_ok {c : Context} {r : Request} {e : GuardedEndpoint} {user : User}
    (h : enter c r e = .ok user) :
    signedIn c r = .ok user ∧ ∀ roles ∈ e.roles?, roles.any user.hasRole = true := by
  unfold enter at h
  cases signed : signedIn c r with
  | error response => simp [signed, bind, Except.bind] at h
  | ok found =>
    simp only [signed, bind, Except.bind] at h
    cases restricted : e.roles? with
    | none =>
      simp only [restricted, pure, Except.pure, Except.ok.injEq] at h
      exact ⟨congrArg _ h, by simp⟩
    | some roles =>
      cases refused : refusal? (Access.admission (roles.map Json.text) (some found)) with
      | some response => simp [restricted, refused, throw, throwThe, MonadExceptOf.throw] at h
      | none =>
        simp only [restricted, refused, pure, Except.pure, Except.ok.injEq] at h
        subst h
        obtain ⟨u, same, -, held⟩ :=
          Access.admission_eq_allowed_iff.1 (refusal?_eq_none_iff.1 refused)
        cases same
        exact ⟨rfl, by simpa using held⟩

end HostingPanel.Guard
