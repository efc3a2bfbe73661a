import HostingPanel.Failure
import HostingPanel.Store.Row

/-!
# Passwords

A password is kept as a hash that looks at no more than 72 bytes, so a longer one cannot be hashed
and never matches.  What is not a valid hash matches no password.
-/

namespace HostingPanel.Password

/-- The greatest count of bytes in a password. -/
def byteLimit : Nat := 72

/-- Whether a password is short enough to be hashed. -/
def fits (password : String) : Bool :=
  password.utf8ByteSize ≤ byteLimit

/-- The hash of a password. -/
def hash (password : Json) : Except Failure Secret :=
  match password with
  | .text s => if fits s then .ok (.hashOf s) else .error .passwordTooLong
  | .brokenText points => .error (.notEncodable points)
  | _ => .error .notText

/-- Whether an attempt is the password behind a hash.  A text that has no bytes matches nothing. -/
def verify (attempt : Json) (kept : Secret) : Except Failure Bool :=
  match attempt, kept with
  | .text s, .hashOf password => .ok (fits s && s == password)
  | .text _, .text _ => .ok false
  | .brokenText _, _ => .ok false
  | _, _ => .error .notText

/-- A password matches its own hash, and no other password does. -/
theorem verify_hash {password attempt : String} {kept : Secret}
    (h : hash (.text password) = .ok kept) :
    verify (.text attempt) kept = .ok (attempt == password) := by
  by_cases short : fits password = true
  · simp only [hash, short, if_true, Except.ok.injEq] at h
    subst h
    by_cases same : attempt = password
    · simp [verify, same, short]
    · simp [verify, same]
  · simp [hash, short] at h

end HostingPanel.Password
