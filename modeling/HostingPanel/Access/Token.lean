import HostingPanel.Access.SigningKey
import HostingPanel.Access.User
import HostingPanel.Context
import HostingPanel.Hash.Hmac
import HostingPanel.Interval
import HostingPanel.Json.Printer
import HostingPanel.Number.Literal
import HostingPanel.Text.Base64Url

/-!
# Tokens

A token names a signed-in user and is signed under the panel's secret, so that the panel recognises
its own tokens.  It has three parts, separated by points: a header, a payload and the signature of
these two.  `create` makes a token.  `verify` accepts one if its header is in order, its signature
is right and its claims hold; a secret that is no key makes both fail.
-/

namespace HostingPanel.Token

/-- The bytes of a text. -/
def utf8 (s : String) : List UInt8 :=
  s.toUTF8.toList

/-- The algorithm of the signature. -/
def algorithm : String := "HS256"

/-! ### Making tokens -/

/-- The header of the tokens that the panel makes. -/
def header : Json :=
  .object [("alg", .text algorithm), ("typ", .text "JWT")]

/-- The payload of a token. -/
def payload (id name role : Json) (expiry issued : Int) : Json :=
  .object
    [("user_id", id), ("username", name), ("role", role), ("exp", .int expiry),
      ("iat", .int issued)]

/-- A part of a token that holds a value. -/
def part (v : Json) : String :=
  String.ofList (Text.Base64Url.encode (utf8 v.compact))

/-- The signature of a text under a key. -/
def signature (key : List UInt8) (signed : String) : List UInt8 :=
  Hash.hmac key (utf8 signed)

/-- A signed token with a payload. -/
def sign (key : List UInt8) (payload : Json) : String :=
  let signed := part header ++ "." ++ part payload
  signed ++ "." ++ String.ofList (Text.Base64Url.encode (signature key signed))

/-- When a token made now expires. -/
def expiry (c : Context) : Except Failure Int := do
  let validity ← Interval.ofUnits Interval.hour (← Interval.number c.settings.tokenHours)
  validity.endAfter c.now

/-- Makes a token for a user. -/
def create (c : Context) (id name role : Json) : Except Failure String := do
  let expiry ← expiry c
  let key ← Access.signingKey c.settings.tokenSecret
  return sign key (payload id name role expiry c.now)

/-! ### Reading tokens -/

/-- The fields of the object that some bytes write. -/
def object? (bytes : List UInt8) : Option (List (String × Json)) :=
  match Json.ofBytes bytes with
  | .ok (.object fields) => some fields
  | _ => none

/-- A token as it is read, before anything in it is believed. -/
structure Unverified where
  header : List (String × Json)
  payload : List UInt8
  /-- The text that is signed. -/
  signed : String
  signature : List UInt8

/-- Reads a token. -/
def read? (token : String) : Option Unverified :=
  match token.splitOn "." with
  | [header, payload, signature] => do
    let fields ← (Text.Base64Url.decode? header.toList).bind object?
    let payloadBytes ← Text.Base64Url.decode? payload.toList
    let signatureBytes ← Text.Base64Url.decode? signature.toList
    return ⟨fields, payloadBytes, header ++ "." ++ payload, signatureBytes⟩
  | _ => none

/-! ### The header -/

/-- Whether a value is a text. -/
def isAnyText : Json → Bool
  | .text _ => true
  | .brokenText _ => true
  | _ => false

/-- The extensions of tokens that the panel knows. -/
def extensions : List String := ["b64"]

/-- Whether a header names extensions that must be understood, and the panel understands them. -/
def understands (fields : List (String × Json)) : Json → Bool
  | .list (v :: more) =>
    (v :: more).all fun name =>
      extensions.any fun e => name.isText e && (Json.field? e fields).isSome
  | _ => false

/-- Whether the payload stands in the token and not somewhere else. -/
def isAttached (fields : List (String × Json)) : Bool :=
  match Json.field? "b64" fields with
  | some (.bool b) => b
  | _ => true

/-- Whether a header is in order and names the algorithm of the panel. -/
def isInOrder (fields : List (String × Json)) : Bool :=
  (Json.field? "kid" fields).all isAnyText &&
    (Json.field? "crit" fields).all (understands fields) && isAttached fields &&
    (Json.field? "alg" fields).any (Json.isText algorithm)

/-! ### The claims -/

/-- The whole number that a time in a payload is. -/
def time? : Json → Option Int
  | .bool b => some (if b then 1 else 0)
  | .number (.integer n) => some n
  | .number (.real x) => Number.truncate? x
  | .text s => (Number.readInteger s).toOption
  | _ => none

/-- Whether a field is absent or a time that satisfies a condition. -/
def timeIs (condition : Int → Bool) (name : String) (fields : List (String × Json)) : Bool :=
  match Json.field? name fields with
  | none => true
  | some v => (time? v).any condition

/-- Whether the times of a payload are in order and it is not meant for somebody else. -/
def isCurrent (now : Int) (fields : List (String × Json)) : Bool :=
  timeIs (· ≤ now) "iat" fields && timeIs (· ≤ now) "nbf" fields &&
    timeIs (now < ·) "exp" fields && (Json.field? "aud" fields).all (!·.isGiven)

/-- Whether the names in a payload are texts. -/
def isNamed (fields : List (String × Json)) : Bool :=
  (Json.field? "sub" fields).all isAnyText && (Json.field? "jti" fields).all isAnyText

/-- The user whom a payload names, if its claims hold. -/
def userOf? (now : Int) (payload : List UInt8) : Option User := do
  let fields ← object? payload
  if isNamed fields && isCurrent now fields then some ⟨.object fields⟩ else none

/-! ### Accepting tokens -/

/-- The user that an accepted token names.  The secret is looked at only for a token whose header is
in order. -/
def verifyText (c : Context) (token : String) : Except Failure (Option User) :=
  match (read? token).filter (isInOrder ·.header) with
  | none => .ok none
  | some t => do
    let key ← Access.signingKey c.settings.tokenSecret
    if t.signature == signature key t.signed then return userOf? c.now t.payload
    else return none

/-- The user that an accepted token names, where any value is given for a token. -/
def verify (c : Context) (token : Json) : Except Failure (Option User) :=
  match token with
  | .text s => verifyText c s
  | .brokenText points => .error (.notEncodable points)
  | _ => .ok none

/-- An accepted token carries the signature of its own text under the panel's key, and the claims of
its payload hold. -/
theorem verifyText_eq_some {c : Context} {token : String} {user : User}
    (h : verifyText c token = .ok (some user)) :
    ∃ t key, read? token = some t ∧ isInOrder t.header = true ∧
      Access.signingKey c.settings.tokenSecret = .ok key ∧
      t.signature = signature key t.signed ∧ userOf? c.now t.payload = some user := by
  unfold verifyText at h
  split at h
  · cases h
  · rename_i t found
    obtain ⟨known, ordered⟩ := Option.filter_eq_some_iff.1 found
    cases secret : Access.signingKey c.settings.tokenSecret with
    | error e => simp [secret, bind, Except.bind] at h
    | ok key =>
      simp only [secret, bind, Except.bind, pure, Except.pure] at h
      split at h
      · rename_i signed
        exact ⟨t, key, known, ordered, rfl, by simpa using signed, Except.ok.inj h⟩
      · cases h

end HostingPanel.Token
