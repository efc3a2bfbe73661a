import HostingPanel.Context
import HostingPanel.Daemon.Exchange

/-!
# Notifiers

A notifier tells the daemon, at most once, that there is work.  The first call of `Notifier.send`
marks the notifier as used, whatever comes of it; every later call answers with the first result
and does not talk to the daemon.  A daemon of another flavour looks for work by itself, so there
is nothing to tell it.
-/

namespace HostingPanel

/-- Tells the daemon once that there is work. -/
structure Notifier where
  daemonType : Json
  host : Json
  port : Json
  /-- The version by which the panel introduces itself. -/
  version : Json
  timeout : Json
  sent : Bool := false
  /-- What came of it, if it has been used and the exchange was not cut short. -/
  result : Option Bool := none

/-- An attempt to connect to the daemon. -/
structure Contact where
  /-- Host and port. -/
  address : String
  timeout : Json
  taken : List UInt8

/-- What a call of a notifier brings about. -/
structure Delivery where
  notifier : Notifier
  /-- The answer of the call; none if the call before it was cut short. -/
  answer : Except Failure (Option Bool)
  contact : Option Contact := none
  trouble : Option Trouble := none

/-- The flavour of daemon that waits to be told. -/
def listeningType : String := "imscp"

namespace Notifier

/-- A value, or another one in place of the absent value. -/
def orElse (v other : Json) : Json :=
  match v with
  | .null => other
  | v => v

/-- A value, or another one in place of a value that counts as not given. -/
def given (v other : Json) : Json :=
  if v.isGiven then v else other

/-- A notifier with the given properties.  What is absent comes from the settings; so do host, port
and version if they count as not given. -/
def create (s : Settings) (daemonType host port version timeout : Json := .null) : Notifier where
  daemonType := orElse daemonType s.daemonType
  host := given host s.daemonHost
  port := given port s.daemonPort
  version := given version s.panelVersion
  timeout := orElse timeout s.daemonTimeout

/-- Where the daemon listens. -/
def address (n : Notifier) : String :=
  n.host.shown ++ ":" ++ n.port.shown

/-- What an attempt of a notifier to connect meets. -/
def reached (n : Notifier) (c : Context) : Except Misuse Peer :=
  c.reached n.host n.port n.timeout

/-- An attempt to connect meets what is wrong with the host, the port or the timeout. -/
theorem reached_eq_error_iff {n : Notifier} {c : Context} {misuse : Misuse} :
    n.reached c = .error misuse ↔ c.misuse? n.host n.port n.timeout = some misuse := by
  unfold reached Context.reached
  cases c.misuse? n.host n.port n.timeout <;> simp

/-- Tells the daemon that there is work, unless that has been done already. -/
def send (n : Notifier) (c : Context) : Delivery :=
  if n.sent then { notifier := n, answer := .ok n.result }
  else if !n.daemonType.isText listeningType then
    { notifier := { n with sent := true, result := some true }, answer := .ok (some true) }
  else
    let report := exchange (n.reached c) n.address n.version.shown
    let contact : Contact := ⟨n.address, n.timeout, report.taken⟩
    match report.result with
    | .ok _ =>
      { notifier := { n with sent := true, result := some true }
        answer := .ok (some true)
        contact := some contact }
    | .error (.inl trouble) =>
      { notifier := { n with sent := true, result := some false }
        answer := .ok (some false)
        contact := some contact
        trouble := some trouble }
    | .error (.inr failure) =>
      { notifier := { n with sent := true }, answer := .error failure, contact := some contact }

theorem sent_send (n : Notifier) (c : Context) : (n.send c).notifier.sent = true := by
  unfold send
  split
  · assumption
  · split
    · rfl
    · simp only
      split <;> rfl

theorem send_of_sent {n : Notifier} (h : n.sent = true) (c : Context) :
    n.send c = { notifier := n, answer := .ok n.result } := by
  simp [send, h]

end Notifier

end HostingPanel
