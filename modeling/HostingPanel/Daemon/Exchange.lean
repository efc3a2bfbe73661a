import HostingPanel.Daemon.Peer
import HostingPanel.Failure
import HostingPanel.Number.Literal

/-!
# Talking to the daemon

One exchange with the daemon: it says welcome, and answers the three commands `helo`, `execute
backend command` and `bye`.  An answer is good if it starts with the code 250.  The exchange stops
at the first answer that is not good and at the first command that cannot be sent.

`Line` is the state of a connection, `readAnswer` and `sendCommand` are the steps, and `exchange`
is the whole.  What goes wrong on the network is trouble, which ends the exchange without success.
Only a failure escapes: nobody can try to connect with the address and the timeout, or the version of
the panel is not ASCII.
-/

namespace HostingPanel

/-- What went wrong in an exchange. -/
inductive Trouble where
  | refused (address reason : String)
  | closed
  /-- The answer does not report success. -/
  | unexpected (answer : String)
  /-- The daemon took no byte of the rest of a command. -/
  | unsent (command : String)
  | readFailed
  | writeFailed

/-- The wording of what went wrong. -/
def Trouble.message : Trouble → String
  | .refused address reason =>
    "Couldn't connect to the daemon at " ++ address ++ ": " ++ reason
  | .closed => "Unable to read answer from the daemon: connection closed"
  | .unexpected answer => "The daemon returned an unexpected answer: " ++ answer
  | .unsent command => "Couldn't send command to the daemon: " ++ command
  | .readFailed => "Communication with the daemon failed: read failed"
  | .writeFailed => "Communication with the daemon failed: write failed"

/-- The state of a connection. -/
structure Line where
  /-- What the daemon has still to send. -/
  input : List UInt8
  reads : Nat := 0
  /-- The number of the read that fails. -/
  failingRead : Option Nat := none
  sends : List SendOutcome := []
  taken : List UInt8 := []

/-- The most bytes that one read returns. -/
def answerLimit : Nat := 1024

/-- The code of a good answer. -/
def successCode : Nat := 250

/-- Splits off the bytes up to and including a newline, but at most the given number. -/
def splitLine : Nat → List UInt8 → List UInt8 × List UInt8
  | 0, bytes => ([], bytes)
  | _, [] => ([], [])
  | n + 1, b :: bytes =>
    if b = 10 then ([b], bytes)
    else
      let (line, rest) := splitLine n bytes
      (b :: line, rest)

/-- The text of an answer: other bytes than ASCII become the replacement character, and the blanks
around the text go. -/
def answerText (line : List UInt8) : List Char :=
  Text.trimBy Text.isBlank
    (line.map fun b => if b < 0x80 then Char.ofNat b.toNat else Char.ofNat 0xFFFD)

/-- The code of an answer: its text up to the first space. -/
def answerCode (text : List Char) : List Char :=
  text.takeWhile (· != ' ')

/-- Whether a code reports success. -/
def isSuccess (code : List Char) : Bool :=
  !code.isEmpty && code.all Char.isDigit && Number.digitsValue code == successCode

/-- Reads an answer and checks it. -/
def readAnswer (l : Line) : Except Trouble Unit × Line :=
  let counted := { l with reads := l.reads + 1 }
  if l.failingRead = some counted.reads then (.error .readFailed, counted)
  else
    let (line, rest) := splitLine answerLimit l.input
    let text := answerText line
    let result :=
      if line.isEmpty then .error .closed
      else if isSuccess (answerCode text) then .ok ()
      else .error (.unexpected (String.ofList text))
    (result, { counted with input := rest })

/-- Sends bytes, as many attempts as it takes.  The answer tells how the sending ended, which
outcomes are left and which bytes were taken. -/
def push (command : String) :
    List SendOutcome → List UInt8 → Except Trouble Unit × List SendOutcome × List UInt8
  | sends, [] => (.ok (), sends, [])
  | [], data => (.ok (), [], data)
  | .fails :: rest, _ => (.error .writeFailed, rest, [])
  | .takes n :: rest, b :: data =>
    if n = 0 then (.error (.unsent command), rest, [])
    else
      let (result, left, taken) := push command rest ((b :: data).drop n)
      (result, left, (b :: data).take n ++ taken)

/-- The line of a command. -/
def commandLine (command : String) : List UInt8 :=
  bytesOf (command ++ "\n")

/-- Sends a command. -/
def sendCommand (command : String) (l : Line) : Except Trouble Unit × Line :=
  let (result, left, taken) := push command l.sends (commandLine command)
  (result, { l with sends := left, taken := l.taken ++ taken })

/-- Sends commands, each followed by its answer. -/
def sendAll : List String → Line → Except Trouble Unit × Line
  | [], l => (.ok (), l)
  | command :: rest, l =>
    match sendCommand command l with
    | (.error e, l) => (.error e, l)
    | (.ok _, l) =>
      match readAnswer l with
      | (.error e, l) => (.error e, l)
      | (.ok _, l) => sendAll rest l

/-- The command by which the panel introduces itself. -/
def greeting (version : String) : String :=
  "helo " ++ version

/-- The commands of an exchange. -/
def commands (version : String) : List String :=
  [greeting version, "execute backend command", "bye"]

/-- Whether a text can be sent as a command. -/
def isAscii (s : String) : Bool :=
  s.toList.all (·.toNat < 0x80)

/-- How an exchange ended, and what the daemon took. -/
structure ExchangeReport where
  /-- Success, what went wrong, or a failure of the operation that asked for the exchange. -/
  result : Except (Trouble ⊕ Failure) Unit
  taken : List UInt8

/-- Talks to what an attempt to connect to an address meets.  A version that cannot be sent shows
after the welcome. -/
def exchange (reached : Except Misuse Peer) (address version : String) : ExchangeReport :=
  match reached with
  | .error misuse => ⟨.error (.inr (.notConnectable misuse)), []⟩
  | .ok (.refusing reason) => ⟨.error (.inl (.refused address reason)), []⟩
  | .ok (.answering input failingRead sends) =>
    match readAnswer { input, failingRead, sends } with
    | (.error e, l) => ⟨.error (.inl e), l.taken⟩
    | (.ok _, l) =>
      if isAscii version then
        let (result, l) := sendAll (commands version) l
        ⟨result.mapError .inl, l.taken⟩
      else ⟨.error (.inr (.notAscii (greeting version ++ "\n"))), l.taken⟩

/-- What is taken of the bytes to send is a first part of them, and all of them if the sending
succeeds. -/
theorem push_taken (command : String) (sends : List SendOutcome) (data : List UInt8) :
    (push command sends data).2.2 <+: data ∧
      ((push command sends data).1.isOk → (push command sends data).2.2 = data) := by
  fun_induction push command sends data with
  | case1 => simp
  | case2 => simp
  | case3 => simp [Except.isOk, Except.toBool]
  | case4 => simp [Except.isOk, Except.toBool]
  | case5 n rest b data _ result left taken eq ih =>
    rw [eq] at ih
    constructor
    · obtain ⟨more, h⟩ := ih.1
      exact ⟨more, by rw [List.append_assoc, h, List.take_append_drop]⟩
    · intro ok
      have all : taken = (b :: data).drop n := ih.2 ok
      simp only [all, List.take_append_drop]

end HostingPanel
