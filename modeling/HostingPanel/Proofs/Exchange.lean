import Mathlib.Data.List.DropRight
import Mathlib.Data.Nat.Digits.Defs
import Mathlib.Tactic.Lemma
import HostingPanel.Daemon.Notifier

/-!
# The exchange with the daemon

What one exchange does for every daemon: for all bytes that it sends, every read that fails and
every way in which it takes bytes.  Three notions describe the daemon without the exchange.
`answerAt` is the answer that a read returns, `IsGood` says which answers are good, and `Writes`
says when a number of bytes is taken in full.  The exchange succeeds exactly if all four answers are
good and all three commands are taken in full, and what the daemon takes is always a first part of
the three commands.

An exchange that does not succeed ends without a failure, with one exception: with an address or a
timeout that the network does not take, nobody can try to connect, and that failure escapes
(`Notifier.send_exactly_iff`).
-/

namespace HostingPanel

/-! ### Answers -/

/-- What one read returns: the bytes up to and including the next newline, but at most 1024. -/
def firstAnswer (input : List UInt8) : List UInt8 :=
  (input.take ((input.takeWhile (· ≠ 10)).length + 1)).take 1024

/-- The answer that a read returns after a number of reads. -/
def answerAt (input : List UInt8) : Nat → List UInt8
  | 0 => firstAnswer input
  | k + 1 => answerAt (input.drop (firstAnswer input).length) k

/-- The text of an answer up to the first space, where bytes beyond ASCII have been replaced and the
blanks around the text are gone. -/
def codeOf (line : List UInt8) : List Char :=
  let decoded := line.map fun b => if b < 0x80 then Char.ofNat b.toNat else Char.ofNat 0xFFFD
  ((decoded.dropWhile Text.isBlank).rdropWhile Text.isBlank).takeWhile (· ≠ ' ')

/-- A good answer: it is not empty, and its code consists of decimal digits with the value 250. -/
structure IsGood (line : List UInt8) : Prop where
  answered : line ≠ []
  coded : codeOf line ≠ []
  digits : ∀ ch ∈ codeOf line, '0' ≤ ch ∧ ch ≤ '9'
  value : Nat.ofDigits 10 ((codeOf line).reverse.map fun ch => ch.toNat - '0'.toNat) = 250

/-- Splitting off a line gives what one read returns, and the rest. -/
lemma splitLine_eq_take (n : Nat) (bytes : List UInt8) :
    splitLine n bytes =
      (bytes.take (min n ((bytes.takeWhile (· ≠ 10)).length + 1)),
        bytes.drop (min n ((bytes.takeWhile (· ≠ 10)).length + 1))) := by
  induction n generalizing bytes with
  | zero => simp [splitLine]
  | succ n ih =>
    cases bytes with
    | nil => simp [splitLine]
    | cons b bytes =>
      by_cases hb : b = 10
      · simp [splitLine, hb]
      · simp [splitLine, hb, ih bytes, Nat.succ_min_succ]

/-- A read returns the first answer and leaves the rest. -/
lemma splitLine_answerLimit (input : List UInt8) :
    splitLine answerLimit input = (firstAnswer input, input.drop (firstAnswer input).length) := by
  have hfirst : firstAnswer input =
      input.take (min answerLimit ((input.takeWhile (· ≠ 10)).length + 1)) := by
    unfold firstAnswer answerLimit
    rw [List.take_take]
  have hdrop : ∀ n, input.drop (min n input.length) = input.drop n := by
    intro n
    rcases Nat.le_total n input.length with hle | hle
    · rw [Nat.min_eq_left hle]
    · rw [Nat.min_eq_right hle, List.drop_length, List.drop_eq_nil_of_le hle]
  rw [splitLine_eq_take, hfirst, List.length_take, hdrop]

/-- The value of a run of digits is what the digits stand for, the last one first. -/
lemma digitsValue_eq_ofDigits (cs : List Char) :
    Number.digitsValue cs = Nat.ofDigits 10 (cs.reverse.map fun ch => ch.toNat - '0'.toNat) := by
  unfold Number.digitsValue
  rw [Nat.ofDigits_eq_foldr, List.foldr_map, List.foldr_reverse]
  congr 1
  funext n ch
  simp only [Nat.cast_id]
  rw [Nat.add_comm]
  rfl

/-- A code that reports success is the one of a good answer. -/
lemma isGood_iff {line : List UInt8} :
    IsGood line ↔ line.isEmpty = false ∧ isSuccess (answerCode (answerText line)) = true := by
  have hcode : answerCode (answerText line) = codeOf line := by
    unfold answerCode answerText codeOf Text.trimBy List.rdropWhile
    simp only [bne, decide_not, beq_eq_decide]
  have hdigit : ∀ ch : Char, ch.isDigit = true ↔ '0' ≤ ch ∧ ch ≤ '9' := by
    intro ch
    simp only [Char.isDigit, ge_iff_le, Bool.and_eq_true, decide_eq_true_eq]
    rfl
  rw [hcode]
  simp only [isSuccess, successCode, Bool.and_eq_true, Bool.not_eq_true', List.isEmpty_eq_false_iff,
    List.all_eq_true, beq_iff_eq, hdigit, digitsValue_eq_ofDigits]
  constructor
  · intro h
    exact ⟨h.answered, ⟨h.coded, h.digits⟩, h.value⟩
  · rintro ⟨hanswered, ⟨hcoded, hdigits⟩, hvalue⟩
    exact ⟨hanswered, hcoded, hdigits, hvalue⟩

/-- A read is the next one to succeed: it is not the one that fails, and its answer is good. -/
def ReadsGood (l : Line) (k : Nat) : Prop :=
  l.failingRead ≠ some (l.reads + k + 1) ∧ IsGood (answerAt l.input k)

/-- What a read leaves of the input if it does not fail, and that it counts. -/
def Line.afterRead (l : Line) : Line :=
  { l with reads := l.reads + 1, input := l.input.drop (firstAnswer l.input).length }

lemma readsGood_afterRead (l : Line) (k : Nat) :
    ReadsGood l.afterRead k ↔ ReadsGood l (k + 1) := by
  unfold ReadsGood
  have hcount : l.afterRead.reads + k + 1 = l.reads + (k + 1) + 1 := by
    simp only [Line.afterRead]
    omega
  rw [hcount]
  rfl

/-- Reading an answer succeeds exactly if the read does not fail and the answer is good. -/
lemma readAnswer_eq_ok_iff {l l' : Line} :
    readAnswer l = (.ok (), l') ↔ ReadsGood l 0 ∧ l' = l.afterRead := by
  unfold readAnswer ReadsGood
  simp only [splitLine_answerLimit, answerAt, isGood_iff, Nat.add_zero]
  by_cases hfails : l.failingRead = some (l.reads + 1)
  · rw [if_pos hfails]
    simp [hfails]
  · rw [if_neg hfails]
    cases hempty : (firstAnswer l.input).isEmpty with
    | true => simp
    | false =>
      cases hsuccess : isSuccess (answerCode (answerText (firstAnswer l.input))) with
      | true => simp [hfails, Line.afterRead, eq_comm]
      | false => simp

lemma taken_readAnswer (l : Line) : (readAnswer l).2.taken = l.taken := by
  unfold readAnswer
  simp only
  split <;> rfl

/-! ### Commands -/

/-- The outcomes of the attempts to send some bytes in full: the first ones are positive counts, all
of them are needed, and together they reach the number of bytes, unless no outcome is left; then
everything is taken. -/
def Writes (sends : List SendOutcome) (n : Nat) (left : List SendOutcome) : Prop :=
  ∃ counts : List Nat, sends = counts.map .takes ++ left ∧ (∀ k ∈ counts, 0 < k) ∧
    (counts = [] ∨ counts.dropLast.sum < n) ∧ (n ≤ counts.sum ∨ left = [])

/-- Several numbers of bytes are taken in full, one after the other. -/
def WritesAll : List SendOutcome → List Nat → Prop
  | _, [] => True
  | sends, n :: rest => ∃ left, Writes sends n left ∧ WritesAll left rest

lemma writes_zero {sends left : List SendOutcome} : Writes sends 0 left ↔ left = sends := by
  constructor
  · rintro ⟨counts, rfl, -, hneeded, -⟩
    rcases hneeded with rfl | hneeded
    · rfl
    · omega
  · rintro rfl
    exact ⟨[], rfl, by simp, .inl rfl, .inl (Nat.le_refl 0)⟩

lemma writes_nil {n : Nat} {left : List SendOutcome} : Writes [] n left ↔ left = [] := by
  constructor
  · rintro ⟨counts, hsends, -⟩
    exact (List.append_eq_nil_iff.1 hsends.symm).2
  · rintro rfl
    exact ⟨[], rfl, by simp, .inl rfl, .inr rfl⟩

lemma not_writes_fails {sends left : List SendOutcome} {n : Nat} (hn : 0 < n) :
    ¬ Writes (.fails :: sends) n left := by
  rintro ⟨counts, hsends, -, -, hreached⟩
  cases counts with
  | nil =>
    rcases hreached with hreached | rfl
    · simp only [List.sum_nil] at hreached
      omega
    · cases hsends
  | cons k counts => cases hsends

/-- After an attempt that takes some bytes the others are sent. -/
lemma writes_takes {sends left : List SendOutcome} {n k : Nat} (hn : 0 < n) :
    Writes (.takes k :: sends) n left ↔ 0 < k ∧ Writes sends (n - k) left := by
  constructor
  · rintro ⟨counts, hsends, hpositive, hneeded, hreached⟩
    cases counts with
    | nil =>
      rcases hreached with hreached | rfl
      · simp only [List.sum_nil] at hreached
        omega
      · cases hsends
    | cons k' counts =>
      simp only [List.map_cons, List.cons_append, List.cons.injEq, SendOutcome.takes.injEq]
        at hsends
      obtain ⟨rfl, rfl⟩ := hsends
      have hothers : ∀ k' ∈ counts, 0 < k' := fun k' hk' => hpositive k' (by simp [hk'])
      refine ⟨hpositive k (by simp), counts, rfl, hothers, ?_, ?_⟩
      · cases counts with
        | nil => exact .inl rfl
        | cons k' counts =>
          simp only [reduceCtorEq, List.dropLast_cons_cons, List.sum_cons, false_or] at hneeded
          right
          omega
      · rw [List.sum_cons] at hreached
        exact hreached.imp_left fun h => by omega
  · rintro ⟨hk, counts, rfl, hpositive, hneeded, hreached⟩
    refine ⟨k :: counts, rfl, ?_, ?_, ?_⟩
    · intro k' hk'
      rcases List.mem_cons.1 hk' with rfl | hk'
      · exact hk
      · exact hpositive k' hk'
    · right
      cases counts with
      | nil => simpa using hn
      | cons k' counts =>
        simp only [reduceCtorEq, false_or] at hneeded
        rw [List.dropLast_cons_cons, List.sum_cons]
        omega
    · rw [List.sum_cons]
      exact hreached.imp_left fun h => by omega

/-- Bytes are sent in full exactly if the outcomes of the attempts say so. -/
lemma push_eq_ok_iff {command : String} {sends left : List SendOutcome} {data : List UInt8} :
    (∃ taken, push command sends data = (.ok (), left, taken)) ↔ Writes sends data.length left := by
  fun_induction push command sends data generalizing left with
  | case1 sends => simp [writes_zero, eq_comm]
  | case2 data hdata => simp [writes_nil, eq_comm]
  | case3 sends data hdata =>
    have hlength : 0 < data.length := by
      cases data with
      | nil => exact absurd rfl (hdata)
      | cons b data => simp
    simp [not_writes_fails hlength]
  | case4 sends b data =>
    have hlength : 0 < (b :: data).length := by simp
    rw [writes_takes hlength]
    simp
  | case5 n sends b data hn result left' taken' heq ih =>
    have hlength : 0 < (b :: data).length := by simp
    rw [writes_takes hlength, ← List.length_drop, ← ih, heq]
    simp [Nat.pos_iff_ne_zero, hn]

/-- A line on which a command has been sent in full. -/
def Line.afterSend (l : Line) (command : String) (left : List SendOutcome) : Line :=
  { l with sends := left, taken := l.taken ++ commandLine command }

/-- Sending a command succeeds exactly if its line is taken in full. -/
lemma sendCommand_eq_ok_iff {command : String} {l l' : Line} :
    sendCommand command l = (.ok (), l') ↔
      ∃ left, Writes l.sends (commandLine command).length left ∧ l' = l.afterSend command left := by
  have hpushed := push_taken command l.sends (commandLine command)
  unfold sendCommand
  rcases hpush : push command l.sends (commandLine command) with ⟨e | u, left, taken⟩
  · have hwrites : ∀ left', ¬ Writes l.sends (commandLine command).length left' := by
      intro left' hwrites
      obtain ⟨taken', hok⟩ := push_eq_ok_iff.2 hwrites
      rw [hpush] at hok
      cases hok
    simp [hwrites]
  · rw [hpush] at hpushed
    have hall : taken = commandLine command := hpushed.2 rfl
    have hwrites : ∀ left', Writes l.sends (commandLine command).length left' ↔ left' = left := by
      intro left'
      rw [← push_eq_ok_iff, hpush]
      simp [eq_comm]
    simp [hwrites, hall, Line.afterSend, eq_comm]

/-- Which outcomes are left after a command is determined. -/
lemma writes_command_unique {command : String} {sends left left' : List SendOutcome}
    (h : Writes sends (commandLine command).length left)
    (h' : Writes sends (commandLine command).length left') : left = left' := by
  have hok : sendCommand command { input := [], sends } = (.ok (), _) :=
    sendCommand_eq_ok_iff.2 ⟨left, h, rfl⟩
  have hok' : sendCommand command { input := [], sends } = (.ok (), _) :=
    sendCommand_eq_ok_iff.2 ⟨left', h', rfl⟩
  rw [hok] at hok'
  cases hok'
  rfl

/-- What is taken of a command is a first part of its line. -/
lemma taken_sendCommand (command : String) (l : Line) :
    ∃ more, (sendCommand command l).2.taken = l.taken ++ more ∧ more <+: commandLine command :=
  ⟨_, rfl, (push_taken command l.sends (commandLine command)).1⟩

/-- The lines of some commands in a row. -/
def commandLines (commands : List String) : List UInt8 :=
  commands.flatMap commandLine

/-- The lengths of the lines of some commands. -/
def lineLengths (commands : List String) : List Nat :=
  commands.map fun command => (commandLine command).length

/-- What sending some commands comes to.  It succeeds exactly if every line is taken in full and
every answer is good.  What is taken is a first part of the lines; it goes beyond the lines of some
commands only if these have been taken in full and their answers are good. -/
structure Exchanged (commands : List String) (l : Line) (r : Except Trouble Unit × Line) :
    Prop where
  /-- When it succeeds. -/
  succeeds : r.1 = .ok () ↔
    WritesAll l.sends (lineLengths commands) ∧ ∀ k < commands.length, ReadsGood l k
  /-- What is taken. -/
  takes : ∃ more, r.2.taken = l.taken ++ more ∧ more <+: commandLines commands ∧
    (r.1 = .ok () → more = commandLines commands) ∧
    ∀ k < commands.length, (commandLines (commands.take k)).length < more.length →
      WritesAll l.sends (lineLengths (commands.take k)) ∧ ∀ j < k, ReadsGood l j

namespace Exchanged

variable {command : String} {rest : List String} {l : Line}

/-- Sending stops at the first command: its line is not taken in full, or its answer is not good. -/
lemma of_stopped {l' : Line} {e : Trouble} {more : List UInt8}
    (htaken : l'.taken = l.taken ++ more) (hpart : more <+: commandLine command)
    (hstopped : ¬ (WritesAll l.sends (lineLengths (command :: rest)) ∧ ReadsGood l 0)) :
    Exchanged (command :: rest) l (.error e, l') where
  succeeds := by
    refine ⟨fun h => (by cases h), ?_⟩
    rintro ⟨hwrites, hgood⟩
    exact absurd ⟨hwrites, hgood 0 (by simp)⟩ hstopped
  takes := by
    have hlines : commandLines (command :: rest) = commandLine command ++ commandLines rest :=
      List.flatMap_cons
    refine ⟨more, htaken, ?_, fun h => (by cases h), ?_⟩
    · rw [hlines]
      exact hpart.trans (List.prefix_append _ _)
    · intro k _ hlong
      cases k with
      | zero => exact ⟨trivial, fun j hj => absurd hj (Nat.not_lt_zero j)⟩
      | succ k =>
        -- No more than the first line has been taken.
        have hshort := hpart.length_le
        rw [List.take_succ_cons, commandLines, List.flatMap_cons, List.length_append] at hlong
        omega

/-- The first command is sent, its answer is good, and sending goes on with the others. -/
lemma cons {left : List SendOutcome} {r : Except Trouble Unit × Line}
    (hwrites : Writes l.sends (commandLine command).length left) (hgood : ReadsGood l 0)
    (h : Exchanged rest (l.afterSend command left).afterRead r) :
    Exchanged (command :: rest) l r where
  succeeds := by
    rw [h.succeeds]
    constructor
    · rintro ⟨hrest, hlater⟩
      refine ⟨⟨left, hwrites, hrest⟩, fun k hk => ?_⟩
      cases k with
      | zero => exact hgood
      | succ k => exact (readsGood_afterRead _ k).1 (hlater k (Nat.lt_of_succ_lt_succ hk))
    · rintro ⟨⟨left', hwrites', hrest⟩, hgoods⟩
      obtain rfl := writes_command_unique hwrites hwrites'
      exact ⟨hrest, fun k hk => (readsGood_afterRead _ k).2 (hgoods (k + 1) (Nat.succ_lt_succ hk))⟩
  takes := by
    obtain ⟨more, htaken, hpart, hfull, hbeyond⟩ := h.takes
    have hlines : ∀ commands, commandLines (command :: commands) =
        commandLine command ++ commandLines commands := fun _ => List.flatMap_cons
    refine ⟨commandLine command ++ more, ?_, ?_, ?_, ?_⟩
    · rw [htaken, ← List.append_assoc]
      rfl
    · rw [hlines]
      exact (List.prefix_append_right_inj _).2 hpart
    · intro hok
      rw [hlines, hfull hok]
    · intro k hk hlong
      cases k with
      | zero => exact ⟨trivial, fun j hj => absurd hj (Nat.not_lt_zero j)⟩
      | succ k =>
        rw [List.take_succ_cons, hlines, List.length_append, List.length_append] at hlong
        obtain ⟨hrest, hgoods⟩ := hbeyond k (Nat.lt_of_succ_lt_succ hk)
          (Nat.lt_of_add_lt_add_left hlong)
        refine ⟨⟨left, hwrites, hrest⟩, fun j hj => ?_⟩
        cases j with
        | zero => exact hgood
        | succ j => exact (readsGood_afterRead _ j).1 (hgoods j (Nat.lt_of_succ_lt_succ hj))

end Exchanged

lemma exchanged_sendAll (commands : List String) (l : Line) :
    Exchanged commands l (sendAll commands l) := by
  induction commands generalizing l with
  | nil => exact ⟨by simp [sendAll, lineLengths, WritesAll], [], by simp [sendAll, commandLines]⟩
  | cons command rest ih =>
    rcases hsend : sendCommand command l with ⟨e | _, l₁⟩
    · have hall : sendAll (command :: rest) l = (.error e, l₁) := by simp only [sendAll, hsend]
      obtain ⟨more, htaken, hpart⟩ := taken_sendCommand command l
      rw [hsend] at htaken
      rw [hall]
      refine .of_stopped htaken hpart ?_
      rintro ⟨⟨left, hwrites, -⟩, -⟩
      have hok := sendCommand_eq_ok_iff.2 ⟨left, hwrites, rfl⟩
      rw [hsend] at hok
      cases hok
    · obtain ⟨left, hwrites, rfl⟩ := sendCommand_eq_ok_iff.1 hsend
      rcases hread : readAnswer (l.afterSend command left) with ⟨e | _, l₂⟩
      · have hall : sendAll (command :: rest) l = (.error e, l₂) := by
          simp only [sendAll, hsend, hread]
        have htaken := taken_readAnswer (l.afterSend command left)
        rw [hread] at htaken
        rw [hall]
        refine .of_stopped htaken (List.prefix_refl _) ?_
        rintro ⟨-, hgood⟩
        have hnext : ReadsGood (l.afterSend command left) 0 := hgood
        have hok := readAnswer_eq_ok_iff.2 ⟨hnext, rfl⟩
        rw [hread] at hok
        cases hok
      · obtain ⟨hgood, rfl⟩ := readAnswer_eq_ok_iff.1 hread
        have hall : sendAll (command :: rest) l =
            sendAll rest (l.afterSend command left).afterRead := by
          simp only [sendAll, hsend, hread]
        rw [hall]
        exact .cons hwrites hgood (ih _)

/-! ### The whole exchange -/

namespace Peer

/-- A daemon accepts the connection, and its first answers can be read and are good. -/
def AnswersWell (count : Nat) : Peer → Prop
  | .refusing _ => False
  | .answering input failingRead _ =>
    ∀ k < count, failingRead ≠ some (k + 1) ∧ IsGood (answerAt input k)

/-- A daemon accepts the connection and takes the lines of some commands in full. -/
def TakesAll (commands : List String) : Peer → Prop
  | .refusing _ => False
  | .answering _ _ sends => WritesAll sends (lineLengths commands)

end Peer

/-- The exchange succeeds exactly if all answers are good and all lines are taken in full.  What is
taken is a first part of the lines; it goes beyond the lines of some commands only if these have
been taken in full and the answers up to there are good. -/
lemma exchange_spec (peer : Peer) (address : String) {version : String}
    (hversion : isAscii version = true) :
    ((exchange (.ok peer) address version).result = .ok () ↔
      peer.AnswersWell ((commands version).length + 1) ∧ peer.TakesAll (commands version)) ∧
    (exchange (.ok peer) address version).taken <+: commandLines (commands version) ∧
    ((exchange (.ok peer) address version).result = .ok () →
      (exchange (.ok peer) address version).taken = commandLines (commands version)) ∧
    ∀ k < (commands version).length,
      (commandLines ((commands version).take k)).length <
          (exchange (.ok peer) address version).taken.length →
        peer.AnswersWell (k + 1) ∧ peer.TakesAll ((commands version).take k) := by
  cases peer with
  | refusing reason =>
    simp [exchange, Peer.AnswersWell]
  | answering input failingRead sends =>
    have hwell : ∀ count, Peer.AnswersWell (count + 1) (.answering input failingRead sends) ↔
        ReadsGood { input, failingRead, sends } 0 ∧
          ∀ k < count, ReadsGood (Line.afterRead { input, failingRead, sends }) k := by
      intro count
      have hall : Peer.AnswersWell (count + 1) (.answering input failingRead sends) ↔
          ∀ k < count + 1, ReadsGood { input, failingRead, sends } k := by
        simp only [Peer.AnswersWell, ReadsGood, Nat.zero_add]
      simp only [hall, readsGood_afterRead]
      constructor
      · intro hgood
        exact ⟨hgood 0 (Nat.succ_pos count), fun k hk => hgood (k + 1) (Nat.succ_lt_succ hk)⟩
      · rintro ⟨hfirst, hlater⟩ k hk
        cases k with
        | zero => exact hfirst
        | succ k => exact hlater k (Nat.lt_of_succ_lt_succ hk)
    rcases hwelcome : readAnswer { input, failingRead, sends } with ⟨e | _, l⟩
    · have hbad : ¬ ReadsGood { input, failingRead, sends } 0 := by
        intro hgood
        have hok := readAnswer_eq_ok_iff.2 ⟨hgood, rfl⟩
        rw [hwelcome] at hok
        cases hok
      have htaken := taken_readAnswer { input, failingRead, sends }
      rw [hwelcome] at htaken
      simp only at htaken
      simp [exchange, hwelcome, htaken, hwell, hbad]
    · obtain ⟨hgood, rfl⟩ := readAnswer_eq_ok_iff.1 hwelcome
      obtain ⟨hiff, more, htaken, hpart, hfull, hbeyond⟩ :=
        exchanged_sendAll (commands version) (Line.afterRead { input, failingRead, sends })
      have hresult :
          (exchange (.ok (.answering input failingRead sends)) address version).result = .ok () ↔
            (sendAll (commands version) (Line.afterRead { input, failingRead, sends })).1 =
              .ok () := by
        simp only [exchange, hwelcome, hversion, if_true]
        cases (sendAll (commands version) (Line.afterRead { input, failingRead, sends })).1 <;>
          simp [Except.mapError]
      have hmore :
          (exchange (.ok (.answering input failingRead sends)) address version).taken = more := by
        simp only [exchange, hwelcome, hversion, if_true]
        exact htaken
      rw [hresult, hmore]
      refine ⟨?_, hpart, hfull, fun k hk hlong => ?_⟩
      · rw [hiff, hwell]
        constructor
        · rintro ⟨hwrites, hgoods⟩
          exact ⟨⟨hgood, hgoods⟩, hwrites⟩
        · rintro ⟨⟨-, hgoods⟩, hwrites⟩
          exact ⟨hwrites, hgoods⟩
      · obtain ⟨hwrites, hgoods⟩ := hbeyond k hk hlong
        exact ⟨(hwell k).2 ⟨hgood, hgoods⟩, hwrites⟩

/-- An exchange fails as an operation only if nobody can try to connect, or if the version of the
panel cannot be sent. -/
lemma result_exchange_eq_failure {reached : Except Misuse Peer} {address version : String}
    {e : Failure} (h : (exchange reached address version).result = .error (.inr e)) :
    (∃ misuse, reached = .error misuse ∧ e = .notConnectable misuse) ∨
      e = .notAscii (greeting version ++ "\n") ∧ isAscii version = false := by
  rcases reached with misuse | reason | ⟨input, failingRead, sends⟩
  · cases h
    exact .inl ⟨misuse, rfl, rfl⟩
  · cases h
  · simp only [exchange] at h
    rcases hwelcome : readAnswer { input, failingRead, sends } with ⟨_ | _, l⟩
    · simp only [hwelcome] at h
      cases h
    · simp only [hwelcome] at h
      split at h
      · cases hsent : (sendAll (commands version) l).1 <;> simp [hsent, Except.mapError] at h
      · rename_i hversion
        cases h
        exact .inr ⟨rfl, by simpa using hversion⟩

namespace Notifier

/-- A notifier that has not been used, for a daemon that waits to be told. -/
structure Talks (n : Notifier) : Prop where
  fresh : n.sent = false
  listens : n.daemonType.isText listeningType = true

variable {n : Notifier} {c : Context} {misuse : Misuse} {e : Failure}

/-- If nobody can try to connect, the failure escapes from the call, and no answer is kept. -/
lemma send_of_misuse (hn : n.Talks) (hmisuse : n.reached c = .error misuse) :
    n.send c =
      { notifier := { n with sent := true }
        answer := .error (.notConnectable misuse)
        contact := some ⟨n.address, n.timeout, []⟩ } := by
  simp only [send, hn.fresh, hn.listens, Bool.not_true, Bool.false_eq_true, if_false, hmisuse,
    exchange]

/-- A call of a notifier fails only if nobody can try to connect, or if the version of the panel
cannot be sent. -/
lemma answer_send_eq_error (h : (n.send c).answer = .error e) :
    n.Talks ∧ ((∃ misuse, n.reached c = .error misuse ∧ e = .notConnectable misuse) ∨
      e = .notAscii (greeting n.version.shown ++ "\n") ∧ isAscii n.version.shown = false) := by
  unfold send at h
  split at h
  · cases h
  rename_i hfresh
  split at h
  · cases h
  rename_i hlistens
  simp only at h
  split at h
  · cases h
  · cases h
  · rename_i hresult
    cases h
    exact ⟨⟨by simpa using hfresh, by simpa using hlistens⟩, result_exchange_eq_failure hresult⟩

/-- If somebody can try to connect and the version can be sent, the call answers whether the exchange
has succeeded. -/
lemma send_of_reached {peer : Peer} (hn : n.Talks) (hversion : isAscii n.version.shown = true)
    (hpeer : n.reached c = .ok peer) :
    (n.send c).answer =
        .ok (some (exchange (.ok peer) n.address n.version.shown).result.isOk) ∧
      (n.send c).contact =
        some ⟨n.address, n.timeout, (exchange (.ok peer) n.address n.version.shown).taken⟩ := by
  unfold send
  simp only [hn.fresh, hn.listens, Bool.not_true, Bool.false_eq_true, if_false, hpeer]
  split
  · rename_i hok
    exact ⟨by rw [hok]; rfl, rfl⟩
  · rename_i trouble htrouble
    exact ⟨by rw [htrouble]; rfl, rfl⟩
  · rename_i failure hfailure
    rcases result_exchange_eq_failure hfailure with ⟨misuse, hmisuse, -⟩ | ⟨-, hunsendable⟩
    · cases hmisuse
    · rw [hversion] at hunsendable
      cases hunsendable

/-- The exact behaviour of a notifier that has not been used, with a daemon that waits to be told
and a version that can be sent.  The call ends with an answer exactly if somebody can try to connect
with the host, the port and the timeout of the notifier.

If nobody can, the failure escapes from the call: nothing has been sent, and the notifier counts as
used without an answer.  Otherwise, whatever the daemon does, there has been one attempt to connect.
The answer is `true` exactly if the daemon accepts the connection, four answers can be read and are
good, and it takes the three lines in full.  What it has taken is always a first part of the three
lines.  It has taken bytes of a line only if all answers before the line were good and all lines
before it were taken in full; and if the answer is `true`, it has taken the three lines. -/
theorem send_exactly_iff (c : Context) (hfresh : n.sent = false)
    (htype : n.daemonType = .text "imscp") (hversion : isAscii n.version.shown = true) :
    ((∃ success, (n.send c).answer = .ok (some success)) ↔ ∃ peer, n.reached c = .ok peer) ∧
    (∀ misuse, n.reached c = .error misuse →
      n.send c =
        { notifier := { n with sent := true }
          answer := .error (.notConnectable misuse)
          contact := some ⟨n.address, n.timeout, []⟩ }) ∧
    ∀ peer, n.reached c = .ok peer → ∃ success contact,
      (n.send c).answer = .ok (some success) ∧ (n.send c).contact = some contact ∧
      (success = true ↔ peer.AnswersWell 4 ∧
        peer.TakesAll ["helo " ++ n.version.shown, "execute backend command", "bye"]) ∧
      contact.taken <+:
        commandLines ["helo " ++ n.version.shown, "execute backend command", "bye"] ∧
      (∀ k < 3, (commandLines (["helo " ++ n.version.shown, "execute backend command",
          "bye"].take k)).length < contact.taken.length →
        peer.AnswersWell (k + 1) ∧
          peer.TakesAll (["helo " ++ n.version.shown, "execute backend command", "bye"].take k)) ∧
      (success = true → contact.taken =
        commandLines ["helo " ++ n.version.shown, "execute backend command", "bye"]) := by
  have hn : n.Talks := ⟨hfresh, by rw [htype]; rfl⟩
  refine ⟨⟨?_, ?_⟩, fun misuse hmisuse => send_of_misuse hn hmisuse, fun peer hpeer => ?_⟩
  · rintro ⟨success, hanswer⟩
    cases hreached : n.reached c with
    | ok peer => exact ⟨peer, rfl⟩
    | error misuse =>
      rw [send_of_misuse hn hreached] at hanswer
      cases hanswer
  · rintro ⟨peer, hpeer⟩
    exact ⟨_, (send_of_reached hn hversion hpeer).1⟩
  · obtain ⟨hiff, hpart, hfull, hbeyond⟩ := exchange_spec peer n.address hversion
    obtain ⟨hanswer, hcontact⟩ := send_of_reached hn hversion hpeer
    have hsuccess : (exchange (.ok peer) n.address n.version.shown).result.isOk = true ↔
        (exchange (.ok peer) n.address n.version.shown).result = .ok () := by
      cases (exchange (.ok peer) n.address n.version.shown).result <;>
        simp [Except.isOk, Except.toBool]
    exact ⟨_, _, hanswer, hcontact, hsuccess.trans hiff, hpart, hbeyond,
      fun hok => hfull (hsuccess.1 hok)⟩

/-- Surroundings with a daemon that takes the greeting in three pieces. -/
def samplePieces : Context where
  peer := .answering (bytesOf "250 welcome\n250 helo ok\n0250\n250 bye\n") none
    [.takes 3, .takes 1, .takes 100]

/-- A new notifier succeeds with that daemon, which so has answered well and has taken all. -/
theorem send_exactly_iff_sample :
    ((create {}).send samplePieces).answer = .ok (some true) ∧
      samplePieces.peer.AnswersWell 4 ∧
      samplePieces.peer.TakesAll ["helo 1.5.3", "execute backend command", "bye"] ∧
      ((create {}).send samplePieces).contact.map (·.taken) =
        some (bytesOf "helo 1.5.3\nexecute backend command\nbye\n") := by
  have hanswer : ((create {}).send samplePieces).answer = .ok (some true) := rfl
  obtain ⟨-, -, htalk⟩ := send_exactly_iff (n := create {}) samplePieces rfl rfl rfl
  obtain ⟨success, contact, hsuccess, hcontact, hiff, -, -, hfull⟩ := htalk _ rfl
  rw [hanswer] at hsuccess
  cases hsuccess
  refine ⟨hanswer, (hiff.1 rfl).1, (hiff.1 rfl).2, ?_⟩
  rw [hcontact, Option.map_some, hfull rfl]
  rfl

/-- Surroundings in which a negative number of seconds is no timeout. -/
def sampleNetwork : Context where
  misuse? _ _ timeout :=
    match timeout with
    | .number (.integer seconds) =>
      if seconds < 0 then some ⟨.value, "Timeout value out of range"⟩ else none
    | _ => none

/-- A new notifier with the timeout `-1`. -/
def sampleUnlimited : Notifier :=
  create { daemonTimeout := .int (-1) }

/-- The timeout `-1` is a failure that escapes from the call, although the version can be sent and
the daemon would answer well. -/
theorem negative_timeout_escapes :
    sampleUnlimited.sent = false ∧ sampleUnlimited.daemonType = .text "imscp" ∧
      isAscii sampleUnlimited.version.shown = true ∧
      (sampleUnlimited.send sampleNetwork).answer =
        .error (.notConnectable ⟨.value, "Timeout value out of range"⟩) ∧
      (sampleUnlimited.send sampleNetwork).notifier.result = none := by
  refine ⟨rfl, rfl, ?_, rfl, rfl⟩
  decide

end Notifier

end HostingPanel
