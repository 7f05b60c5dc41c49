import AcraPgProxy.Packet

namespace AcraPgProxy

/-- What the client sends before the session proper: a negotiation request, or the
StartupMessage. -/
inductive StartupMessage
  | sslRequest
  | gssEncRequest
  | startupMessage
  deriving DecidableEq, Repr

/-- SSLRequest and GSSENCRequest, which the server answers with a single byte. -/
def StartupMessage.isRequest : StartupMessage → Bool
  | .startupMessage => false
  | _ => true

/-- What the database sends: a single negotiation byte, or a length-framed packet. -/
inductive ServerMessage
  | byte (b : Char)
  | packet (p : ServerPacket)
  deriving DecidableEq, Repr

def ServerMessage.isByte : ServerMessage → Bool
  | .byte _ => true
  | .packet _ => false

/-- The answers PostgreSQL gives: 'S' or 'N' to an SSLRequest, 'N' to a GSSENCRequest, and
length-framed packets to the StartupMessage. -/
def answerAllowed : StartupMessage → ServerMessage → Bool
  | .sslRequest, .byte b => b = 'S' || b = 'N'
  | .gssEncRequest, .byte b => b = 'N'
  | .startupMessage, .packet _ => true
  | _, _ => false

/-- The sockets a goroutine uses: the plain ones, or their TLS wrappings, which `handleSSLRequest`
builds for the client and the database side together. -/
inductive Connection
  | plain
  | tls
  deriving DecidableEq, Repr

/-- Where a ClientReader (`ProxyClientConnection`) is. -/
inductive ReaderPc
  /-- Blocked in `ReadClientPacket`. -/
  | reading
  /-- Handling the message it read, which it forwards to the database. -/
  | processing (message : StartupMessage)
  /-- Blocked on `ClientStopResponse <- true` after a failed read with `stopClient` set. -/
  | acking
  | returned
  /-- Sent its error on `errCh` and returned. -/
  | failed
  deriving DecidableEq, Repr

structure ClientReader where
  pc : ReaderPc
  connections : Connection
  deriving DecidableEq, Repr

/-- A ClientReader that holds the client socket: blocked in a read, or handling what it read. -/
def ClientReader.active (r : ClientReader) : Bool :=
  match r.pc with
  | .reading | .processing _ => true
  | _ => false

/-- The message a ClientReader has read and not yet forwarded, tested by `p`. -/
def ReaderPc.holds (p : StartupMessage → Bool) : ReaderPc → Bool
  | .processing m => p m
  | _ => false

/-- Where the ServerReader (`ProxyDatabaseConnection`) is during the negotiation. -/
inductive ServerReaderPc
  | firstPacket
  /-- In `stopProxyClientConnection`, waiting on `ClientStopResponse` or the timer, with the
  answer byte it has read. -/
  | stopping (answer : Char)
  /-- 'S' forwarded by `handleSSLRequest`, the TLS handshakes under way. -/
  | upgrading
  | serve
  /-- Took a single negotiation byte for the type byte of a length-framed packet. -/
  | misframed (b : Char)
  | failed
  /-- The stop timer fired first. -/
  | timedOut
  deriving DecidableEq, Repr

/-- A ServerReader past `stateFirstPacket` that has forwarded no answer byte. -/
def ServerReaderPc.unanswered : ServerReaderPc → Bool
  | .firstPacket | .stopping _ | .timedOut => true
  | _ => false

/-- The ServerReader reading from the database in `stateServe`. -/
def ServerReaderPc.serving : ServerReaderPc → Bool
  | .serve | .misframed _ => true
  | _ => false

/-- The startup phase of one session: the ClientReaders started so far, the ServerReader, the
shared fields of `PgProxy`, the client and the database, and the messages between them. -/
structure Startup where
  /-- `proxy.setting.TLSConnectionWrapper() != nil`. -/
  tlsWrapper : Bool
  readers : List ClientReader
  server : ServerReaderPc
  stopClient : Bool
  /-- The client connection's deadline lies in the past. -/
  deadline : Bool
  clientClosed : Bool
  connections : Connection
  /-- The messages the client has still to send. -/
  plan : List StartupMessage
  sent : Nat
  fromClient : List StartupMessage
  toDatabase : List StartupMessage
  fromDatabase : List ServerMessage
  serverReads : Nat
  toClient : List ServerMessage
  deriving DecidableEq, Repr

def Startup.initial (tlsWrapper : Bool) (plan : List StartupMessage) : Startup :=
  ⟨tlsWrapper, [⟨.reading, .plain⟩], .firstPacket, false, false, false, .plain, plan, 0, [], [], [],
    0, []⟩

inductive ReaderAction
  | receive
  | forward
  /-- A handler error, or a failed write to a client socket past its deadline. -/
  | fail
  | readFails
  deriving DecidableEq, Repr

inductive StartupAction
  /-- The client sends its next message. -/
  | send
  | clientClose
  | reader (i : Nat) (a : ReaderAction)
  /-- The database answers the oldest message forwarded to it. -/
  | answer (m : ServerMessage)
  /-- The ServerReader reads the database's next message; `SetDeadline(time.Now())` succeeds or not. -/
  | serverRead (deadlineSet : Bool)
  /-- The rendezvous on `ClientStopResponse`; `SetDeadline(time.Time{})` succeeds or not. -/
  | ack (i : Nat) (resetOk : Bool)
  /-- `WrapClientConnection` and `WrapDBConnection` succeed or not. -/
  | handshake (ok : Bool)
  | timeout
  deriving DecidableEq, Repr

/-- One step of a ClientReader in startup mode: read a message, forward it, or fail; a read that
fails hands over on `ClientStopResponse` when `stopClient` is set. -/
def readerStep (s : Startup) : ReaderPc → ReaderAction → Option (ReaderPc × Startup)
  | .reading, .receive =>
    match s.fromClient with
    | m :: rest => some (.processing m, { s with fromClient := rest })
    | [] => none
  | .reading, .readFails =>
    if s.deadline || s.clientClosed then
      if s.stopClient then some (.acking, { s with stopClient := false }) else some (.failed, s)
    else none
  | .processing m, .forward => some (.reading, { s with toDatabase := s.toDatabase ++ [m] })
  | .processing _, .fail => some (.failed, s)
  | _, _ => none

def Startup.reader (s : Startup) (i : Nat) (a : ReaderAction) : Option Startup :=
  match s.readers[i]? with
  | none => none
  | some r =>
    (readerStep s r.pc a).map fun x => { x.2 with readers := s.readers.set i { r with pc := x.1 } }

/-- The client sends its next message once every message it sent has been answered. -/
def Startup.send (s : Startup) : Option Startup :=
  match s.plan with
  | m :: rest =>
    if s.sent ≤ s.toClient.length then
      some { s with plan := rest, sent := s.sent + 1, fromClient := s.fromClient ++ [m] }
    else none
  | [] => none

def Startup.answer (s : Startup) (m : ServerMessage) : Option Startup :=
  match s.toDatabase with
  | r :: rest =>
    if answerAllowed r m then some { s with toDatabase := rest, fromDatabase := s.fromDatabase ++ [m] }
    else none
  | [] => none

/-- `stopProxyClientConnection` up to its wait: set `stopClient`, then the client deadline. -/
def Startup.stopClientConnection (s : Startup) (answer : Char) (deadlineSet : Bool) : Startup :=
  if deadlineSet then { s with stopClient := true, deadline := true, server := .stopping answer }
  else { s with stopClient := true, server := .failed }

/-- The `stateFirstPacket` branch on the message `readMessageType` read: 'N', 'S' (through
`handleSSLRequest`), or the default branch, which reads a length and a payload. -/
def Startup.firstPacket (s : Startup) (m : ServerMessage) (deadlineSet : Bool) : Startup :=
  match m with
  | .byte 'N' => s.stopClientConnection 'N' deadlineSet
  | .byte 'S' =>
    if s.tlsWrapper then s.stopClientConnection 'S' deadlineSet else { s with server := .failed }
  | .byte b => { s with server := .misframed b }
  | .packet p => { s with server := .serve, toClient := s.toClient ++ [.packet p] }

/-- The ServerReader reads the database's next message: through the single-byte path in
`stateFirstPacket`, which it leaves at once, and as a length-framed packet in `stateServe`. -/
def Startup.serverRead (s : Startup) (deadlineSet : Bool) : Option Startup :=
  match s.fromDatabase with
  | [] => none
  | m :: rest =>
    let s' := { s with fromDatabase := rest, serverReads := s.serverReads + 1 }
    match s.server, m with
    | .firstPacket, m => some (s'.firstPacket m deadlineSet)
    | .serve, .packet p => some { s' with toClient := s'.toClient ++ [.packet p] }
    | .serve, .byte b => some { s' with server := .misframed b }
    | _, _ => none

/-- The rendezvous on `ClientStopResponse`: the deadline is reset, and after 'N' a new ClientReader
starts before 'N' is forwarded; after 'S' the byte is forwarded and the TLS handshakes begin. -/
def Startup.ack (s : Startup) (i : Nat) (resetOk : Bool) : Option Startup :=
  match s.readers[i]?, s.server with
  | some r, .stopping answer =>
    if r.pc = .acking then
      let s := { s with readers := s.readers.set i { r with pc := .returned } }
      if resetOk then
        match answer with
        | 'N' =>
          some { s with
            deadline := false
            readers := s.readers ++ [⟨.reading, s.connections⟩]
            toClient := s.toClient ++ [.byte 'N']
            server := .serve }
        | _ =>
          some { s with deadline := false, toClient := s.toClient ++ [.byte 'S'], server := .upgrading }
      else some { s with server := .failed }
    else none
  | _, _ => none

/-- The end of `handleSSLRequest`: on success the connections are the TLS ones and a new
ClientReader starts on them. -/
def Startup.handshake (s : Startup) (ok : Bool) : Option Startup :=
  if s.server = .upgrading then
    if ok then
      some { s with
        connections := .tls
        readers := s.readers ++ [⟨.reading, .tls⟩]
        server := .serve }
    else some { s with server := .failed }
  else none

def Startup.timeout (s : Startup) : Option Startup :=
  match s.server with
  | .stopping _ => some { s with server := .timedOut }
  | _ => none

def Startup.step (s : Startup) : StartupAction → Option Startup
  | .send => s.send
  | .clientClose => some { s with clientClosed := true }
  | .reader i a => s.reader i a
  | .answer m => s.answer m
  | .serverRead deadlineSet => s.serverRead deadlineSet
  | .ack i resetOk => s.ack i resetOk
  | .handshake ok => s.handshake ok
  | .timeout => s.timeout

def Startup.run (s : Startup) : List StartupAction → Option Startup
  | [] => some s
  | a :: as => (s.step a).bind fun s' => s'.run as

/-- The states of every schedule of a session whose client sends `plan`. -/
inductive StartupReachable (tlsWrapper : Bool) (plan : List StartupMessage) : Startup → Prop
  | initial : StartupReachable tlsWrapper plan (.initial tlsWrapper plan)
  | step {s s' : Startup} (a : StartupAction) :
      StartupReachable tlsWrapper plan s → s.step a = some s' → StartupReachable tlsWrapper plan s'

theorem StartupReachable.run {tlsWrapper : Bool} {plan : List StartupMessage} {s s' : Startup}
    (h : StartupReachable tlsWrapper plan s) :
    ∀ (as : List StartupAction), s.run as = some s' → StartupReachable tlsWrapper plan s'
  | [], hr => by cases hr; exact h
  | a :: as, hr => by
    cases ha : s.step a with
    | none => simp [Startup.run, ha] at hr
    | some t =>
      simp only [Startup.run, ha, Option.some_bind] at hr
      exact (h.step a ha).run as hr

/-- A run of concrete actions from the initial state reaches the state it computes. -/
theorem exists_startup_of_run {tlsWrapper : Bool} {plan : List StartupMessage} {β : Type}
    {f : Startup → β} {b : β} {as : List StartupAction}
    (h : ((Startup.initial tlsWrapper plan).run as).map f = some b) :
    ∃ s, StartupReachable tlsWrapper plan s ∧ f s = b := by
  cases hr : (Startup.initial tlsWrapper plan).run as with
  | none => simp [hr] at h
  | some s => exact ⟨s, StartupReachable.initial.run as hr, by simpa [hr] using h⟩

/-- An SSLRequest answered 'S': the stop, the acknowledgement, the upgrade, then the
StartupMessage and the server's first packet. -/
def sslUpgradeTrace : List StartupAction :=
  [.send, .reader 0 .receive, .reader 0 .forward, .answer (.byte 'S'), .serverRead true,
    .reader 0 .readFails, .ack 0 true, .handshake true, .send, .reader 1 .receive,
    .reader 1 .forward, .answer (.packet (.other 'R')), .serverRead true]

/-- The client's messages of kind `p` on their way to the database: sent, held by a ClientReader,
or forwarded and not yet answered. -/
def Startup.inFlight (s : Startup) (p : StartupMessage → Bool) : Nat :=
  s.fromClient.countP p + s.readers.countP (fun r => r.pc.holds p) + s.toDatabase.countP p

section Steps

variable {s s' : Startup}

theorem readerStep_cases {pc pc' : ReaderPc} {a : ReaderAction} {t : Startup}
    (h : readerStep s pc a = some (pc', t)) :
    (∃ m rest, pc = .reading ∧ s.fromClient = m :: rest ∧ pc' = .processing m ∧
      t = { s with fromClient := rest }) ∨
    (pc = .reading ∧ (pc' = .acking ∧ t = { s with stopClient := false } ∨ pc' = .failed ∧ t = s)) ∨
    (∃ m, pc = .processing m ∧
      (pc' = .reading ∧ t = { s with toDatabase := s.toDatabase ++ [m] } ∨ pc' = .failed ∧ t = s)) := by
  unfold readerStep at h
  split at h
  · split at h
    · cases h; exact .inl ⟨_, _, rfl, ‹_›, rfl, rfl⟩
    · cases h
  · split at h
    · split at h <;> cases h
      · exact .inr (.inl ⟨rfl, .inl ⟨rfl, rfl⟩⟩)
      · exact .inr (.inl ⟨rfl, .inr ⟨rfl, rfl⟩⟩)
    · cases h
  · cases h; exact .inr (.inr ⟨_, rfl, .inl ⟨rfl, rfl⟩⟩)
  · cases h; exact .inr (.inr ⟨_, rfl, .inr ⟨rfl, rfl⟩⟩)
  · cases h

theorem Startup.reader_cases {i : Nat} {a : ReaderAction} (h : s.reader i a = some s') :
    ∃ r pc t, s.readers[i]? = some r ∧ readerStep s r.pc a = some (pc, t) ∧
      s' = { t with readers := s.readers.set i { r with pc := pc } } := by
  unfold Startup.reader at h
  split at h
  · cases h
  · obtain ⟨⟨pc, t⟩, hstep, rfl⟩ := Option.map_eq_some'.mp h
    exact ⟨_, pc, t, ‹_›, hstep, rfl⟩

theorem Startup.send_cases (h : s.send = some s') :
    ∃ m rest, s.plan = m :: rest ∧ s.sent ≤ s.toClient.length ∧
      s' = { s with plan := rest, sent := s.sent + 1, fromClient := s.fromClient ++ [m] } := by
  unfold Startup.send at h
  split at h
  · split at h
    · cases h; exact ⟨_, _, ‹_›, ‹_›, rfl⟩
    · cases h
  · cases h

theorem Startup.answer_cases {m : ServerMessage} (h : s.answer m = some s') :
    ∃ r rest, s.toDatabase = r :: rest ∧ answerAllowed r m = true ∧
      s' = { s with toDatabase := rest, fromDatabase := s.fromDatabase ++ [m] } := by
  unfold Startup.answer at h
  split at h
  · split at h
    · cases h; exact ⟨_, _, ‹_›, ‹_›, rfl⟩
    · cases h
  · cases h

/-- The state the ServerReader leaves by taking the head of `fromDatabase`. -/
def Startup.afterRead (s : Startup) : Startup :=
  { s with fromDatabase := s.fromDatabase.tail, serverReads := s.serverReads + 1 }

theorem Startup.serverRead_cases {d : Bool} (h : s.serverRead d = some s') :
    ∃ m rest, s.fromDatabase = m :: rest ∧
      (s.server = .firstPacket ∧ s' = s.afterRead.firstPacket m d ∨
        s.server = .serve ∧ ((∃ p, m = .packet p ∧
          s' = { s.afterRead with toClient := s.toClient ++ [.packet p] }) ∨
          ∃ b, m = .byte b ∧ s' = { s.afterRead with server := .misframed b })) := by
  unfold Startup.serverRead at h
  split at h
  · cases h
  · rename_i m rest hdb
    refine ⟨m, rest, hdb, ?_⟩
    split at h <;> cases h
    · exact .inl ⟨‹_›, by simp [Startup.afterRead, hdb]⟩
    · exact .inr ⟨‹_›, .inl ⟨_, rfl, by simp [Startup.afterRead, hdb]⟩⟩
    · exact .inr ⟨‹_›, .inr ⟨_, rfl, by simp [Startup.afterRead, hdb]⟩⟩

/-- The outcomes of `stateFirstPacket`: the stop of the ClientReader on 'N' or 'S', a failure,
the default branch misreading any other byte, or a framed packet forwarded. -/
theorem Startup.firstPacket_cases (m : ServerMessage) (d : Bool) :
    (∃ c, (c = 'N' ∨ c = 'S') ∧ m = .byte c ∧
      s.firstPacket m d = { s with stopClient := true, deadline := true, server := .stopping c }) ∨
    (s.firstPacket m d = { s with stopClient := true, server := .failed } ∨
      s.firstPacket m d = { s with server := .failed }) ∨
    (∃ b, m = .byte b ∧ b ≠ 'N' ∧ b ≠ 'S' ∧ s.firstPacket m d = { s with server := .misframed b }) ∨
    (∃ p, m = .packet p ∧
      s.firstPacket m d = { s with server := .serve, toClient := s.toClient ++ [.packet p] }) := by
  unfold Startup.firstPacket Startup.stopClientConnection
  split
  · cases d
    · exact .inr (.inl (.inl rfl))
    · exact .inl ⟨'N', .inl rfl, rfl, rfl⟩
  · split
    · cases d
      · exact .inr (.inl (.inl rfl))
      · exact .inl ⟨'S', .inr rfl, rfl, rfl⟩
    · exact .inr (.inl (.inr rfl))
  · exact .inr (.inr (.inl ⟨_, rfl, ‹_›, ‹_›, rfl⟩))
  · exact .inr (.inr (.inr ⟨_, rfl, rfl⟩))

/-- `stateFirstPacket` is left whatever the server's first message is, and only the ServerReader's
own fields and the client's received messages change. -/
theorem Startup.firstPacket_frame (m : ServerMessage) (d : Bool) :
    (s.firstPacket m d).server ≠ .firstPacket ∧ (s.firstPacket m d).readers = s.readers ∧
      (s.firstPacket m d).connections = s.connections ∧
      (s.firstPacket m d).fromDatabase = s.fromDatabase ∧
      (s.firstPacket m d).serverReads = s.serverReads ∧ (s.firstPacket m d).sent = s.sent ∧
      (s.firstPacket m d).plan = s.plan ∧ s.toClient <+: (s.firstPacket m d).toClient ∧
      ∀ p, (s.firstPacket m d).inFlight p = s.inFlight p := by
  rcases Startup.firstPacket_cases m d with ⟨c, -, -, h⟩ | (h | h) | ⟨b, -, -, -, h⟩ | ⟨q, -, h⟩ <;>
    rw [h] <;> exact ⟨by simp, rfl, rfl, rfl, rfl, rfl, rfl, by simp, fun _ => rfl⟩

/-- `stateFirstPacket` reports a misframed answer only for a single byte other than 'N' and 'S'. -/
theorem Startup.firstPacket_misframed {m : ServerMessage} {d : Bool} {b : Char}
    (h : (s.firstPacket m d).server = .misframed b) : m = .byte b ∧ b ≠ 'N' ∧ b ≠ 'S' := by
  rcases Startup.firstPacket_cases m d with ⟨c, -, -, he⟩ | (he | he) | ⟨c, rfl, hN, hS, he⟩ |
      ⟨q, -, he⟩ <;> rw [he] at h <;> simp at h
  exact h ▸ ⟨rfl, hN, hS⟩

/-- A read of the ServerReader takes one message from the database, leaves `stateFirstPacket`,
and touches no message on its way to the database. -/
theorem Startup.serverRead_frame {d : Bool} (h : s.serverRead d = some s') :
    s.fromDatabase ≠ [] ∧ s'.fromDatabase = s.fromDatabase.tail ∧
      s'.serverReads = s.serverReads + 1 ∧ s'.server ≠ .firstPacket ∧ s'.sent = s.sent ∧
      s'.plan = s.plan ∧ s.toClient <+: s'.toClient ∧ ∀ p, s'.inFlight p = s.inFlight p := by
  obtain ⟨m, rest, hdb, ⟨-, rfl⟩ | ⟨hs, ⟨q, -, rfl⟩ | ⟨b, -, rfl⟩⟩⟩ := Startup.serverRead_cases h
  · obtain ⟨hs, -, -, hd, hr, hsent, hp, ht, hf⟩ := Startup.firstPacket_frame (s := s.afterRead) m d
    exact ⟨by simp [hdb], hd, hr, hs, hsent, hp, ht, hf⟩
  · exact ⟨by simp [hdb], rfl, rfl, by simp [Startup.afterRead, hs], rfl, rfl,
      by simp [Startup.afterRead], fun _ => rfl⟩
  · exact ⟨by simp [hdb], rfl, rfl, by simp, rfl, rfl, List.prefix_refl _, fun _ => rfl⟩

theorem Startup.ack_cases {i : Nat} {ok : Bool} (h : s.ack i ok = some s') :
    ∃ r c, s.readers[i]? = some r ∧ r.pc = .acking ∧ s.server = .stopping c ∧
      let u := { s with readers := s.readers.set i { r with pc := .returned } }
      (c = 'N' ∧ s' = { u with
          deadline := false
          readers := u.readers ++ [⟨.reading, s.connections⟩]
          toClient := s.toClient ++ [.byte 'N']
          server := .serve } ∨
        c ≠ 'N' ∧
          s' = { u with deadline := false, toClient := s.toClient ++ [.byte 'S'], server := .upgrading } ∨
        s' = { u with server := .failed }) := by
  unfold Startup.ack at h
  split at h
  · rename_i r c hr hs
    split at h
    · refine ⟨r, c, hr, ‹_›, hs, ?_⟩
      split at h
      · split at h <;> cases h
        · exact .inl ⟨rfl, rfl⟩
        · exact .inr (.inl ⟨‹_›, rfl⟩)
      · cases h; exact .inr (.inr rfl)
    · cases h
  · cases h

theorem Startup.handshake_cases {ok : Bool} (h : s.handshake ok = some s') :
    s.server = .upgrading ∧
      (s' = { s with connections := .tls, readers := s.readers ++ [⟨.reading, .tls⟩], server := .serve } ∨
        s' = { s with server := .failed }) := by
  unfold Startup.handshake at h
  split at h
  · split at h <;> cases h
    · exact ⟨‹_›, .inl rfl⟩
    · exact ⟨‹_›, .inr rfl⟩
  · cases h

theorem Startup.timeout_cases (h : s.timeout = some s') :
    ∃ c, s.server = .stopping c ∧ s' = { s with server := .timedOut } := by
  unfold Startup.timeout at h
  split at h
  · cases h; exact ⟨_, ‹_›, rfl⟩
  · cases h

/-- What the stop handshake and the TLS upgrade leave alone: the messages between the client and
the database, the ServerReader's reads, and what it has forwarded. -/
structure HandoverFrame (s s' : Startup) : Prop where
  was_past_first : s.server ≠ .firstPacket
  past_first : s'.server ≠ .firstPacket
  not_misframed : ∀ b, s'.server ≠ .misframed b
  serverReads : s'.serverReads = s.serverReads
  fromDatabase : s'.fromDatabase = s.fromDatabase
  sent : s'.sent = s.sent
  plan : s'.plan = s.plan
  toClient : s.toClient <+: s'.toClient
  inFlight : ∀ p, s'.inFlight p = s.inFlight p

/-- Handing a ClientReader over at the rendezvous, and starting a new one, moves no message. -/
theorem inFlight_handover {i : Nat} {r : ClientReader} (hr : s.readers[i]? = some r)
    (hpc : r.pc = .acking) (extra : List ClientReader) (he : ∀ x ∈ extra, x.pc = .reading)
    (p : StartupMessage → Bool) :
    (s.readers.set i { r with pc := .returned } ++ extra).countP (fun r => r.pc.holds p) =
      s.readers.countP fun r => r.pc.holds p := by
  obtain ⟨hi, rfl⟩ := List.getElem?_eq_some_iff.mp hr
  have hz : extra.countP (fun r => r.pc.holds p) = 0 :=
    List.countP_eq_zero.mpr fun x hx => by simp [he x hx, ReaderPc.holds]
  rw [List.countP_append, List.countP_set _ _ _ _ hi, hz]
  simp [hpc, ReaderPc.holds]

theorem Startup.ack_frame {i : Nat} {ok : Bool} (h : s.ack i ok = some s') : HandoverFrame s s' := by
  obtain ⟨r, c, hr, hpc, hs, hcase⟩ := Startup.ack_cases h
  rcases hcase with ⟨-, rfl⟩ | ⟨-, rfl⟩ | rfl
  · exact ⟨by simp [hs], by simp, by simp, rfl, rfl, rfl, rfl, by simp,
      fun p => by simpa [Startup.inFlight] using inFlight_handover hr hpc [⟨.reading, s.connections⟩] (by simp) p⟩
  · exact ⟨by simp [hs], by simp, by simp, rfl, rfl, rfl, rfl, by simp,
      fun p => by simpa [Startup.inFlight] using inFlight_handover hr hpc [] (by simp) p⟩
  · exact ⟨by simp [hs], by simp, by simp, rfl, rfl, rfl, rfl, by simp,
      fun p => by simpa [Startup.inFlight] using inFlight_handover hr hpc [] (by simp) p⟩

theorem Startup.handshake_frame {ok : Bool} (h : s.handshake ok = some s') : HandoverFrame s s' := by
  obtain ⟨hs, rfl | rfl⟩ := Startup.handshake_cases h
  · exact ⟨by simp [hs], by simp, by simp, rfl, rfl, rfl, rfl, by simp,
      fun p => by simp [Startup.inFlight, ReaderPc.holds]⟩
  · exact ⟨by simp [hs], by simp, by simp, rfl, rfl, rfl, rfl, by simp, fun _ => rfl⟩

theorem Startup.timeout_frame (h : s.timeout = some s') : HandoverFrame s s' := by
  obtain ⟨c, hs, rfl⟩ := Startup.timeout_cases h
  exact ⟨by simp [hs], by simp, by simp, rfl, rfl, rfl, rfl, by simp, fun _ => rfl⟩

theorem Startup.inFlight_le (p : StartupMessage → Bool) : s.inFlight p ≤ s.inFlight fun _ => true := by
  have hr : s.readers.countP (fun r => r.pc.holds p) ≤ s.readers.countP fun r => r.pc.holds fun _ => true :=
    List.countP_mono_left fun r _ => by cases r.pc <;> simp [ReaderPc.holds]
  have hc : s.fromClient.countP p ≤ s.fromClient.countP fun _ => true := List.countP_mono_left (by simp)
  have hd : s.toDatabase.countP p ≤ s.toDatabase.countP fun _ => true := List.countP_mono_left (by simp)
  simp only [Startup.inFlight]
  omega

/-- A ClientReader's step moves or drops a message on its way to the database, and touches nothing
the ServerReader or the database reads. -/
theorem Startup.reader_frame {i : Nat} {a : ReaderAction} (h : s.reader i a = some s') :
    s'.server = s.server ∧ s'.toClient = s.toClient ∧ s'.fromDatabase = s.fromDatabase ∧
      s'.serverReads = s.serverReads ∧ s'.sent = s.sent ∧ s'.plan = s.plan ∧
      ∀ p, s'.inFlight p ≤ s.inFlight p := by
  obtain ⟨r, pc, t, hr, hstep, rfl⟩ := Startup.reader_cases h
  obtain ⟨hi, rfl⟩ := List.getElem?_eq_some_iff.mp hr
  have hcount : ∀ p, (s.readers.set i { s.readers[i] with pc := pc }).countP (fun r => r.pc.holds p) +
      (if s.readers[i].pc.holds p then 1 else 0) =
      s.readers.countP (fun r => r.pc.holds p) + if pc.holds p then 1 else 0 := fun p => by
    have := List.boole_getElem_le_countP (fun r : ClientReader => r.pc.holds p) s.readers i hi
    rw [List.countP_set _ _ _ _ hi]
    simp only at this ⊢
    omega
  rcases readerStep_cases hstep with ⟨m, rest, hpc, hfc, rfl, rfl⟩ | ⟨hpc, ⟨rfl, rfl⟩ | ⟨rfl, rfl⟩⟩ |
      ⟨m, hpc, ⟨rfl, rfl⟩ | ⟨rfl, rfl⟩⟩ <;>
    refine ⟨rfl, rfl, rfl, rfl, rfl, rfl, fun p => ?_⟩ <;>
    have := hcount p <;>
    simp only [Startup.inFlight, hpc, ReaderPc.holds, List.countP_append, List.countP_singleton,
      Bool.false_eq_true, if_false] at this ⊢
  · rw [hfc, List.countP_cons]; omega
  all_goals omega

end Steps


section Negotiation

variable {s s' : Startup}

/-- What every schedule keeps of the ServerReader's reads and of the client's pacing: the
ServerReader is in `stateFirstPacket` exactly until its first read, and everything downstream of
the client stands for a distinct message it sent. -/
structure ReadsInv (s : Startup) : Prop where
  first_iff : s.server = .firstPacket ↔ s.serverReads = 0
  unanswered : s.serverReads = 0 → s.toClient = []
  conserved : s.inFlight (fun _ => true) + s.fromDatabase.length + s.serverReads ≤ s.sent
  paced : s.sent ≤ s.toClient.length + 1
  answers : ∀ b, ServerMessage.byte b ∈ s.fromDatabase → b = 'S' ∨ b = 'N'

theorem ReadsInv.initial (tlsWrapper : Bool) (plan : List StartupMessage) :
    ReadsInv (.initial tlsWrapper plan) where
  first_iff := by simp [Startup.initial]
  unanswered _ := rfl
  conserved := by simp [Startup.initial, Startup.inFlight, ReaderPc.holds]
  paced := by simp [Startup.initial]
  answers := by simp [Startup.initial]

theorem ReadsInv.handover (hi : ReadsInv s) (hf : HandoverFrame s s') : ReadsInv s' where
  first_iff := by
    have := hi.first_iff.not.mp hf.was_past_first
    simp [hf.past_first, hf.serverReads, this]
  unanswered h := absurd (hf.serverReads ▸ h) (hi.first_iff.not.mp hf.was_past_first)
  conserved := by rw [hf.inFlight, hf.fromDatabase, hf.serverReads, hf.sent]; exact hi.conserved
  paced := hf.sent ▸ hi.paced.trans (Nat.add_le_add_right hf.toClient.length_le 1)
  answers := hf.fromDatabase ▸ hi.answers

theorem answerAllowed_byte {r : StartupMessage} {b : Char} (h : answerAllowed r (.byte b) = true) :
    r.isRequest = true ∧ (b = 'S' ∨ b = 'N') := by
  cases r <;> simp_all [answerAllowed, StartupMessage.isRequest]

theorem ReadsInv.step {a : StartupAction} (hi : ReadsInv s) (h : s.step a = some s') : ReadsInv s' := by
  have hc := hi.conserved
  cases a with
  | send =>
    obtain ⟨m, rest, -, hle, rfl⟩ := Startup.send_cases h
    exact ⟨hi.first_iff, hi.unanswered, by simp [Startup.inFlight] at hc ⊢; omega, by simpa using hle,
      hi.answers⟩
  | clientClose => cases h; exact ⟨hi.first_iff, hi.unanswered, hi.conserved, hi.paced, hi.answers⟩
  | reader i a =>
    obtain ⟨hs, ht, hd, hr, hsent, -, hf⟩ := Startup.reader_frame h
    have := hf fun _ => true
    exact ⟨hs ▸ hr ▸ hi.first_iff, hr ▸ ht ▸ hi.unanswered, by rw [hd, hr, hsent]; omega,
      hsent ▸ ht ▸ hi.paced, hd ▸ hi.answers⟩
  | answer m =>
    obtain ⟨r, rest, hd, hok, rfl⟩ := Startup.answer_cases h
    refine ⟨hi.first_iff, hi.unanswered, by simp [Startup.inFlight, hd] at hc ⊢; omega, hi.paced,
      fun b hb => ?_⟩
    rcases List.mem_append.mp hb with hb | hb
    · exact hi.answers b hb
    · exact (answerAllowed_byte (List.mem_singleton.mp hb ▸ hok)).2
  | serverRead d =>
    obtain ⟨hne, hd, hr, hs, hsent, -, ht, hf⟩ := Startup.serverRead_frame h
    have hlen : 0 < s.fromDatabase.length := List.length_pos.mpr hne
    refine ⟨by simp [hs, hr], fun h => by simp [hr] at h, ?_, hsent ▸ hi.paced.trans
      (Nat.add_le_add_right ht.length_le 1), fun b hb => hi.answers b (List.mem_of_mem_tail (hd ▸ hb))⟩
    rw [hf, hd, hr, hsent, List.length_tail]
    omega
  | ack i ok => exact hi.handover (Startup.ack_frame h)
  | handshake ok => exact hi.handover (Startup.handshake_frame h)
  | timeout => exact hi.handover (Startup.timeout_frame h)

/-- What a session keeps whose client sends a negotiation request at most as its first message:
once the ServerReader has read the first answer, no request and no single byte is left. -/
structure OneRequestInv (s : Startup) : Prop where
  plan_tail : ∀ m ∈ s.plan.tail, m.isRequest = false
  plan_sent : 0 < s.sent → ∀ m ∈ s.plan, m.isRequest = false
  after_first : 0 < s.serverReads →
    s.inFlight StartupMessage.isRequest = 0 ∧ ∀ m ∈ s.fromDatabase, m.isByte = false
  not_misframed : ∀ b, s.server ≠ .misframed b

theorem OneRequestInv.handover (ho : OneRequestInv s) (hf : HandoverFrame s s') : OneRequestInv s' where
  plan_tail := hf.plan ▸ ho.plan_tail
  plan_sent := hf.plan ▸ hf.sent ▸ ho.plan_sent
  after_first h := by
    rw [hf.inFlight, hf.fromDatabase]
    exact ho.after_first (hf.serverReads ▸ h)
  not_misframed := hf.not_misframed

theorem OneRequestInv.send (hi : ReadsInv s) (ho : OneRequestInv s) (h : s.send = some s') :
    OneRequestInv s' := by
  obtain ⟨m, rest, hp, -, rfl⟩ := Startup.send_cases h
  have htail : ∀ x ∈ rest, x.isRequest = false := by simpa [hp] using ho.plan_tail
  refine ⟨fun x hx => htail x (List.mem_of_mem_tail hx), fun _ => htail, fun hr => ?_,
    ho.not_misframed⟩
  have hr : 0 < s.serverReads := hr
  have hm : m.isRequest = false := ho.plan_sent (by have := hi.conserved; omega) m (by simp [hp])
  obtain ⟨hf, hd⟩ := ho.after_first hr
  refine ⟨?_, hd⟩
  simpa [Startup.inFlight, hm] using hf

theorem OneRequestInv.answer {m : ServerMessage} (ho : OneRequestInv s) (h : s.answer m = some s') :
    OneRequestInv s' := by
  obtain ⟨r, rest, hd, hok, rfl⟩ := Startup.answer_cases h
  refine ⟨ho.plan_tail, ho.plan_sent, fun h => ?_, ho.not_misframed⟩
  obtain ⟨h0, hb⟩ := ho.after_first h
  simp only [Startup.inFlight, hd, List.countP_cons] at h0
  have hr : r.isRequest = false := by cases hreq : r.isRequest <;> simp_all
  refine ⟨by simp only [Startup.inFlight]; omega, fun x hx => ?_⟩
  rcases List.mem_append.mp hx with hx | hx
  · exact hb x hx
  · rw [List.mem_singleton.mp hx]
    cases m with
    | byte b => simp [(answerAllowed_byte hok).1] at hr
    | packet p => rfl

theorem OneRequestInv.serverRead {d : Bool} (hi : ReadsInv s) (ho : OneRequestInv s)
    (h : s.serverRead d = some s') : OneRequestInv s' := by
  obtain ⟨-, hd, hr, -, hsent, hp, -, hf⟩ := Startup.serverRead_frame h
  obtain ⟨m, rest, hdb, hcase⟩ := Startup.serverRead_cases h
  rw [hdb, List.tail_cons] at hd
  refine ⟨hp ▸ ho.plan_tail, hp ▸ hsent ▸ ho.plan_sent, fun _ => ?_, ?_⟩
  · rcases hcase with ⟨hs, -⟩ | ⟨hs, -⟩
    · -- the first read: the client has sent one message at most, and this is its answer
      have h0 := hi.first_iff.mp hs
      have hsent1 : s.sent ≤ 1 := by simpa [hi.unanswered h0] using hi.paced
      have hc := hi.conserved
      simp only [hdb, List.length_cons, h0] at hc
      have hrest : rest = [] := List.eq_nil_of_length_eq_zero (by omega)
      refine ⟨Nat.eq_zero_of_le_zero ?_, by simp [hd, hrest]⟩
      rw [hf]
      exact (Startup.inFlight_le _).trans (by omega)
    · obtain ⟨h0, hb⟩ := ho.after_first (Nat.pos_of_ne_zero (hi.first_iff.not.mp (by simp [hs])))
      exact ⟨hf _ ▸ h0, fun x hx => hb x (by simp [hdb, hd ▸ hx])⟩
  · rcases hcase with ⟨-, rfl⟩ | ⟨hs, ⟨q, -, rfl⟩ | ⟨b, rfl, -⟩⟩
    · -- the database answers a negotiation request with 'N' or 'S' only
      intro b hb
      obtain ⟨rfl, hN, hS⟩ := Startup.firstPacket_misframed hb
      rcases hi.answers b (by simp [hdb]) with rfl | rfl <;> simp at hN hS
    · simp [Startup.afterRead, hs]
    · have := (ho.after_first (Nat.pos_of_ne_zero (hi.first_iff.not.mp (by simp [hs])))).2 (.byte b)
        (by simp [hdb])
      simp [ServerMessage.isByte] at this

theorem OneRequestInv.step {a : StartupAction} (hi : ReadsInv s) (ho : OneRequestInv s)
    (h : s.step a = some s') : OneRequestInv s' := by
  cases a with
  | send => exact ho.send hi h
  | clientClose => cases h; exact ⟨ho.plan_tail, ho.plan_sent, ho.after_first, ho.not_misframed⟩
  | reader i a =>
    obtain ⟨hs, -, hd, hr, hsent, hp, hf⟩ := Startup.reader_frame h
    refine ⟨hp ▸ ho.plan_tail, hp ▸ hsent ▸ ho.plan_sent, fun h => ?_, hs ▸ ho.not_misframed⟩
    obtain ⟨h0, hb⟩ := ho.after_first (hr ▸ h)
    exact ⟨Nat.eq_zero_of_le_zero (h0 ▸ hf _), hd ▸ hb⟩
  | answer m => exact ho.answer h
  | serverRead d => exact ho.serverRead hi h
  | ack i ok => exact ho.handover (Startup.ack_frame h)
  | handshake ok => exact ho.handover (Startup.handshake_frame h)
  | timeout => exact ho.handover (Startup.timeout_frame h)

/-- The ServerReader is in `stateFirstPacket` exactly until it has read the server's first message,
whatever the ClientReaders forward; so when the client sends an SSLRequest or a GSSENCRequest at
most as its first message, every single-byte answer is read through the single-byte path. -/
theorem proxyDatabaseConnection_reads_first_reply {tlsWrapper : Bool} {plan : List StartupMessage}
    {s : Startup} (hs : StartupReachable tlsWrapper plan s) :
    (s.server = .firstPacket ↔ s.serverReads = 0) ∧
      ((∀ m ∈ plan.tail, m.isRequest = false) → ∀ b, s.server ≠ .misframed b) := by
  have : ReadsInv s ∧ ((∀ m ∈ plan.tail, m.isRequest = false) → OneRequestInv s) := by
    induction hs with
    | initial =>
      exact ⟨.initial _ _, fun hplan => ⟨hplan, by simp [Startup.initial], by simp [Startup.initial],
        by simp [Startup.initial]⟩⟩
    | step a _ h ih => exact ⟨ih.1.step h, fun hplan => (ih.2 hplan).step ih.1 h⟩
  exact ⟨this.1.first_iff, fun hplan => (this.2 hplan).not_misframed⟩

theorem proxyDatabaseConnection_reads_first_reply_sslRequest :
    ∃ s, StartupReachable true [.sslRequest, .startupMessage] s ∧ s.serverReads = 2 ∧
      s.toClient = [.byte 'S', .packet (.other 'R')] ∧
      (s.server = .firstPacket ↔ s.serverReads = 0) ∧
      ((∀ m ∈ [StartupMessage.sslRequest, .startupMessage].tail, m.isRequest = false) →
        ∀ b, s.server ≠ .misframed b) := by
  have h : ((Startup.initial true [.sslRequest, .startupMessage]).run sslUpgradeTrace).map
      (fun s => (s.serverReads, s.toClient)) = some (2, [.byte 'S', .packet (.other 'R')]) := by
    decide
  obtain ⟨s, hs, h⟩ := exists_startup_of_run h
  simp only [Prod.mk.injEq] at h
  exact ⟨s, hs, h.1, h.2, proxyDatabaseConnection_reads_first_reply hs⟩

end Negotiation

section Handover

variable {s s' : Startup}

/-- Where the stop handshake stands. Before the restart there is one ClientReader, on the plain
sockets, and no answer byte has been forwarded unless it is the 'S' of an upgrade under way, after
the reader returned; after the restart the first reader has returned and the second uses the
proxy's connections, the TLS ones exactly when the forwarded byte was 'S'. -/
def StopInv (s : Startup) : Prop :=
  match s.readers with
  | [r] => r.connections = .plain ∧ s.connections = .plain ∧
      ((∀ m ∈ s.toClient, m.isByte = false) ∧ s.server ≠ .upgrading ∧
          (s.server.unanswered = true → s.toClient = []) ∨
        r.pc = .returned ∧ s.toClient = [.byte 'S'] ∧ (s.server = .upgrading ∨ s.server = .failed))
  | [r, r'] => r.pc = .returned ∧ r'.connections = s.connections ∧ s.server.serving = true ∧
      (∃ b, s.toClient.head? = some (.byte b) ∧ (s.connections = .tls ↔ b = 'S')) ∧
      ∀ m ∈ s.toClient.tail, m.isByte = false
  | _ => False

theorem StopInv.initial (tlsWrapper : Bool) (plan : List StartupMessage) :
    StopInv (.initial tlsWrapper plan) := by
  simp [StopInv, Startup.initial]

/-- A step that leaves the readers, the ServerReader, the connections and the client alone. -/
theorem StopInv.frame (hs : StopInv s) (hr : s'.readers = s.readers) (hv : s'.server = s.server)
    (ht : s'.toClient = s.toClient) (hc : s'.connections = s.connections) : StopInv s' := by
  unfold StopInv at hs ⊢
  rw [hr, hv, ht, hc]
  exact hs

/-- A ClientReader's step changes where that reader is, never a returned reader. -/
theorem StopInv.reader {i : Nat} {a : ReaderAction} (hs : StopInv s) (h : s.reader i a = some s') :
    StopInv s' := by
  obtain ⟨r, pc, t, hr, hstep, rfl⟩ := Startup.reader_cases h
  obtain ⟨hpc, hv, ht, hc⟩ : r.pc ≠ .returned ∧ t.server = s.server ∧ t.toClient = s.toClient ∧
      t.connections = s.connections := by
    rcases readerStep_cases hstep with ⟨_, _, hp, -, -, rfl⟩ | ⟨hp, ⟨-, rfl⟩ | ⟨-, rfl⟩⟩ |
      ⟨_, hp, ⟨-, rfl⟩ | ⟨-, rfl⟩⟩ <;> simp [hp]
  unfold StopInv at hs ⊢
  simp only [hv, ht, hc]
  rcases hrs : s.readers with _ | ⟨r0, _ | ⟨r1, _ | ⟨r2, rest⟩⟩⟩ <;> rw [hrs] at hs hr
  · simp at hr
  · obtain ⟨rfl, rfl⟩ : i = 0 ∧ r0 = r := by cases i <;> simp_all
    exact ⟨hs.1, hs.2.1, hs.2.2.elim .inl fun h => absurd h.1 hpc⟩
  · rcases i with _ | _ | i
    · simp only [List.getElem?_cons_zero, Option.some.injEq] at hr
      exact absurd (hr ▸ hs.1) hpc
    · simp only [List.getElem?_cons_succ, List.getElem?_cons_zero, Option.some.injEq] at hr
      subst hr
      simpa using hs
    · simp at hr
  · exact hs.elim

theorem StopInv.serverRead {d : Bool} (hs : StopInv s) (h : s.serverRead d = some s') :
    StopInv s' := by
  obtain ⟨m, rest, -, ⟨hf, rfl⟩ | ⟨hserve, ⟨q, -, rfl⟩ | ⟨b, -, rfl⟩⟩⟩ := Startup.serverRead_cases h
  · -- the first read: one ClientReader, and nothing forwarded yet
    unfold StopInv at hs
    rcases hrs : s.readers with _ | ⟨r0, _ | ⟨r1, _ | ⟨r2, rest⟩⟩⟩ <;> rw [hrs] at hs
    · exact hs.elim
    · obtain ⟨hr0, hc, hs⟩ := hs
      have ht : s.toClient = [] := by
        rcases hs with ⟨-, -, hnil⟩ | ⟨-, -, hv | hv⟩
        · exact hnil (by simp [hf, ServerReaderPc.unanswered])
        all_goals simp [hf] at hv
      rcases Startup.firstPacket_cases (s := s.afterRead) m d with ⟨c, -, -, he⟩ | (he | he) |
          ⟨c, -, -, -, he⟩ | ⟨q, -, he⟩ <;>
        rw [he] <;> simp [StopInv, Startup.afterRead, hrs, hr0, hc, ht, ServerReaderPc.unanswered,
          ServerMessage.isByte]
    · simp [ServerReaderPc.serving, hf] at hs
    · exact hs.elim
  · -- stateServe forwards a framed packet
    unfold StopInv at hs ⊢
    simp only [Startup.afterRead]
    rcases hrs : s.readers with _ | ⟨r0, _ | ⟨r1, _ | ⟨r2, rest⟩⟩⟩ <;> rw [hrs] at hs
    · exact hs.elim
    · obtain ⟨hr0, hc, ⟨hb, -, -⟩ | ⟨-, -, hv | hv⟩⟩ := hs
      · refine ⟨hr0, hc, .inl ⟨fun x hx => ?_, by simp [hserve], by simp [hserve, ServerReaderPc.unanswered]⟩⟩
        rcases List.mem_append.mp hx with hx | hx
        · exact hb x hx
        · simp [List.mem_singleton.mp hx, ServerMessage.isByte]
      all_goals simp [hserve] at hv
    · obtain ⟨hr0, hr1, hv, ⟨b, hb, hbc⟩, htail⟩ := hs
      obtain ⟨tl, hto⟩ : ∃ tl, s.toClient = .byte b :: tl := by
        cases hto : s.toClient <;> simp_all
      rw [hto] at htail
      refine ⟨hr0, hr1, hv, ⟨b, by simp [hto], hbc⟩, fun x hx => ?_⟩
      simp only [hto, List.cons_append, List.tail_cons, List.mem_append, List.mem_singleton] at hx
      rcases hx with hx | rfl
      · exact htail x (by simpa using hx)
      · rfl
    · exact hs.elim
  · -- stateServe misreads a single byte
    unfold StopInv at hs ⊢
    dsimp only [Startup.afterRead]
    rcases hrs : s.readers with _ | ⟨r0, _ | ⟨r1, _ | ⟨r2, rest⟩⟩⟩ <;> rw [hrs] at hs
    · exact hs.elim
    · obtain ⟨hr0, hc, ⟨hb, -, -⟩ | ⟨-, -, hv | hv⟩⟩ := hs
      · exact ⟨hr0, hc, .inl ⟨hb, by simp, by simp [ServerReaderPc.unanswered]⟩⟩
      all_goals simp [hserve] at hv
    · exact ⟨hs.1, hs.2.1, rfl, hs.2.2.2⟩
    · exact hs.elim

/-- The rendezvous hands the old ClientReader over: after 'N' the new reader starts on the plain
sockets before 'N' is forwarded; after 'S' the byte is forwarded with no reader running. -/
theorem StopInv.ack {i : Nat} {ok : Bool} (hs : StopInv s) (h : s.ack i ok = some s') : StopInv s' := by
  obtain ⟨r, c, hr, -, hv, hcase⟩ := Startup.ack_cases h
  unfold StopInv at hs
  rcases hrs : s.readers with _ | ⟨r0, _ | ⟨r1, _ | ⟨r2, rest⟩⟩⟩ <;> rw [hrs] at hs hr
  · simp at hr
  · obtain ⟨rfl, rfl⟩ : i = 0 ∧ r0 = r := by cases i <;> simp_all
    obtain ⟨hr0, hc, ⟨-, -, hnil⟩ | ⟨-, -, hv' | hv'⟩⟩ := hs
    · have ht : s.toClient = [] := hnil (by simp [hv, ServerReaderPc.unanswered])
      rcases hcase with ⟨-, rfl⟩ | ⟨-, rfl⟩ | rfl <;>
        simp [StopInv, hrs, hr0, hc, ht, ServerReaderPc.serving, ServerReaderPc.unanswered,
          ServerMessage.isByte]
    all_goals simp [hv] at hv'
  · simp [ServerReaderPc.serving, hv] at hs
  · exact hs.elim

/-- The end of the upgrade starts the new ClientReader on the TLS connections. -/
theorem StopInv.handshake {ok : Bool} (hs : StopInv s) (h : s.handshake ok = some s') :
    StopInv s' := by
  obtain ⟨hv, hcase⟩ := Startup.handshake_cases h
  unfold StopInv at hs
  rcases hrs : s.readers with _ | ⟨r0, _ | ⟨r1, _ | ⟨r2, rest⟩⟩⟩ <;> rw [hrs] at hs
  · exact hs.elim
  · obtain ⟨hr0, hc, ⟨-, hup, -⟩ | ⟨hret, ht, -⟩⟩ := hs
    · exact absurd hv hup
    · rcases hcase with rfl | rfl <;> simp [StopInv, hrs, hr0, hc, hret, ht, ServerReaderPc.serving]
  · simp [ServerReaderPc.serving, hv] at hs
  · exact hs.elim

theorem StopInv.timeout (hs : StopInv s) (h : s.timeout = some s') : StopInv s' := by
  obtain ⟨c, hv, rfl⟩ := Startup.timeout_cases h
  unfold StopInv at hs ⊢
  rcases hrs : s.readers with _ | ⟨r0, _ | ⟨r1, _ | ⟨r2, rest⟩⟩⟩ <;> rw [hrs] at hs
  · exact hs.elim
  · obtain ⟨hr0, hc, ⟨hb, -, hnil⟩ | ⟨-, -, hv' | hv'⟩⟩ := hs
    · have ht : s.toClient = [] := hnil (by simp [hv, ServerReaderPc.unanswered])
      exact ⟨hr0, hc, .inl ⟨hb, by simp, fun _ => ht⟩⟩
    all_goals simp [hv] at hv'
  · simp [ServerReaderPc.serving, hv] at hs
  · exact hs.elim

theorem StopInv.step {a : StartupAction} (hs : StopInv s) (h : s.step a = some s') : StopInv s' := by
  cases a with
  | send => obtain ⟨_, _, -, -, rfl⟩ := Startup.send_cases h; exact hs.frame rfl rfl rfl rfl
  | clientClose => cases h; exact hs.frame rfl rfl rfl rfl
  | reader i a => exact hs.reader h
  | answer m => obtain ⟨_, _, -, -, rfl⟩ := Startup.answer_cases h; exact hs.frame rfl rfl rfl rfl
  | serverRead d => exact hs.serverRead h
  | ack i ok => exact hs.ack h
  | handshake ok => exact hs.handshake h
  | timeout => exact hs.timeout h

/-- The stop handshake hands the client socket over: at most one ClientReader holds it, none while
the ServerReader runs the TLS handshake; the answer byte is forwarded and a new ClientReader
started only after the old one acknowledged and returned, the new one on the TLS connections after
an upgrade; and when the stop times out nothing is forwarded and no reader started. -/
theorem stopProxyClientConnection_hands_over {tlsWrapper : Bool} {plan : List StartupMessage}
    {s : Startup} (hs : StartupReachable tlsWrapper plan s) :
    s.readers.countP ClientReader.active ≤ 1 ∧
      (s.server = .upgrading → s.readers.countP ClientReader.active = 0) ∧
      (∀ b, ServerMessage.byte b ∈ s.toClient → ∃ r rs, s.readers = r :: rs ∧ r.pc = .returned) ∧
      (∀ r r' rs, s.readers = r :: r' :: rs → r.pc = .returned) ∧
      (ServerMessage.byte 'S' ∈ s.toClient → ∀ r ∈ s.readers.tail, r.connections = .tls) ∧
      (s.server = .timedOut → s.readers.length = 1 ∧ s.toClient = []) := by
  have hinv : StopInv s := by
    induction hs with
    | initial => exact .initial _ _
    | step a _ h ih => exact ih.step h
  unfold StopInv at hinv
  rcases hrs : s.readers with _ | ⟨r0, _ | ⟨r1, _ | ⟨r2, rest⟩⟩⟩ <;> rw [hrs] at hinv
  · exact hinv.elim
  · obtain ⟨-, -, ⟨hb, hup, hnil⟩ | ⟨hret, ht, hv⟩⟩ := hinv
    · refine ⟨by simp [List.countP_cons]; split <;> simp, fun h => absurd h hup,
        fun b hmem => absurd (hb _ hmem) (by simp [ServerMessage.isByte]), by simp, fun hmem => absurd
        (hb _ hmem) (by simp [ServerMessage.isByte]), fun h => ⟨rfl, hnil (by simp [h,
        ServerReaderPc.unanswered])⟩⟩
    · refine ⟨by simp [ClientReader.active, hret], fun _ => by simp [ClientReader.active, hret],
        fun _ _ => ⟨r0, [], rfl, hret⟩, by simp, by simp, fun h => ?_⟩
      rcases hv with hv | hv <;> simp [hv] at h
  · obtain ⟨hret, hr1, hv, ⟨b, hb, hbc⟩, htail⟩ := hinv
    have hhead : ∀ c, ServerMessage.byte c ∈ s.toClient → c = b := by
      intro c hc
      cases hto : s.toClient with
      | nil => simp [hto] at hc
      | cons x tl =>
        rw [hto] at hb hc htail
        simp only [List.head?_cons, Option.some.injEq] at hb
        rcases List.mem_cons.mp hc with hc | hc
        · rw [hb] at hc; exact ServerMessage.byte.inj hc
        · exact absurd (htail _ hc) (by simp [ServerMessage.isByte])
    refine ⟨?_, fun h => by simp [h, ServerReaderPc.serving] at hv, fun _ _ => ⟨r0, [r1], rfl, hret⟩,
      fun r r' rs h => by simp only [List.cons.injEq] at h; exact h.1 ▸ hret, fun hS => ?_,
      fun h => by simp [h, ServerReaderPc.serving] at hv⟩
    · simp only [List.countP_cons, List.countP_nil, ClientReader.active, hret]
      split <;> simp
    · have := hhead 'S' hS
      simp [hr1, hbc.mpr this.symm]
  · exact hinv.elim

theorem stopProxyClientConnection_hands_over_upgrade :
    ∃ s, StartupReachable true [.sslRequest, .startupMessage] s ∧
      s.toClient = [.byte 'S', .packet (.other 'R')] ∧ s.readers.length = 2 ∧
      s.readers.countP ClientReader.active ≤ 1 ∧
      (s.server = .upgrading → s.readers.countP ClientReader.active = 0) ∧
      (∀ b, ServerMessage.byte b ∈ s.toClient → ∃ r rs, s.readers = r :: rs ∧ r.pc = .returned) ∧
      (∀ r r' rs, s.readers = r :: r' :: rs → r.pc = .returned) ∧
      (ServerMessage.byte 'S' ∈ s.toClient → ∀ r ∈ s.readers.tail, r.connections = .tls) ∧
      (s.server = .timedOut → s.readers.length = 1 ∧ s.toClient = []) := by
  have h : ((Startup.initial true [.sslRequest, .startupMessage]).run sslUpgradeTrace).map
      (fun s => (s.toClient, s.readers.length)) = some ([.byte 'S', .packet (.other 'R')], 2) := by
    decide
  obtain ⟨s, hs, h⟩ := exists_startup_of_run h
  simp only [Prod.mk.injEq] at h
  exact ⟨s, hs, h.1, h.2, stopProxyClientConnection_hands_over hs⟩

end Handover


/-- A GSSENCRequest answered 'N', then an SSLRequest answered 'S'. -/
def gssThenSslTrace : List StartupAction :=
  [.send, .reader 0 .receive, .reader 0 .forward, .answer (.byte 'N'), .serverRead true,
    .reader 0 .readFails, .ack 0 true, .send, .reader 1 .receive, .reader 1 .forward,
    .answer (.byte 'S'), .serverRead true]

/-- The ServerReader leaves `stateFirstPacket` after the first 'N' and restarts the ClientReader in
startup mode; the server's 'S' to the next SSLRequest is then read in `stateServe` as the type byte
of a length-framed packet. -/
theorem proxyDatabaseConnection_misframes_second_answer :
    ∃ s, StartupReachable true [.gssEncRequest, .sslRequest] s ∧ s.server = .misframed 'S' :=
  exists_startup_of_run (f := Startup.server)
    (show ((Startup.initial true [.gssEncRequest, .sslRequest]).run gssThenSslTrace).map
      Startup.server = some (.misframed 'S') by decide)

end AcraPgProxy
