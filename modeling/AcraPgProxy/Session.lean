import AcraPgProxy.ClientLoop
import AcraPgProxy.DatabaseLoop

namespace AcraPgProxy

/-- The packet that ends a top-level request: a simple Query, or the Sync that ends a batch. -/
def ClientPacket.endsRequest : ClientPacket → Bool
  | .query _ | .sync => true
  | _ => false

def ClientPacket.isQuery : ClientPacket → Bool
  | .query _ => true
  | _ => false

/-- The packets that open an entry of the pending-query queue: a simple Query and an Execute. -/
def ClientPacket.opensEntry : ClientPacket → Bool
  | .query _ | .execute _ => true
  | _ => false

/-- The packets PostgreSQL may answer with DataRows or a ReadyForQuery. -/
def ClientPacket.readsQueue : ClientPacket → Bool
  | .query _ | .execute _ | .sync => true
  | _ => false

/-- The packets whose handling sets the client session: a simple Query and a Parse. -/
def ClientPacket.setsSession : ClientPacket → Bool
  | .query _ | .parse _ => true
  | _ => false

/-- Only a simple Query and a Parse change the client session. -/
theorem handleClientPacket_session (env : Collaborators) (proxy : PgProxy) {packet : ClientPacket}
    (h : packet.setsSession = false) :
    (handleClientPacket env proxy packet).proxy.session = proxy.session := by
  cases packet with
  | bind b =>
    obtain ⟨_, hb⟩ := handleBindPacket_proxy env proxy (.bind b)
    simp only [handleClientPacket, ClientPacket.packetType, hb]
  | execute e =>
    simp only [handleClientPacket, ClientPacket.packetType, ClientPacket.getExecuteData]
    split <;> rfl
  | malformed t => simp [handleClientPacket_malformed]
  | query q => cases h
  | parse p => cases h
  | _ => rfl

/-- The ClientReader's rewrites keep the kind of a packet. -/
theorem ForwardRewrite.kind {env : Collaborators} {c p : ClientPacket} (h : ForwardRewrite env c p) :
    p.endsRequest = c.endsRequest ∧ p.isQuery = c.isQuery ∧ p.opensEntry = c.opensEntry ∧
      p.readsQueue = c.readsQueue := by
  cases h <;> exact ⟨rfl, rfl, rfl, rfl⟩

/-- A censored packet that ends a request is a simple Query. -/
theorem isQuery_of_censored {env : Collaborators} {c : ClientPacket}
    (hc : censoredBy env c = true) (he : c.endsRequest = true) : c.isQuery = true := by
  cases c <;> simp_all [censoredBy, ClientPacket.endsRequest, ClientPacket.isQuery]

/-- A packet whose answer may hold a ReadyForQuery but that opens no entry is a Sync. -/
theorem endsRequest_of_readsQueue {c : ClientPacket} (hr : c.readsQueue = true)
    (ho : c.opensEntry = false) : c.endsRequest = true := by
  cases c <;> simp_all [ClientPacket.readsQueue, ClientPacket.opensEntry, ClientPacket.endsRequest]

/-- A censored packet other than a simple Query is a Parse, which opens no entry. -/
theorem opensEntry_of_censored {env : Collaborators} {c : ClientPacket}
    (hc : censoredBy env c = true) (hq : c.isQuery = false) : c.opensEntry = false := by
  cases c <;> simp_all [censoredBy, ClientPacket.isQuery, ClientPacket.opensEntry]

/-- What PostgreSQL answers to one forwarded packet: a simple Query with packets ending in its one
ReadyForQuery; a Sync with packets ending in its one ReadyForQuery and holding no DataRow; an
Execute with packets holding no ReadyForQuery; any other packet with neither. -/
def answers : ClientPacket → List ServerPacket → Bool
  | .query _, r =>
    r.getLast?.any ServerPacket.isReadyForQuery && r.dropLast.all fun p => !p.isReadyForQuery
  | .sync, r =>
    r.getLast?.any ServerPacket.isReadyForQuery &&
      r.dropLast.all fun p => !p.isReadyForQuery && !p.isDataRow
  | .execute _, r => r.all fun p => !p.isReadyForQuery
  | _, r => r.all fun p => !p.isReadyForQuery && !p.isDataRow

/-- A top-level request: a simple Query, or a batch whose only Query or Sync is the Sync that
ends it. -/
def IsRequest (r : List ClientPacket) : Prop :=
  (∃ q, r = [.query q]) ∨ ∃ body, r = body ++ [.sync] ∧ ∀ c ∈ body, c.endsRequest = false

theorem countP_ready_of_last {r : List ServerPacket}
    (hl : r.getLast?.any ServerPacket.isReadyForQuery = true)
    (hb : ∀ p ∈ r.dropLast, p.isReadyForQuery = false) :
    r.countP ServerPacket.isReadyForQuery = 1 := by
  cases hr : r.getLast? with
  | none => simp [hr] at hl
  | some a =>
    obtain ⟨ys, rfl⟩ := List.getLast?_eq_some_iff.mp hr
    simp only [hr, Option.any_some] at hl
    rw [List.dropLast_concat] at hb
    rw [List.countP_append, List.countP_eq_zero.mpr (by simpa using hb)]
    simp [hl]

/-- An answer holds a ReadyForQuery only at its end, and one exactly when it answers a packet that
ends a request. -/
theorem answers_ready {c : ClientPacket} {r : List ServerPacket} (h : answers c r = true) :
    (∀ p ∈ r.dropLast, p.isReadyForQuery = false) ∧
      r.countP ServerPacket.isReadyForQuery = if c.endsRequest then 1 else 0 := by
  have hnone : (∀ p ∈ r, p.isReadyForQuery = false) →
      (∀ p ∈ r.dropLast, p.isReadyForQuery = false) ∧
        r.countP ServerPacket.isReadyForQuery = 0 := fun h =>
    ⟨fun p hp => h p (List.dropLast_subset _ hp), List.countP_eq_zero.mpr (by simpa using h)⟩
  cases c <;> simp only [answers, Bool.and_eq_true, List.all_eq_true, Bool.not_eq_true',
    Bool.and_eq_true, Bool.not_eq_eq_eq_not, Bool.not_true] at h
  case query => exact ⟨h.2, countP_ready_of_last h.1 h.2⟩
  case sync =>
    have hb : ∀ p ∈ r.dropLast, p.isReadyForQuery = false := fun p hp => (h.2 p hp).1
    exact ⟨hb, countP_ready_of_last h.1 hb⟩
  case execute => exact hnone h
  all_goals exact hnone fun p hp => (h p hp).1

/-- DataRows and ReadyForQuery packets answer only a simple Query, an Execute or a Sync. -/
theorem answers_readsQueue {c : ClientPacket} {r : List ServerPacket} (h : answers c r = true)
    {p : ServerPacket} (hp : p ∈ r) (hr : (p.isDataRow || p.isReadyForQuery) = true) :
    c.readsQueue = true := by
  cases c <;> simp only [answers, Bool.and_eq_true, List.all_eq_true, Bool.not_eq_true',
    Bool.not_eq_eq_eq_not, Bool.not_true] at h <;> first | rfl | skip
  all_goals
    obtain ⟨h1, h2⟩ := h p hp
    simp [h1, h2] at hr

/-- Each packet of a stream carries the index of the request it belongs to: the first belongs to
request `n`, and a packet for which `ends` holds is the last of its request. -/
def Tagged {α : Type} (ends : α → Bool) : Nat → List (α × Nat) → Prop
  | _, [] => True
  | n, (a, k) :: rest => k = n ∧ Tagged ends (if ends a then n + 1 else n) rest

/-- The requests of a client, each packet labelled with the index of its request. -/
def tagRequests : Nat → List (List ClientPacket) → List (ClientPacket × Nat)
  | _, [] => []
  | n, r :: rs => r.map (fun c => (c, n)) ++ tagRequests (n + 1) rs

def countReady (xs : List (ServerPacket × Nat)) : Nat := xs.countP fun x => x.1.isReadyForQuery

def countEnds (xs : List (ClientPacket × Nat)) : Nat := xs.countP fun x => x.1.endsRequest

section Tagging

variable {α : Type} {ends : α → Bool}

@[simp] theorem tagged_nil (n : Nat) : Tagged ends n [] := trivial

@[simp] theorem tagged_cons {n : Nat} {a : α} {k : Nat} {rest : List (α × Nat)} :
    Tagged ends n ((a, k) :: rest) ↔ k = n ∧ Tagged ends (if ends a then n + 1 else n) rest :=
  Iff.rfl

theorem tagged_append :
    ∀ {n : Nat} {xs : List (α × Nat)} {ys : List (α × Nat)},
      Tagged ends n (xs ++ ys) ↔
        Tagged ends n xs ∧ Tagged ends (n + xs.countP fun x => ends x.1) ys
  | n, [], ys => by simp
  | n, (a, k) :: xs, ys => by
    rw [List.cons_append, tagged_cons, tagged_cons, tagged_append, List.countP_cons]
    cases ends a <;> simp only [if_true, if_false, Bool.false_eq_true] <;>
      simp only [and_assoc, Nat.add_zero, Nat.add_assoc, Nat.add_comm 1]

/-- A response labelled with its request, whose only ending packet is its last. -/
theorem tagged_response (n : Nat) :
    ∀ {r : List α}, (∀ a ∈ r.dropLast, ends a = false) → Tagged ends n (r.map fun a => (a, n))
  | [], _ => trivial
  | [_], _ => ⟨rfl, trivial⟩
  | a :: b :: r, h => by
    have ha : ends a = false := h a (by simp)
    refine ⟨rfl, ?_⟩
    rw [ha, if_neg Bool.false_ne_true]
    exact tagged_response n fun c hc => h c (by rw [List.dropLast_cons₂]; exact .tail _ hc)

/-- The elements of a labelled stream that carry label `k`, in order. -/
def answerOf (xs : List (α × Nat)) (k : Nat) : List α :=
  (xs.filter fun x => x.2 == k).map Prod.fst

theorem answerOf_append (xs ys : List (α × Nat)) (k : Nat) :
    answerOf (xs ++ ys) k = answerOf xs k ++ answerOf ys k := by
  simp [answerOf, List.filter_append]

theorem answerOf_labelled (ps : List α) (j k : Nat) :
    answerOf (ps.map fun p => (p, j)) k = if j = k then ps else [] := by
  by_cases h : j = k <;> simp [answerOf, List.filter_map, Function.comp_def, h]

theorem answerOf_eq_nil {xs : List (α × Nat)} {k : Nat} (h : ∀ x ∈ xs, x.2 ≠ k) :
    answerOf xs k = [] := by
  simpa [answerOf, List.filter_eq_nil_iff] using h

end Tagging

theorem IsRequest.ends {r : List ClientPacket} (h : IsRequest r) :
    (∀ c ∈ r.dropLast, c.endsRequest = false) ∧ r.countP ClientPacket.endsRequest = 1 := by
  rcases h with ⟨q, rfl⟩ | ⟨body, rfl, hb⟩
  · exact ⟨by simp, rfl⟩
  · refine ⟨by simpa using hb, ?_⟩
    rw [List.countP_append, List.countP_eq_zero.mpr (by simpa using hb)]
    rfl

/-- The requests of a client, labelled from `n`, are labelled as a stream of requests. -/
theorem tagged_tagRequests :
    ∀ (n : Nat) {plan : List (List ClientPacket)}, (∀ r ∈ plan, IsRequest r) →
      Tagged ClientPacket.endsRequest n (tagRequests n plan)
  | _, [], _ => trivial
  | n, r :: rs, h => by
    have hr := (h r (List.mem_cons_self _ _)).ends
    refine tagged_append.mpr ⟨tagged_response n (by simpa using hr.1), ?_⟩
    rw [List.countP_map]
    simpa [Function.comp_def, hr.2] using
      tagged_tagRequests (n + 1) fun r' hr' => h r' (List.mem_cons_of_mem _ hr')

/-- A proxied session once startup is over: the proxy state the two readers share, where each
reader's loop stands, the requests the client has still to send, and the packets on their way
between the client, the proxy and the database, each with the index of the request it belongs
to. `tags`, `read`, `answered`, `dbDone` and `observed` are bookkeeping that neither reader reads. -/
structure Session where
  proxy : PgProxy
  clientRunning : Bool
  serverState : DatabaseHandlerState
  serverRunning : Bool
  plan : List (List ClientPacket)
  sent : Nat
  fromClient : List (ClientPacket × Nat)
  toDatabase : List (ClientPacket × Nat)
  fromDatabase : List (ServerPacket × Nat)
  toClient : List (ServerPacket × Nat)
  /-- The request each entry of the pending-query queue was appended for, in queue order. -/
  tags : List Nat
  /-- The database's packets the ServerReader has read. -/
  read : List (ServerPacket × Nat)
  /-- The ReadyForQuery packets the ServerReader has read. -/
  answered : Nat
  /-- The requests the database has answered to their end. -/
  dbDone : Nat
  /-- The client session as the ClientReader left it after each simple Query or Parse it handled,
  with the request of that packet. -/
  observed : List (ClientSession × Nat)

/-- What happens next in a session: the client sends a request, the ClientReader handles the
client's next packet, the database answers the oldest packet forwarded to it, or the ServerReader
handles the database's next packet. -/
inductive SessionAction
  | send
  | clientReads
  | databaseAnswers (response : List ServerPacket)
  | serverReads
  deriving DecidableEq, Repr

namespace Session

/-- A session right after startup: `PgProxy.fresh`, both loops running, the ServerReader in
`stateServe`. -/
def initial (plan : List (List ClientPacket)) : Session where
  proxy := .fresh
  clientRunning := true
  serverState := .stateServe
  serverRunning := true
  plan := plan
  sent := 0
  fromClient := []
  toDatabase := []
  fromDatabase := []
  toClient := []
  tags := []
  read := []
  answered := 0
  dbDone := 0
  observed := []

section Steps

variable (env : Collaborators) (waits : Bool)

/-- The client sends its next request; a client that waits sends it only once each request it
sent has had its ReadyForQuery. -/
def send (s : Session) : Option Session :=
  match s.plan with
  | [] => none
  | request :: rest =>
    if waits = true ∧ countReady s.toClient < s.sent then none
    else some { s with
      plan := rest
      sent := s.sent + 1
      fromClient := s.fromClient ++ request.map fun c => (c, s.sent) }

/-- The session once the ClientReader has handled `packet` of request `k`, one iteration of
`ProxyClientConnection`. -/
def afterClientPacket (s : Session) (packet : ClientPacket) (k : Nat)
    (rest : List (ClientPacket × Nat)) : Session :=
  let it := clientIteration env s.proxy packet
  { s with
    proxy := it.proxy
    clientRunning := it.stop.isNone
    fromClient := rest
    toDatabase := match it.write with
      | some (.toDatabase p) => s.toDatabase ++ [(p, k)]
      | _ => s.toDatabase
    toClient := match it.write with
      | some (.toClient ps) => s.toClient ++ ps.map fun p => (p, k)
      | _ => s.toClient
    tags := s.tags ++ List.replicate
      (entriesAdded packet (handleClientPacket env s.proxy packet).result) k
    observed := if packet.setsSession then s.observed ++ [(it.proxy.session, k)] else s.observed }

def clientReads (s : Session) : Option Session :=
  match s.clientRunning, s.fromClient with
  | true, (packet, k) :: rest => some (s.afterClientPacket env packet k rest)
  | _, _ => none

/-- The database answers the oldest packet forwarded to it, as `answers` allows. -/
def databaseAnswers (s : Session) (response : List ServerPacket) : Option Session :=
  match s.toDatabase with
  | [] => none
  | (packet, k) :: rest =>
    if answers packet response then
      some { s with
        toDatabase := rest
        fromDatabase := s.fromDatabase ++ response.map fun p => (p, k)
        dbDone := if packet.endsRequest then s.dbDone + 1 else s.dbDone }
    else none

/-- One iteration of `ProxyDatabaseConnection` on the database's next packet. -/
def serverReads (s : Session) : Option Session :=
  match s.serverRunning, s.fromDatabase with
  | true, (packet, k) :: rest =>
    let it := databaseIteration (handleDatabasePacket env) s.serverState s.proxy packet
    some { s with
      proxy := it.state
      serverState := it.next
      serverRunning := it.stop.isNone
      fromDatabase := rest
      toClient := s.toClient ++ it.writes.map fun p => (p, k)
      tags := if packet.isReadyForQuery then s.tags.tail else s.tags
      read := s.read ++ [(packet, k)]
      answered := if packet.isReadyForQuery then s.answered + 1 else s.answered }
  | _, _ => none

def step (s : Session) : SessionAction → Option Session
  | .send => s.send waits
  | .clientReads => s.clientReads env
  | .databaseAnswers response => s.databaseAnswers response
  | .serverReads => s.serverReads env

def run (s : Session) : List SessionAction → Option Session
  | [] => some s
  | a :: as => (s.step env waits a).bind fun s' => s'.run as

end Steps

section ClientStep

variable (env : Collaborators) (s : Session) (packet : ClientPacket) (k : Nat)
  (rest : List (ClientPacket × Nat))

@[simp] theorem afterClientPacket_proxy :
    (s.afterClientPacket env packet k rest).proxy = (handleClientPacket env s.proxy packet).proxy := by
  simp only [afterClientPacket, clientIteration]; split <;> rfl

@[simp] theorem afterClientPacket_fromClient : (s.afterClientPacket env packet k rest).fromClient = rest := rfl
@[simp] theorem afterClientPacket_plan : (s.afterClientPacket env packet k rest).plan = s.plan := rfl
@[simp] theorem afterClientPacket_sent : (s.afterClientPacket env packet k rest).sent = s.sent := rfl
@[simp] theorem afterClientPacket_fromDatabase :
    (s.afterClientPacket env packet k rest).fromDatabase = s.fromDatabase := rfl
@[simp] theorem afterClientPacket_answered : (s.afterClientPacket env packet k rest).answered = s.answered := rfl
@[simp] theorem afterClientPacket_read : (s.afterClientPacket env packet k rest).read = s.read := rfl
@[simp] theorem afterClientPacket_dbDone : (s.afterClientPacket env packet k rest).dbDone = s.dbDone := rfl
@[simp] theorem afterClientPacket_serverState :
    (s.afterClientPacket env packet k rest).serverState = s.serverState := rfl
@[simp] theorem afterClientPacket_tags :
    (s.afterClientPacket env packet k rest).tags =
      s.tags ++ List.replicate (entriesAdded packet (handleClientPacket env s.proxy packet).result) k := rfl
@[simp] theorem afterClientPacket_observed :
    (s.afterClientPacket env packet k rest).observed =
      if packet.setsSession then s.observed ++ [((handleClientPacket env s.proxy packet).proxy.session, k)]
      else s.observed := by
  simp only [afterClientPacket, clientIteration]; split
  · split <;> rfl
  · rfl

variable {env packet}

/-- A handler error stops the ClientReader and writes nothing. -/
theorem afterClientPacket_of_error {e : ProxyError}
    (h : (handleClientPacket env s.proxy packet).result = .error e) :
    (s.afterClientPacket env packet k rest).clientRunning = false ∧
      (s.afterClientPacket env packet k rest).toDatabase = s.toDatabase ∧
      (s.afterClientPacket env packet k rest).toClient = s.toClient := by
  simp [afterClientPacket, clientIteration_error env h]

/-- A censored packet is answered to the client with the censor's error and ReadyForQuery. -/
theorem afterClientPacket_of_censored (h : censoredBy env packet = true) :
    (s.afterClientPacket env packet k rest).clientRunning = true ∧
      (s.afterClientPacket env packet k rest).toDatabase = s.toDatabase ∧
      (s.afterClientPacket env packet k rest).toClient =
        s.toClient ++ (sendClientError acraCensorBlockedThisQuery).map fun p => (p, k) := by
  simp [afterClientPacket, clientIteration_censored env h]

/-- Any other packet is forwarded to the database as the handler left it. -/
theorem afterClientPacket_of_forward (h : (handleClientPacket env s.proxy packet).result = .ok false) :
    (s.afterClientPacket env packet k rest).clientRunning = !packet.isTerminate ∧
      (s.afterClientPacket env packet k rest).toDatabase =
        s.toDatabase ++ [((handleClientPacket env s.proxy packet).packet, k)] ∧
      (s.afterClientPacket env packet k rest).toClient = s.toClient := by
  simp only [afterClientPacket, clientIteration_forward env h, and_true]
  cases packet.isTerminate <;> rfl

/-- The ClientReader forwards at most the packet it handles, labelled with its request. -/
theorem afterClientPacket_toDatabase {x : ClientPacket × Nat}
    (hx : x ∈ (s.afterClientPacket env packet k rest).toDatabase) : x ∈ s.toDatabase ∨ x.2 = k := by
  rcases handleClientPacket_result_cases env s.proxy packet with ⟨e, he⟩ | hcen | hfw
  · exact .inl (by rwa [(afterClientPacket_of_error s k rest he).2.1] at hx)
  · exact .inl (by rwa [(afterClientPacket_of_censored s k rest hcen).2.1] at hx)
  · rw [(afterClientPacket_of_forward s k rest hfw).2.1] at hx
    rcases List.mem_append.mp hx with hx | hx
    · exact .inl hx
    · exact .inr (by simp at hx; simp [hx])

variable (env packet) in
/-- The ClientReader only appends to what the client receives. -/
theorem afterClientPacket_toClient :
    ∃ ys, (s.afterClientPacket env packet k rest).toClient = s.toClient ++ ys := by
  rcases handleClientPacket_result_cases env s.proxy packet with ⟨e, he⟩ | hcen | hfw
  · exact ⟨[], by simp [(afterClientPacket_of_error s k rest he).2.2]⟩
  · exact ⟨_, (afterClientPacket_of_censored s k rest hcen).2.2⟩
  · exact ⟨[], by simp [(afterClientPacket_of_forward s k rest hfw).2.2]⟩

end ClientStep

end Session

/-- The sessions reachable from `Session.initial plan` under any interleaving of the client, the
two readers and the database. -/
inductive SessionReachable (env : Collaborators) (waits : Bool) (plan : List (List ClientPacket)) :
    Session → Prop
  | initial : SessionReachable env waits plan (.initial plan)
  | step {s s' : Session} (a : SessionAction) :
      SessionReachable env waits plan s → s.step env waits a = some s' →
        SessionReachable env waits plan s'

section Steps

variable {env : Collaborators} {waits : Bool} {plan : List (List ClientPacket)}

theorem SessionReachable.run {s s' : Session} :
    ∀ {as : List SessionAction}, SessionReachable env waits plan s → s.run env waits as = some s' →
      SessionReachable env waits plan s'
  | [], hs, h => by cases h; exact hs
  | a :: as, hs, h => by
    obtain ⟨s₁, h₁, h₂⟩ := Option.bind_eq_some.mp h
    exact SessionReachable.run (.step a hs h₁) h₂

theorem sessionReachable_of_run {s : Session} {as : List SessionAction}
    (h : (Session.initial plan).run env waits as = some s) : SessionReachable env waits plan s :=
  SessionReachable.initial.run h

/-- A run of concrete actions from the initial session reaches the session it computes. -/
theorem exists_reachable_of_run {β : Type} {f : Session → β} {b : β} {as : List SessionAction}
    (h : ((Session.initial plan).run env waits as).map f = some b) :
    ∃ s, SessionReachable env waits plan s ∧ f s = b := by
  cases hr : (Session.initial plan).run env waits as with
  | none => simp [hr] at h
  | some s =>
    simp only [hr, Option.map_some', Option.some.injEq] at h
    exact ⟨s, sessionReachable_of_run hr, h⟩

variable {s s' : Session}

theorem send_cases (h : s.send waits = some s') :
    ∃ request rest, s.plan = request :: rest ∧ (waits = true → s.sent ≤ countReady s.toClient) ∧
      s' = { s with
        plan := rest
        sent := s.sent + 1
        fromClient := s.fromClient ++ request.map fun c => (c, s.sent) } := by
  unfold Session.send at h
  split at h
  · cases h
  · split_ifs at h with hw
    cases h
    exact ⟨_, _, ‹_›, fun h => Nat.not_lt.mp fun hl => hw ⟨h, hl⟩, rfl⟩

theorem clientReads_cases (h : s.clientReads env = some s') :
    ∃ packet k rest, s.clientRunning = true ∧ s.fromClient = (packet, k) :: rest ∧
      s' = s.afterClientPacket env packet k rest := by
  unfold Session.clientReads at h
  split at h
  · cases h; exact ⟨_, _, _, ‹_›, ‹_›, rfl⟩
  · cases h

theorem databaseAnswers_cases {response : List ServerPacket}
    (h : s.databaseAnswers response = some s') :
    ∃ packet k rest, s.toDatabase = (packet, k) :: rest ∧ answers packet response = true ∧
      s' = { s with
        toDatabase := rest
        fromDatabase := s.fromDatabase ++ response.map fun p => (p, k)
        dbDone := if packet.endsRequest then s.dbDone + 1 else s.dbDone } := by
  unfold Session.databaseAnswers at h
  split at h
  · cases h
  · rename_i packet k rest hdb
    by_cases ha : answers packet response = true
    · rw [if_pos ha] at h
      cases h
      exact ⟨_, _, _, hdb, ha, rfl⟩
    · rw [if_neg ha] at h
      cases h

theorem serverReads_cases (h : s.serverReads env = some s') :
    ∃ packet k rest, s.serverRunning = true ∧ s.fromDatabase = (packet, k) :: rest ∧
      s' = { s with
        proxy := (databaseIteration (handleDatabasePacket env) s.serverState s.proxy packet).state
        serverState := (databaseIteration (handleDatabasePacket env) s.serverState s.proxy packet).next
        serverRunning :=
          (databaseIteration (handleDatabasePacket env) s.serverState s.proxy packet).stop.isNone
        fromDatabase := rest
        toClient := s.toClient ++
          (databaseIteration (handleDatabasePacket env) s.serverState s.proxy packet).writes.map
            fun p => (p, k)
        tags := if packet.isReadyForQuery then s.tags.tail else s.tags
        read := s.read ++ [(packet, k)]
        answered := if packet.isReadyForQuery then s.answered + 1 else s.answered } := by
  unfold Session.serverReads at h
  split at h
  · cases h; exact ⟨_, _, _, ‹_›, ‹_›, rfl⟩
  · cases h

end Steps

theorem mem_tagRequests {x : ClientPacket × Nat} :
    ∀ {n : Nat} {plan : List (List ClientPacket)}, x ∈ tagRequests n plan → ∃ r ∈ plan, x.1 ∈ r
  | _, [], h => by simp [tagRequests] at h
  | n, r :: rs, h => by
    rcases List.mem_append.mp h with h | h
    · obtain ⟨c, hc, rfl⟩ := List.mem_map.mp h
      exact ⟨r, List.mem_cons_self _ _, hc⟩
    · obtain ⟨r', hr', hx⟩ := mem_tagRequests h
      exact ⟨r', List.mem_cons_of_mem _ hr', hx⟩

/-- Sending a request moves it from the plan to the client's stream, labels unchanged. -/
theorem send_stream {waits : Bool} {s s' : Session} (h : s.send waits = some s') :
    s'.fromClient ++ tagRequests s'.sent s'.plan = s.fromClient ++ tagRequests s.sent s.plan := by
  obtain ⟨r, rest, hp, -, rfl⟩ := send_cases h
  simp [hp, tagRequests]

/-- The labels of a session's streams agree with what each party has carried to the end: the
database's answers are labelled from the ReadyForQuery packets the ServerReader has read, the
packets the database has still to answer from the requests it answered, and the client's packets
the ClientReader has still to handle from the requests it forwarded. -/
structure StreamInv (env : Collaborators) (s : Session) : Prop where
  server_tagged : Tagged ServerPacket.isReadyForQuery s.answered s.fromDatabase
  server_count : s.answered + countReady s.fromDatabase = s.dbDone
  database_tagged : Tagged ClientPacket.endsRequest s.dbDone s.toDatabase
  client_tagged : s.clientRunning = true →
    Tagged ClientPacket.endsRequest (s.dbDone + countEnds s.toDatabase)
      (s.fromClient ++ tagRequests s.sent s.plan)
  client_uncensored : ∀ x ∈ s.fromClient ++ tagRequests s.sent s.plan,
    x.1.isQuery = true → censoredBy env x.1 = false
  not_first : s.serverState ≠ .stateFirstPacket

section Stream

variable {env : Collaborators} {waits : Bool} {s s' : Session}

/-- The packet the ServerReader reads next belongs to the first request whose ReadyForQuery it
has not read. -/
theorem StreamInv.server_head (hi : StreamInv env s) {packet : ServerPacket} {k : Nat}
    {rest : List (ServerPacket × Nat)} (h : s.fromDatabase = (packet, k) :: rest) :
    k = s.answered := by
  have := hi.server_tagged
  rw [h] at this
  exact this.1

theorem StreamInv.initial {plan : List (List ClientPacket)}
    (hplan : ∀ r ∈ plan, IsRequest r ∧ ∀ c ∈ r, c.isQuery = true → censoredBy env c = false) :
    StreamInv env (Session.initial plan) where
  server_tagged := trivial
  server_count := rfl
  database_tagged := trivial
  client_tagged _ := by
    simpa [Session.initial, countEnds] using tagged_tagRequests 0 fun r hr => (hplan r hr).1
  client_uncensored x hx := by
    obtain ⟨r, hr, hc⟩ := mem_tagRequests (by simpa [Session.initial] using hx)
    exact (hplan r hr).2 _ hc
  not_first := nofun

theorem StreamInv.send (hi : StreamInv env s) (h : s.send waits = some s') : StreamInv env s' := by
  have he := send_stream h
  obtain ⟨r, rest, -, -, rfl⟩ := send_cases h
  exact ⟨hi.1, hi.2, hi.3, fun hr => he ▸ hi.4 hr, he ▸ hi.5, hi.6⟩

theorem StreamInv.clientReads (hi : StreamInv env s) (h : s.clientReads env = some s') :
    StreamInv env s' := by
  obtain ⟨packet, k, rest, hrun, hfrom, rfl⟩ := clientReads_cases h
  have hc := hi.client_tagged hrun
  rw [hfrom, List.cons_append, tagged_cons] at hc
  have hu : ∀ x ∈ rest ++ tagRequests s.sent s.plan, x.1.isQuery = true → censoredBy env x.1 = false :=
    fun x hx => hi.client_uncensored x (by rw [hfrom]; exact List.mem_cons_of_mem _ hx)
  rcases handleClientPacket_result_cases env s.proxy packet with ⟨e, he⟩ | hcen | hfw
  · obtain ⟨h1, h2, -⟩ := Session.afterClientPacket_of_error s k rest he
    refine ⟨hi.1, hi.2, ?_, fun hr => by simp [h1] at hr, by simpa using hu, by simpa using hi.6⟩
    simpa [h2] using hi.3
  · obtain ⟨h1, h2, -⟩ := Session.afterClientPacket_of_censored s k rest hcen
    have hend : packet.endsRequest = false := by
      cases he : packet.endsRequest
      · rfl
      · have := hi.client_uncensored (packet, k) (by simp [hfrom]) (isQuery_of_censored hcen he)
        simp [this] at hcen
    refine ⟨hi.1, hi.2, by simpa [h2] using hi.3, fun _ => ?_, by simpa using hu, by simpa using hi.6⟩
    simpa [h2, hend] using hc.2
  · obtain ⟨h1, h2, -⟩ := Session.afterClientPacket_of_forward s k rest hfw
    have hkind := (handleClientPacket_rewrite env hfw).kind
    refine ⟨hi.1, hi.2, ?_, fun _ => ?_, by simpa using hu, by simpa using hi.6⟩
    · simp only [h2]
      exact tagged_append.mpr ⟨hi.3, by simp [hc.1, countEnds]⟩
    · have hcount : countEnds (s.toDatabase ++ [((handleClientPacket env s.proxy packet).packet, k)]) =
          countEnds s.toDatabase + if packet.endsRequest then 1 else 0 := by
        simp [countEnds, List.countP_append, List.countP_cons, hkind.1]
      simp only [h2, Session.afterClientPacket_dbDone, Session.afterClientPacket_fromClient,
        Session.afterClientPacket_sent, Session.afterClientPacket_plan, hcount]
      cases hp : packet.endsRequest <;> simpa [hp, Nat.add_assoc] using hc.2

theorem databaseIteration_next_ne_first {σ : Type} (handle : σ → ServerPacket → DbHandled σ)
    (st : DatabaseHandlerState) (x : σ) (packet : ServerPacket) :
    (databaseIteration handle st x packet).next ≠ .stateFirstPacket := by
  cases st with
  | stateFirstPacket => nofun
  | stateServe => dsimp only [databaseIteration]; split <;> nofun
  | stateSkipResponse =>
    dsimp only [databaseIteration]
    split_ifs
    · split <;> nofun
    · nofun

theorem StreamInv.databaseAnswers {response : List ServerPacket} (hi : StreamInv env s)
    (h : s.databaseAnswers response = some s') : StreamInv env s' := by
  obtain ⟨packet, k, rest, hdb, ha, rfl⟩ := databaseAnswers_cases h
  have hd := hi.database_tagged
  rw [hdb, tagged_cons] at hd
  have hr := answers_ready ha
  have hc := hi.client_tagged
  rw [hdb] at hc
  refine ⟨?_, ?_, hd.2, fun hrun => ?_, hi.client_uncensored, hi.not_first⟩
  · refine tagged_append.mpr ⟨hi.server_tagged, ?_⟩
    have hbase : s.answered + countReady s.fromDatabase = k := hi.server_count.trans hd.1.symm
    rw [← countReady, hbase]
    exact tagged_response k (by simpa using hr.1)
  · have h0 := hi.server_count
    simp only [countReady, List.countP_append, List.countP_map, Function.comp_def, hr.2] at h0 ⊢
    split_ifs <;> omega
  · have := hc hrun
    simp only [countEnds, List.countP_cons] at this ⊢
    split_ifs at this ⊢ <;> simpa [Nat.add_assoc, Nat.add_comm 1] using this

theorem StreamInv.serverReads (hi : StreamInv env s) (h : s.serverReads env = some s') :
    StreamInv env s' := by
  obtain ⟨packet, k, rest, -, hfrom, rfl⟩ := serverReads_cases h
  have hs := hi.server_tagged
  rw [hfrom, tagged_cons] at hs
  have hcount := hi.server_count
  rw [hfrom, countReady, List.countP_cons] at hcount
  refine ⟨hs.2, ?_, hi.database_tagged, hi.client_tagged, hi.client_uncensored,
    databaseIteration_next_ne_first _ _ _ _⟩
  simp only [countReady]
  split_ifs at hcount ⊢ <;> omega

theorem StreamInv.step (hi : StreamInv env s) {a : SessionAction}
    (h : s.step env waits a = some s') : StreamInv env s' := by
  cases a with
  | send => exact hi.send h
  | clientReads => exact hi.clientReads h
  | databaseAnswers response => exact hi.databaseAnswers h
  | serverReads => exact hi.serverReads h

theorem StreamInv.reachable {plan : List (List ClientPacket)}
    (hplan : ∀ r ∈ plan, IsRequest r ∧ ∀ c ∈ r, c.isQuery = true → censoredBy env c = false)
    (hs : SessionReachable env waits plan s) : StreamInv env s := by
  induction hs with
  | initial => exact .initial hplan
  | step a _ h ih => exact ih.step h

end Stream

end AcraPgProxy
