import AcraPgProxy.QueueAttribution

namespace AcraPgProxy

/-- What the client has received is whole answers in request order, one ReadyForQuery each,
followed by the start of one more: it holds a ReadyForQuery for each one the ServerReader has read,
and one more, the proxy's own, while the ServerReader skips the rest of an answer cut short. No
packet still to come from the client is censored. -/
structure ReplyInv (env : Collaborators) (s : Session) : Prop where
  replies_tagged : Tagged ServerPacket.isReadyForQuery 0 s.toClient
  replies_count : countReady s.toClient =
    s.answered + if s.serverState = .stateSkipResponse then 1 else 0
  client_uncensored : ∀ x ∈ s.fromClient ++ tagRequests s.sent s.plan, censoredBy env x.1 = false

section Replies

variable {env : Collaborators} {waits : Bool} {s s' : Session}

theorem ReplyInv.initial {plan : List (List ClientPacket)}
    (hplan : ∀ r ∈ plan, ∀ c ∈ r, censoredBy env c = false) : ReplyInv env (Session.initial plan) where
  replies_tagged := trivial
  replies_count := rfl
  client_uncensored x hx := by
    obtain ⟨r, hr, hc⟩ := mem_tagRequests (by simpa [Session.initial] using hx)
    exact hplan r hr _ hc

theorem ReplyInv.send (hi : ReplyInv env s) (h : s.send waits = some s') : ReplyInv env s' := by
  have he := send_stream h
  obtain ⟨r, rest, -, -, rfl⟩ := send_cases h
  exact ⟨hi.1, hi.2, he ▸ hi.3⟩

theorem ReplyInv.clientReads (hi : ReplyInv env s) (h : s.clientReads env = some s') :
    ReplyInv env s' := by
  obtain ⟨packet, k, rest, -, hfrom, rfl⟩ := clientReads_cases h
  have hu := hi.client_uncensored (packet, k) (by simp [hfrom])
  have hto : (s.afterClientPacket env packet k rest).toClient = s.toClient := by
    rcases handleClientPacket_result_cases env s.proxy packet with
      ⟨e, he⟩ | hcen | hfw
    · exact (Session.afterClientPacket_of_error s k rest he).2.2
    · simp [hu] at hcen
    · exact (Session.afterClientPacket_of_forward s k rest hfw).2.2
  refine ⟨hto ▸ hi.1, by simpa [hto] using hi.2, fun x hx => hi.3 x ?_⟩
  rw [hfrom]
  simpa using Or.inr hx

theorem ReplyInv.toClient_of_clientReads (hi : ReplyInv env s) (h : s.clientReads env = some s') :
    s'.toClient = s.toClient := by
  obtain ⟨packet, k, rest, -, hfrom, rfl⟩ := clientReads_cases h
  rcases handleClientPacket_result_cases env s.proxy packet with ⟨e, he⟩ | hcen | hfw
  · exact (Session.afterClientPacket_of_error s k rest he).2.2
  · simp [hi.client_uncensored (packet, k) (by simp [hfrom])] at hcen
  · exact (Session.afterClientPacket_of_forward s k rest hfw).2.2

theorem ReplyInv.databaseAnswers {response : List ServerPacket} (hi : ReplyInv env s)
    (h : s.databaseAnswers response = some s') : ReplyInv env s' := by
  obtain ⟨packet, k, rest, -, -, rfl⟩ := databaseAnswers_cases h
  exact ⟨hi.1, hi.2, hi.3⟩

/-- The client's stream grows by what one ServerReader iteration writes for a packet of request
`k`, where `k` is the number of ReadyForQuery packets the client has. -/
theorem tagged_replies_append {ys : List ServerPacket} {k : Nat} {ts : List (ServerPacket × Nat)}
    (ht : Tagged ServerPacket.isReadyForQuery 0 ts) (hk : k = countReady ts)
    (hy : ∀ p ∈ ys.dropLast, p.isReadyForQuery = false) :
    Tagged ServerPacket.isReadyForQuery 0 (ts ++ ys.map fun p => (p, k)) := by
  refine tagged_append.mpr ⟨ht, ?_⟩
  rw [Nat.zero_add, ← countReady, ← hk]
  exact tagged_response k hy

theorem ReplyInv.serverReads (hs : StreamInv env s) (hi : ReplyInv env s)
    (h : s.serverReads env = some s') : ReplyInv env s' := by
  obtain ⟨packet, k, rest, -, hfrom, rfl⟩ := serverReads_cases h
  have hk := hs.server_head hfrom
  have hkeep := handleDatabasePacket_keeps_readyForQuery env s.proxy packet
  have hcount := hi.replies_count
  cases hst : s.serverState with
  | stateFirstPacket => exact absurd hst hs.not_first
  | stateServe =>
    simp only [hst, reduceCtorEq, if_false, Nat.add_zero] at hcount
    cases hr : (handleDatabasePacket env s.proxy packet).result with
    | ok p =>
      rw [databaseIteration_serve_ok _ hr]
      refine ⟨tagged_replies_append hi.1 (by omega) (by simp), ?_, hi.3⟩
      simp only [countReady, List.countP_append, List.map_cons, List.map_nil, List.countP_cons,
        List.countP_nil, hkeep.2 p hr] at hcount ⊢
      split_ifs <;> simp_all
    | error e =>
      have hq := KeepsReadyForQuery.not_ready_of_error _
        (handleDatabasePacket_keeps_readyForQuery env) hr
      cases he : e.isEncoding
      · rw [databaseIteration_serve_fails _ hr he]
        exact ⟨by simpa using hi.1, by simpa [hq, countReady] using hcount, hi.3⟩
      · -- the proxy's own error and ReadyForQuery start a skipped answer
        obtain ⟨m, rfl⟩ := ProxyError.eq_encoding he
        rw [databaseIteration_encoding _ hr]
        have hsend : ((sendClientError m).map fun p => (p, k)).countP
            (fun x => x.1.isReadyForQuery) = 1 := rfl
        exact ⟨tagged_replies_append hi.1 (by omega)
            (by simp [sendClientError, pgError, ServerPacket.isReadyForQuery]),
          by simpa [countReady, hsend, hq] using hcount, hi.3⟩
  | stateSkipResponse =>
    simp only [hst, if_true] at hcount
    cases hr : packet.isReadyForQuery
    · rw [databaseIteration_skip_body _ hr]
      exact ⟨by simpa using hi.1, by simpa [hr, countReady] using hcount, hi.3⟩
    · rw [databaseIteration_skip_ready _ hr (hkeep.1 hr)]
      exact ⟨by simpa using hi.1, by simpa [hr, countReady] using hcount, hi.3⟩

theorem ReplyInv.step (hs : StreamInv env s) (hi : ReplyInv env s) {a : SessionAction}
    (h : s.step env waits a = some s') : ReplyInv env s' := by
  cases a with
  | send => exact hi.send h
  | clientReads => exact hi.clientReads h
  | databaseAnswers response => exact hi.databaseAnswers h
  | serverReads => exact hi.serverReads hs h

theorem replyInv_reachable {plan : List (List ClientPacket)}
    (hplan : ∀ r ∈ plan, IsRequest r ∧ ∀ c ∈ r, censoredBy env c = false)
    (hs : SessionReachable env waits plan s) : StreamInv env s ∧ ReplyInv env s := by
  induction hs with
  | initial =>
    exact ⟨.initial fun r hr => ⟨(hplan r hr).1, fun c hc _ => (hplan r hr).2 c hc⟩,
      .initial fun r hr => (hplan r hr).2⟩
  | step a _ h ih => exact ⟨ih.1.step h, ih.2.step ih.1 h⟩

end Replies

/-- Where the delivery of the answer the ServerReader is reading stands: packet for packet in
`stateServe`; in `stateSkipResponse` cut at a packet the handler failed to decode, the packets
before it passed on, then the proxy's error and ReadyForQuery, the rest withheld. -/
def Delivering : DatabaseHandlerState → List ServerPacket → List ServerPacket → Prop
  | .stateServe, ps, qs => List.Forall₂ Passes ps qs
  | .stateSkipResponse, ps, qs => ∃ pre p post pre' m, ps = pre ++ p :: post ∧
      List.Forall₂ Passes pre pre' ∧ p.isReadyForQuery = false ∧
      (∀ x ∈ post, x.isReadyForQuery = false) ∧ qs = pre' ++ [pgError m, .readyForQuery 'I']
  | .stateFirstPacket, _, _ => False

/-- What the client receives for a whole answer `ps`: each packet passed on, or the packets before
one the handler failed to decode passed on, then an ErrorResponse and a ReadyForQuery 'I' in
place of the rest. -/
def Delivered (ps qs : List ServerPacket) : Prop :=
  List.Forall₂ Passes ps qs ∨
    ∃ pre p post pre' m, ps = pre ++ p :: post ∧ List.Forall₂ Passes pre pre' ∧
      p.isReadyForQuery = false ∧ qs = pre' ++ [pgError m, .readyForQuery 'I']

/-- One ServerReader iteration that does not stop the loop extends the delivery of the answer it
reads; its ReadyForQuery completes it, and the loop is then back in `stateServe`. -/
theorem delivering_iteration (env : Collaborators) {st : DatabaseHandlerState} {proxy : PgProxy}
    {packet : ServerPacket} {ps qs : List ServerPacket} (hd : Delivering st ps qs)
    (hstop : (databaseIteration (handleDatabasePacket env) st proxy packet).stop = none) :
    if packet.isReadyForQuery then
      Delivered (ps ++ [packet])
          (qs ++ (databaseIteration (handleDatabasePacket env) st proxy packet).writes) ∧
        (databaseIteration (handleDatabasePacket env) st proxy packet).next = .stateServe
    else Delivering (databaseIteration (handleDatabasePacket env) st proxy packet).next (ps ++ [packet])
        (qs ++ (databaseIteration (handleDatabasePacket env) st proxy packet).writes) := by
  have hkeep := handleDatabasePacket_keeps_readyForQuery env proxy packet
  cases st with
  | stateFirstPacket => exact hd.elim
  | stateServe =>
    cases hr : (handleDatabasePacket env proxy packet).result with
    | ok q =>
      have hp := handleDatabasePacket_passes env hr
      have hf : List.Forall₂ Passes (ps ++ [packet]) (qs ++ [q]) := List.rel_append hd (.cons hp .nil)
      rw [databaseIteration_serve_ok _ hr]
      split_ifs
      · exact ⟨.inl hf, rfl⟩
      · exact hf
    | error e =>
      have hq := KeepsReadyForQuery.not_ready_of_error _ (handleDatabasePacket_keeps_readyForQuery env) hr
      cases he : e.isEncoding
      · simp [databaseIteration_serve_fails _ hr he] at hstop
      · obtain ⟨m, rfl⟩ := ProxyError.eq_encoding he
        rw [databaseIteration_encoding _ hr, if_neg (by simp [hq])]
        exact ⟨ps, packet, [], qs, m, rfl, hd, hq, nofun, rfl⟩
  | stateSkipResponse =>
    obtain ⟨pre, p, post, pre', m, rfl, hpre, hp, hpost, rfl⟩ := hd
    cases hq : packet.isReadyForQuery
    · rw [databaseIteration_skip_body _ hq, if_neg (by simp)]
      refine ⟨pre, p, post ++ [packet], pre', m, by simp, hpre, hp, fun x hx => ?_, by simp⟩
      rcases List.mem_append.mp hx with hx | hx
      · exact hpost x hx
      · rw [List.mem_singleton.mp hx]; exact hq
    · rw [databaseIteration_skip_ready _ hq (hkeep.1 hq), if_pos rfl]
      exact ⟨.inr ⟨pre, p, post ++ [packet], pre', m, by simp, hpre, hp, by simp⟩, rfl⟩

/-- What the client has received, request by request: for every request whose ReadyForQuery the
ServerReader has read, its whole answer delivered; for the one it is reading, the delivery so far.
The ServerReader has read whole answers in request order. -/
structure DeliveryInv (s : Session) : Prop where
  read_tagged : Tagged ServerPacket.isReadyForQuery 0 s.read
  read_count : countReady s.read = s.answered
  labels_le : ∀ x ∈ s.read ++ s.toClient, x.2 ≤ s.answered
  delivered : ∀ k < s.answered, Delivered (answerOf s.read k) (answerOf s.toClient k)
  current : s.serverRunning = true →
    Delivering s.serverState (answerOf s.read s.answered) (answerOf s.toClient s.answered)

section Delivery

variable {env : Collaborators} {waits : Bool} {s s' : Session}

theorem databaseIteration_ready_continues (env : Collaborators) {st : DatabaseHandlerState}
    (hst : st ≠ .stateFirstPacket) (proxy : PgProxy) {packet : ServerPacket}
    (hq : packet.isReadyForQuery = true) :
    (databaseIteration (handleDatabasePacket env) st proxy packet).stop = none := by
  have hok := (handleDatabasePacket_keeps_readyForQuery env proxy packet).1 hq
  cases st with
  | stateFirstPacket => exact absurd rfl hst
  | stateServe => rw [databaseIteration_serve_ok _ hok]
  | stateSkipResponse => rw [databaseIteration_skip_ready _ hq hok]

theorem DeliveryInv.serverReads (hs : StreamInv env s) (hi : DeliveryInv s)
    (h : s.serverReads env = some s') : DeliveryInv s' := by
  obtain ⟨packet, k, rest, hrun, hfrom, rfl⟩ := serverReads_cases h
  have hk := hs.server_head hfrom
  subst hk
  have hread : ∀ j, answerOf (s.read ++ [(packet, s.answered)]) j =
      answerOf s.read j ++ if s.answered = j then [packet] else [] := fun j => by
    rw [answerOf_append, ← answerOf_labelled [packet] s.answered j]; rfl
  have hto : ∀ j, answerOf (s.toClient ++
      (databaseIteration (handleDatabasePacket env) s.serverState s.proxy packet).writes.map
        fun p => (p, s.answered)) j =
      answerOf s.toClient j ++ if s.answered = j then
        (databaseIteration (handleDatabasePacket env) s.serverState s.proxy packet).writes else [] :=
    fun j => by rw [answerOf_append, answerOf_labelled]
  have hstep : (databaseIteration (handleDatabasePacket env) s.serverState s.proxy packet).stop = none →
      _ := fun hstop => delivering_iteration env (hi.current hrun) hstop
  have hlabels : ∀ x ∈ s.read ++ s.toClient, x.2 ≠ s.answered + 1 := fun x hx => by
    have := hi.labels_le x hx; omega
  refine ⟨tagged_append.mpr ⟨hi.read_tagged, ?_⟩, ?_, ?_, fun j hj => ?_, fun hr => ?_⟩
  · rw [Nat.zero_add, ← countReady, hi.read_count]
    exact ⟨rfl, trivial⟩
  · rw [countReady, List.countP_append, ← countReady, hi.read_count]
    cases hq : packet.isReadyForQuery <;> simp [hq]
  · intro x hx
    have hle : x.2 ≤ s.answered := by
      simp only [List.mem_append, List.mem_map, List.mem_singleton] at hx
      rcases hx with (hx | rfl) | hx | ⟨p, -, rfl⟩
      · exact hi.labels_le x (List.mem_append_left _ hx)
      · exact le_rfl
      · exact hi.labels_le x (List.mem_append_right _ hx)
      · exact le_rfl
    dsimp only
    split_ifs <;> omega
  · dsimp only at hj ⊢
    rw [hread, hto]
    by_cases hjk : s.answered = j
    · subst hjk
      by_cases hq : packet.isReadyForQuery = true
      · have := hstep (databaseIteration_ready_continues env hs.not_first s.proxy hq)
        rw [if_pos hq] at this
        simpa using this.1
      · rw [if_neg hq] at hj
        omega
    · rw [if_neg hjk, if_neg hjk, List.append_nil, List.append_nil]
      exact hi.delivered j (by split_ifs at hj <;> omega)
  · have hstop : (databaseIteration (handleDatabasePacket env) s.serverState s.proxy packet).stop =
        none := by simpa using hr
    have := hstep hstop
    dsimp only at hr ⊢
    split_ifs at this ⊢ with hq
    · rw [this.2, hread, hto, if_neg (by omega), if_neg (by omega),
        answerOf_eq_nil fun x hx => hlabels x (List.mem_append_left _ hx),
        answerOf_eq_nil fun x hx => hlabels x (List.mem_append_right _ hx)]
      exact .nil
    · rw [hread, hto, if_pos rfl, if_pos rfl]
      exact this

theorem DeliveryInv.step (hs : StreamInv env s) (hr : ReplyInv env s) (hi : DeliveryInv s)
    {a : SessionAction} (h : s.step env waits a = some s') : DeliveryInv s' := by
  cases a with
  | send =>
    obtain ⟨r, rest, -, -, rfl⟩ := send_cases h
    exact ⟨hi.1, hi.2, hi.3, hi.4, hi.5⟩
  | clientReads =>
    have hto := hr.toClient_of_clientReads h
    obtain ⟨packet, k, rest, -, -, rfl⟩ := clientReads_cases h
    refine ⟨hi.1, hi.2, ?_, ?_, ?_⟩ <;> rw [hto]
    exacts [hi.3, hi.4, hi.5]
  | databaseAnswers response =>
    obtain ⟨packet, k, rest, -, -, rfl⟩ := databaseAnswers_cases h
    exact ⟨hi.1, hi.2, hi.3, hi.4, hi.5⟩
  | serverReads => exact hi.serverReads hs h

end Delivery

/-- The transaction statuses the client receives. From the ServerReader, as long as the handler
meets no error other than an EncodingError: per response the server's status, or 'I' for a
response a decoding failure cut short. From the ClientReader: 'I' for every censored request. -/
theorem proxyDatabaseConnection_follows_server_statuses (env : Collaborators) (proxy : PgProxy)
    (responses : List (List ServerPacket)) (hr : ∀ r ∈ responses, IsResponse r)
    (tail : List ServerPacket) (ht : ∀ p ∈ tail, p.isReadyForQuery = false)
    (hstop : (proxyDatabaseConnection (handleDatabasePacket env) .stateServe proxy
      (responses.flatten ++ tail)).stop = none)
    (clientProxy : PgProxy) (packets : List ClientPacket) :
    readyForQueryStatuses (proxyDatabaseConnection (handleDatabasePacket env) .stateServe proxy
        (responses.flatten ++ tail)).writes =
      deliveredStatuses (handleDatabasePacket env) proxy responses tail ∧
    ∀ ps, .toClient ps ∈ (proxyClientConnection env clientProxy packets).writes →
      readyForQueryStatuses ps = ['I'] := by
  obtain ⟨hw, hst⟩ := proxyDatabaseConnection_writes_by_response _
    (handleDatabasePacket_keeps_readyForQuery env) tail ht proxy responses hr hstop
  refine ⟨by rw [hw, hst], fun ps hm => ?_⟩
  rw [proxyClientConnection_toClient env clientProxy packets ps hm]
  rfl

/-- Inside a transaction the first answer is cut short by a decoding failure: the client sees 'I'
for it and the server's 'T' for the second. -/
theorem proxyDatabaseConnection_follows_server_statuses_cut :
    (∀ p ∈ ([] : List ServerPacket), p.isReadyForQuery = false) ∧
      (proxyDatabaseConnection (handleDatabasePacket decodeFailsEnv) .stateServe twoPending
        (twoAnswers.flatten ++ [])).stop = none ∧
      readyForQueryStatuses (proxyDatabaseConnection (handleDatabasePacket decodeFailsEnv)
          .stateServe twoPending (twoAnswers.flatten ++ [])).writes = ['I', 'T'] := by
  have ht : ∀ p ∈ ([] : List ServerPacket), p.isReadyForQuery = false := nofun
  have hstop : (proxyDatabaseConnection (handleDatabasePacket decodeFailsEnv) .stateServe twoPending
      (twoAnswers.flatten ++ [])).stop = none := by decide
  refine ⟨ht, hstop, ?_⟩
  rw [(proxyDatabaseConnection_follows_server_statuses decodeFailsEnv twoPending twoAnswers
    twoAnswers_responses [] ht hstop .fresh []).1]
  decide

/-- The session's query-data items are the ClientReader's: the ServerReader only clears the
placeholder settings. -/
theorem databaseIteration_queryDataItems (env : Collaborators) (st : DatabaseHandlerState)
    (proxy : PgProxy) (packet : ServerPacket) :
    (databaseIteration (handleDatabasePacket env) st proxy packet).state.session.queryDataItems =
      proxy.session.queryDataItems := by
  cases st with
  | stateFirstPacket => rfl
  | stateServe =>
    dsimp only [databaseIteration]
    split <;> exact handleDatabasePacket_queryDataItems env proxy packet
  | stateSkipResponse =>
    dsimp only [databaseIteration]
    split_ifs
    · split <;> exact handleDatabasePacket_queryDataItems env proxy packet
    · rfl


/-- A request whose first packet, and no other, sets the client session: a simple Query, or a
batch that opens with a Parse and ends with its Sync. -/
def OpensWithQuery (r : List ClientPacket) : Prop :=
  (∃ q, r = [.query q]) ∨
    ∃ p body, r = .parse p :: body ++ [.sync] ∧
      ∀ c ∈ body, c.endsRequest = false ∧ c.setsSession = false

theorem OpensWithQuery.isRequest {r : List ClientPacket} (h : OpensWithQuery r) : IsRequest r := by
  rcases h with ⟨q, rfl⟩ | ⟨p, body, rfl, hb⟩
  · exact .inl ⟨q, rfl⟩
  · refine .inr ⟨.parse p :: body, rfl, ?_⟩
    simpa [ClientPacket.endsRequest] using fun c hc => (hb c hc).1

/-- The labels of a client stream whose requests open with their one packet that sets the session:
`n` sessions were set before the stream, a packet that sets one belongs to request `n`, and any
other packet to the request of the last one set. -/
def OpenerOrder : Nat → List (ClientPacket × Nat) → Prop
  | _, [] => True
  | n, (c, k) :: rest =>
    (if c.setsSession then k = n else k + 1 = n) ∧
      OpenerOrder (if c.setsSession then n + 1 else n) rest

@[simp] theorem openerOrder_cons {n : Nat} {c : ClientPacket} {k : Nat}
    {rest : List (ClientPacket × Nat)} :
    OpenerOrder n ((c, k) :: rest) ↔
      (if c.setsSession then k = n else k + 1 = n) ∧
        OpenerOrder (if c.setsSession then n + 1 else n) rest :=
  Iff.rfl

theorem openerOrder_body {n : Nat} {ys : List (ClientPacket × Nat)} (hys : OpenerOrder (n + 1) ys) :
    ∀ (body : List ClientPacket), (∀ c ∈ body, c.setsSession = false) →
      OpenerOrder (n + 1) (body.map (fun c => (c, n)) ++ ys)
  | [], _ => hys
  | c :: body, h => by
    have hc := h c (List.mem_cons_self _ _)
    rw [List.map_cons, List.cons_append, openerOrder_cons, hc]
    exact ⟨rfl, openerOrder_body hys body fun c' hc' => h c' (List.mem_cons_of_mem _ hc')⟩

theorem OpensWithQuery.openerOrder {r : List ClientPacket} (h : OpensWithQuery r) {n : Nat}
    {ys : List (ClientPacket × Nat)} (hys : OpenerOrder (n + 1) ys) :
    OpenerOrder n (r.map (fun c => (c, n)) ++ ys) := by
  rcases h with ⟨q, rfl⟩ | ⟨p, body, rfl, hb⟩
  · exact ⟨rfl, hys⟩
  · have hbody : ∀ c ∈ body ++ [.sync], c.setsSession = false := fun c hc => by
      rcases List.mem_append.mp hc with hc | hc
      · exact (hb c hc).2
      · rw [List.mem_singleton.mp hc]; rfl
    have hrest := openerOrder_body hys (body ++ [.sync]) hbody
    exact ⟨rfl, hrest⟩

theorem openerOrder_tagRequests :
    ∀ (n : Nat) {plan : List (List ClientPacket)}, (∀ r ∈ plan, OpensWithQuery r) →
      OpenerOrder n (tagRequests n plan)
  | _, [], _ => trivial
  | n, r :: _, h => (h r (List.mem_cons_self _ _)).openerOrder
      (openerOrder_tagRequests (n + 1) fun r' hr' => h r' (List.mem_cons_of_mem _ hr'))

/-- For a waiting client whose requests open with their Query or Parse: every packet on its way
belongs to a request whose opening packet is recorded, and the session holds the last one's items. -/
structure ObservedInv (s : Session) : Prop where
  observed_label : ∀ e, s.observed.getLast? = some e → e.2 + 1 = s.observed.length
  observed_items : ∀ e, s.observed.getLast? = some e →
    s.proxy.session.queryDataItems = e.1.queryDataItems
  client_order : OpenerOrder s.observed.length (s.fromClient ++ tagRequests s.sent s.plan)
  client_sent : ∀ x ∈ s.fromClient, x.2 < s.sent
  database_observed : ∀ x ∈ s.toDatabase, x.2 < s.observed.length
  server_observed : ∀ x ∈ s.fromDatabase, x.2 < s.observed.length
  observed_le : s.observed.length ≤ s.sent
  sent_le : s.sent ≤ countReady s.toClient + 1

section Observed

variable {env : Collaborators} {s s' : Session}

theorem countReady_append_le (xs ys : List (ServerPacket × Nat)) :
    countReady xs ≤ countReady (xs ++ ys) := by
  simp [countReady, List.countP_append]

theorem ObservedInv.initial {plan : List (List ClientPacket)}
    (hplan : ∀ r ∈ plan, OpensWithQuery r) : ObservedInv (Session.initial plan) where
  observed_label := nofun
  observed_items := nofun
  client_order := openerOrder_tagRequests 0 hplan
  client_sent := List.forall_mem_nil _
  database_observed := List.forall_mem_nil _
  server_observed := List.forall_mem_nil _
  observed_le := Nat.le_refl 0
  sent_le := Nat.zero_le _

theorem ObservedInv.send (hi : ObservedInv s) (h : s.send true = some s') : ObservedInv s' := by
  have he := send_stream h
  obtain ⟨r, rest, -, hw, rfl⟩ := send_cases h
  refine ⟨hi.1, hi.2, he ▸ hi.3, fun x hx => ?_, hi.5, hi.6, Nat.le_succ_of_le hi.7,
    Nat.succ_le_succ (hw rfl)⟩
  rcases List.mem_append.mp hx with hx | hx
  · exact Nat.lt_succ_of_lt (hi.client_sent x hx)
  · obtain ⟨c, -, rfl⟩ := List.mem_map.mp hx
    exact Nat.lt_succ_self _

theorem ObservedInv.clientReads (hi : ObservedInv s) (h : s.clientReads env = some s') :
    ObservedInv s' := by
  obtain ⟨packet, k, rest, -, hfrom, rfl⟩ := clientReads_cases h
  have ho := hi.client_order
  rw [hfrom, List.cons_append, openerOrder_cons] at ho
  have hk : k < s.sent := hi.client_sent (packet, k) (by simp [hfrom])
  obtain ⟨ys, hys⟩ := Session.afterClientPacket_toClient env s packet k rest
  have hready := countReady_append_le s.toClient ys
  have hle := hi.sent_le
  -- the record of opening packets after the step, and where request `k` stands in it
  have hrec : (∀ e, (s.afterClientPacket env packet k rest).observed.getLast? = some e →
        e.2 + 1 = (s.afterClientPacket env packet k rest).observed.length ∧
          (s.afterClientPacket env packet k rest).proxy.session.queryDataItems =
            e.1.queryDataItems) ∧
      OpenerOrder (s.afterClientPacket env packet k rest).observed.length
        (rest ++ tagRequests s.sent s.plan) ∧
      s.observed.length ≤ (s.afterClientPacket env packet k rest).observed.length ∧
      k < (s.afterClientPacket env packet k rest).observed.length ∧
      (s.afterClientPacket env packet k rest).observed.length ≤ s.sent := by
    rw [Session.afterClientPacket_observed, Session.afterClientPacket_proxy]
    cases hc : packet.setsSession
    · simp only [hc, Bool.false_eq_true, if_false] at ho ⊢
      rw [handleClientPacket_session env s.proxy hc]
      exact ⟨fun e he => ⟨hi.1 e he, hi.2 e he⟩, ho.2, le_rfl, by omega, hi.7⟩
    · simp only [hc, if_true, List.length_append, List.length_singleton] at ho ⊢
      refine ⟨fun e he => ?_, ho.2, Nat.le_succ _, by omega, by omega⟩
      rw [List.getLast?_concat, Option.some.injEq] at he
      exact ⟨by rw [← he, ho.1], by rw [← he]⟩
  obtain ⟨hlast, horder, hgrow, hkn, hns⟩ := hrec
  refine ⟨fun e he => (hlast e he).1, fun e he => (hlast e he).2, horder,
    fun x hx => hi.client_sent x (hfrom ▸ List.mem_cons_of_mem _ hx), fun x hx => ?_,
    fun x hx => lt_of_lt_of_le (hi.6 x hx) hgrow, hns,
    by rw [hys, Session.afterClientPacket_sent]; omega⟩
  rcases Session.afterClientPacket_toDatabase s k rest hx with hx | hx
  · exact lt_of_lt_of_le (hi.database_observed x hx) hgrow
  · exact hx ▸ hkn

theorem ObservedInv.databaseAnswers {response : List ServerPacket} (hi : ObservedInv s)
    (h : s.databaseAnswers response = some s') : ObservedInv s' := by
  obtain ⟨packet, k, rest, hdb, -, rfl⟩ := databaseAnswers_cases h
  have hk := hi.database_observed (packet, k) (by simp [hdb])
  refine ⟨hi.1, hi.2, hi.3, hi.4, fun x hx => hi.5 x (by simp [hdb, hx]), fun x hx => ?_, hi.7, hi.8⟩
  rcases List.mem_append.mp hx with hx | hx
  · exact hi.6 x hx
  · obtain ⟨p, -, rfl⟩ := List.mem_map.mp hx
    exact hk

theorem ObservedInv.serverReads (hi : ObservedInv s) (h : s.serverReads env = some s') :
    ObservedInv s' := by
  obtain ⟨packet, k, rest, -, hfrom, rfl⟩ := serverReads_cases h
  refine ⟨hi.1, fun e he => ?_, hi.3, hi.4, hi.5, fun x hx => hi.6 x (by simp [hfrom, hx]), hi.7, ?_⟩
  · rw [databaseIteration_queryDataItems]
    exact hi.2 e he
  · have := countReady_append_le s.toClient
      (((databaseIteration (handleDatabasePacket env) s.serverState s.proxy packet).writes).map
        fun p => (p, k))
    have := hi.sent_le
    dsimp only
    omega

theorem ObservedInv.step (hi : ObservedInv s) {a : SessionAction}
    (h : s.step env true a = some s') : ObservedInv s' := by
  cases a with
  | send => exact hi.send h
  | clientReads => exact hi.clientReads h
  | databaseAnswers response => exact hi.databaseAnswers h
  | serverReads => exact hi.serverReads h

theorem observedInv_reachable {plan : List (List ClientPacket)}
    (hplan : ∀ r ∈ plan, OpensWithQuery r ∧ ∀ c ∈ r, censoredBy env c = false)
    (hs : SessionReachable env true plan s) :
    StreamInv env s ∧ ReplyInv env s ∧ ObservedInv s := by
  obtain ⟨hst, hre⟩ := replyInv_reachable (fun r hr => ⟨(hplan r hr).1.isRequest, (hplan r hr).2⟩) hs
  refine ⟨hst, hre, ?_⟩
  induction hs with
  | initial => exact .initial fun r hr => (hplan r hr).1
  | step a hs' h ih =>
    have hprev := replyInv_reachable (fun r hr => ⟨(hplan r hr).1.isRequest, (hplan r hr).2⟩) hs'
    exact (ih hprev.1 hprev.2).step h

/-- When every DataRow decodes, the ServerReader never skips, and the placeholder settings are the
last opening packet's until the ReadyForQuery of its request. -/
structure PlaceholderInv (s : Session) : Prop where
  serving : s.serverState = .stateServe
  observed_placeholders : ∀ e, s.observed.getLast? = some e →
    s.proxy.session.placeholderSettings = if e.2 < s.answered then none else e.1.placeholderSettings

/-- Under such observers the ServerReader's `stateServe` iteration stays in `stateServe` and keeps
the handler's state. -/
theorem databaseIteration_of_decodesAll (hd : DecodesAll env) (proxy : PgProxy)
    (packet : ServerPacket) :
    (databaseIteration (handleDatabasePacket env) .stateServe proxy packet).next = .stateServe ∧
      (databaseIteration (handleDatabasePacket env) .stateServe proxy packet).state =
        (handleDatabasePacket env proxy packet).state := by
  cases hr : (handleDatabasePacket env proxy packet).result with
  | ok p => rw [databaseIteration_serve_ok _ hr]; exact ⟨rfl, rfl⟩
  | error e =>
    rw [databaseIteration_serve_fails _ hr (handleDatabasePacket_not_encoding env hd hr)]
    exact ⟨rfl, rfl⟩

theorem PlaceholderInv.clientReads (hs : StreamInv env s) (hi : PlaceholderInv s)
    (h : s.clientReads env = some s') : PlaceholderInv s' := by
  obtain ⟨packet, k, rest, hrun, hfrom, rfl⟩ := clientReads_cases h
  refine ⟨hi.serving, fun e he => ?_⟩
  rw [Session.afterClientPacket_observed] at he
  simp only [Session.afterClientPacket_proxy, Session.afterClientPacket_answered]
  cases hc : packet.setsSession
  · rw [hc, if_neg Bool.false_ne_true] at he
    rw [handleClientPacket_session env s.proxy hc]
    exact hi.observed_placeholders e he
  · -- the opening packet of a request whose earlier requests are not all answered yet
    rw [hc, if_pos rfl, List.getLast?_concat, Option.some.injEq] at he
    subst he
    have ht := (hs.client_tagged hrun)
    rw [hfrom, List.cons_append, tagged_cons] at ht
    have := ht.1
    have := hs.server_count
    rw [if_neg (by omega)]

theorem PlaceholderInv.serverReads (hd : DecodesAll env) (hr : ReplyInv env s) (ho : ObservedInv s)
    (hi : PlaceholderInv s) (h : s.serverReads env = some s') : PlaceholderInv s' := by
  obtain ⟨packet, k, rest, -, hfrom, rfl⟩ := serverReads_cases h
  obtain ⟨hnext, hstate⟩ := databaseIteration_of_decodesAll hd s.proxy packet
  have hserve := hi.serving
  rw [hserve]
  refine ⟨hnext, fun e he => ?_⟩
  rw [hstate, handleDatabasePacket_placeholderSettings, hi.observed_placeholders e he]
  cases hq : packet.isReadyForQuery
  · simp
  · -- a ReadyForQuery of the last opening packet's request or of an earlier one
    have hcount := hr.replies_count
    rw [hserve] at hcount
    have := ho.observed_label e he
    have := ho.observed_le
    have := ho.sent_le
    simp at hcount
    simp only [if_true]
    rw [if_pos (by omega)]

theorem PlaceholderInv.step (hd : DecodesAll env) (hs : StreamInv env s) (hr : ReplyInv env s)
    (ho : ObservedInv s) (hi : PlaceholderInv s) {a : SessionAction}
    (h : s.step env true a = some s') : PlaceholderInv s' := by
  cases a with
  | send =>
    obtain ⟨r, rest, -, -, rfl⟩ := send_cases h
    exact ⟨hi.1, hi.2⟩
  | clientReads => exact hi.clientReads hs h
  | databaseAnswers response =>
    obtain ⟨packet, k, rest, -, -, rfl⟩ := databaseAnswers_cases h
    exact ⟨hi.1, hi.2⟩
  | serverReads => exact hi.serverReads hd hr ho h

theorem placeholderInv_reachable (hd : DecodesAll env) {plan : List (List ClientPacket)}
    (hplan : ∀ r ∈ plan, OpensWithQuery r ∧ ∀ c ∈ r, censoredBy env c = false)
    (hs : SessionReachable env true plan s) : PlaceholderInv s := by
  induction hs with
  | initial => exact ⟨rfl, nofun⟩
  | step a hs' h ih =>
    obtain ⟨hst, hre, hob⟩ := observedInv_reachable hplan hs'
    exact ih.step hd hst hre hob h

/-- In `stateServe` the client receives what the handler makes of the database's next packet, or
nothing when the handler fails without an EncodingError. -/
theorem serverReads_toClient_of_serve {packet : ServerPacket} {k : Nat}
    {rest : List (ServerPacket × Nat)} (hrun : s.serverRunning = true)
    (hserve : s.serverState = .stateServe) (hhead : s.fromDatabase = (packet, k) :: rest)
    (he : ∀ e, (handleDatabasePacket env s.proxy packet).result = .error e → e.isEncoding = false) :
    (s.serverReads env).map Session.toClient = some (s.toClient ++
      ((handleDatabasePacket env s.proxy packet).result.toOption.toList.map fun p => (p, k))) := by
  simp only [Session.serverReads, hrun, hhead, hserve, Option.map_some']
  cases hr : (handleDatabasePacket env s.proxy packet).result with
  | ok p => rw [databaseIteration_serve_ok _ hr]; rfl
  | error e => rw [databaseIteration_serve_fails _ hr (he e hr)]; rfl

end Observed

/-- For a waiting client whose requests, none censored, open with their Query or Parse, a
RowDescription answering request `k` is rewritten with the session that request's opening packet
left; when every DataRow decodes, so is a ParameterDescription. -/
theorem handleRowDescription_reads_own_items {env : Collaborators} {plan : List (List ClientPacket)}
    (hplan : ∀ r ∈ plan, OpensWithQuery r ∧ ∀ c ∈ r, censoredBy env c = false)
    {s : Session} (hs : SessionReachable env true plan s)
    {packet : ServerPacket} {k : Nat} {rest : List (ServerPacket × Nat)}
    (hrun : s.serverRunning = true) (hserve : s.serverState = .stateServe)
    (hhead : s.fromDatabase = (packet, k) :: rest) :
    ∃ session, s.observed[k]? = some (session, k) ∧
      (∀ fields, packet = .rowDescription fields →
        (s.serverReads env).map Session.toClient =
          some (s.toClient ++ [(handleRowDescription env session packet, k)])) ∧
      (DecodesAll env → ∀ oids, packet = .parameterDescription oids →
        (s.serverReads env).map Session.toClient =
          some (s.toClient ++
            ((handleParameterDescription env session packet).toOption.toList.map fun p => (p, k)))) := by
  obtain ⟨hst, hre, hob⟩ := observedInv_reachable hplan hs
  have hk := hst.server_head hhead
  have hcount := hre.replies_count
  rw [hserve] at hcount
  simp at hcount
  have hlt := hob.server_observed (packet, k) (by simp [hhead])
  have hle := hob.observed_le
  have hsent := hob.sent_le
  -- the last opening packet the ClientReader recorded is request `k`'s
  obtain ⟨⟨session, j⟩, hlast⟩ : ∃ e, s.observed.getLast? = some e :=
    Option.ne_none_iff_exists'.mp (by simp [List.getLast?_eq_none_iff, ← List.length_pos]; omega)
  have hj := hob.observed_label _ hlast
  obtain rfl : j = k := by simp at hj; omega
  refine ⟨session, ?_, ?_, ?_⟩
  · rw [List.getLast?_eq_getElem?] at hlast
    rwa [show s.observed.length - 1 = j by simp at hj; omega] at hlast
  · rintro fields rfl
    rw [serverReads_toClient_of_serve hrun hserve hhead fun e h => by cases h]
    simp [handleDatabasePacket, PgProxy.observeDatabasePacket, ServerPacket.isReadyForQuery,
      Except.toOption, handleRowDescription_congr env (hob.observed_items _ hlast)]
  · rintro hd oids rfl
    have hp := (placeholderInv_reachable hd hplan hs).observed_placeholders _ hlast
    rw [if_neg (by omega)] at hp
    rw [serverReads_toClient_of_serve hrun hserve hhead
      fun e h => handleDatabasePacket_not_encoding env hd h]
    simp [handleDatabasePacket, PgProxy.observeDatabasePacket, ServerPacket.isReadyForQuery,
      handleParameterDescription_congr env hp]

theorem handleRowDescription_reads_own_items_describe :
    ∃ s, SessionReachable typeAwareEnv true [[.parse insertParse, .describe 'S' "s1", .sync]] s ∧
      (s.serverReads typeAwareEnv).map Session.toClient =
        some [(.other '1', 0), (.parameterDescription [23], 0)] := by
  have h : ((Session.initial [[.parse insertParse, .describe 'S' "s1", .sync]]).run typeAwareEnv true
      [.send, .clientReads, .clientReads, .clientReads, .databaseAnswers [.other '1'],
        .databaseAnswers [.parameterDescription [byteaOID], .other 'n'], .serverReads]).map
      (fun s => (s.serverRunning, s.serverState, s.fromDatabase, s.toClient, s.observed)) =
      some (true, .stateServe, [(.parameterDescription [byteaOID], 0), (.other 'n', 0)],
        [(.other '1', 0)], [(⟨none, some [some typeAwareInt]⟩, 0)]) :=
    rfl
  obtain ⟨s, hs, hf⟩ := exists_reachable_of_run h
  simp only [Prod.mk.injEq] at hf
  obtain ⟨hrun, hserve, hhead, hto, hobs⟩ := hf
  have hplan : ∀ r ∈ [[ClientPacket.parse insertParse, .describe 'S' "s1", .sync]],
      OpensWithQuery r ∧ ∀ c ∈ r, censoredBy typeAwareEnv c = false := by
    intro r hr
    rw [List.mem_singleton.mp hr]
    exact ⟨Or.inr ⟨insertParse, [.describe 'S' "s1"], rfl, by decide⟩, by decide⟩
  have hd : DecodesAll typeAwareEnv := ⟨fun _ _ _ _ _ => nofun, rfl⟩
  obtain ⟨session, hsession, -, hpd⟩ :=
    handleRowDescription_reads_own_items hplan hs hrun hserve hhead
  rw [hobs] at hsession
  obtain rfl : session = ⟨none, some [some typeAwareInt]⟩ := by simpa using hsession.symm
  refine ⟨s, hs, ?_⟩
  rw [hpd hd _ rfl, hto]
  rfl

/-- A type-aware encrypted `int4` column as the database describes it: stored as `BYTEA`. -/
def byteaField : FieldDescription := ⟨"enc", 0, 0, byteaOID, 0, 0, 0⟩

/-- Observers that configure the one result column of `SELECT enc FROM t` as type-aware and leave
the column of any other query unconfigured. -/
def rowItemsEnv : Collaborators :=
  { plainEnv with
    onQuery := fun session q =>
      ⟨q, false, none, { session with
        queryDataItems := if q == "SELECT enc FROM t" then some [some ⟨typeAwareInt⟩] else some [none] }⟩
    mapEncryptedTypeToOID := some }

/-- `typeAwareEnv` with a column decoder that rejects every value with an EncodingError. -/
def decodeFailsTypeAwareEnv : Collaborators :=
  { typeAwareEnv with onColumnDecryption := decodeFailsEnv.onColumnDecryption }

/-- Pipelined Queries, a Describe in a later batch than its Parse, and a batch sent after an answer
that failed to decode each get a description still typed `BYTEA`. -/
theorem descriptions_miss_own_settings :
    (∃ s, SessionReachable rowItemsEnv false
        [[.query "SELECT enc FROM t"], [.query "SELECT name FROM u"]] s ∧
      s.toClient = [(.rowDescription [byteaField], 0)] ∧
      ∃ session, s.observed[0]? = some (session, 0) ∧
        handleRowDescription rowItemsEnv session (.rowDescription [byteaField]) =
          .rowDescription [{ byteaField with dataTypeOID := typeAwareInt.dbDataTypeID }]) ∧
    (handleClientPacket typeAwareEnv .fresh (.parse insertParse)).packet =
      .parse { insertParse with params := [byteaOID] } ∧
    (∃ s, SessionReachable typeAwareEnv true
        [[.parse insertParse, .sync], [.describe 'S' "s1", .sync]] s ∧
      s.toClient = [(.other '1', 0), (.readyForQuery 'I', 0), (.parameterDescription [byteaOID], 1)] ∧
      ∃ session, s.observed[0]? = some (session, 0) ∧
        handleParameterDescription typeAwareEnv session (.parameterDescription [byteaOID]) =
          .ok (.parameterDescription [typeAwareInt.dbDataTypeID])) ∧
    ∃ s, SessionReachable decodeFailsTypeAwareEnv true
        [[.query "SELECT 1"], [.parse insertParse, .describe 'S' "s1", .sync]] s ∧
      (s.toClient.getLast?) = some (.parameterDescription [byteaOID], 1) ∧
      ∃ session, s.observed[1]? = some (session, 1) ∧
        handleParameterDescription decodeFailsTypeAwareEnv session
            (.parameterDescription [byteaOID]) =
          .ok (.parameterDescription [typeAwareInt.dbDataTypeID]) := by
  have hpipe : ((Session.initial [[.query "SELECT enc FROM t"], [.query "SELECT name FROM u"]]).run
      rowItemsEnv false
      [.send, .send, .clientReads, .clientReads,
        .databaseAnswers [.rowDescription [byteaField], .readyForQuery 'I'], .serverReads]).map
      (fun s => (s.toClient, s.observed[0]?)) =
      some ([(.rowDescription [byteaField], 0)], some (⟨some [some ⟨typeAwareInt⟩], none⟩, 0)) := by
    decide
  have hlater : ((Session.initial [[.parse insertParse, .sync], [.describe 'S' "s1", .sync]]).run
      typeAwareEnv true
      [.send, .clientReads, .clientReads, .databaseAnswers [.other '1'],
        .databaseAnswers [.readyForQuery 'I'], .serverReads, .serverReads, .send, .clientReads,
        .clientReads, .databaseAnswers [.parameterDescription [byteaOID], .other 'n'],
        .serverReads]).map (fun s => (s.toClient, s.observed[0]?)) =
      some ([(.other '1', 0), (.readyForQuery 'I', 0), (.parameterDescription [byteaOID], 1)],
        some (⟨none, some [some typeAwareInt]⟩, 0)) :=
    rfl
  have hskip : ((Session.initial [[.query "SELECT 1"], [.parse insertParse, .describe 'S' "s1", .sync]]).run
      decodeFailsTypeAwareEnv true
      [.send, .clientReads, .databaseAnswers [.dataRow [some [1]], .readyForQuery 'I'], .serverReads,
        .send, .clientReads, .clientReads, .clientReads, .serverReads,
        .databaseAnswers [.other '1'], .databaseAnswers [.parameterDescription [byteaOID], .other 'n'],
        .serverReads, .serverReads]).map (fun s => (s.toClient.getLast?, s.observed[1]?)) =
      some (some (.parameterDescription [byteaOID], 1), some (⟨none, some [some typeAwareInt]⟩, 1)) :=
    rfl
  obtain ⟨s₁, hs₁, hf₁⟩ := exists_reachable_of_run hpipe
  obtain ⟨s₂, hs₂, hf₂⟩ := exists_reachable_of_run hlater
  obtain ⟨s₃, hs₃, hf₃⟩ := exists_reachable_of_run hskip
  simp only [Prod.mk.injEq] at hf₁ hf₂ hf₃
  exact ⟨⟨s₁, hs₁, hf₁.1, _, hf₁.2, by decide⟩, rfl, ⟨s₂, hs₂, hf₂.1, _, hf₂.2, rfl⟩,
    s₃, hs₃, hf₃.1, _, hf₃.2, rfl⟩

end AcraPgProxy
