import AcraPgProxy.DatabaseHandler

namespace AcraPgProxy

/-- `databaseHandlerState`. -/
inductive DatabaseHandlerState
  | stateFirstPacket
  | stateServe
  | stateSkipResponse
  deriving DecidableEq, Repr

/-- One iteration of `ProxyDatabaseConnection`: what it writes to the client, the next state,
the handler's state, the packet the handler ran on, and the error that ends the loop. -/
structure DbIteration (σ : Type) where
  writes : List ServerPacket
  next : DatabaseHandlerState
  state : σ
  handled : Option ServerPacket
  stop : Option ProxyError

/-- A run of `ProxyDatabaseConnection` until the server's stream ends or an error stops it. -/
structure DbRun (σ : Type) where
  writes : List ServerPacket
  next : DatabaseHandlerState
  state : σ
  handled : List ServerPacket
  stop : Option ProxyError

def DbIteration.prepend {σ : Type} (it : DbIteration σ) (run : DbRun σ) : DbRun σ :=
  ⟨it.writes ++ run.writes, run.next, run.state, it.handled.toList ++ run.handled, run.stop⟩

def DbRun.append {σ : Type} (r₁ r₂ : DbRun σ) : DbRun σ :=
  ⟨r₁.writes ++ r₂.writes, r₂.next, r₂.state, r₁.handled ++ r₂.handled, r₂.stop⟩

/-- A response: packets up to and including the ReadyForQuery that ends it. -/
def IsResponse (r : List ServerPacket) : Prop :=
  ∃ body status, r = body ++ [.readyForQuery status] ∧ ∀ p ∈ body, p.isReadyForQuery = false

/-- The transaction status a packet reports, if it is a ReadyForQuery. -/
def ServerPacket.readyStatus : ServerPacket → Option Char
  | .readyForQuery status => some status
  | _ => none

/-- The transaction statuses of the ReadyForQuery packets in a stream, in order. -/
def readyForQueryStatuses (packets : List ServerPacket) : List Char :=
  packets.filterMap ServerPacket.readyStatus

theorem readyStatus_of_not_ready {p : ServerPacket} (h : p.isReadyForQuery = false) :
    p.readyStatus = none := by
  cases p <;> simp_all [ServerPacket.isReadyForQuery, ServerPacket.readyStatus]

theorem readyForQueryStatuses_cons (p : ServerPacket) (ps : List ServerPacket) :
    readyForQueryStatuses (p :: ps) = p.readyStatus.toList ++ readyForQueryStatuses ps := by
  cases h : p.readyStatus <;> simp [readyForQueryStatuses, List.filterMap_cons, h]

theorem readyForQueryStatuses_append (ps qs : List ServerPacket) :
    readyForQueryStatuses (ps ++ qs) = readyForQueryStatuses ps ++ readyForQueryStatuses qs :=
  List.filterMap_append _ _ _

theorem readyForQueryStatuses_of_response {body : List ServerPacket} {status : Char}
    (hb : ∀ p ∈ body, p.isReadyForQuery = false) :
    readyForQueryStatuses (body ++ [.readyForQuery status]) = [status] := by
  rw [readyForQueryStatuses_append, readyForQueryStatuses, List.filterMap_eq_nil_iff.mpr
    fun p hp => readyStatus_of_not_ready (hb p hp)]
  rfl

/-- The client's share of one response: what it receives, whether a decoding failure cut the
response short, and the handler's state after the response. -/
structure Delivery (σ : Type) where
  writes : List ServerPacket
  cut : Bool
  state : σ

section Loop

variable {σ : Type} (handle : σ → ServerPacket → DbHandled σ)

/-- One iteration of `ProxyDatabaseConnection` on a framed packet. In `stateFirstPacket` a framed
first reply (neither 'S' nor 'N') is forwarded as read. -/
def databaseIteration (st : DatabaseHandlerState) (s : σ) (packet : ServerPacket) : DbIteration σ :=
  match st with
  | .stateFirstPacket => ⟨[packet], .stateServe, s, none, none⟩
  | .stateServe =>
    let h := handle s packet
    match h.result with
    | .ok p => ⟨[p], .stateServe, h.state, some packet, none⟩
    | .error (.encoding message) =>
      ⟨sendClientError message, .stateSkipResponse, h.state, some packet, none⟩
    | .error e => ⟨[], .stateServe, h.state, some packet, some e⟩
  | .stateSkipResponse =>
    if packet.isReadyForQuery then
      let h := handle s packet
      match h.result with
      | .ok _ => ⟨[], .stateServe, h.state, some packet, none⟩
      | .error e => ⟨[], .stateServe, h.state, some packet, some e⟩
    else ⟨[], .stateSkipResponse, s, none, none⟩

/-- `ProxyDatabaseConnection` from state `st` over the packets the server sends. -/
def proxyDatabaseConnection (st : DatabaseHandlerState) (s : σ) : List ServerPacket → DbRun σ
  | [] => ⟨[], st, s, [], none⟩
  | packet :: rest =>
    let it := databaseIteration handle st s packet
    match it.stop with
    | some e => ⟨it.writes, it.next, it.state, it.handled.toList, some e⟩
    | none => it.prepend (proxyDatabaseConnection it.next it.state rest)

/-- The handler passes a ReadyForQuery through as it came and turns no other packet into one. -/
def KeepsReadyForQuery : Prop :=
  ∀ s p, (p.isReadyForQuery = true → (handle s p).result = .ok p) ∧
    ∀ p', (handle s p).result = .ok p' → p'.isReadyForQuery = p.isReadyForQuery

/-- How the ServerReader is to deliver one response: the packets as handled up to the first
EncodingError, then an ErrorResponse with its message and a ReadyForQuery 'I' in place of the
rest, with the handler run once more on the withheld ReadyForQuery. -/
def deliverResponse (s : σ) : List ServerPacket → Delivery σ
  | [] => ⟨[], false, s⟩
  | packet :: rest =>
    let h := handle s packet
    match h.result with
    | .ok p => let d := deliverResponse h.state rest; ⟨p :: d.writes, d.cut, d.state⟩
    | .error (.encoding message) =>
      ⟨[pgError message, .readyForQuery 'I'], true,
        match rest.find? ServerPacket.isReadyForQuery with
        | some z => (handle h.state z).state
        | none => h.state⟩
    | .error _ => ⟨[], false, h.state⟩

/-- The client's stream for whole responses followed by the start of one more. -/
def deliverResponses (s : σ) : List (List ServerPacket) → List ServerPacket → List ServerPacket
  | [], tail => (deliverResponse handle s tail).writes
  | r :: rs, tail =>
    (deliverResponse handle s r).writes ++ deliverResponses (deliverResponse handle s r).state rs tail

/-- The transaction statuses the client is to see: per response the server's, or 'I' for one
cut short, and one more 'I' when the unfinished tail is cut. -/
def deliveredStatuses (s : σ) : List (List ServerPacket) → List ServerPacket → List Char
  | [], tail => if (deliverResponse handle s tail).cut then ['I'] else []
  | r :: rs, tail =>
    (if (deliverResponse handle s r).cut then ['I'] else readyForQueryStatuses r) ++
      deliveredStatuses (deliverResponse handle s r).state rs tail

theorem proxyDatabaseConnection_cons_of_continue {st : DatabaseHandlerState} {s : σ}
    {packet : ServerPacket} {rest : List ServerPacket}
    (h : (databaseIteration handle st s packet).stop = none) :
    proxyDatabaseConnection handle st s (packet :: rest) =
      (databaseIteration handle st s packet).prepend
        (proxyDatabaseConnection handle (databaseIteration handle st s packet).next
          (databaseIteration handle st s packet).state rest) := by
  simp [proxyDatabaseConnection, h]

/-- Skipping a response's body writes and handles nothing. -/
theorem proxyDatabaseConnection_skip_body (s : σ) :
    ∀ {body : List ServerPacket} (rest : List ServerPacket),
      (∀ p ∈ body, p.isReadyForQuery = false) →
      proxyDatabaseConnection handle .stateSkipResponse s (body ++ rest) =
        proxyDatabaseConnection handle .stateSkipResponse s rest
  | [], _, _ => rfl
  | p :: body, rest, hb => by
    have hp : p.isReadyForQuery = false := hb p (List.mem_cons_self _ _)
    rw [List.cons_append, proxyDatabaseConnection_cons_of_continue handle (by simp [databaseIteration, hp])]
    simp only [databaseIteration, hp, Bool.false_eq_true, ↓reduceIte, DbIteration.prepend, List.nil_append,
      Option.toList_none]
    rw [proxyDatabaseConnection_skip_body s rest fun q hq => hb q (List.mem_cons_of_mem _ hq)]

/-- A run over two stretches of the server's stream is the run over the first, continued from
where it left off. -/
theorem proxyDatabaseConnection_append :
    ∀ {st : DatabaseHandlerState} {s : σ} {xs : List ServerPacket} (ys : List ServerPacket),
      (proxyDatabaseConnection handle st s xs).stop = none →
      proxyDatabaseConnection handle st s (xs ++ ys) =
        (proxyDatabaseConnection handle st s xs).append
          (proxyDatabaseConnection handle (proxyDatabaseConnection handle st s xs).next
            (proxyDatabaseConnection handle st s xs).state ys)
  | st, s, [], ys, _ => by
    simp [proxyDatabaseConnection, DbRun.append]
  | st, s, x :: xs, ys, h => by
    cases hs : (databaseIteration handle st s x).stop with
    | some e => simp [proxyDatabaseConnection, hs] at h
    | none =>
      rw [proxyDatabaseConnection_cons_of_continue handle hs] at h ⊢
      rw [List.cons_append, proxyDatabaseConnection_cons_of_continue handle hs,
        proxyDatabaseConnection_append ys h]
      simp [DbIteration.prepend, DbRun.append]

theorem find_readyForQuery_of_response {body : List ServerPacket} {status : Char}
    (hb : ∀ p ∈ body, p.isReadyForQuery = false) :
    (body ++ [ServerPacket.readyForQuery status]).find? ServerPacket.isReadyForQuery =
      some (.readyForQuery status) := by
  rw [List.find?_append, List.find?_eq_none.mpr (by simpa using hb)]
  rfl

/-- The iteration of `stateServe` on a packet the handler fails with an EncodingError. -/
theorem databaseIteration_encoding {s : σ} {packet : ServerPacket} {message : String}
    (h : (handle s packet).result = .error (.encoding message)) :
    databaseIteration handle .stateServe s packet =
      ⟨sendClientError message, .stateSkipResponse, (handle s packet).state, some packet, none⟩ := by
  simp [databaseIteration, h]

theorem databaseIteration_serve_ok {s : σ} {packet p : ServerPacket}
    (h : (handle s packet).result = .ok p) :
    databaseIteration handle .stateServe s packet =
      ⟨[p], .stateServe, (handle s packet).state, some packet, none⟩ := by
  simp [databaseIteration, h]

theorem databaseIteration_serve_fails {s : σ} {packet : ServerPacket} {e : ProxyError}
    (h : (handle s packet).result = .error e) (he : e.isEncoding = false) :
    databaseIteration handle .stateServe s packet =
      ⟨[], .stateServe, (handle s packet).state, some packet, some e⟩ := by
  cases e <;> simp_all [databaseIteration, ProxyError.isEncoding]

theorem databaseIteration_skip_ready {s : σ} {packet p : ServerPacket}
    (hp : packet.isReadyForQuery = true) (h : (handle s packet).result = .ok p) :
    databaseIteration handle .stateSkipResponse s packet =
      ⟨[], .stateServe, (handle s packet).state, some packet, none⟩ := by
  simp [databaseIteration, hp, h]

theorem databaseIteration_skip_body {s : σ} {packet : ServerPacket}
    (hp : packet.isReadyForQuery = false) :
    databaseIteration handle .stateSkipResponse s packet =
      ⟨[], .stateSkipResponse, s, none, none⟩ := by
  simp [databaseIteration, hp]

theorem KeepsReadyForQuery.not_ready_of_error (hk : KeepsReadyForQuery handle) {s : σ}
    {p : ServerPacket} {e : ProxyError} (h : (handle s p).result = .error e) :
    p.isReadyForQuery = false := by
  cases hq : p.isReadyForQuery
  · rfl
  · simp [(hk s p).1 hq] at h

/-- A run that an error stopped on the way stays stopped however the stream goes on. -/
theorem proxyDatabaseConnection_stop_of_append :
    ∀ {st : DatabaseHandlerState} {s : σ} {xs : List ServerPacket} (ys : List ServerPacket),
      (proxyDatabaseConnection handle st s (xs ++ ys)).stop = none →
      (proxyDatabaseConnection handle st s xs).stop = none
  | _, _, [], _, _ => rfl
  | st, s, x :: xs, ys, h => by
    cases hs : (databaseIteration handle st s x).stop with
    | some e => simp [proxyDatabaseConnection, hs] at h
    | none =>
      rw [List.cons_append, proxyDatabaseConnection_cons_of_continue handle hs] at h
      rw [proxyDatabaseConnection_cons_of_continue handle hs]
      exact proxyDatabaseConnection_stop_of_append ys h

/-- In `stateServe` the only handler error a run goes on after is an EncodingError. -/
theorem encoding_of_serve_continues {s : σ} {packet : ServerPacket} {rest : List ServerPacket}
    {e : ProxyError} (h : (handle s packet).result = .error e)
    (hstop : (proxyDatabaseConnection handle .stateServe s (packet :: rest)).stop = none) :
    ∃ message, e = .encoding message := by
  cases he : e.isEncoding
  · simp [proxyDatabaseConnection, databaseIteration_serve_fails handle h he] at hstop
  · exact ProxyError.eq_encoding he

/-- From `stateServe`, a whole response that no fatal error stops is delivered as
`deliverResponse` says, with one ReadyForQuery, and the loop is back in `stateServe` after it. -/
theorem proxyDatabaseConnection_response (hk : KeepsReadyForQuery handle) (status : Char) :
    ∀ (s : σ) {body : List ServerPacket}, (∀ p ∈ body, p.isReadyForQuery = false) →
      (proxyDatabaseConnection handle .stateServe s (body ++ [.readyForQuery status])).stop = none →
      let run := proxyDatabaseConnection handle .stateServe s (body ++ [.readyForQuery status])
      let d := deliverResponse handle s (body ++ [.readyForQuery status])
      run.writes = d.writes ∧ run.state = d.state ∧ run.next = .stateServe ∧
        readyForQueryStatuses d.writes = if d.cut then ['I'] else [status]
  | s, [], _, _ => by
    simp [proxyDatabaseConnection, databaseIteration, deliverResponse, (hk s (.readyForQuery status)).1 rfl,
      DbIteration.prepend, readyForQueryStatuses, ServerPacket.readyStatus]
  | s, p :: body, hb, hstop => by
    have hp : p.isReadyForQuery = false := hb p (List.mem_cons_self _ _)
    have hbody : ∀ q ∈ body, q.isReadyForQuery = false := fun q hq => hb q (List.mem_cons_of_mem _ hq)
    rw [List.cons_append] at hstop ⊢
    cases hr : (handle s p).result with
    | ok p' =>
      have hc : (databaseIteration handle .stateServe s p).stop = none := by
        simp [databaseIteration, hr]
      rw [proxyDatabaseConnection_cons_of_continue handle hc] at hstop ⊢
      simp only [databaseIteration, hr, DbIteration.prepend, deliverResponse] at hstop ⊢
      obtain ⟨hw, hs, hn, hst⟩ := proxyDatabaseConnection_response hk status (handle s p).state hbody hstop
      have hq : p'.isReadyForQuery = false := ((hk s p).2 p' hr).trans hp
      refine ⟨by rw [hw]; rfl, hs, hn, ?_⟩
      rw [readyForQueryStatuses_cons, readyStatus_of_not_ready hq, hst]
      rfl
    | error e =>
      obtain ⟨message, rfl⟩ := encoding_of_serve_continues handle hr hstop
      rw [proxyDatabaseConnection_cons_of_continue handle
        (by simp [databaseIteration_encoding handle hr]), databaseIteration_encoding handle hr,
        proxyDatabaseConnection_skip_body handle _ _ hbody]
      simp [proxyDatabaseConnection, databaseIteration, deliverResponse, hr,
        (hk (handle s p).state (.readyForQuery status)).1 rfl, DbIteration.prepend, find_readyForQuery_of_response hbody,
        ServerPacket.isReadyForQuery, readyForQueryStatuses, ServerPacket.readyStatus, pgError,
        sendClientError, readyForQuery]

/-- The start of a response, cut off by the end of the server's stream. -/
theorem proxyDatabaseConnection_partial (hk : KeepsReadyForQuery handle) :
    ∀ (s : σ) {tail : List ServerPacket}, (∀ p ∈ tail, p.isReadyForQuery = false) →
      (proxyDatabaseConnection handle .stateServe s tail).stop = none →
      (proxyDatabaseConnection handle .stateServe s tail).writes = (deliverResponse handle s tail).writes ∧
        readyForQueryStatuses (deliverResponse handle s tail).writes =
          if (deliverResponse handle s tail).cut then ['I'] else []
  | s, [], _, _ => ⟨rfl, rfl⟩
  | s, p :: tail, ht, hstop => by
    have hp : p.isReadyForQuery = false := ht p (List.mem_cons_self _ _)
    have htail : ∀ q ∈ tail, q.isReadyForQuery = false := fun q hq => ht q (List.mem_cons_of_mem _ hq)
    cases hr : (handle s p).result with
    | ok p' =>
      have hc : (databaseIteration handle .stateServe s p).stop = none := by
        simp [databaseIteration, hr]
      rw [proxyDatabaseConnection_cons_of_continue handle hc] at hstop ⊢
      simp only [databaseIteration, hr, DbIteration.prepend, deliverResponse] at hstop ⊢
      obtain ⟨hw, hst⟩ := proxyDatabaseConnection_partial hk (handle s p).state htail hstop
      have hq : p'.isReadyForQuery = false := ((hk s p).2 p' hr).trans hp
      refine ⟨by rw [hw]; rfl, ?_⟩
      rw [readyForQueryStatuses_cons, readyStatus_of_not_ready hq, hst]
      rfl
    | error e =>
      obtain ⟨message, rfl⟩ := encoding_of_serve_continues handle hr hstop
      rw [proxyDatabaseConnection_cons_of_continue handle
        (by simp [databaseIteration_encoding handle hr]), databaseIteration_encoding handle hr]
      have hs := proxyDatabaseConnection_skip_body handle (handle s p).state [] (by simpa using htail)
      rw [List.append_nil] at hs
      simp [DbIteration.prepend, deliverResponse, hr, hs, proxyDatabaseConnection, sendClientError,
        readyForQuery, readyForQueryStatuses, ServerPacket.readyStatus, pgError]

theorem proxyDatabaseConnection_response_append (hk : KeepsReadyForQuery handle) (s : σ)
    {r : List ServerPacket} (hr : IsResponse r) (rest : List ServerPacket)
    (hstop : (proxyDatabaseConnection handle .stateServe s (r ++ rest)).stop = none) :
    proxyDatabaseConnection handle .stateServe s (r ++ rest) =
      (proxyDatabaseConnection handle .stateServe s r).append
        (proxyDatabaseConnection handle .stateServe (deliverResponse handle s r).state rest) ∧
      (proxyDatabaseConnection handle .stateServe s r).writes = (deliverResponse handle s r).writes ∧
      readyForQueryStatuses (deliverResponse handle s r).writes =
        if (deliverResponse handle s r).cut then ['I'] else readyForQueryStatuses r := by
  obtain ⟨body, status, rfl, hb⟩ := hr
  have hs0 := proxyDatabaseConnection_stop_of_append handle rest hstop
  obtain ⟨hw, hs, hn, hst⟩ := proxyDatabaseConnection_response handle hk status s hb hs0
  refine ⟨?_, hw, by rw [hst, readyForQueryStatuses_of_response hb]⟩
  rw [proxyDatabaseConnection_append handle rest hs0, hn, hs]

/-- Response by response, the run writes `deliverResponses` and its statuses are
`deliveredStatuses`, as long as no fatal error stops it. -/
theorem proxyDatabaseConnection_writes_by_response (hk : KeepsReadyForQuery handle)
    (tail : List ServerPacket) (ht : ∀ p ∈ tail, p.isReadyForQuery = false) :
    ∀ (s : σ) (responses : List (List ServerPacket)), (∀ r ∈ responses, IsResponse r) →
      (proxyDatabaseConnection handle .stateServe s (responses.flatten ++ tail)).stop = none →
      (proxyDatabaseConnection handle .stateServe s (responses.flatten ++ tail)).writes =
          deliverResponses handle s responses tail ∧
        readyForQueryStatuses (deliverResponses handle s responses tail) =
          deliveredStatuses handle s responses tail
  | s, [], _, hstop => by
    obtain ⟨hw, hst⟩ := proxyDatabaseConnection_partial handle hk s ht hstop
    refine ⟨hw, ?_⟩
    rw [deliverResponses, hst, deliveredStatuses]
  | s, r :: rs, hr, hstop => by
    rw [List.flatten_cons, List.append_assoc] at hstop ⊢
    obtain ⟨happ, hw, hst⟩ :=
      proxyDatabaseConnection_response_append handle hk s (hr r (List.mem_cons_self _ _)) _ hstop
    rw [happ] at hstop ⊢
    obtain ⟨ihw, ihst⟩ := proxyDatabaseConnection_writes_by_response hk tail ht _ rs
      (fun r' hm => hr r' (List.mem_cons_of_mem _ hm)) hstop
    refine ⟨by rw [DbRun.append, hw, ihw]; rfl, ?_⟩
    rw [deliverResponses, readyForQueryStatuses_append, hst, ihst]
    rfl

/-- A run over whole responses that no fatal error stops ends in `stateServe`. -/
theorem proxyDatabaseConnection_serve_of_responses (hk : KeepsReadyForQuery handle) :
    ∀ (s : σ) (responses : List (List ServerPacket)), (∀ r ∈ responses, IsResponse r) →
      (proxyDatabaseConnection handle .stateServe s responses.flatten).stop = none →
      (proxyDatabaseConnection handle .stateServe s responses.flatten).next = .stateServe
  | _, [], _, _ => rfl
  | s, r :: rs, hr, hstop => by
    rw [List.flatten_cons] at hstop ⊢
    obtain ⟨happ, -, -⟩ :=
      proxyDatabaseConnection_response_append handle hk s (hr r (List.mem_cons_self _ _)) _ hstop
    rw [happ] at hstop ⊢
    exact proxyDatabaseConnection_serve_of_responses hk _ rs
      (fun r' hm => hr r' (List.mem_cons_of_mem _ hm)) hstop

/-- What one iteration hands to the handler: nothing, leaving the state, or the packet it read. -/
theorem databaseIteration_handled (st : DatabaseHandlerState) (s : σ) (packet : ServerPacket) :
    (databaseIteration handle st s packet).handled = none ∧
        (databaseIteration handle st s packet).state = s ∨
      (databaseIteration handle st s packet).handled = some packet ∧
        (databaseIteration handle st s packet).state = (handle s packet).state := by
  unfold databaseIteration
  split
  · exact .inl ⟨rfl, rfl⟩
  · dsimp only
    split <;> exact .inr ⟨rfl, rfl⟩
  · split
    · dsimp only
      split <;> exact .inr ⟨rfl, rfl⟩
    · exact .inl ⟨rfl, rfl⟩

/-- Past the first packet, an iteration hands the handler every ReadyForQuery it reads. -/
theorem databaseIteration_handles_ready {st : DatabaseHandlerState} (hst : st ≠ .stateFirstPacket)
    (s : σ) (packet : ServerPacket) :
    (databaseIteration handle st s packet).next ≠ .stateFirstPacket ∧
      (databaseIteration handle st s packet).handled.toList.filter ServerPacket.isReadyForQuery =
        [packet].filter ServerPacket.isReadyForQuery := by
  cases st with
  | stateFirstPacket => exact absurd rfl hst
  | stateServe =>
    simp only [databaseIteration]
    split <;> simp
  | stateSkipResponse =>
    cases hp : packet.isReadyForQuery
    · simp [databaseIteration, hp]
    · simp only [databaseIteration, hp, if_true]
      split <;> simp [hp]

/-- A run from `stateServe` or `stateSkipResponse` that no error stopped has handed the handler
every ReadyForQuery of the server's stream. -/
theorem proxyDatabaseConnection_handles_ready :
    ∀ (st : DatabaseHandlerState) (s : σ) (ps : List ServerPacket), st ≠ .stateFirstPacket →
      (proxyDatabaseConnection handle st s ps).stop = none →
      (proxyDatabaseConnection handle st s ps).handled.filter ServerPacket.isReadyForQuery =
        ps.filter ServerPacket.isReadyForQuery
  | st, s, [], _, _ => rfl
  | st, s, p :: ps, hst, hstop => by
    obtain ⟨hnext, hready⟩ := databaseIteration_handles_ready handle hst s p
    cases hit : (databaseIteration handle st s p).stop with
    | some e => simp [proxyDatabaseConnection, hit] at hstop
    | none =>
      rw [proxyDatabaseConnection_cons_of_continue handle hit] at hstop ⊢
      have ih := proxyDatabaseConnection_handles_ready _ _ ps hnext hstop
      rw [DbIteration.prepend, List.filter_append, hready, ih, ← List.filter_append]
      rfl

end Loop

/-- Collaborators whose column decoder rejects every value with an EncodingError. -/
def decodeFailsEnv : Collaborators :=
  { plainEnv with
    onColumnDecryption := fun _ _ _ _ => .error (.encoding "column decoding failed")
    mapEncryptedTypeToOID := some }

/-- Two queued queries, `SELECT enc FROM t` and `SELECT 1`. -/
def twoPending : PgProxy :=
  { PgProxy.fresh with pendingQueryPackets := [newQueryPacket "SELECT enc FROM t", newQueryPacket "SELECT 1"] }

/-- The answers to `twoPending` inside a transaction: the first has a DataRow. -/
def twoAnswers : List (List ServerPacket) :=
  [[.dataRow [some [1]], .readyForQuery 'T'], [.other 'C', .readyForQuery 'T']]

theorem twoAnswers_responses : ∀ r ∈ twoAnswers, IsResponse r := by
  intro r hm
  simp only [twoAnswers, List.mem_cons, List.mem_singleton, List.not_mem_nil, or_false] at hm
  rcases hm with rfl | rfl
  · exact ⟨[.dataRow [some [1]]], 'T', rfl, by decide⟩
  · exact ⟨[.other 'C'], 'T', rfl, by decide⟩

/-- Unless a fatal error stops it, the ServerReader delivers the server's stream response by
response, and is back in `stateServe` at every response boundary. -/
theorem proxyDatabaseConnection_by_response (env : Collaborators) (proxy : PgProxy)
    (responses : List (List ServerPacket)) (hr : ∀ r ∈ responses, IsResponse r)
    (tail : List ServerPacket) (ht : ∀ p ∈ tail, p.isReadyForQuery = false)
    (hstop : (proxyDatabaseConnection (handleDatabasePacket env) .stateServe proxy
      (responses.flatten ++ tail)).stop = none) :
    (proxyDatabaseConnection (handleDatabasePacket env) .stateServe proxy
        (responses.flatten ++ tail)).writes =
        deliverResponses (handleDatabasePacket env) proxy responses tail ∧
      (∀ k, (proxyDatabaseConnection (handleDatabasePacket env) .stateServe proxy
        (responses.take k).flatten).next = .stateServe) ∧
      (proxyDatabaseConnection (handleDatabasePacket env) .stateServe proxy
          (responses.flatten ++ tail)).handled.filter ServerPacket.isReadyForQuery =
        (responses.flatten ++ tail).filter ServerPacket.isReadyForQuery := by
  have hk : KeepsReadyForQuery (handleDatabasePacket env) := handleDatabasePacket_keeps_readyForQuery env
  refine ⟨(proxyDatabaseConnection_writes_by_response _ hk tail ht proxy responses hr hstop).1,
    fun k => ?_, proxyDatabaseConnection_handles_ready _ .stateServe proxy _ (by decide) hstop⟩
  have hsplit : responses.flatten ++ tail =
      (responses.take k).flatten ++ ((responses.drop k).flatten ++ tail) := by
    rw [← List.append_assoc, ← List.flatten_append, List.take_append_drop]
  rw [hsplit] at hstop
  exact proxyDatabaseConnection_serve_of_responses _ hk proxy _
    (fun r hm => hr r (List.mem_of_mem_take hm)) (proxyDatabaseConnection_stop_of_append _ _ hstop)

theorem proxyDatabaseConnection_by_response_cut :
    (∀ p ∈ ([] : List ServerPacket), p.isReadyForQuery = false) ∧
      (proxyDatabaseConnection (handleDatabasePacket decodeFailsEnv) .stateServe twoPending
        (twoAnswers.flatten ++ [])).stop = none ∧
      (proxyDatabaseConnection (handleDatabasePacket decodeFailsEnv) .stateServe twoPending
        (twoAnswers.flatten ++ [])).writes =
        deliverResponses (handleDatabasePacket decodeFailsEnv) twoPending twoAnswers [] := by
  have ht : ∀ p ∈ ([] : List ServerPacket), p.isReadyForQuery = false := nofun
  have hstop : (proxyDatabaseConnection (handleDatabasePacket decodeFailsEnv) .stateServe twoPending
      (twoAnswers.flatten ++ [])).stop = none := by decide
  exact ⟨ht, hstop,
    (proxyDatabaseConnection_by_response decodeFailsEnv twoPending twoAnswers twoAnswers_responses
      [] ht hstop).1⟩

/-- Inside a transaction (status 'T') a DataRow that fails to decode leaves the client with the
proxy's ReadyForQuery, status 'I', while the server's 'T' is withheld. -/
theorem proxyDatabaseConnection_reports_idle :
    readyForQueryStatuses
        (proxyDatabaseConnection (handleDatabasePacket decodeFailsEnv) .stateServe
          { PgProxy.fresh with pendingQueryPackets := [newQueryPacket "SELECT enc FROM t"] }
          [.dataRow [some [1]], .readyForQuery 'T']).writes ≠
      readyForQueryStatuses [.dataRow [some [1]], .readyForQuery 'T'] := by
  decide

/-- The ServerReader's handler releases the queue's head on each ReadyForQuery it runs on and on
nothing else: after any run, from any state, the queue is the one the run started with less one
entry per ReadyForQuery the handler saw. -/
theorem proxyDatabaseConnection_queue (env : Collaborators) :
    ∀ (st : DatabaseHandlerState) (proxy : PgProxy) (input : List ServerPacket),
      (proxyDatabaseConnection (handleDatabasePacket env) st proxy input).state.pendingQueryPackets =
        proxy.pendingQueryPackets.drop
          ((proxyDatabaseConnection (handleDatabasePacket env) st proxy input).handled.countP
            ServerPacket.isReadyForQuery)
  | st, proxy, [] => rfl
  | st, proxy, packet :: rest => by
    have hit : (databaseIteration (handleDatabasePacket env) st proxy packet).state.pendingQueryPackets =
        proxy.pendingQueryPackets.drop
          ((databaseIteration (handleDatabasePacket env) st proxy packet).handled.toList.countP
            ServerPacket.isReadyForQuery) := by
      rcases databaseIteration_handled (handleDatabasePacket env) st proxy packet with
        ⟨hh, hs⟩ | ⟨hh, hs⟩
      · rw [hh, hs]
        rfl
      · rw [hh, hs, handleDatabasePacket_pendingQueryPackets]
        cases hr : packet.isReadyForQuery <;> simp [hr]
    simp only [proxyDatabaseConnection]
    split
    · exact hit
    · simp only [DbIteration.prepend, List.countP_append]
      rw [proxyDatabaseConnection_queue env _ _ rest, hit, List.drop_drop, Nat.add_comm]

/-- The ServerReader releases exactly one pending query per ReadyForQuery the server sends, also
for a response cut short by a decoding failure. -/
theorem proxyDatabaseConnection_releases_one_per_ready (env : Collaborators)
    {st : DatabaseHandlerState} (hst : st ≠ .stateFirstPacket) (proxy : PgProxy)
    (input : List ServerPacket)
    (hstop : (proxyDatabaseConnection (handleDatabasePacket env) st proxy input).stop = none) :
    (proxyDatabaseConnection (handleDatabasePacket env) st proxy input).state.pendingQueryPackets =
      proxy.pendingQueryPackets.drop (input.countP ServerPacket.isReadyForQuery) := by
  rw [proxyDatabaseConnection_queue, List.countP_eq_length_filter,
    proxyDatabaseConnection_handles_ready _ st proxy input hst hstop, ← List.countP_eq_length_filter]

/-- Two queries queued; the first answer is cut short by a decoding failure. -/
theorem proxyDatabaseConnection_releases_one_per_ready_cut :
    DatabaseHandlerState.stateServe ≠ .stateFirstPacket ∧
      (proxyDatabaseConnection (handleDatabasePacket decodeFailsEnv) .stateServe
          { PgProxy.fresh with pendingQueryPackets := [newQueryPacket "SELECT enc FROM t",
            newQueryPacket "SELECT 1"] }
          [.dataRow [some [1]], .other 'C', .readyForQuery 'I', .readyForQuery 'I']).stop = none ∧
      (proxyDatabaseConnection (handleDatabasePacket decodeFailsEnv) .stateServe
          { PgProxy.fresh with pendingQueryPackets := [newQueryPacket "SELECT enc FROM t",
            newQueryPacket "SELECT 1"] }
          [.dataRow [some [1]], .other 'C', .readyForQuery 'I', .readyForQuery 'I']).state.pendingQueryPackets =
        [newQueryPacket "SELECT enc FROM t", newQueryPacket "SELECT 1"].drop
          ([ServerPacket.dataRow [some [1]], .other 'C', .readyForQuery 'I', .readyForQuery 'I'].countP
            ServerPacket.isReadyForQuery) := by
  have hst : DatabaseHandlerState.stateServe ≠ .stateFirstPacket := by decide
  have hstop : (proxyDatabaseConnection (handleDatabasePacket decodeFailsEnv) .stateServe
      { PgProxy.fresh with pendingQueryPackets := [newQueryPacket "SELECT enc FROM t",
        newQueryPacket "SELECT 1"] }
      [.dataRow [some [1]], .other 'C', .readyForQuery 'I', .readyForQuery 'I']).stop = none := by
    decide
  exact ⟨hst, hstop, proxyDatabaseConnection_releases_one_per_ready decodeFailsEnv hst _ _ hstop⟩

end AcraPgProxy
