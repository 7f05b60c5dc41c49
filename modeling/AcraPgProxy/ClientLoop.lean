import AcraPgProxy.ClientHandler

namespace AcraPgProxy

/-- What one iteration of `ProxyClientConnection` writes: the packet to the database, or the
censor's error and ReadyForQuery to the client. -/
inductive ClientWrite
  | toDatabase (packet : ClientPacket)
  | toClient (packets : List ServerPacket)
  deriving DecidableEq, Repr

/-- Why the ClientReader's loop returned: the client's stream ended, a Terminate was forwarded,
or a handler failed. -/
inductive ClientStop
  | eof
  | terminated
  | handlerError (e : ProxyError)
  deriving DecidableEq, Repr

structure ClientIteration where
  write : Option ClientWrite
  stop : Option ClientStop
  proxy : PgProxy

structure ClientRun where
  writes : List ClientWrite
  stop : ClientStop
  proxy : PgProxy

section Loop

variable (env : Collaborators)

/-- One iteration of the `ProxyClientConnection` loop on the packet `ReadClientPacket` returned. -/
def clientIteration (proxy : PgProxy) (packet : ClientPacket) : ClientIteration :=
  let h := handleClientPacket env proxy packet
  match h.result with
  | .error e => ⟨none, some (.handlerError e), h.proxy⟩
  | .ok true => ⟨some (.toClient (sendClientError acraCensorBlockedThisQuery)), none, h.proxy⟩
  | .ok false =>
    ⟨some (.toDatabase h.packet), if packet.isTerminate then some .terminated else none, h.proxy⟩

/-- `ProxyClientConnection` over the packets the client sends, until its stream ends. -/
def proxyClientConnection (proxy : PgProxy) : List ClientPacket → ClientRun
  | [] => ⟨[], .eof, proxy⟩
  | packet :: rest =>
    let it := clientIteration env proxy packet
    match it.stop with
    | some stop => ⟨it.write.toList, stop, it.proxy⟩
    | none =>
      let run := proxyClientConnection it.proxy rest
      ⟨it.write.toList ++ run.writes, run.stop, run.proxy⟩

theorem clientIteration_error {proxy : PgProxy} {packet : ClientPacket} {e : ProxyError}
    (h : (handleClientPacket env proxy packet).result = .error e) :
    clientIteration env proxy packet =
      ⟨none, some (.handlerError e), (handleClientPacket env proxy packet).proxy⟩ := by
  simp [clientIteration, h]

theorem clientIteration_censored {proxy : PgProxy} {packet : ClientPacket}
    (h : censoredBy env packet = true) :
    clientIteration env proxy packet =
      ⟨some (.toClient (sendClientError acraCensorBlockedThisQuery)), none,
        (handleClientPacket env proxy packet).proxy⟩ := by
  simp [clientIteration, (handleClientPacket_censored_iff env proxy packet).mpr h]

theorem clientIteration_forward {proxy : PgProxy} {packet : ClientPacket}
    (h : (handleClientPacket env proxy packet).result = .ok false) :
    clientIteration env proxy packet =
      ⟨some (.toDatabase (handleClientPacket env proxy packet).packet),
        if packet.isTerminate then some .terminated else none,
        (handleClientPacket env proxy packet).proxy⟩ := by
  simp [clientIteration, h]

theorem clientIteration_toClient {proxy : PgProxy} {packet : ClientPacket} {ps : List ServerPacket}
    (h : (clientIteration env proxy packet).write = some (.toClient ps)) :
    ps = sendClientError acraCensorBlockedThisQuery := by
  unfold clientIteration at h
  dsimp only at h
  split at h
  · cases h
  · cases h; rfl
  · split_ifs at h <;> cases h

/-- The ClientReader writes nothing to the client but the censor's error and ReadyForQuery. -/
theorem proxyClientConnection_toClient (proxy : PgProxy) (packets : List ClientPacket) :
    ∀ ps, .toClient ps ∈ (proxyClientConnection env proxy packets).writes →
      ps = sendClientError acraCensorBlockedThisQuery := by
  induction packets generalizing proxy with
  | nil => simp [proxyClientConnection]
  | cons packet rest ih =>
    intro ps hm
    have hw : ClientWrite.toClient ps ∈ (clientIteration env proxy packet).write.toList →
        ps = sendClientError acraCensorBlockedThisQuery := fun h =>
      clientIteration_toClient env (Option.mem_toList.mp h)
    simp only [proxyClientConnection] at hm
    split at hm
    · exact hw hm
    · rcases List.mem_append.mp hm with h | h
      · exact hw h
      · exact ih _ ps h

end Loop

/-- A type-aware encrypted `int4` column. -/
def typeAwareInt : ColumnEncryptionSetting := ⟨"enc", true, 23⟩

/-- Observers that change no query and mark the first placeholder of every query type-aware. -/
def typeAwareEnv : Collaborators :=
  { plainEnv with
    onQuery := fun session q =>
      ⟨q, false, none, { session with placeholderSettings := some [some typeAwareInt] }⟩
    mapEncryptedTypeToOID := some }

/-- A Parse declaring its one parameter as `text` (OID 25). -/
def insertParse : ParsePacket := ⟨"s1", "INSERT INTO t(enc) VALUES ($1)", [25]⟩

end AcraPgProxy
