import AcraPgProxy.ProxySetup

namespace AcraPgProxy

section Handlers

variable (env : Collaborators)

/-- A Bind of a statement the registry does not hold fails `registerCursor`'s lookup, and the
ClientReader returns that error without writing the Bind anywhere. -/
theorem proxyClientConnection_of_unknown_statement {proxy : PgProxy} {b : BindPacket}
    (h : proxy.registry.statements b.statementName = none) (rest : List ClientPacket) :
    proxyClientConnection env proxy (.bind b :: rest) =
      ⟨[], .handlerError (.statementNotFound b.statementName), proxy⟩ := by
  have hb : handleClientPacket env proxy (.bind b) =
      ⟨.error (.statementNotFound b.statementName), .bind b, proxy⟩ := by
    simp [handleClientPacket, ClientPacket.packetType, handleBindPacket, ClientPacket.getBindData,
      registerCursor_of_unknown h]
  simp [proxyClientConnection, clientIteration_error env (congrArg ClientHandled.result hb), hb]

end Handlers

/-- A Bind of the statement `missing`, which no Parse declared. -/
def unknownStatementBind : BindPacket := ⟨"", "missing", [], [], []⟩

theorem handleBindPacket_rejects_unknown_statement :
    (handleClientPacket plainEnv .fresh (.bind unknownStatementBind)).result =
        .error (.statementNotFound "missing") ∧
      (proxyClientConnection plainEnv .fresh [.bind unknownStatementBind, .sync]).writes = [] ∧
      (proxyClientConnection plainEnv .fresh [.bind unknownStatementBind, .sync]).stop =
        .handlerError (.statementNotFound "missing") := by
  have h := proxyClientConnection_of_unknown_statement plainEnv
    (show PgProxy.fresh.registry.statements unknownStatementBind.statementName = none from rfl) [.sync]
  exact ⟨rfl, by rw [h], by rw [h]; rfl⟩

/-- The packet a write sends to the database. -/
def ClientWrite.toDatabasePacket : ClientWrite → Option ClientPacket
  | .toDatabase p => some p
  | .toClient _ => none

/-- The packets a run of the ClientReader sent to the database, in order. -/
def ClientRun.forwarded (run : ClientRun) : List ClientPacket :=
  run.writes.filterMap ClientWrite.toDatabasePacket

/-- Modelled from the protocol, not from src: what the database learns from one packet. A Parse
declares its statement under its name, in place of what the name stood for; a Bind declares its
portal, bound to the statement its statement name stands for at that point, and declares nothing
when the name stands for none. -/
def declare (r : PreparedStatementRegistry) : ClientPacket → PreparedStatementRegistry
  | .parse p => { r with
      statements := fun n => if n = p.name then some ⟨p.name, p.queryString⟩ else r.statements n }
  | .bind b =>
    match r.statements b.statementName with
    | some st => { r with cursors := fun n => if n = b.portalName then some ⟨b, st⟩ else r.cursors n }
    | none => r
  | _ => r

/-- What the packets `sent` declare, read in order from `r`. -/
def declared (r : PreparedStatementRegistry) (sent : List ClientPacket) : PreparedStatementRegistry :=
  sent.foldl declare r

@[simp] theorem declared_nil (r : PreparedStatementRegistry) : declared r [] = r := rfl

@[simp] theorem declared_cons (r : PreparedStatementRegistry) (c : ClientPacket) (sent : List ClientPacket) :
    declared r (c :: sent) = declared (declare r c) sent := rfl

theorem declared_append (r : PreparedStatementRegistry) (xs ys : List ClientPacket) :
    declared r (xs ++ ys) = declared (declared r xs) ys := List.foldl_append _ _ _ _

theorem declare_bind_cursors {r : PreparedStatementRegistry} {b : BindPacket} {st : PreparedStatement}
    (h : r.statements b.statementName = some st) :
    (declare r (.bind b)).cursors b.portalName = some ⟨b, st⟩ := by
  simp [declare, h]

theorem declare_of_not_parse_bind {r : PreparedStatementRegistry} {c : ClientPacket}
    (hp : ∀ p, c ≠ .parse p) (hb : ∀ b, c ≠ .bind b) : declare r c = r := by
  cases c with
  | parse p => exact absurd rfl (hp p)
  | bind b => exact absurd rfl (hb b)
  | _ => rfl

/-- Packets with no Parse of `name` leave the statement `name` as it was. -/
theorem declared_statements_of_no_parse {r : PreparedStatementRegistry} {sent : List ClientPacket}
    {name : String} (h : ∀ p, .parse p ∈ sent → p.name ≠ name) :
    (declared r sent).statements name = r.statements name := by
  induction sent generalizing r with
  | nil => rfl
  | cons c sent ih =>
    rw [declared_cons, ih fun p hp => h p (.tail _ hp)]
    cases c with
    | parse p => simp [declare, Ne.symm (h p (.head _))]
    | bind b => simp only [declare]; split <;> rfl
    | _ => rfl

/-- Packets with no Bind of the portal `name` leave the portal `name` as it was. -/
theorem declared_cursors_of_no_bind {r : PreparedStatementRegistry} {sent : List ClientPacket}
    {name : String} (h : ∀ b, .bind b ∈ sent → b.portalName ≠ name) :
    (declared r sent).cursors name = r.cursors name := by
  induction sent generalizing r with
  | nil => rfl
  | cons c sent ih =>
    rw [declared_cons, ih fun b hb => h b (.tail _ hb)]
    cases c with
    | bind b => simp only [declare]; split <;> simp [Ne.symm (h b (.head _))]
    | _ => rfl

/-- The latest Bind of a portal, sent after the latest Parse of the Bind's statement, decides what
the portal stands for. -/
theorem declared_cursor_latest (r : PreparedStatementRegistry) {pre mid post : List ClientPacket}
    {p : ParsePacket} {b : BindPacket} (hname : b.statementName = p.name)
    (hmid : ∀ p', .parse p' ∈ mid → p'.name ≠ p.name)
    (hpost : ∀ b', .bind b' ∈ post → b'.portalName ≠ b.portalName) :
    (declared r (pre ++ .parse p :: mid ++ .bind b :: post)).cursors b.portalName =
      some ⟨b, ⟨p.name, p.queryString⟩⟩ := by
  have hst : (declared (declare (declared r pre) (.parse p)) mid).statements b.statementName =
      some ⟨p.name, p.queryString⟩ := by
    rw [hname, declared_statements_of_no_parse hmid]
    simp [declare]
  rw [declared_append, declared_cons, declared_cursors_of_no_bind hpost, declared_append,
    declared_cons]
  exact declare_bind_cursors hst

section Refinement

variable (env : Collaborators)

/-- One packet `handleClientPacket` lets through changes the session's registry by what the
packet it forwards declares. -/
theorem handleClientPacket_declares {proxy : PgProxy} {packet : ClientPacket}
    (h : (handleClientPacket env proxy packet).result = .ok false) :
    (handleClientPacket env proxy packet).proxy.registry =
      declare proxy.registry (handleClientPacket env proxy packet).packet := by
  rcases handleClientPacket_registry env h with ⟨p, hp, hr⟩ | ⟨b', hb', -⟩ | ⟨hp, hb, hr⟩
  · rw [hp]
    exact (PreparedStatementRegistry.addStatement_eq_ok hr).2
  · obtain ⟨b, rfl⟩ : ∃ b, packet = .bind b := by
      have hw := handleClientPacket_rewrite env h
      rw [hb'] at hw
      cases hw <;> exact ⟨_, rfl⟩
    obtain ⟨st, b', hs, hp, hport, hstmt, hreg⟩ := handleBindPacket_forwarded env h
    change (handleBindPacket env proxy (.bind b)).proxy.registry =
      declare proxy.registry (handleBindPacket env proxy (.bind b)).packet
    rw [hreg, hp]
    simp [declare, hstmt, hs, hport]
  · rw [hr, declare_of_not_parse_bind hp hb]

/-- `handleClientPacket` forwards an Execute only after the Execute branch found its portal in
the registry the protocol state reads. -/
theorem handleClientPacket_forwards_execute {proxy : PgProxy} {packet : ClientPacket}
    {e : ExecutePacket} (h : (handleClientPacket env proxy packet).result = .ok false)
    (he : (handleClientPacket env proxy packet).packet = .execute e) :
    ((proxy.registries proxy.protocolRegistry).cursors e.portal).isSome := by
  have hw := handleClientPacket_rewrite env h
  rw [he] at hw
  cases hw
  cases hc : (proxy.registries proxy.protocolRegistry).cursors e.portal with
  | some c => rfl
  | none =>
    simp [handleClientPacket, ClientPacket.packetType, ClientPacket.getExecuteData,
      PreparedStatementRegistry.cursorByName, hc] at h

theorem ClientRun.forwarded_append (ws : List ClientWrite) (run : ClientRun) (stop : ClientStop)
    (proxy : PgProxy) :
    (ClientRun.mk (ws ++ run.writes) stop proxy).forwarded =
      ws.filterMap ClientWrite.toDatabasePacket ++ run.forwarded :=
  List.filterMap_append _ _ _

/-- The ClientReader's registry is, after every run that no handler error ended, what the packets
it sent to the database declare. -/
theorem proxyClientConnection_declares (proxy : PgProxy) (packets : List ClientPacket)
    (h : ∀ e, (proxyClientConnection env proxy packets).stop ≠ .handlerError e) :
    (proxyClientConnection env proxy packets).proxy.registry =
      declared proxy.registry (proxyClientConnection env proxy packets).forwarded := by
  induction packets generalizing proxy with
  | nil => rfl
  | cons packet rest ih =>
    cases hr : (handleClientPacket env proxy packet).result with
    | error e => simp [proxyClientConnection, clientIteration_error env hr] at h
    | ok censored =>
      cases censored with
      | true =>
        have hc := (handleClientPacket_censored_iff env proxy packet).mp hr
        simp only [proxyClientConnection, clientIteration_censored env hc] at h ⊢
        rw [ClientRun.forwarded_append, ih _ h, handleClientPacket_registry_of_censored env hr]
        rfl
      | false =>
        have hstep := handleClientPacket_declares env hr
        cases ht : packet.isTerminate
        · simp only [proxyClientConnection, clientIteration_forward env hr, ht, Bool.false_eq_true,
            if_false] at h ⊢
          rw [ClientRun.forwarded_append, ih _ h]
          simp [ClientWrite.toDatabasePacket, hstep]
        · simp [proxyClientConnection, clientIteration_forward env hr, ht, ClientRun.forwarded,
            ClientWrite.toDatabasePacket, hstep]

end Refinement

theorem handleClientPacket_execute_entry {env : Collaborators} {proxy : PgProxy}
    {packets : List ClientPacket} {run : ClientRun} (ha : proxy.Aliased)
    (hrun : proxyClientConnection env proxy packets = run) (hstop : ∀ e, run.stop ≠ .handlerError e)
    {pre mid post : List ClientPacket} {p : ParsePacket} {b : BindPacket}
    (hsent : run.forwarded = pre ++ .parse p :: mid ++ .bind b :: post)
    (hname : b.statementName = p.name) (hmid : ∀ p', .parse p' ∈ mid → p'.name ≠ p.name)
    (hpost : ∀ b', .bind b' ∈ post → b'.portalName ≠ b.portalName)
    {e : ExecutePacket} (he : e.portal = b.portalName) :
    handleClientPacket env run.proxy (.execute e) =
      ⟨.ok false, .execute e, { run.proxy with
        pendingQueryPackets := run.proxy.pendingQueryPackets ++ [⟨p.queryString, some b, some e⟩] }⟩ := by
  subst hrun
  have hal : (proxyClientConnection env proxy packets).proxy.Aliased :=
    (ProxyLife.clientRun proxy packets).grows.aliased ha
  refine handleClientPacket_execute env (c := ⟨b, ⟨p.name, p.queryString⟩⟩) ?_
  rw [PgProxy.protocol_registry_of_aliased hal, he, proxyClientConnection_declares env proxy packets hstop,
    hsent]
  exact declared_cursor_latest _ hname hmid hpost

/-- Parse the statement `s1`, then Bind the unnamed portal to it. -/
def preparedSelect : List ClientPacket :=
  [.parse ⟨"s1", "SELECT 1", []⟩, .bind ⟨"", "s1", [], [], []⟩]

theorem handleClientPacket_execute_entry_select :
    PgProxy.fresh.Aliased ∧
      (∀ e, (proxyClientConnection plainEnv .fresh preparedSelect).stop ≠ .handlerError e) ∧
      (proxyClientConnection plainEnv .fresh preparedSelect).forwarded =
        [] ++ .parse ⟨"s1", "SELECT 1", []⟩ :: [] ++ .bind ⟨"", "s1", [], [], []⟩ :: [] ∧
      handleClientPacket plainEnv (proxyClientConnection plainEnv .fresh preparedSelect).proxy
          (.execute ⟨""⟩) =
        ⟨.ok false, .execute ⟨""⟩, { (proxyClientConnection plainEnv .fresh preparedSelect).proxy with
          pendingQueryPackets :=
            (proxyClientConnection plainEnv .fresh preparedSelect).proxy.pendingQueryPackets ++
              [⟨"SELECT 1", some ⟨"", "s1", [], [], []⟩, some ⟨""⟩⟩] }⟩ := by
  have heof : (proxyClientConnection plainEnv .fresh preparedSelect).stop = .eof := by decide
  have hstop : ∀ e, (proxyClientConnection plainEnv .fresh preparedSelect).stop ≠ .handlerError e :=
    fun e h => by cases heof.symm.trans h
  have hsent : (proxyClientConnection plainEnv .fresh preparedSelect).forwarded =
      [] ++ .parse ⟨"s1", "SELECT 1", []⟩ :: [] ++ .bind ⟨"", "s1", [], [], []⟩ :: [] := by decide
  have ha : PgProxy.fresh.Aliased := rfl
  exact ⟨ha, hstop, hsent, handleClientPacket_execute_entry ha rfl hstop hsent rfl (by simp)
    (by simp) rfl⟩

/-- Observers that rewrite every query they see, as transparent encryption does, without error. -/
def rewritingEnv : Collaborators :=
  { plainEnv with onQuery := fun session _ => ⟨"SELECT 2", true, none, session⟩ }

/-- The client prepares and binds "SELECT 1" and the observers rewrite it: the Execute's entry
carries the rewritten text, while a simple Query of "SELECT 1" enqueues the client's text. -/
theorem handleClientPacket_execute_enqueues_rewrite :
    (handleClientPacket rewritingEnv (proxyClientConnection rewritingEnv .fresh preparedSelect).proxy
        (.execute ⟨""⟩)).proxy.pendingQueryPackets =
      [⟨"SELECT 2", some ⟨"", "s1", [], [], []⟩, some ⟨""⟩⟩] ∧
    (handleClientPacket rewritingEnv .fresh (.query "SELECT 1")).proxy.pendingQueryPackets =
      [newQueryPacket "SELECT 1"] := by
  decide

/-- The ClientReader refines what it tells the database. For a proxy whose two registry pointers
coincide, after every run that no handler error ended, the registry the Execute branch reads
(`protocolState.registry`) is exactly what the Parse and Bind packets written to the database
declare, read in order from the registry the run started with. -/
theorem proxyClientConnection_refines_declared {env : Collaborators} {proxy : PgProxy}
    (ha : proxy.Aliased) (packets : List ClientPacket)
    (h : ∀ e, (proxyClientConnection env proxy packets).stop ≠ .handlerError e) :
    (proxyClientConnection env proxy packets).proxy.registries
        (proxyClientConnection env proxy packets).proxy.protocolRegistry =
      declared proxy.registry (proxyClientConnection env proxy packets).forwarded := by
  rw [PgProxy.protocol_registry_of_aliased ((ProxyLife.clientRun proxy packets).grows.aliased ha)]
  exact proxyClientConnection_declares env proxy packets h

theorem proxyClientConnection_refines_declared_select :
    PgProxy.fresh.Aliased ∧
      (∀ e, (proxyClientConnection rewritingEnv .fresh preparedSelect).stop ≠ .handlerError e) ∧
      (proxyClientConnection rewritingEnv .fresh preparedSelect).proxy.registries
          (proxyClientConnection rewritingEnv .fresh preparedSelect).proxy.protocolRegistry =
        declared PgProxy.fresh.registry (proxyClientConnection rewritingEnv .fresh preparedSelect).forwarded := by
  have heof : (proxyClientConnection rewritingEnv .fresh preparedSelect).stop = .eof := by decide
  have hstop : ∀ e, (proxyClientConnection rewritingEnv .fresh preparedSelect).stop ≠ .handlerError e :=
    fun e h => by cases heof.symm.trans h
  have ha : PgProxy.fresh.Aliased := rfl
  exact ⟨ha, hstop, proxyClientConnection_refines_declared ha preparedSelect hstop⟩

/-- The ClientReader never sends the database an Execute it cannot attribute. For a proxy whose two
registry pointers coincide, every Execute among the packets written to the database names a portal
that the packets written before it declared, read from the registry the run started with; whatever
ends the run. -/
theorem proxyClientConnection_executes_declared_portals {env : Collaborators} {proxy : PgProxy}
    (ha : proxy.Aliased) (packets : List ClientPacket) {pre post : List ClientPacket}
    {e : ExecutePacket} (h : (proxyClientConnection env proxy packets).forwarded = pre ++ .execute e :: post) :
    ((declared proxy.registry pre).cursors e.portal).isSome := by
  induction packets generalizing proxy pre with
  | nil => simp [proxyClientConnection, ClientRun.forwarded] at h
  | cons packet rest ih =>
    have ha' := (handleClientPacket_grows env proxy packet).aliased ha
    cases hr : (handleClientPacket env proxy packet).result with
    | error err => simp [proxyClientConnection, clientIteration_error env hr, ClientRun.forwarded] at h
    | ok censored =>
      cases censored with
      | true =>
        have hc := (handleClientPacket_censored_iff env proxy packet).mp hr
        simp only [proxyClientConnection, clientIteration_censored env hc] at h
        rw [ClientRun.forwarded_append] at h
        rw [← handleClientPacket_registry_of_censored env hr]
        exact ih ha' h
      | false =>
        cases pre with
        | nil =>
          have hx : (handleClientPacket env proxy packet).packet = .execute e := by
            cases ht : packet.isTerminate <;>
              simp [proxyClientConnection, clientIteration_forward env hr, ht, ClientRun.forwarded,
                ClientWrite.toDatabasePacket] at h <;> exact h.1
          rw [declared_nil, ← PgProxy.protocol_registry_of_aliased ha]
          exact handleClientPacket_forwards_execute env hr hx
        | cons c pre =>
          cases ht : packet.isTerminate
          · simp only [proxyClientConnection, clientIteration_forward env hr, ht, Bool.false_eq_true,
              if_false] at h
            rw [ClientRun.forwarded_append] at h
            simp only [Option.toList_some, List.filterMap_cons, ClientWrite.toDatabasePacket,
              List.filterMap_nil, List.singleton_append, List.cons_append, List.cons.injEq] at h
            obtain ⟨rfl, h⟩ := h
            rw [declared_cons, ← handleClientPacket_declares env hr]
            exact ih ha' h
          · simp [proxyClientConnection, clientIteration_forward env hr, ht, ClientRun.forwarded,
              ClientWrite.toDatabasePacket] at h

theorem proxyClientConnection_executes_declared_portals_select :
    PgProxy.fresh.Aliased ∧
      (proxyClientConnection plainEnv .fresh (preparedSelect ++ [.execute ⟨""⟩])).forwarded =
        preparedSelect ++ .execute ⟨""⟩ :: [] ∧
      ((declared PgProxy.fresh.registry preparedSelect).cursors (⟨""⟩ : ExecutePacket).portal).isSome :=
  have ha : PgProxy.fresh.Aliased := rfl
  have h : (proxyClientConnection plainEnv .fresh (preparedSelect ++ [.execute ⟨""⟩])).forwarded =
      preparedSelect ++ .execute ⟨""⟩ :: [] := by decide
  ⟨ha, h, proxyClientConnection_executes_declared_portals ha _ h⟩

end AcraPgProxy
