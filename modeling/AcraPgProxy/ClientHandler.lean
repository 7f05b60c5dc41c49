import AcraPgProxy.Registry

namespace AcraPgProxy

/-- What a client-packet handler leaves behind: Go's `(censored, err)`, the packet as mutated in
place, and the proxy state with every change made before a failure. -/
structure ClientHandled where
  result : Except ProxyError Bool
  packet : ClientPacket
  proxy : PgProxy

/-- The query text `handleQueryPacket` reads, from a Parse or from a simple Query. -/
def queryText (packet : ClientPacket) : Except ProxyError String :=
  match packet.packetType with
  | .parseStatement => ParsePacket.queryString <$> packet.getParseData
  | .simpleQuery => packet.getSimpleQuery
  | _ => .error .unsupportedPacketType

/-- The loop of `replaceOIDsInParsePackets` over the parameter slots from index `i`: a slot whose
placeholder setting is type-aware becomes `BYTEA`; `items[i]` panics past the settings. -/
def replaceParamOIDs (items : List (Option ColumnEncryptionSetting)) :
    Nat → List UInt32 → Except ProxyError (List UInt32 × Bool)
  | _, [] => .ok ([], false)
  | i, p :: ps =>
    match goIndex items i, replaceParamOIDs items (i + 1) ps with
    | .error e, _ => .error e
    | .ok _, .error e => .error e
    | .ok (some s), .ok (ps', changed) =>
      if s.typeAware then .ok (byteaOID :: ps', true) else .ok (p :: ps', changed)
    | .ok none, .ok (ps', changed) => .ok (p :: ps', changed)

/-- `replaceOIDsInParsePackets`, returning the Parse as `SetParsePacket` leaves it. -/
def replaceOIDsInParsePackets (session : ClientSession) (parse : ParsePacket) :
    Except ProxyError ParsePacket :=
  if parse.params = [] then .ok parse
  else
    match session.placeholderSettings with
    | none => .ok parse
    | some items =>
      match replaceParamOIDs items 0 parse.params with
      | .error e => .error e
      | .ok (params, changed) => .ok (if changed then { parse with params } else parse)

/-- The parameter types a Parse is forwarded with, read off the placeholder settings: each slot
whose setting is type-aware becomes `BYTEA`. -/
def forwardedTypes (session : ClientSession) (params : List UInt32) : List UInt32 :=
  match session.placeholderSettings with
  | some items => List.zipWith (mappedOID fun _ => some byteaOID) items params
  | none => params

/-- What `handleQueryPacket` does with the observers' answer `r`: a key-read error fails the
packet; any other error is only logged, and a changed query replaces the packet's text. -/
def queryObserved (proxy : PgProxy) (packet : ClientPacket) (r : OnQueryResult) : ClientHandled :=
  let proxy := { proxy with session := r.session }
  if r.error = some .keyRead then ⟨.error .keyRead, packet, proxy⟩
  else ⟨.ok false, if r.changed then packet.replaceQuery r.newQuery else packet, proxy⟩

/-- What `handleBindPacket` does with the observers' answer `r` for a Bind it has registered. -/
def bindObserved (proxy : PgProxy) (packet : ClientPacket) (bind : BindPacket) (r : OnBindResult) :
    ClientHandled :=
  match r.error with
  | some .keyRead => ⟨.error .keyRead, packet, proxy⟩
  | some .other => ⟨.ok false, packet, proxy⟩
  | none =>
    if r.changed then
      let bind' := bind.setParameters r.newParameters
      ⟨.ok false, .bind bind', proxy.setRegistry (proxy.registry.rebind bind.portalName bind')⟩
    else ⟨.ok false, packet, proxy⟩

theorem queryObserved_result (proxy : PgProxy) (packet : ClientPacket) (r : OnQueryResult) :
    (queryObserved proxy packet r).result =
      if r.error = some .keyRead then .error .keyRead else .ok false := by
  unfold queryObserved
  split_ifs <;> rfl

theorem bindObserved_result (proxy : PgProxy) (packet : ClientPacket) (bind : BindPacket)
    (r : OnBindResult) :
    (bindObserved proxy packet bind r).result =
      if r.error = some .keyRead then .error .keyRead else .ok false := by
  unfold bindObserved
  rcases r with ⟨_, _, _ | _ | _⟩ <;> simp
  split_ifs <;> rfl

theorem drop_of_goIndex {α : Type} {xs : List α} {i : Nat} {x : α} (h : goIndex xs i = .ok x) :
    xs.drop i = x :: xs.drop (i + 1) := by
  unfold goIndex at h
  split at h
  · rename_i hx
    cases h
    obtain ⟨hi, rfl⟩ := List.getElem?_eq_some_iff.mp hx
    exact List.drop_eq_getElem_cons hi
  · cases h

/-- The loop of `replaceOIDsInParsePackets` maps each slot by its setting, and reports no change
only when it changed nothing. -/
theorem replaceParamOIDs_eq_ok {items : List (Option ColumnEncryptionSetting)} :
    ∀ {i : Nat} {ps ps' : List UInt32} {changed : Bool},
      replaceParamOIDs items i ps = .ok (ps', changed) →
      ps' = List.zipWith (mappedOID fun _ => some byteaOID) (items.drop i) ps ∧
        (changed = false → ps' = ps)
  | _, [], _, _, h => by cases h; simp
  | i, p :: ps, ps', changed, h => by
    unfold replaceParamOIDs at h
    split at h
    · cases h
    · cases h
    · rename_i s ps'' c hg hr
      obtain ⟨ih, ihc⟩ := replaceParamOIDs_eq_ok hr
      rw [drop_of_goIndex hg, List.zipWith_cons_cons, ← ih]
      by_cases ht : s.typeAware = true
      · simp only [ht, if_true, Except.ok.injEq, Prod.mk.injEq] at h
        obtain ⟨rfl, rfl⟩ := h
        simp [mappedOID, ht]
      · simp only [ht, Bool.false_eq_true, if_false, Except.ok.injEq, Prod.mk.injEq] at h
        obtain ⟨rfl, rfl⟩ := h
        exact ⟨by simp [mappedOID, ht], fun hc => by rw [ihc hc]⟩
    · rename_i ps'' c hg hr
      obtain ⟨ih, ihc⟩ := replaceParamOIDs_eq_ok hr
      cases h
      rw [drop_of_goIndex hg, List.zipWith_cons_cons, ← ih]
      exact ⟨rfl, fun hc => by rw [ihc hc]⟩

/-- `replaceOIDsInParsePackets` changes the parameter types of the Parse and nothing else. -/
theorem replaceOIDsInParsePackets_eq_ok {session : ClientSession} {parse parse' : ParsePacket}
    (h : replaceOIDsInParsePackets session parse = .ok parse') :
    parse' = { parse with params := forwardedTypes session parse.params } := by
  unfold replaceOIDsInParsePackets at h
  unfold forwardedTypes
  split_ifs at h with hp
  · cases h
    rcases parse with ⟨_, _, _ | _⟩
    · split <;> simp
    · simp at hp
  · split at h
    · rename_i hs
      cases h
      simp [hs]
    · rename_i items hs
      split at h
      · cases h
      · rename_i params changed hr
        obtain ⟨h1, h2⟩ := replaceParamOIDs_eq_ok hr
        rw [List.drop_zero] at h1
        cases h
        rw [hs]
        dsimp only
        rw [← h1]
        cases changed
        · simp [h2 rfl]
        · rfl

/-- The changes the ClientReader makes to a packet it forwards, each the work of a collaborator:
the observers' new text for a simple Query; for a Parse, the observers' text when they report a
change and the parameter types read off the placeholder settings they leave; the Bind observers'
new parameters. -/
inductive ForwardRewrite (env : Collaborators) : ClientPacket → ClientPacket → Prop
  | unchanged (p : ClientPacket) : ForwardRewrite env p p
  | query (session : ClientSession) (q : String) : (env.onQuery session q).changed = true →
      ForwardRewrite env (.query q) (.query (env.onQuery session q).newQuery)
  | parse (session : ClientSession) (p : ParsePacket) :
      ForwardRewrite env (.parse p) (.parse { p with
        queryString := if (env.onQuery session p.queryString).changed then
          (env.onQuery session p.queryString).newQuery else p.queryString
        params := forwardedTypes (env.onQuery session p.queryString).session p.params })
  | bind (b : BindPacket) (text : String) (values : List BoundValue) : b.getParameters = .ok values →
      (env.onBind text values).error = none → (env.onBind text values).changed = true →
      ForwardRewrite env (.bind b) (.bind (b.setParameters (env.onBind text values).newParameters))

section Handlers

variable (env : Collaborators)

/-- The debug-level logging of `handleQueryPacket`: when the scrubber parsed the query it reads
the Parse a second time. -/
def debugLog (packet : ClientPacket) (query : String) : Except ProxyError Unit :=
  if env.debug ∧ env.scrubFails query = false ∧ packet.packetType = .parseStatement then
    (fun _ => ()) <$> packet.getParseData
  else .ok ()

def handleQueryPacket (proxy : PgProxy) (packet : ClientPacket) : ClientHandled :=
  match queryText packet with
  | .error e => ⟨.error e, packet, proxy⟩
  | .ok query =>
    match debugLog env packet query with
    | .error e => ⟨.error e, packet, proxy⟩
    | .ok () =>
      if env.censor query then ⟨.ok true, packet, proxy⟩
      else queryObserved proxy packet (env.onQuery proxy.session query)

def registerPreparedStatement (proxy : PgProxy) (parse : ParsePacket) : Except ProxyError PgProxy :=
  if env.parses parse.queryString then
    match proxy.registry.addStatement ⟨parse.name, parse.queryString⟩ with
    | .error e => .error e
    | .ok r => .ok (proxy.setRegistry r)
  else .error (.sqlParse parse.queryString)

def registerCursor (proxy : PgProxy) (bind : BindPacket) : Except ProxyError PgProxy :=
  match proxy.registry.statementByName bind.statementName with
  | .error e => .error e
  | .ok statement =>
    match proxy.registry.addCursor ⟨bind, statement⟩ with
    | .error e => .error e
    | .ok r => .ok (proxy.setRegistry r)

def handleBindPacket (proxy : PgProxy) (packet : ClientPacket) : ClientHandled :=
  match packet.getBindData with
  | .error e => ⟨.error e, packet, proxy⟩
  | .ok bind =>
    match registerCursor proxy bind with
    | .error e => ⟨.error e, packet, proxy⟩
    | .ok proxy =>
      match proxy.registry.statementByName bind.statementName with
      | .error _ => ⟨.ok false, packet, proxy⟩
      | .ok statement =>
        match bind.getParameters with
        | .error _ => ⟨.ok false, packet, proxy⟩
        | .ok parameters => bindObserved proxy packet bind (env.onBind statement.queryText parameters)

/-- The Parse branch of `handleClientPacket` once `handleQueryPacket` let the query through:
register the statement, then rewrite the parameter types. -/
def registerParse (proxy : PgProxy) (packet : ClientPacket) : ClientHandled :=
  match packet.getParseData with
  | .error e => ⟨.error e, packet, proxy⟩
  | .ok pendingParse =>
    match registerPreparedStatement env proxy pendingParse with
    | .error e => ⟨.error e, packet, proxy⟩
    | .ok proxy =>
      match replaceOIDsInParsePackets proxy.session pendingParse with
      | .error e => ⟨.error e, packet, proxy⟩
      | .ok parse => ⟨.ok false, .parse parse, proxy⟩

def handleClientPacket (proxy : PgProxy) (packet : ClientPacket) : ClientHandled :=
  match packet.packetType with
  | .executePortal =>
    match packet.getExecuteData with
    | .error e => ⟨.error e, packet, proxy⟩
    | .ok execute =>
      match (proxy.registries proxy.protocolRegistry).cursorByName execute.portal with
      | .error e => ⟨.error e, packet, proxy⟩
      | .ok cursor =>
        ⟨.ok false, packet, { proxy with pendingQueryPackets := proxy.pendingQueryPackets ++
          [newExtendedQueryPacket cursor.preparedStatement cursor.bind execute] }⟩
  | .parseStatement =>
    let h := handleQueryPacket env proxy packet
    match h.result with
    | .error e => ⟨.error e, h.packet, h.proxy⟩
    | .ok true => h
    | .ok false => registerParse env h.proxy h.packet
  | .simpleQuery =>
    match packet.getSimpleQuery with
    | .error e => ⟨.error e, packet, proxy⟩
    | .ok query =>
      handleQueryPacket env
        { proxy with pendingQueryPackets := proxy.pendingQueryPackets ++ [newQueryPacket query] } packet
  | .bindStatement => handleBindPacket env proxy packet
  | .other => ⟨.ok false, packet, proxy⟩

@[simp] theorem queryText_query (q : String) : queryText (.query q) = .ok q := rfl

@[simp] theorem queryText_parse (p : ParsePacket) : queryText (.parse p) = .ok p.queryString := rfl

/-- A message that did not decode fails with the decode error of the kind its type byte names, and
passes through untouched when the byte names no kind the proxy handles. -/
theorem handleClientPacket_malformed (proxy : PgProxy) (t : Char) :
    handleClientPacket env proxy (.malformed t) =
      ⟨if t = 'Q' ∨ t = 'P' ∨ t = 'B' ∨ t = 'E' then .error (.malformedPacket t) else .ok false,
        .malformed t, proxy⟩ := by
  by_cases hQ : t = 'Q'; · subst hQ; rfl
  by_cases hP : t = 'P'; · subst hP; rfl
  by_cases hB : t = 'B'; · subst hB; rfl
  by_cases hE : t = 'E'; · subst hE; rfl
  have ht : (ClientPacket.malformed t).packetType = .other := by simp [ClientPacket.packetType, *]
  simp [handleClientPacket, ht, *]

theorem debugLog_of_queryText {packet : ClientPacket} {query : String}
    (h : queryText packet = .ok query) : debugLog env packet query = .ok () := by
  unfold debugLog
  split
  · rename_i hc
    unfold queryText at h
    rw [hc.2.2] at h
    cases hp : packet.getParseData <;> simp_all [Functor.map, Except.map]
  · rfl

/-- Once the query text is read, `handleQueryPacket` is the censor, then the observers. -/
theorem handleQueryPacket_of_queryText {proxy : PgProxy} {packet : ClientPacket} {query : String}
    (h : queryText packet = .ok query) :
    handleQueryPacket env proxy packet =
      if env.censor query then ⟨.ok true, packet, proxy⟩
      else queryObserved proxy packet (env.onQuery proxy.session query) := by
  simp only [handleQueryPacket, h, debugLog_of_queryText env h]

/-- `handleQueryPacket` changes the client session at most. -/
theorem handleQueryPacket_proxy (proxy : PgProxy) (packet : ClientPacket) :
    ∃ session, (handleQueryPacket env proxy packet).proxy = { proxy with session } := by
  unfold handleQueryPacket queryObserved
  split
  · exact ⟨proxy.session, rfl⟩
  · split
    · exact ⟨proxy.session, rfl⟩
    · split_ifs
      · exact ⟨proxy.session, rfl⟩
      all_goals exact ⟨_, rfl⟩

/-- An Execute of a portal the protocol state's registry holds enqueues its extended query. -/
theorem handleClientPacket_execute {proxy : PgProxy} {e : ExecutePacket} {c : PgPortal}
    (h : (proxy.registries proxy.protocolRegistry).cursors e.portal = some c) :
    handleClientPacket env proxy (.execute e) =
      ⟨.ok false, .execute e, { proxy with pendingQueryPackets :=
        proxy.pendingQueryPackets ++ [newExtendedQueryPacket c.preparedStatement c.bind e] }⟩ := by
  simp [handleClientPacket, ClientPacket.packetType, ClientPacket.getExecuteData,
    PreparedStatementRegistry.cursorByName, h]

/-- The packets the censor rejects: a simple Query or a Parse whose query text it refuses. -/
def censoredBy : ClientPacket → Bool
  | .query q => env.censor q
  | .parse p => env.censor p.queryString
  | _ => false

theorem registerParse_result_ne_true (proxy : PgProxy) (packet : ClientPacket) :
    (registerParse env proxy packet).result ≠ .ok true := by
  unfold registerParse
  split
  · simp
  · split
    · simp
    · split <;> simp

theorem handleBindPacket_result_ne_true (proxy : PgProxy) (packet : ClientPacket) :
    (handleBindPacket env proxy packet).result ≠ .ok true := by
  unfold handleBindPacket
  split
  · simp
  · split
    · simp
    · split
      · simp
      · split
        · simp
        · rw [bindObserved_result]; split_ifs <;> simp

/-- A packet is censored exactly when it is a simple Query or a Parse whose text the censor
rejects. -/
theorem handleClientPacket_censored_iff (proxy : PgProxy) (packet : ClientPacket) :
    (handleClientPacket env proxy packet).result = .ok true ↔ censoredBy env packet = true := by
  cases packet with
  | query q =>
    simp only [handleClientPacket, ClientPacket.packetType, ClientPacket.getSimpleQuery, censoredBy,
      handleQueryPacket_of_queryText env (queryText_query q)]
    split_ifs with hc
    · simp [hc]
    · simp [queryObserved_result, hc]; split_ifs <;> simp
  | parse p =>
    simp only [handleClientPacket, ClientPacket.packetType, censoredBy,
      handleQueryPacket_of_queryText env (queryText_parse p)]
    split_ifs with hc
    · simp [hc]
    · simp only [hc, queryObserved_result]
      split_ifs
      · simp
      · simpa using registerParse_result_ne_true env _ _
  | bind b => simpa [handleClientPacket, ClientPacket.packetType, censoredBy] using
      handleBindPacket_result_ne_true env proxy (.bind b)
  | execute e =>
    simp only [handleClientPacket, ClientPacket.packetType, ClientPacket.getExecuteData, censoredBy]
    split <;> simp
  | malformed t =>
    rw [handleClientPacket_malformed]
    split_ifs <;> simp [censoredBy]
  | _ => simp [handleClientPacket, ClientPacket.packetType, censoredBy]

theorem queryObserved_rewrite (proxy : PgProxy) (packet : ClientPacket) (r : OnQueryResult) :
    (queryObserved proxy packet r).packet = packet ∨
      (queryObserved proxy packet r).packet = packet.replaceQuery r.newQuery := by
  unfold queryObserved
  split_ifs <;> simp

/-- Past a key-read error, `handleQueryPacket` takes the observers' session and, when they report a
change, their query text. -/
theorem queryObserved_of_not_keyRead (proxy : PgProxy) (packet : ClientPacket) {r : OnQueryResult}
    (h : r.error ≠ some .keyRead) :
    queryObserved proxy packet r =
      ⟨.ok false, if r.changed then packet.replaceQuery r.newQuery else packet,
        { proxy with session := r.session }⟩ := by
  simp [queryObserved, h]

theorem registerPreparedStatement_session {proxy proxy' : PgProxy} {parse : ParsePacket}
    (h : registerPreparedStatement env proxy parse = .ok proxy') : proxy'.session = proxy.session := by
  unfold registerPreparedStatement at h
  split_ifs at h
  split at h <;> cases h
  rfl

/-- A Parse that `registerParse` lets through goes on with the types read off the session's
placeholder settings. -/
theorem registerParse_packet {proxy : PgProxy} {p : ParsePacket}
    (h : (registerParse env proxy (.parse p)).result = .ok false) :
    (registerParse env proxy (.parse p)).packet =
      .parse { p with params := forwardedTypes proxy.session p.params } := by
  unfold registerParse at h ⊢
  simp only [ClientPacket.getParseData] at h ⊢
  split at h
  · cases h
  · rename_i proxy' hreg
    split at h
    · cases h
    · rename_i parse hr
      simp only [hr]
      rw [replaceOIDsInParsePackets_eq_ok hr, registerPreparedStatement_session env hreg]

theorem handleBindPacket_rewrite (proxy : PgProxy) (b : BindPacket) :
    ForwardRewrite env (.bind b) (handleBindPacket env proxy (.bind b)).packet := by
  unfold handleBindPacket
  simp only [ClientPacket.getBindData]
  split
  · exact .unchanged _
  · split
    · exact .unchanged _
    · split
      · exact .unchanged _
      · rename_i values hv
        unfold bindObserved
        split
        · exact .unchanged _
        · exact .unchanged _
        · rename_i he
          split_ifs with hc
          · exact .bind _ _ _ hv he hc
          · exact .unchanged _

theorem registerCursor_eq_ok {proxy proxy' : PgProxy} {b : BindPacket}
    (h : registerCursor proxy b = .ok proxy') :
    ∃ st, proxy.registry.statements b.statementName = some st ∧
      proxy' = proxy.setRegistry { proxy.registry with
        cursors := fun n => if n = b.portalName then some ⟨b, st⟩ else proxy.registry.cursors n } := by
  unfold registerCursor at h
  cases hs : proxy.registry.statements b.statementName with
  | none => simp [PreparedStatementRegistry.statementByName, hs] at h
  | some st =>
    simp only [PreparedStatementRegistry.statementByName, hs] at h
    cases hc : proxy.registry.addCursor ⟨b, st⟩ with
    | error e => simp [hc] at h
    | ok r =>
      simp only [hc, Except.ok.injEq] at h
      exact ⟨st, rfl, h ▸ (PreparedStatementRegistry.addCursor_eq_ok hc).2 ▸ rfl⟩

/-- `registerCursor` looks the Bind's statement up before anything else. -/
theorem registerCursor_of_unknown {proxy : PgProxy} {b : BindPacket}
    (h : proxy.registry.statements b.statementName = none) :
    registerCursor proxy b = .error (.statementNotFound b.statementName) := by
  simp [registerCursor, PreparedStatementRegistry.statementByName, h]

/-- A Bind that `handleBindPacket` lets through is registered under its portal name, bound to the
statement its statement name held, with the parameters the observers gave it. -/
theorem handleBindPacket_forwarded {proxy : PgProxy} {b : BindPacket}
    (h : (handleBindPacket env proxy (.bind b)).result = .ok false) :
    ∃ st b', proxy.registry.statements b.statementName = some st ∧
      (handleBindPacket env proxy (.bind b)).packet = .bind b' ∧
      b'.portalName = b.portalName ∧ b'.statementName = b.statementName ∧
      (handleBindPacket env proxy (.bind b)).proxy.registry = { proxy.registry with
        cursors := fun n => if n = b.portalName then some ⟨b', st⟩ else proxy.registry.cursors n } := by
  simp only [handleBindPacket, ClientPacket.getBindData] at h ⊢
  cases hr : registerCursor proxy b with
  | error e => simp [hr] at h
  | ok proxy' =>
    obtain ⟨st, hs, rfl⟩ := registerCursor_eq_ok hr
    have hfind : ∀ c, (proxy.setRegistry { proxy.registry with cursors := c }).registry.statementByName
        b.statementName = .ok st := fun c => by
      simp [PreparedStatementRegistry.statementByName, hs]
    simp only [hr, hfind] at h ⊢
    cases hp : b.getParameters with
    | error _ => exact ⟨st, b, hs, rfl, rfl, rfl, by simp⟩
    | ok ps =>
      simp only [hp, bindObserved] at h ⊢
      generalize env.onBind st.queryText ps = r at h ⊢
      rcases r with ⟨vals, changed, _ | _ | _⟩
      · cases changed
        · exact ⟨st, b, hs, rfl, rfl, rfl, by simp⟩
        · exact ⟨st, b.setParameters vals, hs, rfl, rfl, rfl,
            by simp [PreparedStatementRegistry.rebind_added]⟩
      · simp at h
      · exact ⟨st, b, hs, rfl, rfl, rfl, by simp⟩

/-- Every packet the ClientReader forwards is the client's, rewritten at most as `ForwardRewrite`
allows. -/
theorem handleClientPacket_rewrite {proxy : PgProxy} {packet : ClientPacket}
    (h : (handleClientPacket env proxy packet).result = .ok false) :
    ForwardRewrite env packet (handleClientPacket env proxy packet).packet := by
  cases packet with
  | query q =>
    simp only [handleClientPacket, ClientPacket.packetType, ClientPacket.getSimpleQuery,
      handleQueryPacket_of_queryText env (queryText_query q)] at h ⊢
    split_ifs at h ⊢
    · exact .unchanged _
    · have hk : (env.onQuery proxy.session q).error ≠ some .keyRead := by
        intro hk
        simp [queryObserved_result, hk] at h
      rw [queryObserved_of_not_keyRead _ _ hk]
      split_ifs with hc
      · exact .query _ _ hc
      · exact .unchanged _
  | parse p =>
    simp only [handleClientPacket, ClientPacket.packetType,
      handleQueryPacket_of_queryText env (queryText_parse p)] at h ⊢
    split_ifs at h ⊢
    · exact .unchanged _
    · by_cases hk : (env.onQuery proxy.session p.queryString).error = some .keyRead
      · simp [queryObserved_result, hk] at h
      · have hp := @ForwardRewrite.parse env proxy.session p
        rw [queryObserved_of_not_keyRead _ _ hk] at h ⊢
        dsimp only at h ⊢
        cases hc : (env.onQuery proxy.session p.queryString).changed <;>
          simp only [hc, if_true, if_false, Bool.false_eq_true, ClientPacket.replaceQuery] at h hp ⊢ <;>
          rw [registerParse_packet env h] <;> exact hp
  | bind b => exact handleBindPacket_rewrite env proxy b
  | execute e =>
    simp only [handleClientPacket, ClientPacket.packetType, ClientPacket.getExecuteData]
    split <;> exact .unchanged _
  | malformed t => rw [handleClientPacket_malformed]; exact .unchanged _
  | _ => exact .unchanged _

/-- What `handleClientPacket` can return: an error, a censored packet, or a packet to forward. -/
theorem handleClientPacket_result_cases (proxy : PgProxy) (packet : ClientPacket) :
    (∃ e, (handleClientPacket env proxy packet).result = .error e) ∨ censoredBy env packet = true ∨
      (handleClientPacket env proxy packet).result = .ok false := by
  rcases h : (handleClientPacket env proxy packet).result with e | _ | _
  · exact .inl ⟨e, rfl⟩
  · exact .inr (.inr rfl)
  · exact .inr (.inl ((handleClientPacket_censored_iff env proxy packet).mp h))

/-- How many entries `handleClientPacket` appends to the pending-query queue: one for a simple
Query, enqueued before the censor runs, and one for an Execute whose portal it found. -/
def entriesAdded : ClientPacket → Except ProxyError Bool → Nat
  | .query _, _ => 1
  | .execute _, .ok _ => 1
  | _, _ => 0

/-- `entry` is one the ClientReader appends for `packet`: a simple Query's entry holds the client's
text, an Execute's holds that Execute. -/
def EntryFor : ClientPacket → QueryPacket → Prop
  | .query q, entry => entry = newQueryPacket q
  | .execute e, entry => entry.executePacket = some e
  | _, _ => False

theorem handleQueryPacket_pendingQueryPackets (proxy : PgProxy) (packet : ClientPacket) :
    (handleQueryPacket env proxy packet).proxy.pendingQueryPackets = proxy.pendingQueryPackets := by
  obtain ⟨session, h⟩ := handleQueryPacket_proxy env proxy packet
  rw [h]

theorem registerParse_pendingQueryPackets (proxy : PgProxy) (packet : ClientPacket) :
    (registerParse env proxy packet).proxy.pendingQueryPackets = proxy.pendingQueryPackets := by
  unfold registerParse registerPreparedStatement
  split
  · rfl
  · split
    · rfl
    · rename_i h
      split_ifs at h
      split at h <;> cases h
      split <;> rfl

/-- `handleBindPacket` changes the registries at most. -/
theorem handleBindPacket_proxy (proxy : PgProxy) (packet : ClientPacket) :
    ∃ registries, (handleBindPacket env proxy packet).proxy = { proxy with registries } := by
  unfold handleBindPacket registerCursor
  split
  · exact ⟨_, rfl⟩
  · split
    · exact ⟨_, rfl⟩
    · rename_i h
      split at h
      · cases h
      · split at h <;> cases h
        split
        · exact ⟨_, rfl⟩
        · split
          · exact ⟨_, rfl⟩
          · unfold bindObserved
            split
            · exact ⟨_, rfl⟩
            · exact ⟨_, rfl⟩
            · split_ifs <;> exact ⟨_, rfl⟩

theorem handleBindPacket_pendingQueryPackets (proxy : PgProxy) (packet : ClientPacket) :
    (handleBindPacket env proxy packet).proxy.pendingQueryPackets = proxy.pendingQueryPackets := by
  obtain ⟨_, h⟩ := handleBindPacket_proxy env proxy packet
  rw [h]

/-- `handleClientPacket` only appends to the pending-query queue: the entry of a simple Query,
before the censor runs, and that of an Execute whose portal it found. -/
theorem handleClientPacket_pendingQueryPackets (proxy : PgProxy) (packet : ClientPacket) :
    ∃ added, (handleClientPacket env proxy packet).proxy.pendingQueryPackets =
      proxy.pendingQueryPackets ++ added ∧
      added.length = entriesAdded packet (handleClientPacket env proxy packet).result ∧
      ∀ entry ∈ added, EntryFor packet entry := by
  cases packet with
  | query q =>
    exact ⟨_, handleQueryPacket_pendingQueryPackets env _ _, rfl, by simp [EntryFor]⟩
  | parse p =>
    refine ⟨[], ?_, rfl, nofun⟩
    simp only [handleClientPacket, ClientPacket.packetType, List.append_nil]
    split
    · exact handleQueryPacket_pendingQueryPackets env _ _
    · exact handleQueryPacket_pendingQueryPackets env _ _
    · rw [registerParse_pendingQueryPackets, handleQueryPacket_pendingQueryPackets]
  | bind b => exact ⟨[], by simpa using handleBindPacket_pendingQueryPackets env proxy _, rfl, nofun⟩
  | execute e =>
    simp only [handleClientPacket, ClientPacket.packetType, ClientPacket.getExecuteData]
    split
    · exact ⟨[], by simp, rfl, nofun⟩
    · exact ⟨_, rfl, rfl, by simp [EntryFor, newExtendedQueryPacket]⟩
  | malformed t => exact ⟨[], by simp [handleClientPacket_malformed], rfl, nofun⟩
  | _ => exact ⟨[], by simp [handleClientPacket, ClientPacket.packetType], rfl, nofun⟩

end Handlers

/-- An OnBind error other than a key-read error leaves the Bind as the client sent it, whatever
the observers changed. -/
theorem handleBindPacket_of_observer_error (env : Collaborators) (proxy : PgProxy) (b : BindPacket)
    (he : ∀ text values, (env.onBind text values).error = some .other) :
    (handleBindPacket env proxy (.bind b)).packet = .bind b := by
  unfold handleBindPacket
  simp only [ClientPacket.getBindData]
  split
  · rfl
  · split
    · rfl
    · split
      · rfl
      · simp [bindObserved, he]

/-- Observers that change the query and the Bind parameters and then fail, not on a key read. -/
def partialRewriteEnv : Collaborators :=
  { plainEnv with
    onQuery := fun session _ => ⟨"SELECT 2", true, some .other, session⟩
    onBind := fun _ _ => ⟨[], true, some .other⟩ }

/-- The observers change the query and then fail, not on a key read: `handleQueryPacket` forwards
their text in place of the client's, while every Bind they fail on in the same way goes on as sent. -/
theorem handleQueryPacket_forwards_failed_rewrite :
    (partialRewriteEnv.onQuery PgProxy.fresh.session "SELECT 1").error = some .other ∧
      handleQueryPacket partialRewriteEnv .fresh (.query "SELECT 1") =
        ⟨.ok false, .query "SELECT 2", .fresh⟩ ∧
      ∀ proxy b, (handleBindPacket partialRewriteEnv proxy (.bind b)).packet = .bind b :=
  ⟨rfl, rfl, fun proxy b => handleBindPacket_of_observer_error _ proxy b fun _ _ => rfl⟩

end AcraPgProxy
