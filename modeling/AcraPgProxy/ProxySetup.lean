import AcraPgProxy.Backend
import AcraPgProxy.ClientLoop
import AcraPgProxy.DatabaseLoop

namespace AcraPgProxy

/-- `session.ProtocolState()` as `NewPgProxy` finds it: a `*PgProtocolState`, with the registry it
was built on and its pending-query queue, or a state of another type. -/
inductive ProtocolState
  | pg (registry : Nat) (pendingQueryPackets : List QueryPacket)
  | other

/-- What `NewPgProxy` reads and sets of the `base.ClientSession`: its `PreparedStatementRegistry()`
and `ProtocolState()` as pointers into the registries the process holds, and the encryptor's
per-query settings. `NewPreparedStatementRegistry` allocates at `unused`, past every registry a
protocol state was built on. -/
structure SessionHandle where
  registries : Nat → PreparedStatementRegistry
  unused : Nat
  preparedStatementRegistry : Option Nat
  protocolState : Option ProtocolState
  clientSession : ClientSession
  allocated : ∀ r pending, protocolState = some (.pg r pending) → r < unused

/-- `NewPgProxy`, up to the observer managers and the setting extractor it builds, which are not
under src: install a new registry when the session has none, then reuse the session's
`PgProtocolState`, or build one on the session's registry. `none` is `ErrInvalidProtocolState`. -/
def newPgProxy (session : SessionHandle) : Option PgProxy :=
  let installed : (Nat → PreparedStatementRegistry) × Nat :=
    match session.preparedStatementRegistry with
    | some r => (session.registries, r)
    | none => (fun n => if n = session.unused then .empty else session.registries n, session.unused)
  match session.protocolState with
  | some (.pg protocolRegistry pending) =>
    some ⟨installed.1, installed.2, protocolRegistry, pending, session.clientSession⟩
  | some .other => none
  | none => some ⟨installed.1, installed.2, installed.2, [], session.clientSession⟩

/-- A session that brings neither a registry nor a protocol state. -/
def freshSession : SessionHandle :=
  ⟨fun _ => .empty, 0, none, none, ⟨none, none⟩, fun _ _ h => by cases h⟩

/-- `PgProxy.fresh` is the proxy `NewPgProxy` builds for a fresh session. -/
theorem newPgProxy_fresh : newPgProxy freshSession = some PgProxy.fresh := by
  simp only [newPgProxy, freshSession, PgProxy.fresh, Option.some.injEq, PgProxy.mk.injEq, and_true]
  funext n
  split_ifs <;> rfl

/-- The two pointers name one registry exactly when the session brings no protocol state, or one
built on the session's own registry. -/
theorem newPgProxy_aliased_iff {session : SessionHandle} {proxy : PgProxy}
    (h : newPgProxy session = some proxy) :
    proxy.Aliased ↔ session.protocolState = none ∨
      ∃ r pending, session.protocolState = some (.pg r pending) ∧
        session.preparedStatementRegistry = some r := by
  unfold newPgProxy at h
  rcases hp : session.protocolState with _ | ⟨r, pending⟩ | _ <;> simp only [hp] at h
  · cases h
    simp [PgProxy.Aliased]
  · cases h
    have := session.allocated r pending hp
    cases hr : session.preparedStatementRegistry <;> simp [PgProxy.Aliased, hr] <;> omega
  · cases h

/-- What a handler may do to the registries: both pointers stay, and a portal registered behind
the session's pointer stays registered. -/
structure GrowsRegistry (proxy proxy' : PgProxy) : Prop where
  sessionRegistry : proxy'.sessionRegistry = proxy.sessionRegistry
  protocolRegistry : proxy'.protocolRegistry = proxy.protocolRegistry
  cursors : ∀ n, (proxy.registry.cursors n).isSome → (proxy'.registry.cursors n).isSome

namespace GrowsRegistry

theorem refl (proxy : PgProxy) : GrowsRegistry proxy proxy := ⟨rfl, rfl, fun _ h => h⟩

theorem trans {p q r : PgProxy} (h₁ : GrowsRegistry p q) (h₂ : GrowsRegistry q r) :
    GrowsRegistry p r :=
  ⟨h₂.1.trans h₁.1, h₂.2.trans h₁.2, fun n h => h₂.3 n (h₁.3 n h)⟩

theorem setRegistry {proxy : PgProxy} {r : PreparedStatementRegistry}
    (h : ∀ n, (proxy.registry.cursors n).isSome → (r.cursors n).isSome) :
    GrowsRegistry proxy (proxy.setRegistry r) :=
  ⟨rfl, rfl, by simpa using h⟩

theorem aliased {proxy proxy' : PgProxy} (h : GrowsRegistry proxy proxy') (ha : proxy.Aliased) :
    proxy'.Aliased := by
  unfold PgProxy.Aliased at *
  rw [h.1, h.2, ha]

/-- A portal added under `name` keeps every portal there was. -/
theorem addCursor (proxy : PgProxy) (name : String) (c : PgPortal) :
    GrowsRegistry proxy (proxy.setRegistry { proxy.registry with
      cursors := fun n => if n = name then some c else proxy.registry.cursors n }) :=
  .setRegistry fun n h => by dsimp only; split_ifs <;> simp [h]

theorem rebind (proxy : PgProxy) (name : String) (b : BindPacket) :
    GrowsRegistry proxy (proxy.setRegistry (proxy.registry.rebind name b)) :=
  .setRegistry fun n h => by
    simp only [PreparedStatementRegistry.rebind]
    split_ifs <;> simp [h]

end GrowsRegistry

section Handlers

variable (env : Collaborators)

theorem handleQueryPacket_grows (proxy : PgProxy) (packet : ClientPacket) :
    GrowsRegistry proxy (handleQueryPacket env proxy packet).proxy := by
  obtain ⟨session, h⟩ := handleQueryPacket_proxy env proxy packet
  rw [h]
  exact ⟨rfl, rfl, fun _ h => h⟩

theorem registerParse_grows (proxy : PgProxy) (packet : ClientPacket) :
    GrowsRegistry proxy (registerParse env proxy packet).proxy := by
  unfold registerParse registerPreparedStatement
  split
  · exact .refl _
  · split
    · exact .refl _
    · rename_i h
      split_ifs at h
      split at h
      · cases h
      · cases h
        obtain ⟨-, rfl⟩ := PreparedStatementRegistry.addStatement_eq_ok ‹_›
        split <;> exact .setRegistry fun _ h => h

theorem handleBindPacket_grows (proxy : PgProxy) (packet : ClientPacket) :
    GrowsRegistry proxy (handleBindPacket env proxy packet).proxy := by
  unfold handleBindPacket
  split
  · exact .refl _
  · split
    · exact .refl _
    · rename_i b _ _ _ hr
      obtain ⟨st, -, rfl⟩ := registerCursor_eq_ok hr
      refine (GrowsRegistry.addCursor proxy b.portalName ⟨b, st⟩).trans ?_
      split
      · exact .refl _
      · split
        · exact .refl _
        · unfold bindObserved
          split
          · exact .refl _
          · exact .refl _
          · split_ifs
            · exact .rebind _ _ _
            · exact .refl _

/-- No client handler moves a registry pointer or drops a portal, whatever it returns. -/
theorem handleClientPacket_grows (proxy : PgProxy) (packet : ClientPacket) :
    GrowsRegistry proxy (handleClientPacket env proxy packet).proxy := by
  unfold handleClientPacket
  split
  · split
    · exact .refl _
    · split
      · exact .refl _
      · exact ⟨rfl, rfl, fun _ h => h⟩
  · dsimp only
    split
    · exact handleQueryPacket_grows env _ _
    · exact handleQueryPacket_grows env _ _
    · exact (handleQueryPacket_grows env _ _).trans (registerParse_grows env _ _)
  · split
    · exact .refl _
    · refine GrowsRegistry.trans ?_ (handleQueryPacket_grows env _ _)
      exact ⟨rfl, rfl, fun _ h => h⟩
  · exact handleBindPacket_grows env _ _
  · exact .refl _

/-- The ServerReader's handler touches no registry. -/
theorem handleDatabasePacket_grows (proxy : PgProxy) (packet : ServerPacket) :
    GrowsRegistry proxy (handleDatabasePacket env proxy packet).state := by
  unfold handleDatabasePacket PgProxy.observeDatabasePacket
  split_ifs <;> split <;> (try split_ifs) <;> exact ⟨rfl, rfl, fun _ h => h⟩

theorem clientIteration_proxy (proxy : PgProxy) (packet : ClientPacket) :
    (clientIteration env proxy packet).proxy = (handleClientPacket env proxy packet).proxy := by
  unfold clientIteration
  dsimp only
  split <;> rfl

theorem databaseIteration_state {σ : Type} (handle : σ → ServerPacket → DbHandled σ)
    (st : DatabaseHandlerState) (s : σ) (packet : ServerPacket) :
    (databaseIteration handle st s packet).state = s ∨
      (databaseIteration handle st s packet).state = (handle s packet).state := by
  unfold databaseIteration
  split
  · exact .inl rfl
  · dsimp only
    split <;> exact .inr rfl
  · split
    · dsimp only
      split <;> exact .inr rfl
    · exact .inl rfl

end Handlers

/-- The states the shared `PgProxy` passes through while its two readers run: every packet the
ClientReader hands to `handleClientPacket` and every packet the ServerReader hands to
`handleDatabasePacket`, in any interleaving. -/
inductive ProxyLife (env : Collaborators) (proxy : PgProxy) : PgProxy → Prop
  | start : ProxyLife env proxy proxy
  | client {p : PgProxy} (packet : ClientPacket) :
      ProxyLife env proxy p → ProxyLife env proxy (handleClientPacket env p packet).proxy
  | server {p : PgProxy} (packet : ServerPacket) :
      ProxyLife env proxy p → ProxyLife env proxy (handleDatabasePacket env p packet).state

namespace ProxyLife

variable {env : Collaborators} {proxy p q : PgProxy}

theorem grows (h : ProxyLife env proxy p) : GrowsRegistry proxy p := by
  induction h with
  | start => exact .refl _
  | client packet _ ih => exact ih.trans (handleClientPacket_grows env _ packet)
  | server packet _ ih => exact ih.trans (handleDatabasePacket_grows env _ packet)

theorem trans (h₁ : ProxyLife env proxy p) (h₂ : ProxyLife env p q) : ProxyLife env proxy q := by
  induction h₂ with
  | start => exact h₁
  | client packet _ ih => exact ih.client packet
  | server packet _ ih => exact ih.server packet

/-- The ClientReader's loop stays within the proxy's life. -/
theorem clientRun (proxy : PgProxy) (packets : List ClientPacket) :
    ProxyLife env proxy (proxyClientConnection env proxy packets).proxy := by
  induction packets generalizing proxy with
  | nil => exact .start
  | cons packet rest ih =>
    have hstep : ProxyLife env proxy (clientIteration env proxy packet).proxy :=
      clientIteration_proxy env proxy packet ▸ ProxyLife.start.client packet
    simp only [proxyClientConnection]
    split
    · exact hstep
    · exact hstep.trans (ih _)

/-- So does the ServerReader's, from any state of its loop. -/
theorem databaseRun (st : DatabaseHandlerState) (proxy : PgProxy) (input : List ServerPacket) :
    ProxyLife env proxy (proxyDatabaseConnection (handleDatabasePacket env) st proxy input).state := by
  induction input generalizing st proxy with
  | nil => exact .start
  | cons packet rest ih =>
    have hstep : ProxyLife env proxy
        (databaseIteration (handleDatabasePacket env) st proxy packet).state := by
      rcases databaseIteration_state (handleDatabasePacket env) st proxy packet with h | h <;> rw [h]
      · exact .start
      · exact ProxyLife.start.server packet
    simp only [proxyDatabaseConnection]
    split
    · exact hstep
    · exact hstep.trans (ih _ _)

end ProxyLife

section Statements

variable (env : Collaborators)

theorem handleQueryPacket_registry (proxy : PgProxy) (packet : ClientPacket) :
    (handleQueryPacket env proxy packet).proxy.registry = proxy.registry := by
  obtain ⟨session, h⟩ := handleQueryPacket_proxy env proxy packet
  rw [h]
  rfl

theorem registerParse_keeps_statement (proxy : PgProxy) (packet : ClientPacket) {n : String}
    (h : (proxy.registry.statements n).isSome) :
    ((registerParse env proxy packet).proxy.registry.statements n).isSome := by
  unfold registerParse registerPreparedStatement
  split
  · exact h
  · split
    · exact h
    · rename_i hr
      split_ifs at hr
      split at hr
      · cases hr
      · cases hr
        obtain ⟨-, rfl⟩ := PreparedStatementRegistry.addStatement_eq_ok ‹_›
        split <;> (simp only [PgProxy.setRegistry_registry]; split_ifs <;> simp [h])

theorem handleBindPacket_statements (proxy : PgProxy) (packet : ClientPacket) :
    (handleBindPacket env proxy packet).proxy.registry.statements = proxy.registry.statements := by
  unfold handleBindPacket
  split
  · rfl
  · split
    · rfl
    · rename_i hr
      obtain ⟨st, -, rfl⟩ := registerCursor_eq_ok hr
      split
      · simp
      · split
        · simp
        · unfold bindObserved
          split
          · simp
          · simp
          · split_ifs <;> simp

/-- No client handler drops a statement name, whatever it returns. -/
theorem handleClientPacket_keeps_statement (proxy : PgProxy) (packet : ClientPacket) {n : String}
    (h : (proxy.registry.statements n).isSome) :
    ((handleClientPacket env proxy packet).proxy.registry.statements n).isSome := by
  unfold handleClientPacket
  split
  · split
    · exact h
    · split
      · exact h
      · exact h
  · dsimp only
    split
    · rwa [handleQueryPacket_registry]
    · rwa [handleQueryPacket_registry]
    · exact registerParse_keeps_statement env _ _ (by rwa [handleQueryPacket_registry])
  · split
    · exact h
    · rwa [handleQueryPacket_registry]
  · rwa [handleBindPacket_statements]
  · exact h

theorem handleDatabasePacket_registry (proxy : PgProxy) (packet : ServerPacket) :
    (handleDatabasePacket env proxy packet).state.registry = proxy.registry := by
  unfold handleDatabasePacket PgProxy.observeDatabasePacket
  split_ifs <;> split <;> (try split_ifs) <;> rfl

end Statements

theorem ProxyLife.keeps_statement {env : Collaborators} {proxy p : PgProxy} (h : ProxyLife env proxy p)
    {n : String} (hn : (proxy.registry.statements n).isSome) : (p.registry.statements n).isSome := by
  induction h with
  | start => exact hn
  | client packet _ ih => exact handleClientPacket_keeps_statement env _ packet ih
  | server packet _ ih => rwa [handleDatabasePacket_registry]

/-- Once the session holds a statement under a non-empty name, no Parse of that name registers
for the rest of the proxy's life, whatever came in between: a Close of it included. -/
theorem ProxyLife.registerPreparedStatement_fails {env : Collaborators} {proxy p : PgProxy}
    (h : ProxyLife env proxy p) {parse : ParsePacket} (hn : parse.name ≠ "")
    (hs : (proxy.registry.statements parse.name).isSome) :
    ∀ p', registerPreparedStatement env p parse ≠ .ok p' := by
  intro p' hr
  unfold registerPreparedStatement at hr
  split_ifs at hr
  cases ha : p.registry.addStatement ⟨parse.name, parse.queryString⟩ with
  | error e => simp [ha] at hr
  | ok r =>
    rcases (PreparedStatementRegistry.addStatement_isOk _ _).mp ⟨r, ha⟩ with h0 | h0
    · exact hn h0
    · simp [h0] at hn
      simpa [h0] using h.keeps_statement hs

/-- Over the proxy's whole life, in any interleaving of the ClientReader's and the ServerReader's
handler calls, whatever they return, the session's registry loses no name: every prepared
statement and every portal it holds stays registered. The proxy releases nothing, not on a Close,
not on a Sync, not on a failed request. -/
theorem proxyLife_keeps_registered_names {env : Collaborators} {proxy p : PgProxy}
    (h : ProxyLife env proxy p) :
    (∀ n, (proxy.registry.statements n).isSome → (p.registry.statements n).isSome) ∧
      ∀ n, (proxy.registry.cursors n).isSome → (p.registry.cursors n).isSome :=
  ⟨fun _ hn => h.keeps_statement hn, h.grows.cursors⟩

/-- The proxy once the client has prepared `s1`. -/
def preparedS1 : PgProxy := (handleClientPacket plainEnv .fresh (.parse ⟨"s1", "SELECT 1", []⟩)).proxy

/-- `s1` survives a Close of it, so a second Parse of `s1` still fails. -/
theorem proxyLife_keeps_registered_names_close :
    ProxyLife plainEnv preparedS1 (handleClientPacket plainEnv preparedS1 (.close 'S' "s1")).proxy ∧
      (preparedS1.registry.statements "s1").isSome ∧
      ((handleClientPacket plainEnv preparedS1 (.close 'S' "s1")).proxy.registry.statements "s1").isSome ∧
      ∀ p', registerPreparedStatement plainEnv
        (handleClientPacket plainEnv preparedS1 (.close 'S' "s1")).proxy ⟨"s1", "SELECT 2", []⟩ ≠ .ok p' := by
  have h := (ProxyLife.start : ProxyLife plainEnv preparedS1 preparedS1).client (.close 'S' "s1")
  have hs : (preparedS1.registry.statements "s1").isSome := by decide
  exact ⟨h, hs, (proxyLife_keeps_registered_names h).1 "s1" hs,
    h.registerPreparedStatement_fails (by decide) hs⟩

/-- `NewPgProxy` points the session's registry and the protocol state's at one registry exactly
when the session brings no protocol state, or one built on the session's own registry. Then they
stay one for the proxy's whole life, and every portal a Bind registers is found by every later
Execute of it. -/
theorem newPgProxy_registries_coincide {env : Collaborators} {session : SessionHandle}
    {proxy : PgProxy} (h : newPgProxy session = some proxy) :
    (proxy.Aliased ↔ session.protocolState = none ∨
      ∃ r pending, session.protocolState = some (.pg r pending) ∧
        session.preparedStatementRegistry = some r) ∧
    (proxy.Aliased →
      (∀ p, ProxyLife env proxy p → p.Aliased) ∧
      ∀ p b p' e, ProxyLife env proxy p → (handleClientPacket env p (.bind b)).result = .ok false →
        ProxyLife env (handleClientPacket env p (.bind b)).proxy p' → e.portal = b.portalName →
          (handleClientPacket env p' (.execute e)).result = .ok false) := by
  refine ⟨newPgProxy_aliased_iff h, fun ha => ⟨fun p hp => hp.grows.aliased ha, ?_⟩⟩
  intro p b p' e hp hb hp' he
  have hpa : p'.Aliased := (hp.client (.bind b) |>.trans hp').grows.aliased ha
  obtain ⟨st, b', -, -, hport, -, hreg⟩ := handleBindPacket_forwarded env hb
  obtain ⟨c, hc⟩ := Option.isSome_iff_exists.mp
    (hp'.grows.cursors b.portalName (by simp [handleClientPacket, ClientPacket.packetType, hreg]))
  rw [handleClientPacket_execute env (c := c)
    (by rw [PgProxy.protocol_registry_of_aliased hpa, he]; exact hc)]

theorem newPgProxy_registries_coincide_fresh :
    newPgProxy freshSession = some PgProxy.fresh ∧
    (PgProxy.fresh.Aliased ↔ freshSession.protocolState = none ∨
      ∃ r pending, freshSession.protocolState = some (.pg r pending) ∧
        freshSession.preparedStatementRegistry = some r) ∧
    (PgProxy.fresh.Aliased →
      (∀ p, ProxyLife plainEnv .fresh p → p.Aliased) ∧
      ∀ p b p' e, ProxyLife plainEnv .fresh p →
        (handleClientPacket plainEnv p (.bind b)).result = .ok false →
        ProxyLife plainEnv (handleClientPacket plainEnv p (.bind b)).proxy p' → e.portal = b.portalName →
          (handleClientPacket plainEnv p' (.execute e)).result = .ok false) :=
  ⟨newPgProxy_fresh, newPgProxy_registries_coincide newPgProxy_fresh⟩

/-- A session whose `PgProtocolState` was built on registry 1 while its
`PreparedStatementRegistry()` is registry 0. -/
def reusedProtocolSession : SessionHandle :=
  ⟨fun _ => .empty, 2, some 0, some (.pg 1 []), ⟨none, none⟩, fun r _ h => by cases h; decide⟩

/-- `NewPgProxy` accepts the session, the Bind registers its portal in registry 0, and the Execute
looks it up in registry 1: the session ends on `cursorNotFound`. -/
theorem newPgProxy_splits_registries :
    ∃ proxy, newPgProxy reusedProtocolSession = some proxy ∧ ¬ proxy.Aliased ∧
      (proxyClientConnection plainEnv proxy
          [.parse ⟨"s1", "SELECT 1", []⟩, .bind ⟨"p1", "s1", [], [], []⟩, .execute ⟨"p1"⟩]).writes =
        [.toDatabase (.parse ⟨"s1", "SELECT 1", []⟩), .toDatabase (.bind ⟨"p1", "s1", [], [], []⟩)] ∧
      (proxyClientConnection plainEnv proxy
          [.parse ⟨"s1", "SELECT 1", []⟩, .bind ⟨"p1", "s1", [], [], []⟩, .execute ⟨"p1"⟩]).stop =
        .handlerError (.cursorNotFound "p1") :=
  ⟨_, rfl, by simp [PgProxy.Aliased, reusedProtocolSession], by decide, by decide⟩

end AcraPgProxy
