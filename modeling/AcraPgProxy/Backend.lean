import AcraPgProxy.ClientHandler

namespace AcraPgProxy

/-- The database's verdicts on one message: whether it accepts a Parse or a Bind it could accept
(it may still reject one for a syntax or a parameter error), and whether a Sync or a simple Query
ends the transaction, as it does outside a transaction block. -/
structure Verdict where
  accept : Bool
  endsTransaction : Bool
  deriving DecidableEq, Repr

/-- Modelled from PostgreSQL's extended-query protocol, not from src: the prepared statements a
backend holds by name, with their query text; its portals, with the query text of their statement;
and whether it is discarding messages after an error. -/
structure PgBackend where
  statements : String → Option String
  portals : String → Option String
  failed : Bool

namespace PgBackend

def empty : PgBackend := ⟨fun _ => none, fun _ => none, false⟩

/-- A name map with `name` set to `v`. -/
def update (f : String → Option String) (name : String) (v : Option String) : String → Option String :=
  fun n => if n = name then v else f n

/-- After an error the backend discards every message up to the next Sync. -/
def unlessFailed (b : PgBackend) (r : PgBackend × Bool) : PgBackend × Bool :=
  if b.failed then (b, false) else r

/-- A Parse drops the old unnamed statement first; a named statement must be free. -/
def parse (b : PgBackend) (v : Verdict) (p : ParsePacket) : PgBackend × Bool :=
  let b := if p.name = "" then { b with statements := update b.statements "" none } else b
  if v.accept ∧ (p.name = "" ∨ b.statements p.name = none) then
    ({ b with statements := update b.statements p.name (some p.queryString) }, true)
  else ({ b with failed := true }, false)

/-- A Bind needs its statement, and a named portal must be free. -/
def bind (b : PgBackend) (v : Verdict) (bd : BindPacket) : PgBackend × Bool :=
  match b.statements bd.statementName with
  | some q =>
    if v.accept ∧ (bd.portalName = "" ∨ b.portals bd.portalName = none) then
      ({ b with portals := update b.portals bd.portalName (some q) }, true)
    else ({ b with failed := true }, false)
  | none => ({ b with failed := true }, false)

/-- Close of a missing name is no error. -/
def close (b : PgBackend) (kind : Char) (name : String) : PgBackend :=
  if kind = 'S' then { b with statements := update b.statements name none }
  else if kind = 'P' then { b with portals := update b.portals name none }
  else b

/-- A simple Query drops the unnamed statement and portal, and every portal at the end of the
transaction. -/
def simpleQuery (b : PgBackend) (v : Verdict) : PgBackend :=
  { b with
    statements := update b.statements "" none
    portals := if v.endsTransaction then fun _ => none else update b.portals "" none }

/-- The backend on one message, and whether it accepted it. A Sync ends the error state and, at
the end of the transaction, drops every portal. Simple Queries here run no `PREPARE` or
`DEALLOCATE`. -/
def receive (b : PgBackend) (v : Verdict) : ClientPacket → PgBackend × Bool
  | .sync =>
    ({ b with failed := false, portals := if v.endsTransaction then fun _ => none else b.portals }, true)
  | .parse p => b.unlessFailed (b.parse v p)
  | .bind bd => b.unlessFailed (b.bind v bd)
  | .execute e =>
    b.unlessFailed (if (b.portals e.portal).isSome then (b, true) else ({ b with failed := true }, false))
  | .close kind name => b.unlessFailed (b.close kind name, true)
  | .query _ => b.unlessFailed (b.simpleQuery v, true)
  | _ => b.unlessFailed (b, true)

/-- The backend over a sequence of messages, and whether it accepted every one. -/
def run (b : PgBackend) : List (ClientPacket × Verdict) → PgBackend × Bool
  | [] => (b, true)
  | (c, v) :: rest =>
    let (b', ok) := b.receive v c
    let (b'', oks) := b'.run rest
    (b'', ok && oks)

/-- Every statement name the backend holds, the proxy's registry holds, with the same query text
for a named statement; every portal name the backend holds, the registry holds. -/
structure Within (b : PgBackend) (r : PreparedStatementRegistry) : Prop where
  named : ∀ n q, n ≠ "" → b.statements n = some q → ∃ s, r.statements n = some s ∧ s.queryText = q
  unnamed : (b.statements "").isSome → (r.statements "").isSome
  portals : ∀ n, (b.portals n).isSome → (r.cursors n).isSome

theorem within_empty (r : PreparedStatementRegistry) : empty.Within r :=
  ⟨fun _ _ _ h => (by cases h), fun h => (by cases h), fun _ h => (by cases h)⟩

variable {b : PgBackend} {v : Verdict}

/-- What a backend state `b'` may hold after a message that only releases names. -/
structure Releases (b b' : PgBackend) : Prop where
  statements : ∀ n q, b'.statements n = some q → b.statements n = some q
  portals : ∀ n, (b'.portals n).isSome → (b.portals n).isSome

theorem Releases.refl (b : PgBackend) : Releases b b := ⟨fun _ _ h => h, fun _ h => h⟩

theorem Releases.unlessFailed {r : PgBackend × Bool} (h : Releases b r.1) :
    Releases b (b.unlessFailed r).1 := by
  unfold PgBackend.unlessFailed; split_ifs
  · exact .refl b
  · exact h

theorem receive_parse (p : ParsePacket) :
    (b.receive v (.parse p)).1.portals = b.portals ∧
      ∀ n q, (b.receive v (.parse p)).1.statements n = some q →
        n = p.name ∧ q = p.queryString ∨ b.statements n = some q := by
  simp only [receive, unlessFailed]
  split_ifs with hf
  · exact ⟨rfl, fun n q h => .inr h⟩
  · refine ⟨by unfold PgBackend.parse; dsimp only; split_ifs <;> rfl, fun n q h => ?_⟩
    unfold PgBackend.parse at h
    dsimp only at h
    by_cases hn : n = p.name <;> by_cases he : p.name = "" <;>
      simp only [he, hn, if_true, if_false, update] at h <;> split_ifs at h <;> simp_all [update]

theorem receive_bind (bd : BindPacket) :
    (b.receive v (.bind bd)).1.statements = b.statements ∧
      ∀ n, ((b.receive v (.bind bd)).1.portals n).isSome → n = bd.portalName ∨ (b.portals n).isSome := by
  simp only [receive, unlessFailed]
  split_ifs with hf
  · exact ⟨rfl, fun n h => .inr h⟩
  · unfold PgBackend.bind
    cases hs : b.statements bd.statementName with
    | none => exact ⟨rfl, fun n h => .inr h⟩
    | some q =>
      simp only
      split_ifs
      · refine ⟨rfl, fun n h => ?_⟩
        simp only [update] at h
        split_ifs at h with hn
        · exact .inl hn
        · exact .inr h
      · exact ⟨rfl, fun n h => .inr h⟩

/-- Every other message only releases names. -/
theorem receive_releases {c : ClientPacket} (hp : ∀ p, c ≠ .parse p) (hb : ∀ bd, c ≠ .bind bd) :
    Releases b (b.receive v c).1 := by
  cases c with
  | parse p => exact absurd rfl (hp p)
  | bind bd => exact absurd rfl (hb bd)
  | sync =>
    refine ⟨fun _ _ h => h, fun n h => ?_⟩
    simp only [receive] at h
    split_ifs at h
    · cases h
    · exact h
  | close kind name =>
    refine Releases.unlessFailed (r := (b.close kind name, true)) ⟨fun n q h => ?_, fun n h => ?_⟩ <;>
      simp only [PgBackend.close] at h <;> split_ifs at h <;> try exact h
    · by_cases hn : n = name <;> simp_all [update]
    · by_cases hn : n = name <;> simp_all [update]
  | query q =>
    refine Releases.unlessFailed (r := (b.simpleQuery v, true)) ⟨fun n q h => ?_, fun n h => ?_⟩ <;>
      simp only [PgBackend.simpleQuery] at h
    · by_cases hn : n = "" <;> simp_all [update]
    · split_ifs at h
      · cases h
      · by_cases hn : n = "" <;> simp_all [update]
  | execute e =>
    refine Releases.unlessFailed ?_
    split_ifs
    · exact .refl b
    · exact ⟨fun _ _ h => h, fun _ h => h⟩
  | _ => exact Releases.unlessFailed (.refl b)

end PgBackend

/-- A registry that gained the portal `name` and kept every statement, and every portal name, it
held. -/
def PreparedStatementRegistry.AddsCursor (r r' : PreparedStatementRegistry) (name : String) : Prop :=
  r'.statements = r.statements ∧ (r'.cursors name).isSome ∧
    ∀ n, (r.cursors n).isSome → (r'.cursors n).isSome

section Handlers

variable (env : Collaborators)

theorem registerParse_registry {proxy : PgProxy} {p : ParsePacket}
    (h : (registerParse env proxy (.parse p)).result = .ok false) :
    ∃ p', (registerParse env proxy (.parse p)).packet = .parse p' ∧ p'.name = p.name ∧
      p'.queryString = p.queryString ∧
      proxy.registry.addStatement ⟨p.name, p.queryString⟩ =
        .ok (registerParse env proxy (.parse p)).proxy.registry := by
  simp only [registerParse, ClientPacket.getParseData] at h ⊢
  cases hr : registerPreparedStatement env proxy p with
  | error e => simp [hr] at h
  | ok proxy' =>
    cases ho : replaceOIDsInParsePackets proxy'.session p with
    | error e => simp [hr, ho] at h
    | ok parse =>
      obtain rfl := replaceOIDsInParsePackets_eq_ok ho
      simp only [hr, ho]
      refine ⟨_, rfl, rfl, rfl, ?_⟩
      unfold registerPreparedStatement at hr
      split_ifs at hr
      cases hs : proxy.registry.addStatement ⟨p.name, p.queryString⟩ <;> simp only [hs] at hr
      · cases hr
      · cases hr; simp

theorem handleBindPacket_registry {proxy : PgProxy} {b : BindPacket}
    (h : (handleBindPacket env proxy (.bind b)).result = .ok false) :
    ∃ b', (handleBindPacket env proxy (.bind b)).packet = .bind b' ∧
      proxy.registry.AddsCursor (handleBindPacket env proxy (.bind b)).proxy.registry b'.portalName := by
  obtain ⟨st, b', -, hp, hport, -, hreg⟩ := handleBindPacket_forwarded env h
  refine ⟨b', hp, ?_⟩
  rw [hreg, hport]
  exact ⟨rfl, by simp, fun n hn => by by_cases hb : n = b.portalName <;> simp_all⟩

theorem queryObserved_proxy (proxy : PgProxy) (packet : ClientPacket) (r : OnQueryResult) :
    (queryObserved proxy packet r).proxy = { proxy with session := r.session } := by
  unfold queryObserved; split_ifs <;> rfl

/-- Packets other than Parse and Bind leave the registry alone. -/
theorem handleClientPacket_registry_of_other {proxy : PgProxy} {packet : ClientPacket}
    (hp : ∀ p, packet ≠ .parse p) (hb : ∀ b, packet ≠ .bind b) :
    (handleClientPacket env proxy packet).proxy.registry = proxy.registry := by
  cases packet with
  | query q =>
    obtain ⟨session, hs⟩ := handleQueryPacket_proxy env
      { proxy with pendingQueryPackets := proxy.pendingQueryPackets ++ [newQueryPacket q] } (.query q)
    simp [handleClientPacket, ClientPacket.packetType, ClientPacket.getSimpleQuery, hs, PgProxy.registry]
  | parse p => exact absurd rfl (hp p)
  | bind b => exact absurd rfl (hb b)
  | execute e =>
    simp only [handleClientPacket, ClientPacket.packetType, ClientPacket.getExecuteData]
    split <;> rfl
  | malformed t => simp [handleClientPacket_malformed]
  | _ => rfl

/-- What `handleClientPacket` does to the session's registry when it lets a packet through: a
Parse registers the statement it forwards, a Bind adds the portal it forwards, and nothing else
touches the registry. -/
theorem handleClientPacket_registry {proxy : PgProxy} {packet : ClientPacket}
    (h : (handleClientPacket env proxy packet).result = .ok false) :
    (∃ p, (handleClientPacket env proxy packet).packet = .parse p ∧
      proxy.registry.addStatement ⟨p.name, p.queryString⟩ =
        .ok (handleClientPacket env proxy packet).proxy.registry) ∨
    (∃ b, (handleClientPacket env proxy packet).packet = .bind b ∧
      proxy.registry.AddsCursor (handleClientPacket env proxy packet).proxy.registry b.portalName) ∨
    ((∀ p, (handleClientPacket env proxy packet).packet ≠ .parse p) ∧
      (∀ b, (handleClientPacket env proxy packet).packet ≠ .bind b) ∧
      (handleClientPacket env proxy packet).proxy.registry = proxy.registry) := by
  have hw := handleClientPacket_rewrite env h
  cases packet with
  | parse p =>
    simp only [handleClientPacket, ClientPacket.packetType,
      handleQueryPacket_of_queryText env (queryText_parse p)] at h ⊢
    split_ifs at h ⊢ with hc
    · simp at h
    · simp only [queryObserved_result] at h ⊢
      split_ifs at h ⊢ with hk
      refine .inl ?_
      rcases queryObserved_rewrite proxy (.parse p) (env.onQuery proxy.session p.queryString)
        with he | he <;> simp only [he, ClientPacket.replaceQuery, queryObserved_proxy] at h ⊢ <;>
        obtain ⟨p', hp', hn, hq, hr⟩ := registerParse_registry env h <;>
        exact ⟨p', hp', by rw [hn, hq]; simpa [PgProxy.registry] using hr⟩
  | bind b => exact .inr (.inl (handleBindPacket_registry env h))
  | _ =>
    refine .inr (.inr ⟨fun p hp => ?_, fun b hb => ?_,
      handleClientPacket_registry_of_other env (fun _ h => by cases h) (fun _ h => by cases h)⟩)
    · rw [hp] at hw; cases hw
    · rw [hb] at hw; cases hw

/-- A censored packet leaves the registry alone. -/
theorem handleClientPacket_registry_of_censored {proxy : PgProxy} {packet : ClientPacket}
    (h : (handleClientPacket env proxy packet).result = .ok true) :
    (handleClientPacket env proxy packet).proxy.registry = proxy.registry := by
  have hc := (handleClientPacket_censored_iff env proxy packet).mp h
  cases packet with
  | query q =>
    simp only [censoredBy] at hc
    simp [handleClientPacket, ClientPacket.packetType, ClientPacket.getSimpleQuery,
      handleQueryPacket_of_queryText env (queryText_query q), hc, PgProxy.registry]
  | parse p =>
    simp only [censoredBy] at hc
    simp [handleClientPacket, ClientPacket.packetType,
      handleQueryPacket_of_queryText env (queryText_parse p), hc]
  | _ => simp [censoredBy] at hc

end Handlers

/-- The proxy and the database side by side, each with its view of the session's names. -/
structure Lockstep where
  proxy : PgProxy
  backend : PgBackend

section Lockstep

variable (env : Collaborators)

/-- One client message: the ClientReader's handler, then the database on the packet it forwards;
a handler error tears the session down. -/
def Lockstep.step (st : Lockstep) (c : ClientPacket) (v : Verdict) : Except ProxyError Lockstep :=
  let h := handleClientPacket env st.proxy c
  match h.result with
  | .error e => .error e
  | .ok true => .ok { st with proxy := h.proxy }
  | .ok false => .ok ⟨h.proxy, (st.backend.receive v h.packet).1⟩

def Lockstep.run (st : Lockstep) : List (ClientPacket × Verdict) → Except ProxyError Lockstep
  | [] => .ok st
  | (c, v) :: rest =>
    match st.step env c v with
    | .error e => .error e
    | .ok st' => st'.run rest

variable {env}

theorem Lockstep.step_within {st st' : Lockstep} {c : ClientPacket} {v : Verdict}
    (hw : st.backend.Within st.proxy.registry) (h : st.step env c v = .ok st') :
    st'.backend.Within st'.proxy.registry := by
  simp only [Lockstep.step] at h
  cases hres : (handleClientPacket env st.proxy c).result with
  | error e => simp [hres] at h
  | ok censored =>
    cases censored <;> simp only [hres, Except.ok.injEq] at h <;> subst h
    swap
    · rw [handleClientPacket_registry_of_censored env hres]
      exact hw
    rcases handleClientPacket_registry env hres with ⟨p, hp, hr⟩ | ⟨b, hb, hs, hc, hcs⟩ | ⟨hp, hb, hr⟩
    · -- a Parse: the statement the database may now hold is the one the proxy registered
      obtain ⟨hfree, hreg⟩ := PreparedStatementRegistry.addStatement_eq_ok hr
      obtain ⟨hport, hstat⟩ := PgBackend.receive_parse (b := st.backend) (v := v) p
      rw [hp, hreg]
      refine ⟨fun n q hn hq => ?_, fun hq => ?_, fun n hn => hw.portals n (hport ▸ hn)⟩
      · rcases hstat n q hq with ⟨rfl, rfl⟩ | hq
        · exact ⟨⟨p.name, p.queryString⟩, by simp, rfl⟩
        · obtain ⟨s, hs, hsq⟩ := hw.named n q hn hq
          have hne : n ≠ p.name := by rintro rfl; simp_all
          exact ⟨s, by simp [hne, hs], hsq⟩
      · by_cases hn : p.name = ""
        · simp [hn]
        · obtain ⟨q, hq⟩ := Option.isSome_iff_exists.mp hq
          rcases hstat "" q hq with ⟨h, -⟩ | hq
          · exact absurd h.symm hn
          · simpa [Ne.symm hn] using hw.unnamed (by simp [hq])
    · -- a Bind: the portal the database may now hold is one the proxy added
      obtain ⟨hstat, hport⟩ := PgBackend.receive_bind (b := st.backend) (v := v) b
      rw [hb]
      refine ⟨fun n q hn hq => ?_, fun hq => ?_, fun n hn => ?_⟩
      · rw [hstat] at hq; rw [hs]; exact hw.named n q hn hq
      · rw [hstat] at hq; rw [hs]; exact hw.unnamed hq
      · rcases hport n hn with rfl | hn
        · exact hc
        · exact hcs n (hw.portals n hn)
    · -- anything else: the database only releases names, the registry is unchanged
      have hrel := PgBackend.receive_releases (b := st.backend) (v := v) hp hb
      rw [hr]
      exact ⟨fun n q hn hq => hw.named n q hn (hrel.statements n q hq),
        fun hq => hw.unnamed (by
          obtain ⟨q, hq⟩ := Option.isSome_iff_exists.mp hq
          simp [hrel.statements _ _ hq]),
        fun n hn => hw.portals n (hrel.portals n hn)⟩

/-- Along every sequence of client messages and database verdicts, as long as the proxy's handlers
succeed, every statement the database holds the proxy holds under the same name with the same
query text, and every portal name the database holds the proxy holds. -/
theorem registries_cover_backend {st st' : Lockstep} (msgs : List (ClientPacket × Verdict))
    (hw : st.backend.Within st.proxy.registry) (h : st.run env msgs = .ok st') :
    st'.backend.Within st'.proxy.registry := by
  induction msgs generalizing st with
  | nil => cases h; exact hw
  | cons m rest ih =>
    obtain ⟨c, v⟩ := m
    simp only [Lockstep.run] at h
    split at h
    · cases h
    · exact ih (Lockstep.step_within hw ‹_›) h

/-- For every sequence of client messages and database verdicts in a fresh session, while the
proxy's handlers succeed, every statement name the database holds the proxy holds, with the same
query text for a named statement, and every portal name the database holds the proxy holds. -/
theorem lockstep_registries_cover_backend (env : Collaborators)
    (msgs : List (ClientPacket × Verdict)) :
    match (⟨.fresh, .empty⟩ : Lockstep).run env msgs with
    | .ok st => st.backend.Within st.proxy.registry
    | .error _ => True := by
  split
  · exact registries_cover_backend msgs (PgBackend.within_empty _) ‹_›
  · trivial

end Lockstep

/-- Parse `s1`, Sync, Close `s1`, Sync, and Parse `s1` again, each accepted and each Sync ending
the transaction. -/
def closeThenReparse : List (ClientPacket × Verdict) :=
  [(.parse ⟨"s1", "SELECT 1", []⟩, ⟨true, true⟩), (.sync, ⟨true, true⟩), (.close 'S' "s1", ⟨true, true⟩),
    (.sync, ⟨true, true⟩), (.parse ⟨"s1", "SELECT 2", []⟩, ⟨true, true⟩)]

/-- The database accepts every message, since Close released `s1`; the proxy, which lets Close
through without touching its registry, refuses the second Parse and ends the session. -/
theorem registerPreparedStatement_fails_after_close :
    (PgBackend.empty.run closeThenReparse).2 = true ∧
      (match (⟨.fresh, .empty⟩ : Lockstep).run plainEnv closeThenReparse with
        | .error e => e == .statementExists "s1"
        | .ok _ => false) = true := by
  decide

end AcraPgProxy
