import Mathlib.Data.List.Forall2
import AcraPgProxy.Session

namespace AcraPgProxy

/-- A request that opens exactly one entry of the pending-query queue: a simple Query, or a batch
with one Execute, ended by its Sync. -/
def OpensOneEntry (r : List ClientPacket) : Prop :=
  (∃ q, r = [.query q]) ∨
    ∃ pre e post, r = pre ++ .execute e :: post ++ [.sync] ∧
      ∀ c ∈ pre ++ post, c.endsRequest = false ∧ c.opensEntry = false

theorem OpensOneEntry.isRequest {r : List ClientPacket} (h : OpensOneEntry r) : IsRequest r := by
  rcases h with ⟨q, rfl⟩ | ⟨pre, e, post, rfl, hc⟩
  · exact .inl ⟨q, rfl⟩
  · refine .inr ⟨pre ++ .execute e :: post, by simp, fun c hm => ?_⟩
    rcases List.mem_append.mp hm with h | h
    · exact (hc c (List.mem_append_left _ h)).1
    · rcases List.mem_cons.mp h with rfl | h
      · rfl
      · exact (hc c (List.mem_append_right _ h)).1

/-- The entries a client's stream opens, counted from `e`: a simple Query or an Execute opens the
entry of its request, which is then the next one, and a Sync ends a batch whose entry is open. -/
def EntryOrder : Nat → List (ClientPacket × Nat) → Prop
  | _, [] => True
  | e, (c, k) :: rest =>
    (c.opensEntry = true → e = k) ∧ (c.endsRequest = true → c.opensEntry = false → e = k + 1) ∧
      EntryOrder (if c.opensEntry then e + 1 else e) rest

@[simp] theorem entryOrder_cons {e k : Nat} {c : ClientPacket} {rest : List (ClientPacket × Nat)} :
    EntryOrder e ((c, k) :: rest) ↔
      (c.opensEntry = true → e = k) ∧ (c.endsRequest = true → c.opensEntry = false → e = k + 1) ∧
        EntryOrder (if c.opensEntry then e + 1 else e) rest :=
  Iff.rfl

theorem entryOrder_append :
    ∀ {e : Nat} {xs ys : List (ClientPacket × Nat)},
      EntryOrder e (xs ++ ys) ↔
        EntryOrder e xs ∧ EntryOrder (e + xs.countP fun x => x.1.opensEntry) ys
  | e, [], ys => by simp [EntryOrder]
  | e, (c, k) :: xs, ys => by
    rw [List.cons_append, entryOrder_cons, entryOrder_cons, entryOrder_append, List.countP_cons]
    cases c.opensEntry <;> simp only [if_true, if_false, Bool.false_eq_true] <;>
      simp only [and_assoc, Nat.add_zero, Nat.add_assoc, Nat.add_comm 1]

/-- Packets that neither open an entry nor end a request leave the count of entries alone. -/
theorem entryOrder_plain (e n : Nat) :
    ∀ {cs : List ClientPacket}, (∀ c ∈ cs, c.endsRequest = false ∧ c.opensEntry = false) →
      EntryOrder e (cs.map fun c => (c, n)) ∧ cs.countP ClientPacket.opensEntry = 0
  | [], _ => ⟨trivial, rfl⟩
  | c :: cs, h => by
    have hc := h c (List.mem_cons_self _ _)
    have ih := entryOrder_plain e n fun c hm => h c (List.mem_cons_of_mem _ hm)
    simp [hc.1, hc.2, ih.1, ih.2]

theorem OpensOneEntry.entryOrder {r : List ClientPacket} (h : OpensOneEntry r) (n : Nat) :
    EntryOrder n (r.map fun c => (c, n)) ∧ r.countP ClientPacket.opensEntry = 1 := by
  rcases h with ⟨q, rfl⟩ | ⟨pre, e, post, rfl, hc⟩
  · exact ⟨by simp [ClientPacket.opensEntry, EntryOrder], rfl⟩
  · have hpre := entryOrder_plain n n fun c hm => hc c (List.mem_append_left _ hm)
    have hpost := entryOrder_plain (n + 1) n fun c hm => hc c (List.mem_append_right _ hm)
    have hexec : EntryOrder n ((ClientPacket.execute e :: (post ++ [.sync])).map fun c => (c, n)) := by
      rw [List.map_cons, entryOrder_cons]
      refine ⟨fun _ => rfl, nofun, ?_⟩
      show EntryOrder (n + 1) _
      rw [List.map_append]
      refine entryOrder_append.mpr ⟨hpost.1, ?_⟩
      have hcount : List.countP (fun x => x.1.opensEntry) (post.map fun c => (c, n)) = 0 := by
        rw [List.countP_map]; exact hpost.2
      rw [hcount]
      exact ⟨nofun, fun _ _ => rfl, trivial⟩
    refine ⟨?_, ?_⟩
    · rw [List.append_assoc, List.map_append]
      refine entryOrder_append.mpr ⟨hpre.1, ?_⟩
      rw [List.countP_map]
      simpa [Function.comp_def, hpre.2] using hexec
    · simp [List.countP_append, hpre.2, hpost.2, ClientPacket.opensEntry]

theorem entryOrder_tagRequests :
    ∀ (n : Nat) {plan : List (List ClientPacket)}, (∀ r ∈ plan, OpensOneEntry r) →
      EntryOrder n (tagRequests n plan)
  | _, [], _ => trivial
  | n, r :: rs, h => by
    have hr := (h r (List.mem_cons_self _ _)).entryOrder n
    refine entryOrder_append.mpr ⟨hr.1, ?_⟩
    rw [List.countP_map]
    simpa [Function.comp_def, hr.2] using
      entryOrder_tagRequests (n + 1) fun r' hr' => h r' (List.mem_cons_of_mem _ hr')

/-- A packet the handler did not fail on opens the entries its kind says. -/
theorem entriesAdded_ok (packet : ClientPacket) (b : Bool) :
    entriesAdded packet (.ok b) = if packet.opensEntry then 1 else 0 := by
  cases packet <;> rfl

theorem opensEntry_of_entriesAdded {packet : ClientPacket} {r : Except ProxyError Bool}
    (h : entriesAdded packet r ≠ 0) : packet.opensEntry = true := by
  cases packet <;> simp_all [entriesAdded, ClientPacket.opensEntry]

theorem entriesAdded_le_one (packet : ClientPacket) (r : Except ProxyError Bool) :
    entriesAdded packet r ≤ 1 := by
  unfold entriesAdded; split <;> omega

/-- Off `stateFirstPacket`, an iteration of the ServerReader releases the queue's head exactly on
a ReadyForQuery. -/
theorem databaseIteration_pendingQueryPackets (env : Collaborators) {st : DatabaseHandlerState}
    (hst : st ≠ .stateFirstPacket) (proxy : PgProxy) (packet : ServerPacket) :
    (databaseIteration (handleDatabasePacket env) st proxy packet).state.pendingQueryPackets =
      if packet.isReadyForQuery then proxy.pendingQueryPackets.tail else proxy.pendingQueryPackets := by
  cases st with
  | stateFirstPacket => exact absurd rfl hst
  | stateServe =>
    dsimp only [databaseIteration]
    split <;> exact handleDatabasePacket_pendingQueryPackets env proxy packet
  | stateSkipResponse =>
    dsimp only [databaseIteration]
    by_cases hp : packet.isReadyForQuery = true
    · rw [if_pos hp]
      split <;> exact handleDatabasePacket_pendingQueryPackets env proxy packet
    · simp [hp]

/-- The pending-query queue holds one entry for each request whose opening packet the ClientReader
has handled and whose ReadyForQuery the ServerReader has not read, in request order; every DataRow
and ReadyForQuery on its way belongs to such a request or an earlier one, and the client's
packets still open entries in order. -/
structure EntryInv (s : Session) : Prop where
  tags_range : s.tags = List.range' s.answered s.tags.length
  tags_length : s.tags.length = s.proxy.pendingQueryPackets.length
  server_entered : ∀ x ∈ s.fromDatabase, (x.1.isDataRow || x.1.isReadyForQuery) = true →
    x.2 < s.answered + s.tags.length
  database_entered : ∀ x ∈ s.toDatabase, x.1.readsQueue = true → x.2 < s.answered + s.tags.length
  client_entries : s.clientRunning = true →
    EntryOrder (s.answered + s.tags.length) (s.fromClient ++ tagRequests s.sent s.plan)

section Entries

variable {env : Collaborators} {waits : Bool} {s s' : Session}

theorem EntryInv.initial {plan : List (List ClientPacket)} (hplan : ∀ r ∈ plan, OpensOneEntry r) :
    EntryInv (Session.initial plan) where
  tags_range := rfl
  tags_length := rfl
  server_entered := List.forall_mem_nil _
  database_entered := List.forall_mem_nil _
  client_entries _ := by simpa [Session.initial] using entryOrder_tagRequests 0 hplan

theorem EntryInv.send (hi : EntryInv s) (h : s.send waits = some s') : EntryInv s' := by
  have he := send_stream h
  obtain ⟨r, rest, -, -, rfl⟩ := send_cases h
  exact ⟨hi.1, hi.2, hi.3, hi.4, fun hr => he ▸ hi.5 hr⟩

theorem entered_afterClientPacket (env : Collaborators) (s : Session) (packet : ClientPacket)
    (k : Nat) (rest : List (ClientPacket × Nat)) :
    (s.afterClientPacket env packet k rest).answered +
        (s.afterClientPacket env packet k rest).tags.length =
      s.answered + s.tags.length + entriesAdded packet (handleClientPacket env s.proxy packet).result := by
  simp [Nat.add_assoc]

theorem EntryInv.clientReads (hs : StreamInv env s) (hi : EntryInv s)
    (h : s.clientReads env = some s') : EntryInv s' := by
  obtain ⟨packet, k, rest, hrun, hfrom, rfl⟩ := clientReads_cases h
  have hc := hi.client_entries hrun
  rw [hfrom, List.cons_append, entryOrder_cons] at hc
  obtain ⟨added, hq, hlen, -⟩ := handleClientPacket_pendingQueryPackets env s.proxy packet
  have hentered := entered_afterClientPacket env s packet k rest
  have hle := entriesAdded_le_one packet (handleClientPacket env s.proxy packet).result
  have hopen : entriesAdded packet (handleClientPacket env s.proxy packet).result = 1 →
      s.answered + s.tags.length = k := fun h1 =>
    hc.1 (opensEntry_of_entriesAdded (r := (handleClientPacket env s.proxy packet).result) (by omega))
  have hdb : ∀ x ∈ (s.afterClientPacket env packet k rest).toDatabase, x.1.readsQueue = true →
      x.2 < s.answered + s.tags.length +
        entriesAdded packet (handleClientPacket env s.proxy packet).result := by
    intro x hx hr
    have hold : x ∈ s.toDatabase → x.2 < s.answered + s.tags.length +
        entriesAdded packet (handleClientPacket env s.proxy packet).result := fun hx => by
      have := hi.database_entered x hx hr
      omega
    rcases handleClientPacket_result_cases env s.proxy packet with
      ⟨e, he⟩ | hcen | hfw
    · exact hold (by rwa [(Session.afterClientPacket_of_error s k rest he).2.1] at hx)
    · exact hold (by rwa [(Session.afterClientPacket_of_censored s k rest hcen).2.1] at hx)
    · rw [(Session.afterClientPacket_of_forward s k rest hfw).2.1] at hx
      rcases List.mem_append.mp hx with hx | hx
      · exact hold hx
      · obtain rfl : x = ((handleClientPacket env s.proxy packet).packet, k) := by simpa using hx
        rw [(handleClientPacket_rewrite env hfw).kind.2.2.2] at hr
        rw [hfw, entriesAdded_ok]
        cases ho : packet.opensEntry
        · have := hc.2.1 (endsRequest_of_readsQueue hr ho) ho
          simp only [if_false]
          omega
        · have := hc.1 ho
          simp only [if_true]
          omega
  refine ⟨?_, ?_, ?_, ?_, ?_⟩
  · simp only [Session.afterClientPacket_tags, Session.afterClientPacket_answered,
      List.length_append, List.length_replicate]
    rcases Nat.le_one_iff_eq_zero_or_eq_one.mp hle with h0 | h1
    · rw [h0]
      simpa using hi.tags_range
    · rw [h1, List.range'_concat, ← hopen h1, ← hi.tags_range]
      simp
  · simp [hq, hlen, hi.tags_length]
  · intro x hx hr
    have := hi.server_entered x (by simpa using hx) hr
    omega
  · intro x hx hr
    rw [hentered]
    exact hdb x hx hr
  · intro hr
    rw [hentered]
    rcases handleClientPacket_result_cases env s.proxy packet with
      ⟨e, he⟩ | hcen | hfw
    · simp [(Session.afterClientPacket_of_error s k rest he).1] at hr
    · have ho : packet.opensEntry = false := by
        cases hq : packet.isQuery
        · exact opensEntry_of_censored hcen hq
        · simp [hs.client_uncensored (packet, k) (by simp [hfrom]) hq] at hcen
      rw [(handleClientPacket_censored_iff env s.proxy packet).mpr hcen, entriesAdded_ok, ho]
      simpa [ho] using hc.2.2
    · rw [hfw, entriesAdded_ok]
      cases ho : packet.opensEntry <;> simpa [ho] using hc.2.2

theorem EntryInv.databaseAnswers {response : List ServerPacket} (hi : EntryInv s)
    (h : s.databaseAnswers response = some s') : EntryInv s' := by
  obtain ⟨packet, k, rest, hdb, ha, rfl⟩ := databaseAnswers_cases h
  refine ⟨hi.1, hi.2, fun x hx hr => ?_, fun x hx => hi.4 x (by simp [hdb, hx]), hi.5⟩
  rcases List.mem_append.mp hx with hx | hx
  · exact hi.3 x hx hr
  · obtain ⟨p, hp, rfl⟩ := List.mem_map.mp hx
    exact hi.4 (packet, k) (by simp [hdb]) (answers_readsQueue ha hp hr)

theorem EntryInv.serverReads (hs : StreamInv env s) (hi : EntryInv s)
    (h : s.serverReads env = some s') : EntryInv s' := by
  obtain ⟨packet, k, rest, -, hfrom, rfl⟩ := serverReads_cases h
  have hq := databaseIteration_pendingQueryPackets env hs.not_first s.proxy packet
  have hmem : ∀ x ∈ rest, x ∈ s.fromDatabase := fun x hx => by simp [hfrom, hx]
  by_cases hr : packet.isReadyForQuery = true
  · have hk := hs.server_head hfrom
    have hlt := hi.server_entered (packet, k) (by simp [hfrom]) (by simp [hr])
    obtain ⟨m, hm⟩ : ∃ m, s.tags.length = m + 1 := ⟨s.tags.length - 1, by omega⟩
    have htail : s.tags.tail = List.range' (s.answered + 1) m := by
      rw [hi.tags_range, hm, List.range'_succ]; rfl
    have hlen : s.tags.tail.length = m := by simp [hm]
    have hent : s.answered + 1 + s.tags.tail.length = s.answered + s.tags.length := by omega
    rw [if_pos hr] at hq
    simp only [hr, if_true, hq]
    refine ⟨by rw [hlen]; exact htail, by simp [hq, ← hi.tags_length], fun x hx hd => ?_,
      fun x hx hd => ?_, fun hrun => ?_⟩
    · have := hi.server_entered x (hmem x hx) hd
      show x.2 < s.answered + 1 + s.tags.tail.length
      omega
    · have := hi.database_entered x hx hd
      show x.2 < s.answered + 1 + s.tags.tail.length
      omega
    · dsimp only
      rw [hent]
      exact hi.client_entries hrun
  · rw [if_neg hr] at hq
    simp only [hr, if_false, Bool.false_eq_true]
    exact ⟨hi.1, by rw [hi.2]; exact congrArg List.length hq.symm, fun x hx => hi.3 x (hmem x hx),
      hi.4, hi.5⟩

theorem EntryInv.step (hs : StreamInv env s) (hi : EntryInv s) {a : SessionAction}
    (h : s.step env waits a = some s') : EntryInv s' := by
  cases a with
  | send => exact hi.send h
  | clientReads => exact hi.clientReads hs h
  | databaseAnswers response => exact hi.databaseAnswers h
  | serverReads => exact hi.serverReads hs h

theorem entryInv_reachable {plan : List (List ClientPacket)}
    (hplan : ∀ r ∈ plan, OpensOneEntry r ∧ ∀ c ∈ r, c.isQuery = true → censoredBy env c = false)
    (hs : SessionReachable env waits plan s) : StreamInv env s ∧ EntryInv s := by
  induction hs with
  | initial =>
    exact ⟨.initial fun r hr => ⟨(hplan r hr).1.isRequest, (hplan r hr).2⟩,
      .initial fun r hr => (hplan r hr).1⟩
  | step a _ h ih => exact ⟨ih.1.step h, ih.2.step ih.1 h⟩

end Entries

/-- The packet of a request that opens its entry of the pending-query queue. -/
def requestOpener (r : List ClientPacket) : Option ClientPacket := r.find? ClientPacket.opensEntry

theorem EntryFor.opensEntry {c : ClientPacket} {entry : QueryPacket} (h : EntryFor c entry) :
    c.opensEntry = true := by
  cases c <;> first | rfl | exact h.elim

theorem OpensOneEntry.opener {r : List ClientPacket} (h : OpensOneEntry r) {c : ClientPacket}
    (hc : c ∈ r) (ho : c.opensEntry = true) : requestOpener r = some c := by
  rcases h with ⟨q, rfl⟩ | ⟨pre, e, post, rfl, hpp⟩
  · rw [List.mem_singleton.mp hc]
    rfl
  · have hpre : pre.find? ClientPacket.opensEntry = none :=
      List.find?_eq_none.mpr fun x hx => by simp [(hpp x (List.mem_append_left _ hx)).2]
    have hce : c = .execute e := by
      simp only [List.append_assoc, List.cons_append, List.mem_append, List.mem_cons,
        List.mem_singleton, List.not_mem_nil, or_false] at hc
      rcases hc with hc | rfl | hc | rfl
      · simp [(hpp c (List.mem_append_left _ hc)).2] at ho
      · rfl
      · simp [(hpp c (List.mem_append_right _ hc)).2] at ho
      · simp [ClientPacket.opensEntry] at ho
    rw [requestOpener, hce, List.append_assoc, List.find?_append, hpre]
    rfl

/-- A packet of the client's stream labelled `k` is a packet of the `k`-th request. -/
theorem mem_tagRequests_request {x : ClientPacket × Nat} :
    ∀ {n : Nat} {plan : List (List ClientPacket)}, x ∈ tagRequests n plan →
      n ≤ x.2 ∧ ∃ r, plan[x.2 - n]? = some r ∧ x.1 ∈ r
  | _, [], h => by simp [tagRequests] at h
  | n, r :: rs, h => by
    rcases List.mem_append.mp h with h | h
    · obtain ⟨c, hc, rfl⟩ := List.mem_map.mp h
      exact ⟨le_refl _, r, by simp, hc⟩
    · obtain ⟨hle, r', hr', hx⟩ := mem_tagRequests_request h
      refine ⟨by omega, r', ?_, hx⟩
      rw [show x.2 - n = x.2 - (n + 1) + 1 by omega, List.getElem?_cons_succ]
      exact hr'

theorem forall₂_replicate {α β : Type} {R : α → β → Prop} {a : α} {bs : List β}
    (h : ∀ b ∈ bs, R a b) : List.Forall₂ R (List.replicate bs.length a) bs := by
  induction bs with
  | nil => exact .nil
  | cons b bs ih =>
    exact .cons (h b (List.mem_cons_self _ _)) (ih fun b' hb => h b' (List.mem_cons_of_mem _ hb))

/-- Each entry of the pending-query queue is one the ClientReader appended for a packet of the
request `tags` names; the client's stream is what is left of the plan's. -/
structure QueueInv (plan : List (List ClientPacket)) (s : Session) : Prop where
  stream_suffix : s.fromClient ++ tagRequests s.sent s.plan <:+ tagRequests 0 plan
  entries : List.Forall₂ (fun k entry => ∃ r, plan[k]? = some r ∧ ∃ c ∈ r, EntryFor c entry)
    s.tags s.proxy.pendingQueryPackets

section Queue

variable {env : Collaborators} {waits : Bool} {plan : List (List ClientPacket)} {s s' : Session}

theorem QueueInv.clientReads (hi : QueueInv plan s) (h : s.clientReads env = some s') :
    QueueInv plan s' := by
  obtain ⟨packet, k, rest, -, hfrom, rfl⟩ := clientReads_cases h
  have hsuf := hi.stream_suffix
  rw [hfrom, List.cons_append] at hsuf
  obtain ⟨-, r, hr, hc⟩ := mem_tagRequests_request (hsuf.subset (List.mem_cons_self _ _))
  obtain ⟨added, hq, hlen, hfor⟩ := handleClientPacket_pendingQueryPackets env s.proxy packet
  refine ⟨(List.suffix_cons _ _).trans hsuf, ?_⟩
  rw [Session.afterClientPacket_tags, Session.afterClientPacket_proxy, hq, ← hlen]
  exact List.rel_append hi.entries
    (forall₂_replicate fun entry he => ⟨r, by simpa using hr, packet, hc, hfor entry he⟩)

theorem QueueInv.serverReads (hs : StreamInv env s) (hi : QueueInv plan s)
    (h : s.serverReads env = some s') : QueueInv plan s' := by
  obtain ⟨packet, k, rest, -, -, rfl⟩ := serverReads_cases h
  refine ⟨hi.stream_suffix, ?_⟩
  dsimp only
  rw [databaseIteration_pendingQueryPackets env hs.not_first s.proxy packet]
  split_ifs
  · simpa only [List.drop_one] using List.forall₂_drop 1 hi.entries
  · exact hi.entries

theorem QueueInv.step (hs : StreamInv env s) (hi : QueueInv plan s) {a : SessionAction}
    (h : s.step env waits a = some s') : QueueInv plan s' := by
  cases a with
  | send =>
    have he := send_stream h
    obtain ⟨r, rest, -, -, rfl⟩ := send_cases h
    exact ⟨he ▸ hi.stream_suffix, hi.entries⟩
  | clientReads => exact hi.clientReads h
  | databaseAnswers response =>
    obtain ⟨packet, k, rest, -, -, rfl⟩ := databaseAnswers_cases h
    exact ⟨hi.stream_suffix, hi.entries⟩
  | serverReads => exact hi.serverReads hs h

theorem queueInv_reachable
    (hplan : ∀ r ∈ plan, OpensOneEntry r ∧ ∀ c ∈ r, c.isQuery = true → censoredBy env c = false)
    (hs : SessionReachable env waits plan s) : QueueInv plan s := by
  induction hs with
  | initial => exact ⟨by simp [Session.initial], .nil⟩
  | step a hs' h ih => exact ih.step (entryInv_reachable hplan hs').1 h

end Queue

/-- When every request opens one queue entry and no simple Query is censored, a DataRow is decrypted
with the entry its own request's Query or Execute appended. -/
theorem handleQueryDataPacket_reads_own_entry {env : Collaborators} {waits : Bool}
    {plan : List (List ClientPacket)}
    (hplan : ∀ r ∈ plan, OpensOneEntry r ∧ ∀ c ∈ r, c.isQuery = true → censoredBy env c = false)
    {s : Session} (hs : SessionReachable env waits plan s) {packet : ServerPacket} {k : Nat}
    {rest : List (ServerPacket × Nat)} (hfrom : s.fromDatabase = (packet, k) :: rest)
    (hrow : packet.isDataRow = true) :
    ∃ r c entry, plan[k]? = some r ∧ requestOpener r = some c ∧
      s.proxy.pendingQueryPackets.head? = some entry ∧ EntryFor c entry := by
  obtain ⟨hst, hi⟩ := entryInv_reachable hplan hs
  have hk := hst.server_head hfrom
  have hlt := hi.server_entered (packet, k) (by simp [hfrom]) (by simp [hrow])
  obtain ⟨m, hm⟩ : ∃ m, s.tags.length = m + 1 := ⟨s.tags.length - 1, by omega⟩
  have htags : s.tags = k :: List.range' (s.answered + 1) m := by
    rw [hi.tags_range, hm, List.range'_succ, hk]
  have he := (queueInv_reachable hplan hs).entries
  rw [htags] at he
  obtain ⟨entry, queue, ⟨r, hr, c, hc, hfor⟩, -, hq⟩ := List.forall₂_cons_left_iff.mp he
  exact ⟨r, c, entry, hr, (hplan r (List.getElem?_mem hr)).1.opener hc hfor.opensEntry,
    by simp [hq], hfor⟩

/-- Collaborators whose censor rejects `DELETE FROM t` and whose observers change nothing. -/
def censorDeleteEnv : Collaborators :=
  { plainEnv with
    censor := fun q => q == "DELETE FROM t"
    mapEncryptedTypeToOID := some }

/-- Two pipelined Queries: the DataRow answering the first is read with the first's entry. -/
theorem handleQueryDataPacket_reads_own_entry_pipelined :
    ∃ s, SessionReachable censorDeleteEnv false [[.query "SELECT 1"], [.query "SELECT 2"]] s ∧
      s.fromDatabase.head? = some (.dataRow [some [1]], 0) ∧ s.proxy.pendingQueryPackets.length = 2 ∧
      s.proxy.pendingQueryPackets.head? = some (newQueryPacket "SELECT 1") := by
  have h : ((Session.initial [[.query "SELECT 1"], [.query "SELECT 2"]]).run censorDeleteEnv false
      [.send, .send, .clientReads, .clientReads,
        .databaseAnswers [.dataRow [some [1]], .readyForQuery 'I']]).map
      (fun s => (s.fromDatabase, s.proxy.pendingQueryPackets.length)) =
      some ([(.dataRow [some [1]], 0), (.readyForQuery 'I', 0)], 2) := by
    decide
  obtain ⟨s, hs, h⟩ := exists_reachable_of_run h
  simp only [Prod.mk.injEq] at h
  have hplan : ∀ r ∈ [[ClientPacket.query "SELECT 1"], [.query "SELECT 2"]], OpensOneEntry r ∧
      ∀ c ∈ r, c.isQuery = true → censoredBy censorDeleteEnv c = false := by
    intro r hm
    simp only [List.mem_cons, List.mem_singleton, List.not_mem_nil, or_false] at hm
    rcases hm with rfl | rfl <;> exact ⟨.inl ⟨_, rfl⟩, by decide⟩
  obtain ⟨r, c, entry, hr, hc, hhead, hfor⟩ := handleQueryDataPacket_reads_own_entry hplan hs h.1 rfl
  simp only [List.getElem?_cons_zero, Option.some.injEq] at hr
  subst hr
  simp only [requestOpener, List.find?, ClientPacket.opensEntry, Option.some.injEq] at hc
  subst hc
  exact ⟨s, hs, by simp [h.1], h.2, hhead.trans (congrArg some hfor)⟩

/-- A client that waits for each answer sends a simple Query the censor rejects, then an allowed
one: the rejected Query's entry stays at the head of the queue, so the ServerReader reads it for
the DataRow that answers the second Query. -/
theorem handleQueryDataPacket_reads_censored_entry :
    ∃ s, SessionReachable censorDeleteEnv true [[.query "DELETE FROM t"], [.query "SELECT 1"]] s ∧
      s.serverRunning = true ∧ s.serverState = .stateServe ∧
      s.fromDatabase.head? = some (.dataRow [some [1]], 1) ∧
      s.proxy.pendingQueryPackets.head? = some (newQueryPacket "DELETE FROM t") := by
  have h : ((Session.initial [[.query "DELETE FROM t"], [.query "SELECT 1"]]).run censorDeleteEnv true
      [.send, .clientReads, .send, .clientReads,
        .databaseAnswers [.dataRow [some [1]], .readyForQuery 'I']]).map
      (fun s => (s.serverRunning, s.serverState, s.fromDatabase.head?,
        s.proxy.pendingQueryPackets.head?)) =
      some (true, .stateServe, some (.dataRow [some [1]], 1), some (newQueryPacket "DELETE FROM t")) := by
    decide
  obtain ⟨s, hs, h⟩ := exists_reachable_of_run h
  simp only [Prod.mk.injEq] at h
  exact ⟨s, hs, h⟩

end AcraPgProxy
