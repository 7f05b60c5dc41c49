import AcraPgProxy.Registry

namespace AcraPgProxy

/-- What a database-packet handler leaves behind: the packet to forward or the error, and the
handler's state. -/
structure DbHandled (σ : Type) where
  result : Except ProxyError ServerPacket
  state : σ

/-- Modelled from the spec: `GetParameterFormatByIndex(i, formats)`; no format means text, one
format applies to every column, otherwise column `i` has its own. -/
def getParameterFormatByIndex (i : Nat) : List UInt16 → Except ProxyError UInt16
  | [] => .ok dataFormatText
  | [f] => .ok f
  | fs =>
    match fs[i]? with
    | some f => .ok f
    | none => .error (.invalidFormatIndex i)

/-- The setting the column loop of `handleQueryDataPacket` passes for column `i`, from the guard
`encryptionSettings != nil && i <= len(encryptionSettings) && encryptionSettings[i] != nil`: Go
reads `encryptionSettings[i]` once the first two conjuncts hold. -/
def columnSetting (settings : Option (List (Option QueryDataItem))) (i : Nat) :
    Except ProxyError (Option ColumnEncryptionSetting) :=
  match settings with
  | none => .ok none
  | some items =>
    if i ≤ items.length then
      match goIndex items i with
      | .error e => .error e
      | .ok none => .ok none
      | .ok (some item) => .ok (some item.setting)
    else .ok none

theorem columnSetting_of_lt {items : List (Option QueryDataItem)} {i : Nat} (h : i < items.length) :
    columnSetting (some items) i = .ok (items[i].map QueryDataItem.setting) := by
  simp only [columnSetting, if_pos h.le, goIndex_eq_ok h]
  cases items[i] <;> rfl

/-- At the index one past the settings the guard admits the read, which panics. -/
theorem columnSetting_at_length (items : List (Option QueryDataItem)) :
    columnSetting (some items) items.length =
      .error (.indexOutOfRange items.length items.length) := by
  simp [columnSetting, goIndex_of_le (le_refl items.length)]

/-- Modelled from the spec: `PgProtocolState.HandleDatabasePacket`, which discards the head of
the pending-query queue on ReadyForQuery and never fails. -/
def PgProxy.observeDatabasePacket (proxy : PgProxy) (packet : ServerPacket) : PgProxy :=
  if packet.isReadyForQuery then { proxy with pendingQueryPackets := proxy.pendingQueryPackets.tail }
  else proxy

/-- `DeletePlaceholderSettingsFromClientSession`. -/
def ClientSession.deletePlaceholderSettings (session : ClientSession) : ClientSession :=
  { session with placeholderSettings := none }

section Handlers

variable (env : Collaborators)

/-- The column loop of `handleQueryDataPacket` from column `i`: NULL columns are skipped, every
other column is decrypted with its result format and setting. -/
def decryptColumns (bind : Option BindPacket) (settings : Option (List (Option QueryDataItem))) :
    Nat → List (Option (List UInt8)) → Except ProxyError (List (Option (List UInt8)))
  | _, [] => .ok []
  | i, none :: rest => (none :: ·) <$> decryptColumns bind settings (i + 1) rest
  | i, some data :: rest =>
    let format : Except ProxyError UInt16 := match bind with
      | none => .ok dataFormatText
      | some b => getParameterFormatByIndex i b.resultFormats
    match format with
    | .error e => .error e
    | .ok format =>
      match columnSetting settings i with
      | .error e => .error e
      | .ok setting =>
        match env.onColumnDecryption i data (format = dataFormatBinary) setting with
        | .error e => .error e
        | .ok newData => (some newData :: ·) <$> decryptColumns bind settings (i + 1) rest

/-- `handleQueryDataPacket`: the queue's head names the query, and with it the encryption settings
and, for an extended query, the Bind's result formats. -/
def handleQueryDataPacket (proxy : PgProxy) (packet : ServerPacket) : Except ProxyError ServerPacket :=
  match proxy.pendingQueryPackets with
  | [] => .error .noPendingQuery
  | pending :: _ =>
    let bind := if pending.executePacket.isSome then pending.bindPacket else none
    match packet with
    | .dataRow [] => .ok packet
    | .dataRow columns =>
      let settings := match env.encryptorSettings pending.query with
        | .ok settings => settings
        | .error _ => none
      ServerPacket.dataRow <$> decryptColumns env bind settings 0 columns
    | _ => .error env.parseColumnsError

/-- The field loop of `handleRowDescription` over fields and settings of equal length. -/
def rewriteFields : List (Option QueryDataItem) → List FieldDescription → List FieldDescription × Bool
  | some item :: items, f :: fs =>
    let (fs', changed) := rewriteFields items fs
    if item.setting.typeAware then
      match env.mapEncryptedTypeToOID item.setting.dbDataTypeID with
      | some oid => ({ f with dataTypeOID := oid } :: fs', true)
      | none => (f :: fs', changed)
    else (f :: fs', changed)
  | none :: items, f :: fs =>
    let (fs', changed) := rewriteFields items fs
    (f :: fs', changed)
  | _, fs => (fs, false)

/-- `handleRowDescription`: the fields are rewritten from the session's query-data items when
there is one item per field; a RowDescription that does not decode passes through. -/
def handleRowDescription (session : ClientSession) (packet : ServerPacket) : ServerPacket :=
  match session.queryDataItems, packet with
  | some items, .rowDescription fields =>
    if items.length ≠ fields.length then packet
    else
      let (fields', changed) := rewriteFields env items fields
      if changed then .rowDescription fields' else packet
  | _, _ => packet

/-- The loop of `handleParameterDescription` from index `i`; `items[i]` panics past the settings. -/
def rewriteParameterOIDs (items : List (Option ColumnEncryptionSetting)) :
    Nat → List UInt32 → Except ProxyError (List UInt32 × Bool)
  | _, [] => .ok ([], false)
  | i, oid :: oids =>
    match goIndex items i, rewriteParameterOIDs items (i + 1) oids with
    | .error e, _ => .error e
    | .ok _, .error e => .error e
    | .ok (some s), .ok (oids', changed) =>
      if s.typeAware then
        match env.mapEncryptedTypeToOID s.dbDataTypeID with
        | some newOID => .ok (newOID :: oids', true)
        | none => .ok (oid :: oids', changed)
      else .ok (oid :: oids', changed)
    | .ok none, .ok (oids', changed) => .ok (oid :: oids', changed)

/-- `handleParameterDescription`, from the session's placeholder settings. -/
def handleParameterDescription (session : ClientSession) (packet : ServerPacket) :
    Except ProxyError ServerPacket :=
  match session.placeholderSettings, packet with
  | some items, .parameterDescription oids =>
    match rewriteParameterOIDs env items 0 oids with
    | .error e => .error e
    | .ok (oids', changed) => .ok (if changed then .parameterDescription oids' else packet)
  | _, _ => .ok packet

/-- `handleDatabasePacket`; the RowDescription and ParameterDescription handlers pass a packet
that does not decode through unchanged, so only a DataRow that does not decode is handled. -/
def handleDatabasePacket (proxy : PgProxy) (packet : ServerPacket) : DbHandled PgProxy :=
  let proxy := proxy.observeDatabasePacket packet
  match packet with
  | .dataRow _ => ⟨handleQueryDataPacket env proxy packet, proxy⟩
  | .rowDescription _ => ⟨.ok (handleRowDescription env proxy.session packet), proxy⟩
  | .parameterDescription _ => ⟨handleParameterDescription env proxy.session packet, proxy⟩
  | .readyForQuery _ =>
    ⟨.ok packet, { proxy with session := proxy.session.deletePlaceholderSettings }⟩
  | .malformed t =>
    if t = 'D' then ⟨handleQueryDataPacket env proxy packet, proxy⟩ else ⟨.ok packet, proxy⟩
  | _ => ⟨.ok packet, proxy⟩

/-- `handleQueryDataPacket` answers only with a DataRow. -/
theorem handleQueryDataPacket_ok {proxy : PgProxy} {packet p : ServerPacket}
    (h : handleQueryDataPacket env proxy packet = .ok p) : ∃ columns, p = .dataRow columns := by
  unfold handleQueryDataPacket at h
  split at h
  · cases h
  · dsimp only at h
    split at h
    · cases h; exact ⟨[], rfl⟩
    · revert h
      cases decryptColumns env _ _ 0 _ <;> intro h <;> cases h
      exact ⟨_, rfl⟩
    · cases h

theorem handleRowDescription_rowDescription (session : ClientSession)
    (fields : List FieldDescription) :
    ∃ fields', handleRowDescription env session (.rowDescription fields) = .rowDescription fields' := by
  unfold handleRowDescription
  split
  · split_ifs
    · exact ⟨_, rfl⟩
    · split
      split_ifs <;> exact ⟨_, rfl⟩
  · exact ⟨_, rfl⟩

/-- What `handleRowDescription` makes of one field: the data type of a type-aware column becomes
the OID `mapEncryptedTypeToOID` gives for its configured type, when it gives one. -/
def typeAwareField (item : Option QueryDataItem) (f : FieldDescription) : FieldDescription :=
  match item with
  | some item =>
    if item.setting.typeAware then
      match env.mapEncryptedTypeToOID item.setting.dbDataTypeID with
      | some oid => { f with dataTypeOID := oid }
      | none => f
    else f
  | none => f

theorem rewriteFields_eq :
    ∀ (items : List (Option QueryDataItem)) (fields : List FieldDescription),
      items.length = fields.length →
      (rewriteFields env items fields).1 = List.zipWith (typeAwareField env) items fields ∧
        ((rewriteFields env items fields).2 = false →
          List.zipWith (typeAwareField env) items fields = fields)
  | [], [], _ => ⟨rfl, fun _ => rfl⟩
  | item :: items, f :: fs, h => by
    obtain ⟨ih1, ih2⟩ := rewriteFields_eq items fs (by simpa using h)
    rcases hr : rewriteFields env items fs with ⟨fs', c⟩
    simp only [hr] at ih1 ih2
    subst ih1
    cases item with
    | none => simpa [rewriteFields, hr, typeAwareField] using ih2
    | some it =>
      by_cases ht : it.setting.typeAware = true
      · cases hm : env.mapEncryptedTypeToOID it.setting.dbDataTypeID
        · simpa [rewriteFields, hr, typeAwareField, ht, hm] using ih2
        · simp [rewriteFields, hr, typeAwareField, ht, hm]
      · simpa [rewriteFields, hr, typeAwareField, ht] using ih2

/-- With one query-data item per field, `handleRowDescription` changes exactly the data types of
the fields whose items are type-aware and map to an OID, and leaves all else as the server sent
it. -/
theorem handleRowDescription_eq {session : ClientSession} {items : List (Option QueryDataItem)}
    {fields : List FieldDescription} (h : session.queryDataItems = some items)
    (hlen : items.length = fields.length) :
    handleRowDescription env session (.rowDescription fields) =
      .rowDescription (List.zipWith (typeAwareField env) items fields) := by
  obtain ⟨h1, h2⟩ := rewriteFields_eq env items fields hlen
  simp only [handleRowDescription, h, hlen, ne_eq, not_true_eq_false, if_false]
  cases hc : (rewriteFields env items fields).2
  · rw [h2 hc]; simp [hc]
  · simp [hc, ← h1]
/-- How a packet the ServerReader's handler did not fail on goes on: a ReadyForQuery as it came,
a DataRow as a DataRow, any other packet as one that is neither. -/
def Passes (packet p : ServerPacket) : Prop :=
  (packet.isReadyForQuery = true → p = packet) ∧ p.isReadyForQuery = packet.isReadyForQuery ∧
    p.isDataRow = packet.isDataRow

theorem handleDatabasePacket_passes {proxy : PgProxy} {packet p : ServerPacket}
    (h : (handleDatabasePacket env proxy packet).result = .ok p) : Passes packet p := by
  have hrow : ∀ {q p : ServerPacket},
      handleQueryDataPacket env (proxy.observeDatabasePacket q) q = .ok p → ∃ cols, p = .dataRow cols :=
    fun h => handleQueryDataPacket_ok env h
  cases packet with
  | readyForQuery st => cases h; exact ⟨fun _ => rfl, rfl, rfl⟩
  | dataRow cols => obtain ⟨_, rfl⟩ := hrow h; exact ⟨nofun, rfl, rfl⟩
  | rowDescription fs =>
    cases h
    obtain ⟨fs', hfs⟩ := handleRowDescription_rowDescription env
      (proxy.observeDatabasePacket (.rowDescription fs)).session fs
    rw [hfs]
    exact ⟨nofun, rfl, rfl⟩
  | parameterDescription oids =>
    simp only [handleDatabasePacket, handleParameterDescription] at h
    split at h
    · split at h
      · cases h
      · cases h; split_ifs <;> exact ⟨nofun, rfl, rfl⟩
    · cases h; exact ⟨nofun, rfl, rfl⟩
  | malformed t =>
    simp only [handleDatabasePacket] at h
    split_ifs at h with ht
    · obtain ⟨_, rfl⟩ := hrow h
      subst ht
      exact ⟨nofun, rfl, rfl⟩
    · cases h; exact ⟨nofun, rfl, rfl⟩
  | errorResponse f => cases h; exact ⟨nofun, rfl, rfl⟩
  | other t => cases h; exact ⟨nofun, rfl, rfl⟩

/-- `handleDatabasePacket` passes a ReadyForQuery through as it came and turns no other packet
into one. -/
theorem handleDatabasePacket_keeps_readyForQuery (proxy : PgProxy) (packet : ServerPacket) :
    (packet.isReadyForQuery = true → (handleDatabasePacket env proxy packet).result = .ok packet) ∧
      ∀ p, (handleDatabasePacket env proxy packet).result = .ok p →
        p.isReadyForQuery = packet.isReadyForQuery :=
  ⟨fun hq => by cases packet <;> first | rfl | simp [ServerPacket.isReadyForQuery] at hq,
    fun _ h => (handleDatabasePacket_passes env h).2.1⟩

/-- `handleDatabasePacket` releases the queue's head on a ReadyForQuery and keeps the queue
otherwise. -/
theorem handleDatabasePacket_pendingQueryPackets (proxy : PgProxy) (packet : ServerPacket) :
    (handleDatabasePacket env proxy packet).state.pendingQueryPackets =
      if packet.isReadyForQuery then proxy.pendingQueryPackets.tail
      else proxy.pendingQueryPackets := by
  cases packet <;> simp only [handleDatabasePacket, PgProxy.observeDatabasePacket] <;> split_ifs <;> rfl

/-- The query-data items of the session are the ClientReader's: `handleDatabasePacket` only clears
the placeholder settings. -/
theorem handleDatabasePacket_queryDataItems (proxy : PgProxy) (packet : ServerPacket) :
    (handleDatabasePacket env proxy packet).state.session.queryDataItems =
      proxy.session.queryDataItems := by
  cases packet <;> simp only [handleDatabasePacket, PgProxy.observeDatabasePacket] <;> split_ifs <;> rfl

/-- `handleDatabasePacket` clears the placeholder settings on a ReadyForQuery and keeps them
otherwise. -/
theorem handleDatabasePacket_placeholderSettings (proxy : PgProxy) (packet : ServerPacket) :
    (handleDatabasePacket env proxy packet).state.session.placeholderSettings =
      if packet.isReadyForQuery then none else proxy.session.placeholderSettings := by
  cases packet
  case malformed t =>
    by_cases ht : t = 'D' <;>
      simp [handleDatabasePacket, ht, PgProxy.observeDatabasePacket, ServerPacket.isReadyForQuery]
  all_goals rfl

/-- `handleRowDescription` reads the session's query-data items only. -/
theorem handleRowDescription_congr {session session' : ClientSession}
    (h : session.queryDataItems = session'.queryDataItems) (packet : ServerPacket) :
    handleRowDescription env session packet = handleRowDescription env session' packet := by
  unfold handleRowDescription
  rw [h]

/-- `handleParameterDescription` reads the session's placeholder settings only. -/
theorem handleParameterDescription_congr {session session' : ClientSession}
    (h : session.placeholderSettings = session'.placeholderSettings) (packet : ServerPacket) :
    handleParameterDescription env session packet = handleParameterDescription env session' packet := by
  unfold handleParameterDescription
  rw [h]

/-- With decryption that never fails, the column loop of a simple query panics on every DataRow
with a non-NULL column at index `len(encryptionSettings)`. -/
theorem decryptColumns_panics {items : List (Option QueryDataItem)}
    (hd : ∀ i data binary setting, ∃ data', env.onColumnDecryption i data binary setting = .ok data') :
    ∀ {i : Nat} {columns : List (Option (List UInt8))} {data : List UInt8}, i ≤ items.length →
      columns[items.length - i]? = some (some data) →
      decryptColumns env none (some items) i columns =
        .error (.indexOutOfRange items.length items.length)
  | i, [], _, _, hc => by simp at hc
  | i, none :: rest, data, hi, hc => by
    have hlt : i < items.length := by
      rcases Nat.lt_or_ge i items.length with h | h
      · exact h
      · simp [Nat.sub_eq_zero_of_le h] at hc
    have hr : rest[items.length - (i + 1)]? = some (some data) := by
      rwa [show items.length - i = items.length - (i + 1) + 1 by omega,
        List.getElem?_cons_succ] at hc
    simp [decryptColumns, decryptColumns_panics hd (by omega : i + 1 ≤ items.length) hr]
  | i, some d :: rest, data, hi, hc => by
    rcases Nat.lt_or_ge i items.length with hlt | hge
    · have hr : rest[items.length - (i + 1)]? = some (some data) := by
        rwa [show items.length - i = items.length - (i + 1) + 1 by omega,
          List.getElem?_cons_succ] at hc
      obtain ⟨d', hd'⟩ := hd i d (dataFormatText = dataFormatBinary)
        (items[i].map QueryDataItem.setting)
      simp [decryptColumns, columnSetting_of_lt hlt, hd',
        decryptColumns_panics hd (by omega : i + 1 ≤ items.length) hr]
    · have he : i = items.length := by omega
      subst he
      simp [decryptColumns, columnSetting_at_length]

/-- The column loop from column `i` keeps the row's shape and decrypts each value in place: a NULL
column stays NULL and is never shown to the decryption observer, and the column at position `j`
with data becomes what the observer returns for column `i + j`, given that data, the result format
the Bind sets for that column (text when there is no Bind) and that column's encryption setting. -/
theorem decryptColumns_decrypts_in_place {bind : Option BindPacket}
    {settings : Option (List (Option QueryDataItem))} :
    ∀ {i : Nat} {columns columns' : List (Option (List UInt8))},
      decryptColumns env bind settings i columns = .ok columns' →
      columns'.length = columns.length ∧
        ∀ j, (columns[j]? = some none → columns'[j]? = some none) ∧
          ∀ data, columns[j]? = some (some data) → ∃ format setting data',
            (bind = none → format = dataFormatText) ∧
            (∀ b, bind = some b → getParameterFormatByIndex (i + j) b.resultFormats = .ok format) ∧
            columnSetting settings (i + j) = .ok setting ∧
            env.onColumnDecryption (i + j) data (format = dataFormatBinary) setting = .ok data' ∧
            columns'[j]? = some (some data')
  | i, [], columns', h => by
    simp only [decryptColumns, Except.ok.injEq] at h
    subst h
    exact ⟨rfl, fun j => ⟨by simp, by simp⟩⟩
  | i, none :: rest, columns', h => by
    cases hr : decryptColumns env bind settings (i + 1) rest with
    | error e => simp [decryptColumns, hr] at h
    | ok rest' =>
      simp only [decryptColumns, hr] at h
      cases h
      obtain ⟨hlen, hcols⟩ := decryptColumns_decrypts_in_place hr
      refine ⟨by simp [hlen], fun j => ?_⟩
      cases j with
      | zero => simp
      | succ j =>
        obtain ⟨h1, h2⟩ := hcols j
        rw [show i + 1 + j = i + (j + 1) by omega] at h2
        simp only [List.getElem?_cons_succ]
        exact ⟨h1, h2⟩
  | i, some d :: rest, columns', h => by
    simp only [decryptColumns] at h
    split at h
    · cases h
    · rename_i format hformat
      split at h
      · cases h
      · rename_i setting hsetting
        split at h
        · cases h
        · rename_i data' hdata
          cases hr : decryptColumns env bind settings (i + 1) rest with
          | error e => simp [hr] at h
          | ok rest' =>
            simp only [hr] at h
            cases h
            obtain ⟨hlen, hcols⟩ := decryptColumns_decrypts_in_place hr
            have hfmt : (bind = none → format = dataFormatText) ∧
                ∀ b, bind = some b → getParameterFormatByIndex i b.resultFormats = .ok format := by
              cases bind with
              | none => exact ⟨fun _ => (Except.ok.inj hformat).symm, nofun⟩
              | some b => exact ⟨nofun, fun _ hb => by cases hb; exact hformat⟩
            refine ⟨by simp [hlen], fun j => ?_⟩
            cases j with
            | zero =>
              refine ⟨by simp, fun data hd => ?_⟩
              obtain rfl : d = data := by simpa using hd
              exact ⟨format, setting, data', hfmt.1, hfmt.2, hsetting, hdata, by simp⟩
            | succ j =>
              obtain ⟨h1, h2⟩ := hcols j
              rw [show i + 1 + j = i + (j + 1) by omega] at h2
              simp only [List.getElem?_cons_succ]
              exact ⟨h1, h2⟩

theorem getParameterFormatByIndex_error {i : Nat} {fs : List UInt16} {e : ProxyError}
    (h : getParameterFormatByIndex i fs = .error e) : e.isEncoding = false := by
  unfold getParameterFormatByIndex at h
  split at h
  · cases h
  · cases h
  · split at h <;> cases h
    rfl

theorem columnSetting_error {settings : Option (List (Option QueryDataItem))} {i : Nat}
    {e : ProxyError} (h : columnSetting settings i = .error e) : e.isEncoding = false := by
  unfold columnSetting at h
  split at h
  · cases h
  · split_ifs at h
    · split at h
      · cases h; exact goIndex_error ‹_›
      · cases h
      · cases h

/-- The column loop fails with an EncodingError only where the column decoder does. -/
theorem decryptColumns_encoding {bind : Option BindPacket}
    {settings : Option (List (Option QueryDataItem))} {e : ProxyError} (he : e.isEncoding = true) :
    ∀ {i : Nat} {columns : List (Option (List UInt8))},
      decryptColumns env bind settings i columns = .error e →
      ∃ j data binary setting, env.onColumnDecryption j data binary setting = .error e
  | _, [], h => by cases h
  | i, none :: rest, h => by
    simp only [decryptColumns] at h
    cases hr : decryptColumns env bind settings (i + 1) rest with
    | error e' =>
      rw [hr] at h
      cases h
      exact decryptColumns_encoding he hr
    | ok cols => rw [hr] at h; cases h
  | i, some data :: rest, h => by
    simp only [decryptColumns] at h
    split at h
    · rename_i hf
      cases h
      split at hf
      · cases hf
      · simp [getParameterFormatByIndex_error hf] at he
    · split at h
      · cases h
        simp [columnSetting_error ‹_›] at he
      · split at h
        · cases h
          exact ⟨_, _, _, _, ‹_›⟩
        · cases hr : decryptColumns env bind settings (i + 1) rest with
          | error e' =>
            rw [hr] at h
            cases h
            exact decryptColumns_encoding he hr
          | ok cols => rw [hr] at h; cases h

theorem rewriteParameterOIDs_error {items : List (Option ColumnEncryptionSetting)} {e : ProxyError} :
    ∀ {i : Nat} {oids : List UInt32}, rewriteParameterOIDs env items i oids = .error e →
      e.isEncoding = false
  | _, [], h => by cases h
  | i, oid :: oids, h => by
    unfold rewriteParameterOIDs at h
    split at h
    · cases h; exact goIndex_error ‹_›
    · cases h; exact rewriteParameterOIDs_error ‹_›
    · split_ifs at h
      split at h <;> cases h
    · cases h

/-- `handleDatabasePacket` fails with an EncodingError only where the column decoder does, or with
the error of a DataRow that does not parse. -/
theorem handleDatabasePacket_encoding {proxy : PgProxy} {packet : ServerPacket} {e : ProxyError}
    (h : (handleDatabasePacket env proxy packet).result = .error e) (he : e.isEncoding = true) :
    (∃ j data binary setting, env.onColumnDecryption j data binary setting = .error e) ∨
      env.parseColumnsError = e := by
  have hdata : ∀ {q : ServerPacket}, handleQueryDataPacket env (proxy.observeDatabasePacket q) q =
      .error e → (∃ j data binary setting, env.onColumnDecryption j data binary setting = .error e) ∨
        env.parseColumnsError = e := fun h => by
    unfold handleQueryDataPacket at h
    split at h
    · cases h; simp [ProxyError.isEncoding] at he
    · dsimp only at h
      split at h
      · cases h
      · cases hr : decryptColumns env _ _ 0 _ with
        | error e' =>
          rw [hr] at h
          cases h
          exact .inl (decryptColumns_encoding env he hr)
        | ok cols => rw [hr] at h; cases h
      · cases h; exact .inr rfl
  cases packet with
  | dataRow cols => exact hdata h
  | parameterDescription oids =>
    simp only [handleDatabasePacket, handleParameterDescription] at h
    split at h
    · split at h
      · cases h; simp [rewriteParameterOIDs_error env ‹_›] at he
      · cases h
    · cases h
  | malformed t =>
    simp only [handleDatabasePacket] at h
    split_ifs at h
    exact hdata h
  | rowDescription fs => cases h
  | readyForQuery st => cases h
  | errorResponse f => cases h
  | other t => cases h

/-- Observers under which the column decoder and the DataRow parser report no EncodingError. -/
def DecodesAll : Prop :=
  (∀ j data binary setting e, env.onColumnDecryption j data binary setting = .error e →
    e.isEncoding = false) ∧ env.parseColumnsError.isEncoding = false

/-- Under such observers `handleDatabasePacket` fails with no EncodingError either. -/
theorem handleDatabasePacket_not_encoding (hd : DecodesAll env) {proxy : PgProxy}
    {packet : ServerPacket} {e : ProxyError}
    (h : (handleDatabasePacket env proxy packet).result = .error e) : e.isEncoding = false := by
  cases he : e.isEncoding
  · rfl
  · rcases handleDatabasePacket_encoding env h he with ⟨j, data, binary, setting, hc⟩ | hp
    · rw [hd.1 j data binary setting e hc] at he
      cases he
    · rw [← hp, hd.2] at he
      cases he

end Handlers

/-- Collaborators whose schema configures only the first result column of every query. -/
def firstColumnEnv : Collaborators :=
  { plainEnv with
    encryptorSettings := fun _ => .ok (some [some ⟨⟨"a", false, 25⟩⟩])
    mapEncryptedTypeToOID := some }

theorem handleRowDescription_eq_typeAware :
    ClientSession.queryDataItems ⟨some [some ⟨⟨"enc", true, 23⟩⟩], none⟩ = some [some ⟨⟨"enc", true, 23⟩⟩] ∧
      [some (⟨⟨"enc", true, 23⟩⟩ : QueryDataItem)].length =
        [(⟨"enc", 0, 0, byteaOID, 0, 0, 0⟩ : FieldDescription)].length ∧
      handleRowDescription firstColumnEnv ⟨some [some ⟨⟨"enc", true, 23⟩⟩], none⟩
          (.rowDescription [⟨"enc", 0, 0, byteaOID, 0, 0, 0⟩]) =
        .rowDescription (List.zipWith (typeAwareField firstColumnEnv) [some ⟨⟨"enc", true, 23⟩⟩]
          [⟨"enc", 0, 0, byteaOID, 0, 0, 0⟩]) :=
  ⟨rfl, rfl, handleRowDescription_eq firstColumnEnv rfl rfl⟩

theorem decryptColumns_decrypts_in_place_first :
    decryptColumns firstColumnEnv none (some [some ⟨⟨"a", false, 25⟩⟩, none]) 0 [some [1], none] =
        .ok [some [1], none] ∧
      ([some [1], none] : List (Option (List UInt8))).length = [some [1], none].length ∧
      ∀ j, (([some [1], none] : List (Option (List UInt8)))[j]? = some none →
          ([some [1], none] : List (Option (List UInt8)))[j]? = some none) ∧
        ∀ data, ([some [1], none] : List (Option (List UInt8)))[j]? = some (some data) →
          ∃ format setting data',
            ((none : Option BindPacket) = none → format = dataFormatText) ∧
            (∀ b, (none : Option BindPacket) = some b →
              getParameterFormatByIndex (0 + j) b.resultFormats = .ok format) ∧
            columnSetting (some [some ⟨⟨"a", false, 25⟩⟩, none]) (0 + j) = .ok setting ∧
            firstColumnEnv.onColumnDecryption (0 + j) data (format = dataFormatBinary) setting =
              .ok data' ∧
            ([some [1], none] : List (Option (List UInt8)))[j]? = some (some data') :=
  have h : decryptColumns firstColumnEnv none (some [some ⟨⟨"a", false, 25⟩⟩, none]) 0
      [some [1], none] = .ok [some [1], none] := rfl
  ⟨h, decryptColumns_decrypts_in_place firstColumnEnv h⟩

/-- A two-column DataRow answering `SELECT a, b FROM t`, with one setting for its two columns:
the guard `i <= len(encryptionSettings)` reads `encryptionSettings[1]` and the proxy panics. -/
theorem handleQueryDataPacket_panics_past_settings :
    handleQueryDataPacket firstColumnEnv
        { PgProxy.fresh with pendingQueryPackets := [newQueryPacket "SELECT a, b FROM t"] }
        (.dataRow [some [1], some [2]]) =
      .error (.indexOutOfRange 1 1) := rfl

end AcraPgProxy
