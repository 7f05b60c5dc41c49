import AcraPgProxy.Packet

namespace AcraPgProxy

/-- `PgPreparedStatement`; the parsed query it also holds is read by no modelled function. -/
structure PreparedStatement where
  name : String
  queryText : String
  deriving DecidableEq, Repr

/-- `PgPortal`, created by `NewPortal(bind, statement)`; its name is the Bind's portal name. -/
structure PgPortal where
  bind : BindPacket
  preparedStatement : PreparedStatement
  deriving DecidableEq, Repr

/-- Modelled from the spec: `PgPreparedStatementRegistry`, two maps from names to statements and
to portals. -/
structure PreparedStatementRegistry where
  statements : String → Option PreparedStatement
  cursors : String → Option PgPortal

namespace PreparedStatementRegistry

/-- `NewPreparedStatementRegistry`. -/
def empty : PreparedStatementRegistry := ⟨fun _ => none, fun _ => none⟩

/-- Modelled from the spec: the rule `AddStatement` and `AddCursor` share. Adding `x` under `name`
fails when the name is non-empty and taken; the unnamed entry is always replaced. -/
def addNamed {α : Type} (m : String → Option α) (name : String) (x : α) (err : ProxyError) :
    Except ProxyError (String → Option α) :=
  if name ≠ "" ∧ (m name).isSome then .error err
  else .ok fun n => if n = name then some x else m n

/-- `AddStatement`. -/
def addStatement (r : PreparedStatementRegistry) (s : PreparedStatement) :
    Except ProxyError PreparedStatementRegistry :=
  (fun statements => { r with statements }) <$> addNamed r.statements s.name s (.statementExists s.name)

/-- `AddCursor`. -/
def addCursor (r : PreparedStatementRegistry) (c : PgPortal) :
    Except ProxyError PreparedStatementRegistry :=
  (fun cursors => { r with cursors }) <$>
    addNamed r.cursors c.bind.portalName c (.cursorExists c.bind.portalName)

def statementByName (r : PreparedStatementRegistry) (name : String) :
    Except ProxyError PreparedStatement :=
  match r.statements name with
  | some s => .ok s
  | none => .error (.statementNotFound name)

def cursorByName (r : PreparedStatementRegistry) (name : String) : Except ProxyError PgPortal :=
  match r.cursors name with
  | some c => .ok c
  | none => .error (.cursorNotFound name)

/-- The registry after `bind.SetParameters` changed a Bind it holds through a portal: `NewPortal`
keeps the pointer, so the portal sees the new parameters. -/
def rebind (r : PreparedStatementRegistry) (name : String) (bind : BindPacket) :
    PreparedStatementRegistry :=
  { r with cursors := fun n => if n = name then (r.cursors n).map ({ · with bind }) else r.cursors n }

@[simp] theorem rebind_statements (r : PreparedStatementRegistry) (name : String) (bind : BindPacket) :
    (r.rebind name bind).statements = r.statements := rfl

/-- New parameters for the portal just added under `name`. -/
theorem rebind_added (r : PreparedStatementRegistry) (name : String) (c : PgPortal) (bind : BindPacket) :
    ({ r with cursors := fun n => if n = name then some c else r.cursors n }).rebind name bind =
      { r with cursors := fun n => if n = name then some { c with bind } else r.cursors n } := by
  simp only [rebind, mk.injEq, true_and]
  funext n
  split_ifs <;> rfl

theorem map_addNamed_eq_ok {α β : Type} {f : (String → Option α) → β} {m : String → Option α}
    {name : String} {x : α} {err : ProxyError} {y : β} (h : f <$> addNamed m name x err = .ok y) :
    (name = "" ∨ m name = none) ∧ y = f fun n => if n = name then some x else m n := by
  unfold addNamed at h
  split at h
  · cases h
  · cases h
    refine ⟨?_, rfl⟩
    by_cases hn : name = ""
    · exact .inl hn
    · exact .inr (Option.not_isSome_iff_eq_none.mp fun hs => by simp_all)

/-- Registration fails exactly on a taken non-empty name. -/
theorem map_addNamed_isOk {α β : Type} (f : (String → Option α) → β) (m : String → Option α)
    (name : String) (x : α) (err : ProxyError) :
    (∃ y, f <$> addNamed m name x err = .ok y) ↔ (name = "" ∨ m name = none) := by
  unfold addNamed
  by_cases hn : name = "" <;> cases hs : m name <;> simp [hn, hs]

theorem addStatement_eq_ok {r r' : PreparedStatementRegistry} {s : PreparedStatement}
    (h : r.addStatement s = .ok r') :
    (s.name = "" ∨ r.statements s.name = none) ∧
      r' = { r with statements := fun n => if n = s.name then some s else r.statements n } :=
  map_addNamed_eq_ok h

theorem addCursor_eq_ok {r r' : PreparedStatementRegistry} {c : PgPortal}
    (h : r.addCursor c = .ok r') :
    (c.bind.portalName = "" ∨ r.cursors c.bind.portalName = none) ∧
      r' = { r with cursors := fun n => if n = c.bind.portalName then some c else r.cursors n } :=
  map_addNamed_eq_ok h

theorem addStatement_isOk (r : PreparedStatementRegistry) (s : PreparedStatement) :
    (∃ r', r.addStatement s = .ok r') ↔ (s.name = "" ∨ r.statements s.name = none) :=
  map_addNamed_isOk _ _ _ _ _

end PreparedStatementRegistry

/-- `ColumnEncryptionSetting`, with what the proxy asks of it: `HasTypeAwareSupport` and
`GetDBDataTypeID`. -/
structure ColumnEncryptionSetting where
  columnName : String
  typeAware : Bool
  dbDataTypeID : UInt32
  deriving DecidableEq, Repr

/-- `encryptor.QueryDataItem`, read through `Setting()`. -/
structure QueryDataItem where
  setting : ColumnEncryptionSetting
  deriving DecidableEq, Repr

/-- The per-query encryption settings the encryptor keeps in the client session:
`QueryDataItemsFromClientSession` and `PlaceholderSettingsFromClientSession`, `none` for nil. -/
structure ClientSession where
  queryDataItems : Option (List (Option QueryDataItem))
  placeholderSettings : Option (List (Option ColumnEncryptionSetting))
  deriving DecidableEq, Repr

/-- What the parameter-type loops make of one slot whose setting they found: a type-aware setting
gives the slot the OID `mapOID` has for its configured type, when it has one. -/
def mappedOID (mapOID : UInt32 → Option UInt32) (item : Option ColumnEncryptionSetting)
    (oid : UInt32) : UInt32 :=
  match item with
  | some s => if s.typeAware then (mapOID s.dbDataTypeID).getD oid else oid
  | none => oid

/-- `queryPacket`, an entry of the pending-query queue. -/
structure QueryPacket where
  query : String
  bindPacket : Option BindPacket
  executePacket : Option ExecutePacket
  deriving DecidableEq, Repr

def newQueryPacket (query : String) : QueryPacket := ⟨query, none, none⟩

def newExtendedQueryPacket (prepared : PreparedStatement) (bind : BindPacket)
    (execute : ExecutePacket) : QueryPacket :=
  ⟨prepared.queryText, some bind, some execute⟩

/-- The state a `PgProxy` shares between its two readers. Registries live behind pointers: the
session's `PreparedStatementRegistry()` and `protocolState.registry` name entries of `registries`. -/
structure PgProxy where
  registries : Nat → PreparedStatementRegistry
  sessionRegistry : Nat
  protocolRegistry : Nat
  pendingQueryPackets : List QueryPacket
  session : ClientSession

namespace PgProxy

/-- `session.PreparedStatementRegistry()`. -/
def registry (proxy : PgProxy) : PreparedStatementRegistry := proxy.registries proxy.sessionRegistry

/-- Store a registry through the session's pointer. -/
def setRegistry (proxy : PgProxy) (r : PreparedStatementRegistry) : PgProxy :=
  { proxy with registries := fun n => if n = proxy.sessionRegistry then r else proxy.registries n }

/-- The two pointers name one registry, as `NewPgProxy` sets them up for a fresh session. -/
def Aliased (proxy : PgProxy) : Prop := proxy.protocolRegistry = proxy.sessionRegistry

@[simp] theorem setRegistry_registry (proxy : PgProxy) (r : PreparedStatementRegistry) :
    (proxy.setRegistry r).registry = r := by
  simp [setRegistry, registry]

@[simp] theorem setRegistry_sessionRegistry (proxy : PgProxy) (r : PreparedStatementRegistry) :
    (proxy.setRegistry r).sessionRegistry = proxy.sessionRegistry := rfl

@[simp] theorem setRegistry_protocolRegistry (proxy : PgProxy) (r : PreparedStatementRegistry) :
    (proxy.setRegistry r).protocolRegistry = proxy.protocolRegistry := rfl

@[simp] theorem setRegistry_pendingQueryPackets (proxy : PgProxy) (r : PreparedStatementRegistry) :
    (proxy.setRegistry r).pendingQueryPackets = proxy.pendingQueryPackets := rfl

@[simp] theorem setRegistry_session (proxy : PgProxy) (r : PreparedStatementRegistry) :
    (proxy.setRegistry r).session = proxy.session := rfl

@[simp] theorem setRegistry_setRegistry (proxy : PgProxy) (r r' : PreparedStatementRegistry) :
    (proxy.setRegistry r).setRegistry r' = proxy.setRegistry r' := by
  simp only [setRegistry, mk.injEq, and_true, true_and]
  funext n
  split_ifs <;> rfl

/-- The proxy state `NewPgProxy` builds for a fresh session: one empty registry behind both
pointers, no pending query, no encryption settings. -/
def fresh : PgProxy := ⟨fun _ => .empty, 0, 0, [], ⟨none, none⟩⟩

theorem protocol_registry_of_aliased {proxy : PgProxy} (h : proxy.Aliased) :
    proxy.registries proxy.protocolRegistry = proxy.registry := by
  rw [h]; rfl

end PgProxy

/-- The error a query or bind observer reports: a key-read error (`filesystem.IsKeyReadError`)
or any other. -/
inductive ObserverError
  | keyRead
  | other
  deriving DecidableEq, Repr

/-- `OnQuery`'s `(newQuery, changed, err)`, with the client session as the observers leave it. -/
structure OnQueryResult where
  newQuery : String
  changed : Bool
  error : Option ObserverError
  session : ClientSession

/-- `OnBind`'s `(newParameters, changed, err)`. -/
structure OnBindResult where
  newParameters : List BoundValue
  changed : Bool
  error : Option ObserverError

/-- The collaborators the proxy consults; none of them is under src. -/
structure Collaborators where
  /-- `censor.HandleQuery` rejects the query. -/
  censor : String → Bool
  onQuery : ClientSession → String → OnQueryResult
  onBind : String → List BoundValue → OnBindResult
  /-- `proxy.parser.Parse` accepts the query. -/
  parses : String → Bool
  /-- `logging.GetLogLevel() == logging.LogDebug`. -/
  debug : Bool
  /-- `proxy.parser.HandleRawSQLQuery` reports `ErrQuerySyntaxError`. -/
  scrubFails : String → Bool
  /-- `GetEncryptorSettingsForQuery`. -/
  encryptorSettings : String → Except ObserverError (Option (List (Option QueryDataItem)))
  /-- `onColumnDecryption(ctx, i, data, binaryFormat, setting)`. -/
  onColumnDecryption : Nat → List UInt8 → Bool → Option ColumnEncryptionSetting →
    Except ProxyError (List UInt8)
  mapEncryptedTypeToOID : UInt32 → Option UInt32
  /-- The error `parseColumns` returns on a DataRow that does not decode. -/
  parseColumnsError : ProxyError

/-- Collaborators that let every query and every Bind through unchanged. -/
def plainEnv : Collaborators where
  censor _ := false
  onQuery session q := ⟨q, false, none, session⟩
  onBind _ ps := ⟨ps, false, none⟩
  parses _ := true
  debug := false
  scrubFails _ := false
  encryptorSettings _ := .ok none
  onColumnDecryption _ d _ _ := .ok d
  mapEncryptedTypeToOID _ := none
  parseColumnsError := .decryption

end AcraPgProxy
