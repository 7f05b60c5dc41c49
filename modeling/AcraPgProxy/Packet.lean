import Mathlib.Data.List.Basic

namespace AcraPgProxy

/-- The errors the proxy's handlers return. `indexOutOfRange` stands for Go's runtime panic on a
slice index; every other constructor is an `error` value returned up the call chain. -/
inductive ProxyError
  | malformedPacket (messageType : Char)
  | cursorNotFound (name : String)
  | statementNotFound (name : String)
  | statementExists (name : String)
  | cursorExists (name : String)
  | sqlParse (query : String)
  | keyRead
  | noPendingQuery
  | unsupportedPacketType
  | invalidFormatIndex (index : Nat)
  | decryption
  | encoding (message : String)
  | indexOutOfRange (index length : Nat)
  deriving DecidableEq, Repr

/-- `base.EncodingError`: the only error the ServerReader answers with `sendClientError`. -/
def ProxyError.isEncoding : ProxyError → Bool
  | .encoding _ => true
  | _ => false

theorem ProxyError.eq_encoding {e : ProxyError} (h : e.isEncoding = true) : ∃ m, e = .encoding m := by
  cases e <;> simp_all [ProxyError.isEncoding]

/-- Go's `xs[i]`: the element, or the runtime panic when `i` is out of range. -/
def goIndex {α : Type} (xs : List α) (i : Nat) : Except ProxyError α :=
  match xs[i]? with
  | some x => .ok x
  | none => .error (.indexOutOfRange i xs.length)

/-- A panic on an index is no EncodingError. -/
theorem goIndex_error {α : Type} {xs : List α} {i : Nat} {e : ProxyError}
    (h : goIndex xs i = .error e) : e.isEncoding = false := by
  unfold goIndex at h
  split at h <;> cases h
  rfl

theorem goIndex_eq_ok {α : Type} {xs : List α} {i : Nat} (h : i < xs.length) :
    goIndex xs i = .ok xs[i] := by
  simp [goIndex, h]

theorem goIndex_of_le {α : Type} {xs : List α} {i : Nat} (h : xs.length ≤ i) :
    goIndex xs i = .error (.indexOutOfRange i xs.length) := by
  simp [goIndex, List.getElem?_eq_none h]

/-- `pgtype.ByteaOID`. -/
def byteaOID : UInt32 := 17

/-- `dataFormatText` and `dataFormatBinary`. -/
def dataFormatText : UInt16 := 0

def dataFormatBinary : UInt16 := 1

structure ParsePacket where
  name : String
  queryString : String
  params : List UInt32
  deriving DecidableEq, Repr

/-- One parameter value of a Bind (`base.BoundValue`): its format code and its bytes, `none` for NULL. -/
structure BoundValue where
  format : UInt16
  data : Option (List UInt8)
  deriving DecidableEq, Repr

structure BindPacket where
  portalName : String
  statementName : String
  paramFormats : List UInt16
  paramValues : List (Option (List UInt8))
  resultFormats : List UInt16
  deriving DecidableEq, Repr

/-- Modelled from the spec: `BindPacket.GetParameters`, which pairs values with formats under the
protocol rule that a Bind gives no format (all text), one format for all values, or one per value. -/
def BindPacket.getParameters (b : BindPacket) : Except ProxyError (List BoundValue) :=
  match b.paramFormats with
  | [] => .ok (b.paramValues.map (BoundValue.mk dataFormatText))
  | [f] => .ok (b.paramValues.map (BoundValue.mk f))
  | fs =>
    if fs.length = b.paramValues.length then .ok (List.zipWith BoundValue.mk fs b.paramValues)
    else .error (.malformedPacket 'B')

/-- Modelled from the spec: `BindPacket.SetParameters` stores one format and one value per parameter. -/
def BindPacket.setParameters (b : BindPacket) (values : List BoundValue) : BindPacket :=
  { b with paramFormats := values.map BoundValue.format, paramValues := values.map BoundValue.data }

structure ExecutePacket where
  portal : String
  deriving DecidableEq, Repr

/-- A message from the client. Startup-phase messages carry no type byte; `malformed` is a
message of a type the proxy decodes (`Q`, `P`, `B`, `E`) whose payload does not decode. -/
inductive ClientPacket
  | startup (payload : List UInt8)
  | query (query : String)
  | parse (parse : ParsePacket)
  | bind (bind : BindPacket)
  | execute (execute : ExecutePacket)
  | describe (kind : Char) (name : String)
  | close (kind : Char) (name : String)
  | sync
  | terminate
  | other (messageType : Char)
  | malformed (messageType : Char)
  deriving DecidableEq, Repr

/-- The client-side classes of `PgProtocolState.LastPacketType`. -/
inductive PacketType
  | simpleQuery
  | parseStatement
  | bindStatement
  | executePortal
  | other
  deriving DecidableEq, Repr

/-- Modelled from the spec: `PgProtocolState.HandleClientPacket` classifies a packet by its type
byte and never fails. -/
def ClientPacket.packetType : ClientPacket → PacketType
  | .query _ => .simpleQuery
  | .parse _ => .parseStatement
  | .bind _ => .bindStatement
  | .execute _ => .executePortal
  | .malformed t =>
    if t = 'Q' then .simpleQuery
    else if t = 'P' then .parseStatement
    else if t = 'B' then .bindStatement
    else if t = 'E' then .executePortal
    else .other
  | _ => .other

/-- `packet.terminatePacket`. -/
def ClientPacket.isTerminate : ClientPacket → Bool
  | .terminate => true
  | _ => false

def ClientPacket.getSimpleQuery : ClientPacket → Except ProxyError String
  | .query q => .ok q
  | _ => .error (.malformedPacket 'Q')

def ClientPacket.getParseData : ClientPacket → Except ProxyError ParsePacket
  | .parse p => .ok p
  | _ => .error (.malformedPacket 'P')

def ClientPacket.getBindData : ClientPacket → Except ProxyError BindPacket
  | .bind b => .ok b
  | _ => .error (.malformedPacket 'B')

def ClientPacket.getExecuteData : ClientPacket → Except ProxyError ExecutePacket
  | .execute e => .ok e
  | _ => .error (.malformedPacket 'E')

/-- `packet.ReplaceQuery`: a new query text for a simple Query or a Parse. -/
def ClientPacket.replaceQuery (newQuery : String) : ClientPacket → ClientPacket
  | .query _ => .query newQuery
  | .parse p => .parse { p with queryString := newQuery }
  | p => p

structure FieldDescription where
  name : String
  tableOID : UInt32
  tableAttributeNumber : UInt16
  dataTypeOID : UInt32
  dataTypeSize : UInt16
  typeModifier : UInt32
  format : UInt16
  deriving DecidableEq, Repr

/-- A message from the database, or one the proxy writes to the client in its place. A column
of a DataRow is `none` when the wire length is -1 (NULL). -/
inductive ServerPacket
  | dataRow (columns : List (Option (List UInt8)))
  | rowDescription (fields : List FieldDescription)
  | parameterDescription (parameterOIDs : List UInt32)
  | readyForQuery (status : Char)
  | errorResponse (fields : List (Char × String))
  | other (messageType : Char)
  | malformed (messageType : Char)
  deriving DecidableEq, Repr

/-- `packet.IsReadyForQuery`. -/
def ServerPacket.isReadyForQuery : ServerPacket → Bool
  | .readyForQuery _ => true
  | _ => false

def ServerPacket.isDataRow : ServerPacket → Bool
  | .dataRow _ => true
  | .malformed t => t = 'D'
  | _ => false

/-- `ReadyForQuery`: the constant `{'Z', 0, 0, 0, 5, 'I'}`, idle status. -/
def readyForQuery : ServerPacket := .readyForQuery 'I'

/-- `NewPgError` as the client decodes it: severity, SQLSTATE 42000 and the message. -/
def pgError (message : String) : ServerPacket :=
  .errorResponse [('S', "ERROR"), ('C', "42000"), ('M', message)]

/-- What `sendClientError` writes to the client connection. -/
def sendClientError (message : String) : List ServerPacket :=
  [pgError message, readyForQuery]

/-- Modelled from the spec: `base.AcraCensorBlockedThisQuery`, the message of a censored query. -/
def acraCensorBlockedThisQuery : String := "AcraCensor blocked this query"

end AcraPgProxy
