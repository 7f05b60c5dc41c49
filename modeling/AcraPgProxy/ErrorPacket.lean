import Mathlib.Algebra.Group.Nat.Basic
import AcraPgProxy.Packet

namespace AcraPgProxy

/-- A Go rune literal used as a byte. -/
def byte (c : Char) : UInt8 := c.toUInt8

/-- `[]byte(s)` for a Go string literal `s`. -/
def stringBytes (s : String) : List UInt8 := s.toUTF8.data.toList

/-- `binary.BigEndian.PutUint32`: the four bytes of `v`, most significant first. -/
def putUint32 (v : Nat) : List UInt8 :=
  [UInt8.ofNat (v / 2 ^ 24), UInt8.ofNat (v / 2 ^ 16), UInt8.ofNat (v / 2 ^ 8), UInt8.ofNat v]

/-- `binary.BigEndian.Uint32` of four bytes. -/
def getUint32 : List UInt8 → Option Nat
  | [b0, b1, b2, b3] => some (b0.toNat * 2 ^ 24 + b1.toNat * 2 ^ 16 + b2.toNat * 2 ^ 8 + b3.toNat)
  | _ => none

/-- `NewPgError` for the bytes of a Go string, any bytes and not only UTF-8: make a buffer of the
full length, write `E` at byte 0, keep the first five bytes, append the three fields and the
terminators, and write `uint32(len(output)-1)` over bytes 1 to 4. -/
def newPgError (message : List UInt8) : List UInt8 :=
  let output := ((List.replicate (5 + 7 + 7 + message.length + 2) 0).set 0 (byte 'E')).take 5
  let output := output ++ [byte 'S', byte 'E', byte 'R', byte 'R', byte 'O', byte 'R', 0]
  let output := output ++ stringBytes "C42000"
  let output := output ++ [0]
  let output := output ++ (byte 'M' :: message)
  let output := output ++ [0, 0]
  output.take 1 ++ putUint32 ((output.length - 1) % 2 ^ 32) ++ output.drop 5

/-- `ReadyForQuery`: `Z`, length 5, idle status `I`. -/
def readyForQueryBytes : List UInt8 := [byte 'Z', 0, 0, 0, 5, byte 'I']

/-- What `sendClientError` writes to the client connection: the ErrorResponse, then ReadyForQuery. -/
def sendClientErrorBytes (message : List UInt8) : List UInt8 :=
  newPgError message ++ readyForQueryBytes

/-- Modelled from the protocol, not from src: how a client reads the fields of an ErrorResponse,
a type byte and a NUL-terminated string each, until a zero type byte. The first argument is the
field being read, its type and its bytes so far; the result is the fields and the bytes after the
terminator. -/
def readFieldsFrom :
    Option (UInt8 × List UInt8) → List UInt8 → Option (List (UInt8 × List UInt8) × List UInt8)
  | _, [] => none
  | none, b :: rest => if b = 0 then some ([], rest) else readFieldsFrom (some (b, [])) rest
  | some (t, s), b :: rest =>
    if b = 0 then (readFieldsFrom none rest).map fun (fs, r) => ((t, s) :: fs, r)
    else readFieldsFrom (some (t, s ++ [b])) rest

theorem getUint32_putUint32 {v : Nat} (h : v < 2 ^ 32) : getUint32 (putUint32 v) = some v := by
  simp only [getUint32, putUint32, Option.some.injEq]
  show v / 2 ^ 24 % 256 * 2 ^ 24 + v / 2 ^ 16 % 256 * 2 ^ 16 + v / 2 ^ 8 % 256 * 2 ^ 8 + v % 256 = v
  omega

@[simp] theorem putUint32_length (v : Nat) : (putUint32 v).length = 4 := rfl

/-- The frame `NewPgError` builds: `E`, the length, and the body of three fields and a terminator. -/
theorem newPgError_eq (message : List UInt8) :
    newPgError message = byte 'E' :: (putUint32 ((message.length + 21) % 2 ^ 32) ++
      byte 'S' :: (stringBytes "ERROR" ++ 0 :: byte 'C' :: (stringBytes "42000" ++
        0 :: byte 'M' :: (message ++ [0, 0])))) := by
  have hbuf : ((List.replicate (5 + 7 + 7 + message.length + 2) (0 : UInt8)).set 0 (byte 'E')).take 5 =
      [byte 'E', 0, 0, 0, 0] := by
    rw [show 5 + 7 + 7 + message.length + 2 = message.length + 16 + 1 + 1 + 1 + 1 + 1 by omega]
    simp [List.replicate_succ]
  have hcode : stringBytes "C42000" = byte 'C' :: stringBytes "42000" := rfl
  have hlen : (stringBytes "42000").length = 5 := rfl
  have herror : stringBytes "ERROR" = [byte 'E', byte 'R', byte 'R', byte 'O', byte 'R'] := rfl
  simp only [newPgError, hbuf, hcode, List.length_append, List.length_cons, List.length_nil, hlen]
  simp only [herror, List.cons_append, List.append_assoc, List.singleton_append, List.take_succ_cons,
    List.take_zero, List.drop_succ_cons, List.drop_zero, List.nil_append]
  rw [show 5 + 7 + (5 + 1) + 1 + (message.length + 1) + 2 - 1 = message.length + 21 by omega]

theorem readFieldsFrom_start {t : UInt8} (ht : t ≠ 0) (rest : List UInt8) :
    readFieldsFrom none (t :: rest) = readFieldsFrom (some (t, [])) rest := by
  simp [readFieldsFrom, ht]

theorem readFieldsFrom_text {b : UInt8} (hb : b ≠ 0) (t : UInt8) (s rest : List UInt8) :
    readFieldsFrom (some (t, s)) (b :: rest) = readFieldsFrom (some (t, s ++ [b])) rest := by
  simp [readFieldsFrom, hb]

/-- A field's text runs to the first zero byte. -/
theorem readFieldsFrom_field (t : UInt8) (s : List UInt8) {text : List UInt8} (hz : 0 ∉ text)
    (rest : List UInt8) :
    readFieldsFrom (some (t, s)) (text ++ 0 :: rest) =
      (readFieldsFrom none rest).map fun (fs, r) => ((t, s ++ text) :: fs, r) := by
  induction text generalizing s with
  | nil => simp [readFieldsFrom]
  | cons b text ih =>
    have hb : b ≠ 0 := fun h => hz (h ▸ List.mem_cons_self _ _)
    rw [List.cons_append, readFieldsFrom_text hb, ih _ (fun h => hz (List.mem_cons_of_mem _ h))]
    simp

/-- The body `NewPgError` writes after the length decodes to its three fields and nothing more. -/
theorem readFieldsFrom_errorBody {message : List UInt8} (hz : 0 ∉ message) :
    readFieldsFrom none (byte 'S' :: (stringBytes "ERROR" ++ 0 :: byte 'C' :: (stringBytes "42000" ++
        0 :: byte 'M' :: (message ++ [0, 0])))) =
      some ([(byte 'S', stringBytes "ERROR"), (byte 'C', stringBytes "42000"), (byte 'M', message)],
        []) := by
  rw [readFieldsFrom_start (by decide), readFieldsFrom_field _ _ (by decide),
    readFieldsFrom_start (by decide), readFieldsFrom_field _ _ (by decide),
    readFieldsFrom_start (by decide), readFieldsFrom_field _ _ hz]
  rfl

theorem newPgError_well_framed (m : List UInt8) (hz : 0 ∉ m) (hlen : m.length + 21 ≤ 2 ^ 31 - 1) :
    (newPgError m).length = m.length + 22 ∧ (newPgError m).head? = some (byte 'E') ∧
      getUint32 (((newPgError m).drop 1).take 4) = some (m.length + 21) ∧
      readFieldsFrom none ((newPgError m).drop 5) =
        some ([(byte 'S', stringBytes "ERROR"), (byte 'C', stringBytes "42000"), (byte 'M', m)], []) ∧
      (sendClientErrorBytes m).length = m.length + 22 + 6 ∧
      (sendClientErrorBytes m).drop (m.length + 22) = readyForQueryBytes := by
  have hsize : (m.length + 21) % 2 ^ 32 = m.length + 21 := Nat.mod_eq_of_lt (by omega)
  have hframe : (newPgError m).length = m.length + 22 := by
    rw [newPgError_eq]
    simp only [List.length_cons, List.length_append, List.length_nil, putUint32_length]
    rw [show (stringBytes "ERROR").length = 5 from rfl, show (stringBytes "42000").length = 5 from rfl]
    omega
  refine ⟨hframe, by rw [newPgError_eq]; rfl, ?_, ?_, ?_, ?_⟩
  · rw [newPgError_eq, hsize, List.drop_one, List.tail_cons, List.take_left' (putUint32_length _)]
    exact getUint32_putUint32 (by omega)
  · rw [newPgError_eq, List.drop_succ_cons, List.drop_left' (putUint32_length _)]
    exact readFieldsFrom_errorBody hz
  · simp [sendClientErrorBytes, hframe, readyForQueryBytes]
  · rw [sendClientErrorBytes, ← hframe, List.drop_left]

theorem newPgError_well_framed_censor :
    0 ∉ stringBytes acraCensorBlockedThisQuery ∧
      (stringBytes acraCensorBlockedThisQuery).length + 21 ≤ 2 ^ 31 - 1 ∧
      (newPgError (stringBytes acraCensorBlockedThisQuery)).length =
          (stringBytes acraCensorBlockedThisQuery).length + 22 ∧
        (newPgError (stringBytes acraCensorBlockedThisQuery)).head? = some (byte 'E') ∧
        getUint32 (((newPgError (stringBytes acraCensorBlockedThisQuery)).drop 1).take 4) =
          some ((stringBytes acraCensorBlockedThisQuery).length + 21) ∧
        readFieldsFrom none ((newPgError (stringBytes acraCensorBlockedThisQuery)).drop 5) =
          some ([(byte 'S', stringBytes "ERROR"), (byte 'C', stringBytes "42000"),
            (byte 'M', stringBytes acraCensorBlockedThisQuery)], []) ∧
        (sendClientErrorBytes (stringBytes acraCensorBlockedThisQuery)).length =
          (stringBytes acraCensorBlockedThisQuery).length + 22 + 6 ∧
        (sendClientErrorBytes (stringBytes acraCensorBlockedThisQuery)).drop
            ((stringBytes acraCensorBlockedThisQuery).length + 22) = readyForQueryBytes :=
  have hz : 0 ∉ stringBytes acraCensorBlockedThisQuery := by decide
  have hlen : (stringBytes acraCensorBlockedThisQuery).length + 21 ≤ 2 ^ 31 - 1 := by decide
  ⟨hz, hlen, newPgError_well_framed _ hz hlen⟩

/-- A message with a zero byte splits at its first one. -/
theorem split_at_first_zero {m : List UInt8} (h : 0 ∈ m) : ∃ a b, m = a ++ 0 :: b ∧ 0 ∉ a := by
  induction m with
  | nil => simp at h
  | cons x xs ih =>
    by_cases hx : x = 0
    · exact ⟨[], xs, by rw [hx]; rfl, List.not_mem_nil _⟩
    · obtain ⟨a, b, rfl, ha⟩ := ih (by simpa [Ne.symm hx] using h)
      exact ⟨x :: a, b, rfl, by simp [Ne.symm hx, ha]⟩

/-- `NewPgError` escapes nothing: its frame decodes to the three fields with the message whole
exactly when the message has no zero byte. A zero byte ends the message field early, and a client
reads the rest of the message as further fields. -/
theorem newPgError_decodes_iff (m : List UInt8) :
    readFieldsFrom none ((newPgError m).drop 5) =
        some ([(byte 'S', stringBytes "ERROR"), (byte 'C', stringBytes "42000"), (byte 'M', m)], []) ↔
      0 ∉ m := by
  rw [newPgError_eq, List.drop_succ_cons, List.drop_left' (putUint32_length _)]
  refine ⟨fun h hz => ?_, readFieldsFrom_errorBody⟩
  obtain ⟨a, b, rfl, ha⟩ := split_at_first_zero hz
  rw [readFieldsFrom_start (by decide), readFieldsFrom_field _ _ (by decide),
    readFieldsFrom_start (by decide), readFieldsFrom_field _ _ (by decide),
    readFieldsFrom_start (by decide), List.append_assoc, List.cons_append,
    readFieldsFrom_field _ _ ha] at h
  cases hr : readFieldsFrom none (b ++ [0, 0]) with
  | none => simp [hr] at h
  | some x =>
    simp only [hr, Option.map_some', Option.some.injEq, Prod.mk.injEq, List.cons.injEq,
      List.nil_append] at h
    have hlen := congrArg List.length h.1.2.2.1.2
    simp at hlen

end AcraPgProxy
