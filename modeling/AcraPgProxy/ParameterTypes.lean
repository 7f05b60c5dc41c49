import AcraPgProxy.Backend
import AcraPgProxy.DatabaseHandler

namespace AcraPgProxy

section Loops

variable (env : Collaborators)

/-- `handleParameterDescription`'s loop from slot `i`: with a setting for every slot it maps each
slot by its setting, and reports no change only when it changed nothing; past the settings,
`items[i]` panics at the first index with none. -/
theorem rewriteParameterOIDs_eq (items : List (Option ColumnEncryptionSetting)) :
    ∀ (i : Nat) (oids : List UInt32), i ≤ items.length →
      (i + oids.length ≤ items.length → ∃ changed,
        rewriteParameterOIDs env items i oids =
          .ok (List.zipWith (mappedOID env.mapEncryptedTypeToOID) (items.drop i) oids, changed) ∧
        (changed = false → List.zipWith (mappedOID env.mapEncryptedTypeToOID) (items.drop i) oids = oids)) ∧
      (items.length < i + oids.length →
        rewriteParameterOIDs env items i oids = .error (.indexOutOfRange items.length items.length))
  | i, [], hi => ⟨fun _ => ⟨false, by simp [rewriteParameterOIDs]⟩, fun h => by rw [List.length_nil] at h; omega⟩
  | i, oid :: oids, hi => by
    rcases Nat.lt_or_ge i items.length with hlt | hge
    · obtain ⟨ihok, iherr⟩ := rewriteParameterOIDs_eq items (i + 1) oids hlt
      have hdrop : items.drop i = items[i] :: items.drop (i + 1) := List.drop_eq_getElem_cons hlt
      refine ⟨fun hlen => ?_, fun hlen => ?_⟩
      · obtain ⟨c, hr, hc⟩ := ihok (by rw [List.length_cons] at hlen; omega)
        simp only [rewriteParameterOIDs, goIndex_eq_ok hlt, hr, hdrop, List.zipWith_cons_cons]
        cases hitem : items[i] with
        | none => exact ⟨c, by simp [mappedOID], fun h => by simp [mappedOID, hc h]⟩
        | some s =>
          by_cases ht : s.typeAware = true
          · cases hm : env.mapEncryptedTypeToOID s.dbDataTypeID with
            | none => exact ⟨c, by simp [mappedOID, ht, hm], fun h => by simp [mappedOID, ht, hm, hc h]⟩
            | some o => exact ⟨true, by simp [mappedOID, ht, hm], nofun⟩
          · exact ⟨c, by simp [mappedOID, ht], fun h => by simp [mappedOID, ht, hc h]⟩
      · simp only [rewriteParameterOIDs, goIndex_eq_ok hlt, iherr (by rw [List.length_cons] at hlen; omega)]
    · have he : i = items.length := by omega
      subst he
      exact ⟨fun h => by rw [List.length_cons] at h; omega,
        fun _ => by simp [rewriteParameterOIDs, goIndex_of_le le_rfl]⟩

/-- The loop of `replaceOIDsInParsePackets` is that of `handleParameterDescription` for
collaborators that map every type to `BYTEA`. -/
theorem replaceParamOIDs_eq_rewrite (items : List (Option ColumnEncryptionSetting)) :
    ∀ (i : Nat) (ps : List UInt32), replaceParamOIDs items i ps =
      rewriteParameterOIDs { env with mapEncryptedTypeToOID := fun _ => some byteaOID } items i ps
  | _, [] => rfl
  | i, p :: ps => by
    have ih := replaceParamOIDs_eq_rewrite items (i + 1) ps
    cases hg : goIndex items i with
    | error e => simp only [replaceParamOIDs, rewriteParameterOIDs, hg]
    | ok item =>
      cases hr : replaceParamOIDs items (i + 1) ps with
      | error e => simp only [replaceParamOIDs, rewriteParameterOIDs, hg, hr, ← ih]
      | ok r =>
        obtain ⟨ps', c⟩ := r
        cases item <;> simp only [replaceParamOIDs, rewriteParameterOIDs, hg, hr, ← ih]

/-- `handleParameterDescription` with the session's placeholder settings: when there is a setting
for every parameter, the ParameterDescription comes out with the OID of every type-aware parameter
mapped, whether or not the loop reported a change; when the server describes more parameters than
there are settings, `items[i]` panics at the first parameter without one. -/
theorem handleParameterDescription_eq {session : ClientSession}
    {items : List (Option ColumnEncryptionSetting)} (h : session.placeholderSettings = some items)
    (oids : List UInt32) :
    handleParameterDescription env session (.parameterDescription oids) =
      if oids.length ≤ items.length then
        .ok (.parameterDescription (List.zipWith (mappedOID env.mapEncryptedTypeToOID) items oids))
      else .error (.indexOutOfRange items.length items.length) := by
  obtain ⟨hok, herr⟩ := rewriteParameterOIDs_eq env items 0 oids (Nat.zero_le _)
  simp only [handleParameterDescription, h]
  split_ifs with hlen
  · obtain ⟨c, hr, hc⟩ := hok (by omega)
    rw [List.drop_zero] at hr hc
    rw [hr]
    cases c
    · simp [hc rfl]
    · rfl
  · rw [herr (by omega)]

end Loops

/-- A type-aware `int4` placeholder, stored as `BYTEA`, is described to the client as `int4`. -/
theorem handleParameterDescription_eq_typeAware :
    ClientSession.placeholderSettings ⟨none, some [some ⟨"enc", true, 23⟩, none]⟩ =
        some [some ⟨"enc", true, 23⟩, none] ∧
      handleParameterDescription firstColumnEnv ⟨none, some [some ⟨"enc", true, 23⟩, none]⟩
          (.parameterDescription [byteaOID, 25]) = .ok (.parameterDescription [23, 25]) :=
  have hs : ClientSession.placeholderSettings ⟨none, some [some ⟨"enc", true, 23⟩, none]⟩ =
      some [some ⟨"enc", true, 23⟩, none] := rfl
  ⟨hs, (handleParameterDescription_eq firstColumnEnv hs [byteaOID, 25]).trans rfl⟩

/-- `replaceOIDsInParsePackets` with the session's placeholder settings: when there is a setting
for every parameter type the Parse declares, each type-aware one becomes `BYTEA`, whether or not
the loop reported a change; when the Parse declares more types than there are settings, `items[i]`
panics at the first type without one. -/
theorem replaceOIDsInParsePackets_eq {session : ClientSession}
    {items : List (Option ColumnEncryptionSetting)} (h : session.placeholderSettings = some items)
    (parse : ParsePacket) :
    replaceOIDsInParsePackets session parse =
      if parse.params.length ≤ items.length then
        .ok { parse with params := List.zipWith (mappedOID fun _ => some byteaOID) items parse.params }
      else .error (.indexOutOfRange items.length items.length) := by
  by_cases hp : parse.params = []
  · rcases parse with ⟨name, query, params⟩
    subst hp
    simp [replaceOIDsInParsePackets]
  · obtain ⟨hok, herr⟩ := rewriteParameterOIDs_eq
      { plainEnv with mapEncryptedTypeToOID := fun _ => some byteaOID } items 0 parse.params
      (Nat.zero_le _)
    simp only [replaceOIDsInParsePackets, hp, if_false, h, replaceParamOIDs_eq_rewrite plainEnv]
    split_ifs with hlen
    · obtain ⟨c, hr, hc⟩ := hok (by omega)
      rw [List.drop_zero] at hr hc
      rw [hr]
      cases c
      · simp [hc rfl]
      · rfl
    · rw [herr (by omega)]

theorem replaceOIDsInParsePackets_eq_insert :
    ClientSession.placeholderSettings ⟨none, some [some ⟨"enc", true, 23⟩]⟩ =
        some [some ⟨"enc", true, 23⟩] ∧
      replaceOIDsInParsePackets ⟨none, some [some ⟨"enc", true, 23⟩]⟩ ⟨"s1", "INSERT INTO t VALUES ($1)", [25]⟩ =
        if [(25 : UInt32)].length ≤ [some (⟨"enc", true, 23⟩ : ColumnEncryptionSetting)].length then
          .ok { (⟨"s1", "INSERT INTO t VALUES ($1)", [25]⟩ : ParsePacket) with
            params := List.zipWith (mappedOID fun _ => some byteaOID) [some ⟨"enc", true, 23⟩] [25] }
        else .error (.indexOutOfRange 1 1) :=
  ⟨rfl, replaceOIDsInParsePackets_eq rfl _⟩

end AcraPgProxy
