import KusciaGrant.StoreEffect
import KusciaGrant.Service

namespace KusciaGrant

open Kusciaapi

section Runs

variable (common : Common) (generated : String) (validateK8sName : String → String → Option String)

/-- The store's create of the new grant: either the name was free and the store appends the
object under it, answering success, or the create is refused and nothing is written. -/
theorem createGrantObject_run_cases (st : Store) (request : CreateDomainDataGrantRequest)
    (dd : V1alpha1.DomainData) :
    (st.getGrant request.domainId (newGrant common generated request dd).name = none ∧
      (createGrantObject common generated request dd).run st =
        (⟨buildSuccessResponseStatus, some ⟨(newGrant common generated request dd).name⟩⟩,
          { st with
            grants := st.grants ++ [(request.domainId, st.created (newGrant common generated request dd))]
            revision := st.revision + 1 })) ∨
    (((createGrantObject common generated request dd).run st).1.status.code ≠ .success ∧
      ((createGrantObject common generated request dd).run st).2 = st) := by
  simp only [createGrantObject, Prog.run_call, Store.exec]
  by_cases hfree : (st.getGrant request.domainId (newGrant common generated request dd).name).isSome
  · right
    simp [hfree, alreadyExists, buildErrorResponseStatus, createDomainDataGrantErrorCode]
  by_cases hinvalid : ((newGrant common generated request dd).name = "" ||
      !st.admits (st.created (newGrant common generated request dd))) = true
  · right
    simp [hfree, hinvalid, invalid, buildErrorResponseStatus, createDomainDataGrantErrorCode]
  · left
    simp only [hfree, hinvalid, Bool.false_eq_true, if_false, Prog.run_pure]
    exact ⟨by simpa using hfree, rfl⟩

/-- `CreateDomainDataGrant` run alone either reaches the store's create, after its validation and
its lookups, or answers an error and leaves the store as it was. -/
theorem createDomainDataGrant_run_cases (st : Store) (request : CreateDomainDataGrantRequest) :
    (∃ dd, (createDomainDataGrant common generated validateK8sName request).run st =
      (createGrantObject common generated request dd).run st) ∨
    (((createDomainDataGrant common generated validateK8sName request).run st).1.status.code ≠
        .success ∧
      ((createDomainDataGrant common generated validateK8sName request).run st).2 = st) := by
  simp only [createDomainDataGrant]
  cases validateCreateDomainDataGrantRequest validateK8sName request with
  | some _ => exact .inr ⟨by simp [buildErrorResponseStatus], rfl⟩
  | none =>
    simp only [Prog.run_call, Store.exec]
    cases st.getDomainData request.domainId request.domaindataId with
    | none => exact .inr ⟨by simp [buildErrorResponseStatus], rfl⟩
    | some dd =>
      simp only [createWithDomainData]
      by_cases hid : request.domaindatagrantId ≠ ""
      · rw [if_pos hid]
        simp only [Prog.run_call, Store.exec]
        cases st.getGrant request.domainId request.domaindatagrantId with
        | some _ => exact .inr ⟨by simp [buildErrorResponseStatus, getDomainDataGrantErrorCode], rfl⟩
        | none => exact .inl ⟨dd, rfl⟩
      · rw [if_neg hid]
        exact .inl ⟨dd, rfl⟩

/-- A create the service answers with an error wrote nothing. -/
theorem createDomainDataGrant_failure_unchanged (st : Store) (request : CreateDomainDataGrantRequest)
    (h : ((createDomainDataGrant common generated validateK8sName request).run st).1.status.code ≠
      .success) :
    ((createDomainDataGrant common generated validateK8sName request).run st).2 = st := by
  rcases createDomainDataGrant_run_cases common generated validateK8sName st request with
    ⟨dd, hrun⟩ | ⟨-, hst⟩
  · rw [hrun] at h ⊢
    rcases createGrantObject_run_cases common generated st request dd with ⟨-, hobject⟩ | ⟨-, hst⟩
    · rw [hobject] at h
      exact absurd rfl h
    · exact hst
  · exact hst

/-- `UpdateDomainDataGrant` run alone either passes its checks and its lookups and has its write
taken, replacing the grant it read, or answers an error and leaves the store as it was. -/
theorem updateDomainDataGrant_run_cases (st : Store) (request : UpdateDomainDataGrantRequest) :
    (∃ dd old, st.getGrant request.domainId request.domaindatagrantId = some old ∧
      request.domaindatagrantId ≠ "" ∧
      (updateDomainDataGrant common generated request).run st =
        (⟨buildSuccessResponseStatus⟩,
          { st with
            grants := replaceGrant st.grants request.domainId request.domaindatagrantId
              (st.updated (updatedGrant common generated request dd old) old)
            revision := st.revision + 1 })) ∨
    (((updateDomainDataGrant common generated request).run st).1.status.code ≠ .success ∧
      ((updateDomainDataGrant common generated request).run st).2 = st) := by
  simp only [updateDomainDataGrant]
  by_cases h1 : request.domaindataId = ""
  · rw [if_pos h1]
    exact .inr ⟨by simp [buildErrorResponseStatus], rfl⟩
  rw [if_neg h1]
  simp only [Prog.run_call, Store.exec]
  cases st.getDomainData request.domainId request.domaindataId with
  | none => exact .inr ⟨by simp [buildErrorResponseStatus], rfl⟩
  | some dd =>
    simp only [updateWithDomainData]
    by_cases h2 : request.grantDomain = ""
    · rw [if_pos h2]
      exact .inr ⟨by simp [buildErrorResponseStatus], rfl⟩
    by_cases h3 : request.domaindatagrantId = ""
    · rw [if_neg h2, if_pos h3]
      exact .inr ⟨by simp [buildErrorResponseStatus], rfl⟩
    rw [if_neg h2, if_neg h3]
    simp only [Prog.run_call, Store.exec]
    cases hdg : st.getGrant request.domainId request.domaindatagrantId with
    | none =>
      exact .inr ⟨by simp [buildErrorResponseStatus, getDomainDataGrantErrorCode, notFound], rfl⟩
    | some dg =>
      simp only [updateWithGrant]
      by_cases h4 : dg.spec.domainDataID ≠ request.domaindataId
      · rw [if_pos h4]
        exact .inr ⟨by simp [buildErrorResponseStatus, getDomainDataGrantErrorCode], rfl⟩
      rw [if_neg h4]
      have hname : (updatedGrant common generated request dd dg).name = request.domaindatagrantId := by
        simp [updatedGrant, h3]
      simp only [Prog.run_call, Store.exec, hname, hdg]
      split_ifs
      · exact .inr ⟨by simp [buildErrorResponseStatus, getDomainDataGrantErrorCode, conflict], rfl⟩
      · exact .inr ⟨by simp [buildErrorResponseStatus, getDomainDataGrantErrorCode, invalid], rfl⟩
      · exact .inl ⟨dd, dg, rfl, h3, rfl⟩

/-- An update the service answers with an error wrote nothing: it was refused before its write, or
the store refused the write. -/
theorem updateDomainDataGrant_failure_unchanged (st : Store) (request : UpdateDomainDataGrantRequest)
    (h : ((updateDomainDataGrant common generated request).run st).1.status.code ≠ .success) :
    ((updateDomainDataGrant common generated request).run st).2 = st := by
  rcases updateDomainDataGrant_run_cases common generated st request with
    ⟨dd, old, -, -, hrun⟩ | ⟨-, hst⟩
  · rw [hrun] at h
    exact absurd rfl h
  · exact hst

/-- A delete the service answers with an error wrote nothing. -/
theorem deleteDomainDataGrant_failure_unchanged (st : Store) (request : DeleteDomainDataGrantRequest)
    (h : ((deleteDomainDataGrant request).run st).1.status.code ≠ .success) :
    ((deleteDomainDataGrant request).run st).2 = st := by
  simp only [deleteDomainDataGrant, Prog.run_call] at h ⊢
  cases hd : (st.exec (.deleteGrant request.domainId request.domaindatagrantId)).1 with
  | error => exact Store.exec_error hd
  | ok => simp [hd, buildSuccessResponseStatus] at h

/-- An expiration time the converters wrote reads back, once the store has kept it as JSON,
truncated to the second. -/
theorem expirationTime_roundTrip (e : Int64) :
    (match Time.roundTripPtr (if 0 < e.val then some (Time.unix (e.div second) (e.mod second))
        else none) with
      | some t => t.unixNano
      | none => default) =
      if 0 < e.val then Int64.ofInt (e.val / 1000000000 * 1000000000) else default := by
  split_ifs with he
  · simp [Time.roundTripPtr_unix_div_mod he, Int64.div_second_val he]
  · rfl

/-- Run alone, a successful create is followed by a query of the name it returns that answers
the request's grant as the converters and the store's JSON carry it. -/
theorem createDomainDataGrant_then_query (st : Store) (request : CreateDomainDataGrantRequest)
    (h : ((createDomainDataGrant common generated validateK8sName request).run st).1.status.code =
      .success) :
    let created := (createDomainDataGrant common generated validateK8sName request).run st
    let name := if request.domaindatagrantId = "" then generated else request.domaindatagrantId
    created.1.data = some ⟨name⟩ ∧
      ((queryDomainDataGrant ⟨request.domainId, name⟩).run created.2).1 =
        ⟨buildSuccessResponseStatus, some
          { data := some
              { domaindatagrantId := name, author := request.domainId,
                domaindataId := request.domaindataId, grantDomain := request.grantDomain,
                limit := request.limit.map fun l => { l with
                  initiator := "",
                  expirationTime := if 0 < l.expirationTime.val then
                    Int64.ofInt (l.expirationTime.val / 1000000000 * 1000000000) else default } }
            status := some {} }⟩ := by
  intro created name
  obtain ⟨dd, hrun⟩ | ⟨hfail, -⟩ := createDomainDataGrant_run_cases common generated validateK8sName st request
  swap
  · exact absurd h hfail
  obtain ⟨hfree, hobject⟩ | ⟨hfail, -⟩ := createGrantObject_run_cases common generated st request dd
  swap
  · exact absurd (hrun ▸ h) hfail
  have hcreated : created = _ := hrun.trans hobject
  have hname : (newGrant common generated request dd).name = name := rfl
  have hlookup : created.2.getGrant request.domainId name =
      some (st.created (newGrant common generated request dd)) := by
    rw [hcreated, ← hname]
    simp only [Store.getGrant] at hfree ⊢
    rw [findGrant_append, hfree]
    simp [Store.created]
  refine ⟨by rw [hcreated]; rfl, ?_⟩
  simp only [queryDomainDataGrant, Prog.run_call, Store.exec, hlookup, Prog.run_pure]
  congr 2
  have hstatus : (st.created (newGrant common generated request dd)).status = {} := by
    simp only [Store.created]
    split <;> rfl
  cases hl : request.limit <;>
    simp [convertSpec2Data, Store.created, newGrant, convertData2Spec, hl, hstatus, name,
      V1alpha1.DomainDataGrantSpec.roundTrip, V1alpha1.GrantLimit.roundTrip]
  exact expirationTime_roundTrip _

theorem createDomainDataGrant_then_query_described :
    let common : Common :=
      ⟨"kuscia.secretflow/domaindatagrant-vendor", "kuscia.secretflow/domaindatagrant-domain"⟩
    let st : Store := ⟨[("alice", ⟨"data-1", 1⟩)], [], 0, fun _ => true, true, fun _ => true⟩
    let request : CreateDomainDataGrantRequest :=
      { domainId := "alice", domaindataId := "data-1", grantDomain := "bob",
        domaindatagrantId := "grant-1", description := [("purpose", "training")],
        signature := "sig", limit := some { expirationTime := ⟨1700000000123456789, by decide⟩ } }
    ((createDomainDataGrant common "" (fun _ _ => none) request).run st).1.status.code = .success ∧
      let created := (createDomainDataGrant common "" (fun _ _ => none) request).run st
      let name := if request.domaindatagrantId = "" then "" else request.domaindatagrantId
      created.1.data = some ⟨name⟩ ∧
        ((queryDomainDataGrant ⟨request.domainId, name⟩).run created.2).1 =
          ⟨buildSuccessResponseStatus, some
            { data := some
                { domaindatagrantId := name, author := request.domainId,
                  domaindataId := request.domaindataId, grantDomain := request.grantDomain,
                  limit := request.limit.map fun l => { l with
                    initiator := "",
                    expirationTime := if 0 < l.expirationTime.val then
                      Int64.ofInt (l.expirationTime.val / 1000000000 * 1000000000) else default } }
              status := some {} }⟩ := by
  intro common st request
  have h : ((createDomainDataGrant common "" (fun _ _ => none) request).run st).1.status.code =
      .success := by decide
  exact ⟨h, createDomainDataGrant_then_query common "" (fun _ _ => none) st request h⟩

/-- Run alone, an update the service reports as a success is followed by a query that answers
the request's fields, read back through the converters, and the status the grant had before:
the update keeps the grant's use records. -/
theorem updateDomainDataGrant_then_query (st : Store) (request : UpdateDomainDataGrantRequest)
    (hjson : ∀ e ∈ st.grants, e.2.status.roundTrip = e.2.status)
    (h : ((updateDomainDataGrant common generated request).run st).1.status.code = .success) :
    ∃ old, st.getGrant request.domainId request.domaindatagrantId = some old ∧
      ((queryDomainDataGrant ⟨request.domainId, request.domaindatagrantId⟩).run
          ((updateDomainDataGrant common generated request).run st).2).1 =
        ⟨buildSuccessResponseStatus, some
          { data := some
              { domaindatagrantId := request.domaindatagrantId, author := request.domainId,
                domaindataId := request.domaindataId, grantDomain := request.grantDomain,
                limit := request.limit.map fun l => { l with
                  initiator := "",
                  expirationTime := if 0 < l.expirationTime.val then
                    Int64.ofInt (l.expirationTime.val / 1000000000 * 1000000000) else default } }
            status := (convertSpec2Data old {}).status }⟩ := by
  obtain ⟨dd, old, hold, hid, hrun⟩ | ⟨hfail, -⟩ :=
    updateDomainDataGrant_run_cases common generated st request
  swap
  · exact absurd h hfail
  refine ⟨old, hold, ?_⟩
  let written := st.updated (updatedGrant common generated request dd old) old
  have hlookup : findGrant (replaceGrant st.grants request.domainId request.domaindatagrantId written)
      request.domainId request.domaindatagrantId = some written := by
    rw [findGrant_replaceGrant _ _ _ (by simp [written, Store.updated, updatedGrant, hid])]
    simp only [Store.getGrant] at hold
    simp [hold]
  have hstatus : old.status.roundTrip = old.status := hjson _ (findGrant_some hold).2
  simp only [hrun, queryDomainDataGrant, Prog.run_call, Store.exec, Store.getGrant, hlookup,
    Prog.run_pure]
  congr 2
  cases hl : request.limit <;>
    simp [written, convertSpec2Data, Store.updated, updatedGrant, convertData2Spec, hl, hid, hstatus,
      V1alpha1.DomainDataGrantSpec.roundTrip, V1alpha1.GrantLimit.roundTrip]
  exact expirationTime_roundTrip _

theorem updateDomainDataGrant_then_query_after_create :
    let common : Common :=
      ⟨"kuscia.secretflow/domaindatagrant-vendor", "kuscia.secretflow/domaindatagrant-domain"⟩
    let st := ((createDomainDataGrant common "" (fun _ _ => none)
      { domainId := "alice", domaindataId := "data-1", grantDomain := "bob",
        domaindatagrantId := "grant-1" }).run
      ⟨[("alice", ⟨"data-1", 1⟩)], [], 0, fun _ => true, true, fun _ => true⟩).2
    let request : UpdateDomainDataGrantRequest :=
      { domainId := "alice", domaindatagrantId := "grant-1", domaindataId := "data-1",
        grantDomain := "carol", limit := some { expirationTime := ⟨1700000000123456789, by decide⟩ } }
    (∀ e ∈ st.grants, e.2.status.roundTrip = e.2.status) ∧
      ((updateDomainDataGrant common "" request).run st).1.status.code = .success ∧
      ∃ old, st.getGrant request.domainId request.domaindatagrantId = some old ∧
        ((queryDomainDataGrant ⟨request.domainId, request.domaindatagrantId⟩).run
            ((updateDomainDataGrant common "" request).run st).2).1 =
          ⟨buildSuccessResponseStatus, some
            { data := some
                { domaindatagrantId := request.domaindatagrantId, author := request.domainId,
                  domaindataId := request.domaindataId, grantDomain := request.grantDomain,
                  limit := request.limit.map fun l => { l with
                    initiator := "",
                    expirationTime := if 0 < l.expirationTime.val then
                      Int64.ofInt (l.expirationTime.val / 1000000000 * 1000000000) else default } }
              status := (convertSpec2Data old {}).status }⟩ := by
  intro common st request
  have hjson : ∀ e ∈ st.grants, e.2.status.roundTrip = e.2.status := by decide
  have h : ((updateDomainDataGrant common "" request).run st).1.status.code = .success := by decide
  exact ⟨hjson, h, updateDomainDataGrant_then_query common "" st request hjson h⟩

end Runs

end KusciaGrant
