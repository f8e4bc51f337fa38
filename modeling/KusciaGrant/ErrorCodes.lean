import KusciaGrant.Service

namespace KusciaGrant

open Kusciaapi

section Codes

variable (common : Common) (generated : String) (b : (c : Call) → Except StatusError c.Ret)

@[simp] theorem getDomainDataGrantErrorCode_some (e : StatusError) (d : ErrorCode) :
    getDomainDataGrantErrorCode (some e) d =
      if e.reason = .notFound then .kusciaAPIErrDomainDataGrantNotExists else d := rfl

@[simp] theorem createDomainDataGrantErrorCode_some (e : StatusError) (d : ErrorCode) :
    createDomainDataGrantErrorCode (some e) d =
      if e.reason = .alreadyExists then .kusciaAPIErrDomainDataGrantExists else d := rfl

/-- Once the DomainData is found, `CreateDomainDataGrant` answers success, the code of an
existing grant, or its own error code. -/
theorem createWithDomainData_code (request : CreateDomainDataGrantRequest)
    (dd : V1alpha1.DomainData) :
    let code := ((createWithDomainData common generated request dd).runWith b).status.code
    code = .success ∨ code = .kusciaAPIErrCreateDomainDataGrant ∨
      code = .kusciaAPIErrDomainDataGrantExists := by
  have hobj : ∀ code, code = ((createGrantObject common generated request dd).runWith b).status.code →
      code = .success ∨ code = .kusciaAPIErrCreateDomainDataGrant ∨
        code = .kusciaAPIErrDomainDataGrantExists := by
    rintro _ rfl
    simp only [createGrantObject, Prog.runWith]
    split
    · simp only [buildErrorResponseStatus, createDomainDataGrantErrorCode_some]
      split <;> simp
    · simp [buildSuccessResponseStatus]
  simp only [createWithDomainData]
  split
  · simp only [Prog.runWith]
    split
    · simp [buildErrorResponseStatus, getDomainDataGrantErrorCode]
    · exact hobj _ rfl
  · exact hobj _ rfl

/-- `UpdateDomainDataGrant` once the grant `dg` is read: a DomainData id differing from the
stored one is refused as a validation error, and a failed write is classified by its error. -/
theorem updateWithGrant_code (request : UpdateDomainDataGrantRequest) (dd : V1alpha1.DomainData)
    (dg : V1alpha1.DomainDataGrant) :
    ((updateWithGrant common generated request dd dg).runWith b).status.code =
      if dg.spec.domainDataID ≠ request.domaindataId then .kusciaAPIErrRequestValidate
      else match b (.updateGrant request.domainId (updatedGrant common generated request dd dg)) with
        | .error e => getDomainDataGrantErrorCode (some e) .kusciaAPIErrUpdateDomainDataGrant
        | .ok _ => .success := by
  simp only [updateWithGrant]
  split
  · rfl
  · simp only [Prog.runWith]
    split <;> rename_i heq <;> simp [heq, buildErrorResponseStatus, buildSuccessResponseStatus]

/-- Along every behaviour of the store, `CreateDomainDataGrant` answers `RequestValidate`
exactly when the request fails its own validation or the DomainData lookup fails, whatever the
store's reason; it never answers the not-found code, since a failed grant lookup lets the
create go ahead. -/
theorem createDomainDataGrant_code (validateK8sName : String → String → Option String)
    (request : CreateDomainDataGrantRequest) :
    let code := ((createDomainDataGrant common generated validateK8sName request).runWith b).status.code
    (code = .kusciaAPIErrRequestValidate ↔
      (validateCreateDomainDataGrantRequest validateK8sName request).isSome ∨
        ∃ e, b (.getDomainData request.domainId request.domaindataId) = .error e) ∧
    code ≠ .kusciaAPIErrDomainDataGrantNotExists := by
  simp only [createDomainDataGrant]
  split
  · rename_i hv
    simp [hv, buildErrorResponseStatus]
  · rename_i hv
    simp only [Prog.runWith_call, hv, Option.isSome_none, Bool.false_eq_true, false_or]
    split
    · rename_i hdd
      simp [hdd, buildErrorResponseStatus]
    · rename_i dd hdd
      rcases createWithDomainData_code common generated b request dd with h | h | h <;>
        simp [h, hdd]

/-- Along every behaviour of the store, `UpdateDomainDataGrant` answers `RequestValidate`
exactly when a required field is empty, the DomainData lookup fails, or the stored grant is
bound to another DomainData; a failed grant lookup is classified by the store's error: the
not-found code when the grant is absent and the query code otherwise. -/
theorem updateDomainDataGrant_code (request : UpdateDomainDataGrantRequest) :
    let code := ((updateDomainDataGrant common generated request).runWith b).status.code
    (code = .kusciaAPIErrRequestValidate ↔
      request.domaindataId = "" ∨
        (∃ e, b (.getDomainData request.domainId request.domaindataId) = .error e) ∨
        request.grantDomain = "" ∨ request.domaindatagrantId = "" ∨
        ∃ dg, b (.getGrant request.domainId request.domaindatagrantId) = .ok dg ∧
          dg.spec.domainDataID ≠ request.domaindataId) ∧
    (∀ dd e, request.domaindataId ≠ "" →
      b (.getDomainData request.domainId request.domaindataId) = .ok dd →
      request.grantDomain ≠ "" → request.domaindatagrantId ≠ "" →
      b (.getGrant request.domainId request.domaindatagrantId) = .error e →
      code = if e.reason = .notFound then .kusciaAPIErrDomainDataGrantNotExists
        else .kusciaAPIErrQueryDomainDataGrant) := by
  simp only [updateDomainDataGrant]
  by_cases h1 : request.domaindataId = ""
  · simp [h1, buildErrorResponseStatus]
  simp only [h1, if_false, Prog.runWith_call]
  cases hdd : b (.getDomainData request.domainId request.domaindataId) with
  | error e => simp [h1, buildErrorResponseStatus]
  | ok dd =>
    simp only [updateWithDomainData]
    by_cases h2 : request.grantDomain = ""
    · simp [h2, buildErrorResponseStatus]
    by_cases h3 : request.domaindatagrantId = ""
    · simp [h2, h3, buildErrorResponseStatus]
    simp only [h2, h3, if_false, Prog.runWith_call]
    cases hg : b (.getGrant request.domainId request.domaindatagrantId) with
    | error e =>
      constructor
      · simp only [Prog.runWith_pure, buildErrorResponseStatus, getDomainDataGrantErrorCode_some]
        split <;> simp [h1, h2, h3]
      · intro _ e' _ hdd' _ _ he
        cases he
        rfl
    | ok dg =>
      simp only [updateWithGrant_code]
      constructor
      · split
        · rename_i hne
          simp [hne]
        · rename_i heq
          have heq : dg.spec.domainDataID = request.domaindataId := by simpa using heq
          split
          · rename_i e _
            by_cases hr : e.reason = .notFound <;> simp [h1, h2, h3, heq, hr]
          · simp [h1, h2, h3, heq]
      · intro _ _ _ _ _ _ he
        cases he

end Codes

/-- A well-formed create and update whose DomainData lookup finds nothing, or meets an
unavailable store, answer `RequestValidate` with their not-found texts, while a query meeting the
same outage answers its own query code. -/
theorem domainData_lookup_failure_requestValidate :
    let common : Common :=
      ⟨"kuscia.secretflow/domaindatagrant-vendor", "kuscia.secretflow/domaindatagrant-domain"⟩
    let create : CreateDomainDataGrantRequest :=
      { domainId := "alice", domaindataId := "data-1", grantDomain := "bob" }
    let update : UpdateDomainDataGrantRequest :=
      { domainId := "alice", domaindatagrantId := "grant-1", domaindataId := "data-1",
        grantDomain := "bob" }
    let unavailable : (c : Call) → Except StatusError c.Ret :=
      fun _ => .error ⟨.serviceUnavailable, "etcdserver: request timed out"⟩
    validateCreateDomainDataGrantRequest (fun _ _ => none) create = none ∧
    ((createDomainDataGrant common "" (fun _ _ => none) create).run
        ⟨[], [], 0, fun _ => true, true, fun _ => true⟩).1.status.code = .kusciaAPIErrRequestValidate ∧
    ((createDomainDataGrant common "" (fun _ _ => none) create).runWith unavailable).status =
      buildErrorResponseStatus .kusciaAPIErrRequestValidate "domaindata [data-1] not exists" ∧
    ((updateDomainDataGrant common "" update).runWith unavailable).status =
      buildErrorResponseStatus .kusciaAPIErrRequestValidate "domaindata can't be found" ∧
    ((queryDomainDataGrant { domainId := "alice", domaindatagrantId := "grant-1" }).runWith
        unavailable).status.code = .kusciaAPIErrQueryDomainDataGrant :=
  ⟨by decide, by decide, rfl, rfl, rfl⟩

end KusciaGrant
