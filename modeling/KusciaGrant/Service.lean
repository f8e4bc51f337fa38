import KusciaGrant.Convert
import KusciaGrant.Prog

namespace KusciaGrant

open Kusciaapi
open V1alpha1 (DomainData OwnerReference)

/-- `metav1.NewControllerRef(dd, v1alpha1.SchemeGroupVersion.WithKind("DomainData"))`. -/
def newControllerRef (owner : DomainData) : OwnerReference :=
  { apiVersion := "kuscia.secretflow/v1alpha1", kind := "DomainData", name := owner.name,
    uid := owner.uid, blockOwnerDeletion := some true, controller := some true }

/-- `validateCreateDomainDataGrantRequest`. `validateK8sName value field` is
`resources.ValidateK8sName`, not under src/: the error text for a name it refuses. -/
def validateCreateDomainDataGrantRequest (validateK8sName : String → String → Option String)
    (request : CreateDomainDataGrantRequest) : Option String :=
  if request.grantDomain = "" then some "grantdomain can't be null"
  else if request.grantDomain = request.domainId then some "grantdomain can't be self"
  else if request.domaindataId = "" then some "domaindata can't be null"
  else match validateK8sName request.domainId "domain_id" with
    | some err => some err
    | none =>
      match validateK8sName request.domaindataId "domaindata_id" with
      | some err => some err
      | none =>
        if request.domaindatagrantId ≠ "" then
          validateK8sName request.domaindatagrantId "domaindatagrant_id"
        else none

section Handlers

variable (common : Common) (generated : String)

/-- The grant object `CreateDomainDataGrant` submits. -/
def newGrant (request : CreateDomainDataGrantRequest) (dd : DomainData) : V1alpha1.DomainDataGrant :=
  convertData2Spec common generated
    { author := request.domainId
      domaindataId := request.domaindataId
      domaindatagrantId := request.domaindatagrantId
      grantDomain := request.grantDomain
      limit := request.limit
      description := request.description
      signature := request.signature
      domainId := request.domainId }
    { labels := [], ownerReferences := [newControllerRef dd] }

/-- The last step of `CreateDomainDataGrant`: the store's create. -/
def createGrantObject (request : CreateDomainDataGrantRequest) (dd : DomainData) :
    Prog CreateDomainDataGrantResponse :=
  .call (.createGrant request.domainId (newGrant common generated request dd)) fun
    | .error err =>
      .pure ⟨buildErrorResponseStatus
        (createDomainDataGrantErrorCode (some err) .kusciaAPIErrCreateDomainDataGrant) err.message,
        none⟩
    | .ok dg => .pure ⟨buildSuccessResponseStatus, some ⟨dg.name⟩⟩

/-- `CreateDomainDataGrant` once the DomainData is found: a grant id given must not be taken. -/
def createWithDomainData (request : CreateDomainDataGrantRequest) (dd : DomainData) :
    Prog CreateDomainDataGrantResponse :=
  if request.domaindatagrantId ≠ "" then
    .call (.getGrant request.domainId request.domaindatagrantId) fun
      | .ok _ =>
        .pure ⟨buildErrorResponseStatus
          (getDomainDataGrantErrorCode none .kusciaAPIErrCreateDomainDataGrant)
          ("CreateDomainDataGrant failed, because domaindatagrant " ++ request.domaindatagrantId ++
            " is exist"), none⟩
      | .error _ => createGrantObject common generated request dd
  else createGrantObject common generated request dd

/-- `CreateDomainDataGrant` -/
def createDomainDataGrant (validateK8sName : String → String → Option String)
    (request : CreateDomainDataGrantRequest) : Prog CreateDomainDataGrantResponse :=
  match validateCreateDomainDataGrantRequest validateK8sName request with
  | some validateErr =>
    .pure ⟨buildErrorResponseStatus .kusciaAPIErrRequestValidate validateErr, none⟩
  | none =>
    .call (.getDomainData request.domainId request.domaindataId) fun
      | .error _ =>
        .pure ⟨buildErrorResponseStatus .kusciaAPIErrRequestValidate
          ("domaindata [" ++ request.domaindataId ++ "] not exists"), none⟩
      | .ok dd => createWithDomainData common generated request dd

/-- The object `UpdateDomainDataGrant` writes back: the read grant `dg` overwritten from the
request, with the controller reference to `dd` appended to its owner references. -/
def updatedGrant (request : UpdateDomainDataGrantRequest) (dd : DomainData)
    (dg : V1alpha1.DomainDataGrant) : V1alpha1.DomainDataGrant :=
  let dg := convertData2Spec common generated
    { domaindatagrantId := request.domaindatagrantId
      author := request.domainId
      domaindataId := request.domaindataId
      grantDomain := request.grantDomain
      limit := request.limit
      description := request.description
      signature := request.signature
      domainId := request.domainId } dg
  { dg with ownerReferences := dg.ownerReferences ++ [newControllerRef dd] }

/-- `UpdateDomainDataGrant` once the grant `dg` is read. -/
def updateWithGrant (request : UpdateDomainDataGrantRequest) (dd : DomainData)
    (dg : V1alpha1.DomainDataGrant) : Prog UpdateDomainDataGrantResponse :=
  if dg.spec.domainDataID ≠ request.domaindataId then
    .pure ⟨buildErrorResponseStatus
      (getDomainDataGrantErrorCode none .kusciaAPIErrRequestValidate) "domaindataid can't be changed."⟩
  else
    .call (.updateGrant request.domainId (updatedGrant common generated request dd dg)) fun
      | .error err =>
        .pure ⟨buildErrorResponseStatus
          (getDomainDataGrantErrorCode (some err) .kusciaAPIErrUpdateDomainDataGrant) err.message⟩
      | .ok _ => .pure ⟨buildSuccessResponseStatus⟩

/-- `UpdateDomainDataGrant` once the DomainData is found. -/
def updateWithDomainData (request : UpdateDomainDataGrantRequest) (dd : DomainData) :
    Prog UpdateDomainDataGrantResponse :=
  if request.grantDomain = "" then
    .pure ⟨buildErrorResponseStatus .kusciaAPIErrRequestValidate "grantdomain can't be null"⟩
  else if request.domaindatagrantId = "" then
    .pure ⟨buildErrorResponseStatus .kusciaAPIErrRequestValidate "grantdomainid can't be null"⟩
  else
    .call (.getGrant request.domainId request.domaindatagrantId) fun
      | .error err =>
        .pure ⟨buildErrorResponseStatus
          (getDomainDataGrantErrorCode (some err) .kusciaAPIErrQueryDomainDataGrant) err.message⟩
      | .ok dg => updateWithGrant common generated request dd dg

/-- `UpdateDomainDataGrant`; `generated` is never read, the grant id being non-empty by the
time the request is converted. -/
def updateDomainDataGrant (request : UpdateDomainDataGrantRequest) :
    Prog UpdateDomainDataGrantResponse :=
  if request.domaindataId = "" then
    .pure ⟨buildErrorResponseStatus .kusciaAPIErrRequestValidate "domaindataid can't be null"⟩
  else
    .call (.getDomainData request.domainId request.domaindataId) fun
      | .error _ =>
        .pure ⟨buildErrorResponseStatus .kusciaAPIErrRequestValidate "domaindata can't be found"⟩
      | .ok dd => updateWithDomainData common generated request dd

end Handlers

/-- `QueryDomainDataGrant` -/
def queryDomainDataGrant (request : QueryDomainDataGrantRequest) :
    Prog QueryDomainDataGrantResponse :=
  .call (.getGrant request.domainId request.domaindatagrantId) fun
    | .error err =>
      .pure ⟨buildErrorResponseStatus
        (getDomainDataGrantErrorCode (some err) .kusciaAPIErrQueryDomainDataGrant) err.message, none⟩
    | .ok dg => .pure ⟨buildSuccessResponseStatus, some (convertSpec2Data dg {})⟩

/-- What the loop of `BatchQueryDomainDataGrant` accumulates. -/
structure BatchAcc where
  data : List (Option Kusciaapi.DomainDataGrant)
  detail : List (Option Status)
  emptyRequestCount : Nat
  errorResponseCount : Nat

/-- A sub-request without a domain id or without a grant id. -/
def Kusciaapi.QueryDomainDataGrantRequestData.isEmpty (req : QueryDomainDataGrantRequestData) : Bool :=
  req.domainId = "" || req.domaindatagrantId = ""

def emptyQueryStatus : Status :=
  buildErrorResponseStatus .kusciaAPIErrRequestValidate "QueryDomainDataGrantRequestData can't be null"

/-- The loop `for i, req := range request.Data` of `BatchQueryDomainDataGrant`. -/
def batchQueryLoop : Nat → List QueryDomainDataGrantRequestData → BatchAcc → Prog BatchAcc
  | _, [], acc => .pure acc
  | i, req :: rest, acc =>
    if req.isEmpty then
      batchQueryLoop (i + 1) rest
        { acc with
          emptyRequestCount := acc.emptyRequestCount + 1
          data := acc.data ++ [some ({} : Kusciaapi.DomainDataGrant)]
          detail := acc.detail.set i (some emptyQueryStatus) }
    else
      (queryDomainDataGrant ⟨req.domainId, req.domaindatagrantId⟩).bind fun resp =>
        batchQueryLoop (i + 1) rest
          { acc with
            errorResponseCount :=
              if resp.status.code ≠ .success then acc.errorResponseCount + 1 else acc.errorResponseCount
            data := acc.data ++ [resp.data]
            detail := acc.detail.set i (some resp.status) }

/-- `BatchQueryDomainDataGrant` -/
def batchQueryDomainDataGrant (request : BatchQueryDomainDataGrantRequest) :
    Prog BatchQueryDomainDataGrantResponse :=
  if request.data.length = 0 then
    .pure ⟨buildErrorResponseStatus .kusciaAPIErrRequestValidate
      "BatchQueryDomainDataGrant.data can't be null", []⟩
  else
    (batchQueryLoop 0 request.data ⟨[], List.replicate request.data.length none, 0, 0⟩).bind fun acc =>
      if acc.emptyRequestCount ≠ 0 ∨ acc.errorResponseCount ≠ 0 then
        let errMsg := "BatchQuery has error. Empty/Error/Total(" ++ toString acc.emptyRequestCount ++
          "/" ++ toString acc.errorResponseCount ++ "/" ++ toString request.data.length ++ ")"
        .pure ⟨{ buildErrorResponseStatus .kusciaAPIErrQueryDomainDataGrant errMsg with
          details := acc.detail }, acc.data⟩
      else .pure ⟨buildSuccessResponseStatus, acc.data⟩

/-- `DeleteDomainDataGrant` -/
def deleteDomainDataGrant (request : DeleteDomainDataGrantRequest) :
    Prog DeleteDomainDataGrantResponse :=
  .call (.deleteGrant request.domainId request.domaindatagrantId) fun
    | .error err =>
      .pure ⟨buildErrorResponseStatus
        (getDomainDataGrantErrorCode (some err) .kusciaAPIErrDeleteDomainDataGrant) err.message⟩
    | .ok _ => .pure ⟨buildSuccessResponseStatus⟩

/-- `fields.Selector`, in the two forms the service builds. -/
inductive FieldSelector where
  | hasTerm (field value : String)
  | andTerm (terms : List FieldSelector)

/-- `fields.EscapeValue`: a backslash, a comma and an equals sign get a backslash before them. -/
def escapeValue (s : String) : String :=
  String.mk (s.data.flatMap fun c => if c = '\\' ∨ c = ',' ∨ c = '=' then ['\\', c] else [c])

/-- `Selector.String()` -/
def FieldSelector.toString : FieldSelector → String
  | .hasTerm field value => field ++ "=" ++ escapeValue value
  | .andTerm terms => ",".intercalate (terms.attach.map fun ⟨t, _⟩ => t.toString)

/-- The selector string `ListDomainDataGrant` passes as `LabelSelector`: a vendor term, then a
grant-domain term, each for a non-empty filter, joined with `fields.AndSelectors`. -/
def listSelector (common : Common) (data : ListDomainDataGrantRequestData) : String :=
  let addTerm (selector : Option FieldSelector) (term : FieldSelector) : FieldSelector :=
    match selector with
    | some s => .andTerm [s, term]
    | none => term
  let (selector, selectorStr) : Option FieldSelector × String :=
    if data.domaindataVendor ≠ "" then
      let s := addTerm none (.hasTerm common.labelDomainDataGrantVendor data.domaindataVendor)
      (some s, s.toString)
    else (none, "")
  if data.grantDomain ≠ "" then
    (addTerm selector (.hasTerm common.labelDomainDataGrantDomain data.grantDomain)).toString
  else selectorStr

/-- `ListDomainDataGrant` -/
def listDomainDataGrant (common : Common) (request : ListDomainDataGrantRequest) :
    Prog ListDomainDataGrantResponse :=
  match request.data with
  | none => .pure ⟨buildErrorResponseStatus .kusciaAPIErrRequestValidate "domain id can not be empty", none⟩
  | some data =>
    if data.domainId = "" then
      .pure ⟨buildErrorResponseStatus .kusciaAPIErrRequestValidate "domain id can not be empty", none⟩
    else
      .call (.listGrants data.domainId (listSelector common data)) fun
        | .error err =>
          .pure ⟨buildErrorResponseStatus
            (getDomainDataGrantErrorCode (some err) .kusciaAPIErrListDomainDataFailed) err.message,
            none⟩
        | .ok items => .pure ⟨buildSuccessResponseStatus, some ⟨items.map (convertSpec2Data · {})⟩⟩

end KusciaGrant
