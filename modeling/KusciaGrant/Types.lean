import KusciaGrant.GoValues

namespace KusciaGrant

/-- `m[k]` of a Go `map[string]string`, the map kept as its list of entries. -/
def mapGet (m : List (String × String)) (k : String) : Option String := m.lookup k

/-- The assignment `m[k] = v`. -/
def mapSet (m : List (String × String)) (k v : String) : List (String × String) :=
  (k, v) :: m.filter (fun e => e.1 ≠ k)

@[simp] theorem mapGet_mapSet_self (m : List (String × String)) (k v : String) :
    mapGet (mapSet m k v) k = some v :=
  List.lookup_cons_self

/-- Setting one key leaves the value of every other key as it was. -/
theorem mapGet_mapSet_ne (m : List (String × String)) {k k' : String} (v : String) (h : k' ≠ k) :
    mapGet (mapSet m k v) k' = mapGet m k' := by
  have hk : (k' == k) = false := by simpa using h
  simp only [mapGet, mapSet]
  rw [List.lookup_cons, hk]
  dsimp only
  induction m with
  | nil => rfl
  | cons e m ih =>
    obtain ⟨a, b⟩ := e
    by_cases ha : a = k
    · have hka : (k' == a) = false := by simpa [ha] using h
      rw [List.filter_cons_of_neg (by simpa using ha), ih, List.lookup_cons, hka]
    · rw [List.filter_cons_of_pos (by simpa using ha), List.lookup_cons, List.lookup_cons, ih]

namespace V1alpha1

/-- `v1alpha1.GrantLimit` of the DomainDataGrant custom resource. -/
structure GrantLimit where
  expirationTime : Option Time := none
  useCount : Int64 := default
  flowID : String := ""
  components : List String := []
  initiator : String := ""
  inputConfig : String := ""
  grantMode : List String := []
deriving DecidableEq, Repr

structure DomainDataGrantSpec where
  author : String := ""
  domainDataID : String := ""
  signature : String := ""
  grantDomain : String := ""
  limit : Option GrantLimit := none
  description : List (String × String) := []
deriving DecidableEq, Repr

structure UseRecord where
  useTime : Time
  grantDomain : String
  component : String
  output : String
deriving DecidableEq, Repr

structure DomainDataGrantStatus where
  phase : String := ""
  message : String := ""
  useRecords : List UseRecord := []
deriving DecidableEq, Repr

/-- `metav1.OwnerReference`; a UID is a number here, handed out by the store. -/
structure OwnerReference where
  apiVersion : String
  kind : String
  name : String
  uid : Nat
  controller : Option Bool
  blockOwnerDeletion : Option Bool
deriving DecidableEq, Repr

def OwnerReference.isController (r : OwnerReference) : Bool := r.controller = some true

/-- `v1alpha1.DomainDataGrant` with the `ObjectMeta` fields the service and the store read:
the resource version and the UID are numbers issued from the store's revision counter. -/
structure DomainDataGrant where
  name : String := ""
  labels : List (String × String) := []
  ownerReferences : List OwnerReference := []
  resourceVersion : Nat := 0
  uid : Nat := 0
  spec : DomainDataGrantSpec := {}
  status : DomainDataGrantStatus := {}
deriving DecidableEq, Repr

/-- `v1alpha1.DomainData`, as far as `metav1.NewControllerRef` reads it. -/
structure DomainData where
  name : String
  uid : Nat
deriving DecidableEq, Repr

end V1alpha1

/-- `pberrorcode.ErrorCode`, the members the service returns; `success` is code 0. -/
inductive ErrorCode where
  | success
  | kusciaAPIErrRequestValidate
  | kusciaAPIErrCreateDomainDataGrant
  | kusciaAPIErrQueryDomainDataGrant
  | kusciaAPIErrUpdateDomainDataGrant
  | kusciaAPIErrDeleteDomainDataGrant
  | kusciaAPIErrListDomainDataFailed
  | kusciaAPIErrDomainDataGrantNotExists
  | kusciaAPIErrDomainDataGrantExists
deriving DecidableEq, Repr

/-- The response status `v1alpha1.Status`; a detail is a status packed into an `anypb.Any`,
`none` where the slot was never filled. -/
structure Status where
  code : ErrorCode
  message : String
  details : List (Option Status)

/-- `utils.BuildErrorResponseStatus`. -/
def buildErrorResponseStatus (code : ErrorCode) (msg : String) : Status := ⟨code, msg, []⟩

/-- `utils.BuildSuccessResponseStatus`. -/
def buildSuccessResponseStatus : Status := ⟨.success, "success", []⟩

/-- The reason of a Kubernetes `StatusError`, as `k8serrors.IsNotFound` and its siblings read it. -/
inductive StatusReason where
  | notFound
  | alreadyExists
  | conflict
  | invalid
  | badRequest
  | serviceUnavailable
  | timeout
  | internalError
deriving DecidableEq, Repr

/-- An error of the store client; `message` is what `err.Error()` returns. -/
structure StatusError where
  reason : StatusReason
  message : String
deriving DecidableEq, Repr

/-- Modelled from the spec: `errorcode.GetDomainDataGrantErrorCode`, absent from src/. A store
error that says the object is absent is reported as the typed not-found code; any other error,
and a nil one, keeps the caller's default code. -/
def getDomainDataGrantErrorCode (err : Option StatusError) (defaultErrorCode : ErrorCode) :
    ErrorCode :=
  match err with
  | some e => if e.reason = .notFound then .kusciaAPIErrDomainDataGrantNotExists else defaultErrorCode
  | none => defaultErrorCode

/-- Modelled from the spec: `errorcode.CreateDomainDataGrantErrorCode`, absent from src/. A create
refused because the grant already exists is reported as such; other errors keep the default. -/
def createDomainDataGrantErrorCode (err : Option StatusError) (defaultErrorCode : ErrorCode) :
    ErrorCode :=
  match err with
  | some e => if e.reason = .alreadyExists then .kusciaAPIErrDomainDataGrantExists else defaultErrorCode
  | none => defaultErrorCode

namespace Kusciaapi

/-- `kusciaapi.GrantLimit` of the API. -/
structure GrantLimit where
  expirationTime : Int64 := default
  useCount : Int32 := default
  flowId : String := ""
  components : List String := []
  initiator : String := ""
  inputConfig : String := ""
deriving DecidableEq, Repr

structure DomainDataGrantData where
  domaindatagrantId : String := ""
  author : String := ""
  domaindataId : String := ""
  grantDomain : String := ""
  limit : Option GrantLimit := none
  description : List (String × String) := []
  signature : String := ""
  domainId : String := ""
deriving DecidableEq, Repr

structure UseRecord where
  useTime : Int64 := default
  grantDomain : String := ""
  component : String := ""
  output : String := ""
deriving DecidableEq, Repr

structure DomainDataGrantStatus where
  phase : String := ""
  message : String := ""
  records : List UseRecord := []
deriving DecidableEq, Repr

structure DomainDataGrant where
  data : Option DomainDataGrantData := none
  status : Option DomainDataGrantStatus := none
deriving DecidableEq, Repr

structure CreateDomainDataGrantRequest where
  domaindatagrantId : String := ""
  domaindataId : String := ""
  grantDomain : String := ""
  limit : Option GrantLimit := none
  description : List (String × String) := []
  signature : String := ""
  domainId : String := ""
deriving DecidableEq, Repr

structure CreateDomainDataGrantResponseData where
  domaindatagrantId : String
deriving DecidableEq, Repr

structure CreateDomainDataGrantResponse where
  status : Status
  data : Option CreateDomainDataGrantResponseData := none

structure QueryDomainDataGrantRequest where
  domainId : String := ""
  domaindatagrantId : String := ""
deriving DecidableEq, Repr

structure QueryDomainDataGrantResponse where
  status : Status
  data : Option DomainDataGrant := none

structure QueryDomainDataGrantRequestData where
  domainId : String := ""
  domaindatagrantId : String := ""
deriving DecidableEq, Repr

structure BatchQueryDomainDataGrantRequest where
  data : List QueryDomainDataGrantRequestData := []
deriving DecidableEq, Repr

/-- Each entry of `data` is a pointer: `none` is Go's nil. -/
structure BatchQueryDomainDataGrantResponse where
  status : Status
  data : List (Option DomainDataGrant)

structure UpdateDomainDataGrantRequest where
  domainId : String := ""
  domaindatagrantId : String := ""
  domaindataId : String := ""
  grantDomain : String := ""
  limit : Option GrantLimit := none
  description : List (String × String) := []
  signature : String := ""
deriving DecidableEq, Repr

structure UpdateDomainDataGrantResponse where
  status : Status

structure DeleteDomainDataGrantRequest where
  domainId : String := ""
  domaindatagrantId : String := ""
deriving DecidableEq, Repr

structure DeleteDomainDataGrantResponse where
  status : Status

structure ListDomainDataGrantRequestData where
  domainId : String := ""
  domaindataVendor : String := ""
  grantDomain : String := ""
deriving DecidableEq, Repr

structure ListDomainDataGrantRequest where
  data : Option ListDomainDataGrantRequestData := none
deriving DecidableEq, Repr

structure DomainDataGrantList where
  domaindatagrantList : List DomainDataGrant
deriving DecidableEq, Repr

structure ListDomainDataGrantResponse where
  status : Status
  data : Option DomainDataGrantList := none

end Kusciaapi

end KusciaGrant
