import KusciaGrant.Types

namespace KusciaGrant

/-- The label keys of kuscia's `pkg/common` the service reads; they are not under src/. -/
structure Common where
  labelDomainDataGrantVendor : String
  labelDomainDataGrantDomain : String

/-- `convertData2Spec`: the API grant data written onto a grant object. `generated` is what
`common.GenDomainDataID("domaindatagrant")` returns, read only when the data names no grant. -/
def convertData2Spec (common : Common) (generated : String) (data : Kusciaapi.DomainDataGrantData)
    (v : V1alpha1.DomainDataGrant) : V1alpha1.DomainDataGrant :=
  let limit : Option V1alpha1.GrantLimit := data.limit.map fun l =>
    { flowID := l.flowId
      useCount := l.useCount.toInt64
      initiator := l.initiator
      inputConfig := l.inputConfig
      components := l.components
      grantMode := ["normal"]
      expirationTime :=
        if (0 : Int) < l.expirationTime.val then
          some (Time.unix (l.expirationTime.div second) (l.expirationTime.mod second))
        else none }
  let dgID := if data.domaindatagrantId = "" then generated else data.domaindatagrantId
  { v with
    name := dgID
    labels := mapSet v.labels common.labelDomainDataGrantDomain data.grantDomain
    spec :=
      { author := data.author
        domainDataID := data.domaindataId
        signature := data.signature
        grantDomain := data.grantDomain
        limit := limit
        description := data.description } }

/-- `convertSpec2Data`: a grant object read back into the API grant `grant`. -/
def convertSpec2Data (v : V1alpha1.DomainDataGrant) (grant : Kusciaapi.DomainDataGrant) :
    Kusciaapi.DomainDataGrant :=
  let data := grant.data.getD {}
  let data := { data with
    author := v.spec.author
    domaindataId := v.spec.domainDataID
    domaindatagrantId := v.name
    grantDomain := v.spec.grantDomain }
  let data := match v.spec.limit with
    | some l =>
      { data with
        limit := some
          { components := l.components
            flowId := l.flowID
            useCount := Int32.ofInt l.useCount.val
            inputConfig := l.inputConfig
            expirationTime := match l.expirationTime with
              | some t => t.unixNano
              | none => default } }
    | none => data
  let status := grant.status.getD {}
  let status := { status with
    phase := v.status.phase
    message := v.status.message
    records := v.status.useRecords.map fun r =>
      { useTime := r.useTime.unixNano, grantDomain := r.grantDomain, component := r.component,
        output := r.output } }
  { grant with data := some data, status := some status }

@[simp] theorem convertData2Spec_name (common : Common) (generated : String)
    (data : Kusciaapi.DomainDataGrantData) (v : V1alpha1.DomainDataGrant) :
    (convertData2Spec common generated data v).name =
      if data.domaindatagrantId = "" then generated else data.domaindatagrantId := rfl

@[simp] theorem convertData2Spec_spec (common : Common) (generated : String)
    (data : Kusciaapi.DomainDataGrantData) (v : V1alpha1.DomainDataGrant) :
    (convertData2Spec common generated data v).spec.author = data.author ∧
    (convertData2Spec common generated data v).spec.domainDataID = data.domaindataId ∧
    (convertData2Spec common generated data v).spec.grantDomain = data.grantDomain :=
  ⟨rfl, rfl, rfl⟩

/-- `convertData2Spec` leaves the object's status, owners, version and UID as they were. -/
@[simp] theorem convertData2Spec_meta (common : Common) (generated : String)
    (data : Kusciaapi.DomainDataGrantData) (v : V1alpha1.DomainDataGrant) :
    (convertData2Spec common generated data v).status = v.status ∧
    (convertData2Spec common generated data v).ownerReferences = v.ownerReferences ∧
    (convertData2Spec common generated data v).resourceVersion = v.resourceVersion ∧
    (convertData2Spec common generated data v).uid = v.uid :=
  ⟨rfl, rfl, rfl, rfl⟩

theorem convertData2Spec_label (common : Common) (generated : String)
    (data : Kusciaapi.DomainDataGrantData) (v : V1alpha1.DomainDataGrant) :
    mapGet (convertData2Spec common generated data v).labels common.labelDomainDataGrantDomain =
      some data.grantDomain :=
  mapGet_mapSet_self _ _ _

/-- Reading back a grant written from API data gives that data back except for what
`convertSpec2Data` never copies: the description, the signature, the limit's initiator and
the data's domain id; an expiration time that is not positive comes back as 0. -/
theorem convertSpec2Data_convertData2Spec (common : Common) (generated : String)
    (d : Kusciaapi.DomainDataGrantData) (hd : d.domaindatagrantId ≠ "") :
    (convertSpec2Data (convertData2Spec common generated d {}) {}).data =
      some { d with
        description := [], signature := "", domainId := "",
        limit := d.limit.map fun l => { l with
          initiator := "",
          expirationTime := if 0 < l.expirationTime.val then l.expirationTime else default } } := by
  cases hl : d.limit with
  | none => simp [convertSpec2Data, convertData2Spec, hl, hd]
  | some l =>
    by_cases he : 0 < l.expirationTime.val
    · simp [convertSpec2Data, convertData2Spec, hl, hd, he, Time.unixNano_unix_div_mod he]
    · simp [convertSpec2Data, convertData2Spec, hl, hd, he]

theorem convertSpec2Data_drops_description_signature_initiator :
    (convertSpec2Data
        (convertData2Spec
          ⟨"kuscia.secretflow/domaindatagrant-vendor", "kuscia.secretflow/domaindatagrant-domain"⟩ ""
          { domaindatagrantId := "grant-1", author := "alice", domaindataId := "data-1",
            grantDomain := "bob", description := [("purpose", "training")], signature := "sig",
            limit := some { initiator := "alice" } } {}) {}).data.map
      (fun r => (r.description, r.signature, r.limit.map (·.initiator))) = some ([], "", some "") := by
  decide

end KusciaGrant
