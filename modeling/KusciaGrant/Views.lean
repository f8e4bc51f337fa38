import KusciaGrant.Lifetime
import KusciaGrant.ListGrants
import KusciaGrant.Runs

namespace KusciaGrant

open Kusciaapi

section Agreement

variable {common : Common} {validateK8sName : String → String → Option String}

end Agreement

section Vendor

variable {common : Common} {validateK8sName : String → String → Option String}

/-- No stored grant carries the vendor label. -/
def VendorFree (common : Common) (st : Store) : Prop :=
  ∀ e ∈ st.grants, mapGet e.2.labels common.labelDomainDataGrantVendor = none

/-- `convertData2Spec` sets the grant-domain label only, on a new object and on the grant an
update read, and a consumer's status write keeps the labels: no step adds the vendor label. -/
theorem VendorFree.step {s s' : System} {l : Option (Request × Call)}
    (hne : common.labelDomainDataGrantVendor ≠ common.labelDomainDataGrantDomain)
    (hsys : SystemOk common validateK8sName s) (hv : VendorFree common s.store)
    (hstep : Step common validateK8sName s l s') : VendorFree common s'.store := by
  cases hstep with
  | commit i t c k ht hp =>
    have hc := hsys.nextCall (List.getElem?_mem ht) hp
    have he := s.store.exec_effect c
    show VendorFree common (s.store.exec c).2
    generalize (s.store.exec c).2 = st' at he ⊢
    cases he with
    | keep => exact hv
    | create =>
      cases hc with
      | read hc => cases hc
      | create _ _ _ _ hobj =>
        obtain ⟨generated, request, dd, rfl⟩ := hobj
        intro e he
        rcases List.mem_append.mp he with he | he
        · exact hv e he
        · rw [List.mem_singleton.mp he]
          simp only [Store.created, newGrant, convertData2Spec, mapGet_mapSet_ne _ _ hne]
          rfl
    | update hold hversion =>
      cases hc with
      | read hc => cases hc
      | update _ _ hsnap hname hversion' _ _ _ hobj =>
        obtain rfl := hsnap.current (hname ▸ hold) (hversion' ▸ hversion)
        obtain ⟨generated, request, dd, rfl⟩ := hobj
        intro e he
        rcases mem_replaceGrant he with he | rfl
        · exact hv e he
        · simp [Store.updated, updatedGrant, convertData2Spec, mapGet_mapSet_ne _ _ hne,
            hv _ (findGrant_some hold).2]
    | @updateStatus ns obj old hold =>
      intro e he
      rcases mem_replaceGrant he with he | rfl
      · exact hv e he
      · exact hv (_, old) (findGrant_some hold).2
    | delete => exact fun e he => hv e (List.mem_filter.mp he).1
  | _ => exact hv

end Vendor

end KusciaGrant
