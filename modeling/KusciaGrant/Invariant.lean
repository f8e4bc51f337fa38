import KusciaGrant.StoreEffect
import KusciaGrant.System

namespace KusciaGrant

open Kusciaapi

/-- Versions and UIDs of the stored grants are drawn from the revision counter, and their
statuses are as the store's JSON keeps them. -/
def StoreOk (st : Store) : Prop :=
  ∀ e ∈ st.grants, 0 < e.2.resourceVersion ∧ e.2.resourceVersion ≤ st.revision ∧
    e.2.uid ≤ st.revision ∧ e.2.status.roundTrip = e.2.status

/-- The number of owner references marked as the controller. -/
def controllerCount (g : V1alpha1.DomainDataGrant) : Nat :=
  (g.ownerReferences.filter (·.isController)).length

theorem controllerCount_pos_iff {g : V1alpha1.DomainDataGrant} :
    0 < controllerCount g ↔ ∃ r ∈ g.ownerReferences, r.isController = true := by
  simp [controllerCount, List.length_pos_iff_exists_mem]

/-- The store's deduplication keeps a controller reference. -/
theorem controllerCount_pos_of_dedup {g g' : V1alpha1.DomainDataGrant}
    (hrefs : g'.ownerReferences = dedupOwnerReferences g.ownerReferences) (h : 0 < controllerCount g) :
    0 < controllerCount g' := by
  rw [controllerCount_pos_iff, hrefs] at *
  simpa using h

/-- What the service's checks give a grant it writes into namespace `ns`. -/
structure GrantOk (common : Common) (ns : String) (g : V1alpha1.DomainDataGrant) : Prop where
  author : g.spec.author = ns
  domainDataID : g.spec.domainDataID ≠ ""
  grantDomain : g.spec.grantDomain ≠ ""
  label : mapGet g.labels common.labelDomainDataGrantDomain = some g.spec.grantDomain
  controller : 0 < controllerCount g

def GrantsOk (common : Common) (st : Store) : Prop :=
  ∀ e ∈ st.grants, GrantOk common e.1 e.2

/-- `dg` was read from namespace `ns`: the object now stored under its name is `dg` whenever
it has `dg`'s version. -/
def Snapshot (st : Store) (ns : String) (dg : V1alpha1.DomainDataGrant) : Prop :=
  0 < dg.resourceVersion ∧ dg.resourceVersion ≤ st.revision ∧
    ∀ g, st.getGrant ns dg.name = some g → g.resourceVersion = dg.resourceVersion → g = dg

section Store

variable {st st' : Store} {c : Call}

theorem StoreOk.effect (h : StoreOk st) (he : st.Effect c st') : StoreOk st' := by
  have hrev := he.revision_le
  have hkept : ∀ e ∈ st.grants, 0 < e.2.resourceVersion ∧ e.2.resourceVersion ≤ st'.revision ∧
      e.2.uid ≤ st'.revision ∧ e.2.status.roundTrip = e.2.status := fun e he => by
    have := h e he
    exact ⟨this.1, by omega, by omega, this.2.2.2⟩
  cases he with
  | keep => exact h
  | create =>
    intro e he
    rcases List.mem_append.mp he with he | he
    · exact hkept e he
    · rw [List.mem_singleton.mp he]
      dsimp only [Store.created]
      refine ⟨by omega, by omega, by omega, ?_⟩
      split <;> simp
  | update hold =>
    intro e he
    rcases mem_replaceGrant he with he | rfl
    · exact hkept e he
    · obtain ⟨-, -, huid, hstatus⟩ := h _ (findGrant_some hold).2
      dsimp only [Store.updated] at huid hstatus ⊢
      refine ⟨by omega, by omega, by omega, ?_⟩
      split <;> simp [hstatus]
  | updateStatus hold =>
    intro e he
    rcases mem_replaceGrant he with he | rfl
    · exact hkept e he
    · obtain ⟨-, -, huid, -⟩ := h _ (findGrant_some hold).2
      dsimp only [Store.statusUpdated] at huid ⊢
      exact ⟨by omega, by omega, by omega, by simp⟩
  | delete => exact fun e he => hkept e (List.mem_filter.mp he).1

theorem Snapshot.of_getGrant (hstore : StoreOk st) {ns name : String} {dg : V1alpha1.DomainDataGrant}
    (h : st.getGrant ns name = some dg) : Snapshot st ns dg := by
  obtain ⟨hname, hmem⟩ := findGrant_some h
  obtain ⟨hpos, hle, -, -⟩ := hstore _ hmem
  refine ⟨hpos, hle, fun g hg _ => ?_⟩
  rw [hname, h] at hg
  exact (Option.some.inj hg).symm

/-- A stored grant's status is as the store's JSON keeps it. -/
theorem StoreOk.status_roundTrip (hstore : StoreOk st) {ns name : String}
    {g : V1alpha1.DomainDataGrant} (h : st.getGrant ns name = some g) :
    g.status.roundTrip = g.status :=
  (hstore _ (findGrant_some h).2).2.2.2

/-- A write that passes the version check against a snapshot's object hits that object. -/
theorem Snapshot.current {ns : String} {dg old : V1alpha1.DomainDataGrant} (h : Snapshot st ns dg)
    (hold : st.getGrant ns dg.name = some old)
    (hversion : staleVersion dg.resourceVersion old = false) : old = dg := by
  have hv : dg.resourceVersion = old.resourceVersion := by
    rcases staleVersion_eq_false.mp hversion with h0 | hv
    · exact absurd h0 (Nat.pos_iff_ne_zero.mp h.1)
    · exact hv
  exact h.2.2 old hold hv.symm

/-- Every write draws a new version, so a snapshot stays one. -/
theorem Snapshot.effect {ns : String} {dg : V1alpha1.DomainDataGrant} (h : Snapshot st ns dg)
    (he : st.Effect c st') : Snapshot st' ns dg := by
  obtain ⟨hpos, hle, hcur⟩ := h
  refine ⟨hpos, Nat.le_trans hle he.revision_le, fun g hg hv => ?_⟩
  rcases he.getGrant_fresh hg with hg | hg
  · exact hcur g hg hv
  · omega

end Store

section Handlers

variable (common : Common) (generated : String) (validateK8sName : String → String → Option String)

theorem validateCreateDomainDataGrantRequest_none {request : CreateDomainDataGrantRequest}
    (h : validateCreateDomainDataGrantRequest validateK8sName request = none) :
    request.grantDomain ≠ "" ∧ request.grantDomain ≠ request.domainId ∧ request.domaindataId ≠ "" := by
  unfold validateCreateDomainDataGrantRequest at h
  split_ifs at h with h1 h2 h3 <;> exact ⟨h1, h2, h3⟩

/-- The object `CreateDomainDataGrant` submits for a valid request carries the service's checks,
is no self-grant, and has one controller. -/
theorem newGrant_ok {request : CreateDomainDataGrantRequest} (dd : V1alpha1.DomainData)
    (hvalid : validateCreateDomainDataGrantRequest validateK8sName request = none) :
    GrantOk common request.domainId (newGrant common generated request dd) ∧
      (newGrant common generated request dd).spec.grantDomain ≠
        (newGrant common generated request dd).spec.author ∧
      controllerCount (newGrant common generated request dd) = 1 := by
  obtain ⟨hdomain, hself, hid⟩ := validateCreateDomainDataGrantRequest_none validateK8sName hvalid
  refine ⟨⟨rfl, hid, hdomain, convertData2Spec_label common generated _ _, ?_⟩, hself, ?_⟩ <;>
    simp [controllerCount, newGrant, convertData2Spec, newControllerRef,
      V1alpha1.OwnerReference.isController]

theorem updatedGrant_ok {request : UpdateDomainDataGrantRequest} (dd : V1alpha1.DomainData)
    (dg : V1alpha1.DomainDataGrant) (hid : request.domaindataId ≠ "")
    (hdomain : request.grantDomain ≠ "") :
    GrantOk common request.domainId (updatedGrant common generated request dd dg) := by
  refine ⟨rfl, hid, hdomain, convertData2Spec_label common generated _ _, ?_⟩
  simp [controllerCount, updatedGrant, convertData2Spec, newControllerRef,
    V1alpha1.OwnerReference.isController]

theorem controllerCount_updatedGrant (request : UpdateDomainDataGrantRequest) (dd : V1alpha1.DomainData)
    (dg : V1alpha1.DomainDataGrant) :
    controllerCount (updatedGrant common generated request dd dg) = controllerCount dg + 1 := by
  simp [controllerCount, updatedGrant, convertData2Spec, newControllerRef,
    V1alpha1.OwnerReference.isController]

/-- The owner the service gives a new grant is the DomainData it read by the grant's name. -/
theorem newGrant_owners {request : CreateDomainDataGrantRequest} (dd : V1alpha1.DomainData)
    (hdd : dd.name = request.domaindataId) :
    ∀ r ∈ (newGrant common generated request dd).ownerReferences, ∃ dd' : V1alpha1.DomainData,
      dd'.name = (newGrant common generated request dd).spec.domainDataID ∧ r = newControllerRef dd' :=
  fun _ hr => ⟨dd, hdd, List.mem_singleton.mp hr⟩

/-- An update keeps the owners of the grant it read and adds the DomainData it read by name. -/
theorem updatedGrant_owners {request : UpdateDomainDataGrantRequest} (dd : V1alpha1.DomainData)
    (dg : V1alpha1.DomainDataGrant) (hdd : dd.name = request.domaindataId) :
    ∀ r ∈ (updatedGrant common generated request dd dg).ownerReferences, r ∈ dg.ownerReferences ∨
      ∃ dd' : V1alpha1.DomainData,
        dd'.name = (updatedGrant common generated request dd dg).spec.domainDataID ∧
          r = newControllerRef dd' := by
  intro r hr
  rcases List.mem_append.mp hr with hr | hr
  · exact .inl hr
  · exact .inr ⟨dd, hdd, List.mem_singleton.mp hr⟩

end Handlers

section Stages

variable (common : Common) (validateK8sName : String → String → Option String)

/-- Where a request being served can be, with what its handler has checked and read so far. -/
inductive Stage (st : Store) : Thread → Prop
  | readOnly {t : Thread} (h : t.prog.ReadOnly) : Stage st t
  | create (o : Request) (generated : String) (request : CreateDomainDataGrantRequest) :
      Stage st ⟨o, _, createDomainDataGrant common generated validateK8sName request⟩
  | createWithDomainData (o : Request) (generated : String) (request : CreateDomainDataGrantRequest)
      (dd : V1alpha1.DomainData)
      (hvalid : validateCreateDomainDataGrantRequest validateK8sName request = none)
      (hdd : dd.name = request.domaindataId) :
      Stage st ⟨o, _, createWithDomainData common generated request dd⟩
  | createGrantObject (o : Request) (generated : String) (request : CreateDomainDataGrantRequest)
      (dd : V1alpha1.DomainData)
      (hvalid : validateCreateDomainDataGrantRequest validateK8sName request = none)
      (hdd : dd.name = request.domaindataId) :
      Stage st ⟨o, _, createGrantObject common generated request dd⟩
  | update (o : Request) (generated : String) (request : UpdateDomainDataGrantRequest) :
      Stage st ⟨o, _, updateDomainDataGrant common generated request⟩
  | updateWithDomainData (o : Request) (generated : String) (request : UpdateDomainDataGrantRequest)
      (dd : V1alpha1.DomainData) (hid : request.domaindataId ≠ "")
      (hdd : dd.name = request.domaindataId) :
      Stage st ⟨o, _, updateWithDomainData common generated request dd⟩
  | updateWithGrant (o : Request) (generated : String) (request : UpdateDomainDataGrantRequest)
      (dd : V1alpha1.DomainData) (dg : V1alpha1.DomainDataGrant) (hid : request.domaindataId ≠ "")
      (hdomain : request.grantDomain ≠ "") (hgrant : request.domaindatagrantId ≠ "")
      (hname : dg.name = request.domaindatagrantId) (hdg : GrantOk common request.domainId dg)
      (hsnap : Snapshot st request.domainId dg) (hdd : dd.name = request.domaindataId) :
      Stage st ⟨o, _, updateWithGrant common generated request dd dg⟩
  | delete (o : Request) (request : DeleteDomainDataGrantRequest) :
      Stage st ⟨o, _, deleteDomainDataGrant request⟩
  | recordUse (ns name : String) (record : V1alpha1.UseRecord) :
      Stage st ⟨.consume ns name record, _, recordUse ns name record⟩
  | recordUseWithGrant (ns name : String) (record : V1alpha1.UseRecord) (dg : V1alpha1.DomainDataGrant)
      (hname : dg.name = name) (hsnap : Snapshot st ns dg) :
      Stage st ⟨.consume ns name record, _, recordUseWithGrant ns record dg⟩

/-- A call a thread can make next, with what its handler has established about the object it
writes. -/
inductive NextCall (st : Store) : Thread → Call → Prop
  | read {t : Thread} {c : Call} (hc : c.isRead = true) : NextCall st t c
  | create {t : Thread} {ns : String} {obj : V1alpha1.DomainDataGrant} (hok : GrantOk common ns obj)
      (hself : obj.spec.grantDomain ≠ obj.spec.author) (hcontroller : controllerCount obj = 1)
      (hrecords : obj.status.useRecords = [])
      (hobj : ∃ generated request dd, obj = newGrant common generated request dd)
      (howners : ∀ r ∈ obj.ownerReferences,
        ∃ dd : V1alpha1.DomainData, dd.name = obj.spec.domainDataID ∧ r = newControllerRef dd) :
      NextCall st t (.createGrant ns obj)
  | update {t : Thread} {ns : String} {obj dg : V1alpha1.DomainDataGrant}
      (hok : GrantOk common ns obj) (hdg : GrantOk common ns dg) (hsnap : Snapshot st ns dg)
      (hname : obj.name = dg.name) (hversion : obj.resourceVersion = dg.resourceVersion)
      (hid : obj.spec.domainDataID = dg.spec.domainDataID) (hstatus : obj.status = dg.status)
      (hcontroller : controllerCount obj = controllerCount dg + 1)
      (hobj : ∃ generated request dd, obj = updatedGrant common generated request dd dg)
      (howners : ∀ r ∈ obj.ownerReferences, r ∈ dg.ownerReferences ∨
        ∃ dd : V1alpha1.DomainData, dd.name = obj.spec.domainDataID ∧ r = newControllerRef dd) :
      NextCall st t (.updateGrant ns obj)
  | recordUse {t : Thread} {ns name : String} {record : V1alpha1.UseRecord}
      {dg : V1alpha1.DomainDataGrant} (horigin : t.origin = .consume ns name record)
      (hname : dg.name = name) (hsnap : Snapshot st ns dg) :
      NextCall st t (.updateGrantStatus ns (appendUseRecord dg record))
  | delete {t : Thread} {ns name : String} : NextCall st t (.deleteGrant ns name)

variable {common validateK8sName}
variable {st : Store} {t : Thread} {c : Call} {k : Except StatusError c.Ret → Prog t.resp}

theorem Request.thread_stage (r : Request) : Stage common validateK8sName st (r.thread common validateK8sName) := by
  cases r with
  | create generated request => exact .create _ generated request
  | query request => exact .readOnly (queryDomainDataGrant_readOnly request)
  | batchQuery request => exact .readOnly (batchQueryDomainDataGrant_readOnly request)
  | update generated request => exact .update _ generated request
  | delete request => exact .delete _ request
  | list request => exact .readOnly (listDomainDataGrant_readOnly common request)
  | consume ns name record => exact .recordUse ns name record

theorem Stage.mono {st' : Store} (hs : Stage common validateK8sName st t)
    (h : ∀ ns dg, Snapshot st ns dg → Snapshot st' ns dg) : Stage common validateK8sName st' t := by
  cases hs with
  | readOnly hp => exact .readOnly hp
  | create => exact .create ..
  | createWithDomainData _ _ _ _ hvalid hdd => exact .createWithDomainData _ _ _ _ hvalid hdd
  | createGrantObject _ _ _ _ hvalid hdd => exact .createGrantObject _ _ _ _ hvalid hdd
  | update => exact .update ..
  | updateWithDomainData _ _ _ _ hid hdd => exact .updateWithDomainData _ _ _ _ hid hdd
  | updateWithGrant _ _ _ _ _ hid hdomain hgrant hname hdg hsnap hdd =>
    exact .updateWithGrant _ _ _ _ _ hid hdomain hgrant hname hdg (h _ _ hsnap) hdd
  | delete => exact .delete ..
  | recordUse => exact .recordUse ..
  | recordUseWithGrant _ _ _ _ hname hsnap => exact .recordUseWithGrant _ _ _ _ hname (h _ _ hsnap)

/-- A grant handed to a thread as a successful reply is the one stored. -/
theorem getGrant_of_reply {ns name : String} {dg : V1alpha1.DomainDataGrant}
    (hr : Except.ok dg = (st.exec (.getGrant ns name)).1 ∨ ∃ e : StatusError, Except.ok dg = .error e) :
    st.getGrant ns name = some dg := by
  rcases hr with hr | ⟨_, hr⟩
  · exact Store.getGrant_of_exec hr.symm
  · cases hr

/-- A DomainData handed to a thread as a successful reply has the name asked for. -/
theorem name_of_getDomainData_reply {ns name : String} {dd : V1alpha1.DomainData}
    (hr : Except.ok dd = (st.exec (.getDomainData ns name)).1 ∨
      ∃ e : StatusError, Except.ok dd = .error e) : dd.name = name := by
  rcases hr with hr | ⟨_, hr⟩
  · simp only [Store.exec, Store.getDomainData] at hr
    split at hr
    · rename_i hdd
      cases hr
      obtain ⟨e, he, rfl⟩ := Option.map_eq_some'.mp hdd
      have hkey := List.find?_some he
      simp only [Bool.and_eq_true, decide_eq_true_eq] at hkey
      exact hkey.2
    · cases hr
  · cases hr

/-- The call a thread makes next is a read or one of the service's checked writes, and whatever
the reply, the store's own or an error, the thread goes on at a stage. A read changes no store,
so a snapshot it gives is one of the store the thread goes on with. -/
theorem Stage.call (hs : Stage common validateK8sName st t) (hp : t.prog = .call c k)
    (hstore : StoreOk st) (hgrants : GrantsOk common st) :
    NextCall common st t c ∧
      ∀ (r : Except StatusError c.Ret), (r = (st.exec c).1 ∨ ∃ e, r = .error e) →
        ∀ st' : Store, (c.isRead = true → st' = st) →
          Stage common validateK8sName st' ⟨t.origin, t.resp, k r⟩ := by
  cases hs with
  | readOnly hro =>
    rw [hp] at hro
    cases hro with
    | call hc hk => exact ⟨.read hc, fun r _ _ _ => .readOnly (hk r)⟩
  | create o generated request =>
    simp only [createDomainDataGrant] at hp
    split at hp
    · cases hp
    · rename_i hvalid
      cases hp
      refine ⟨.read rfl, fun r hr _ _ => ?_⟩
      cases r with
      | error => exact .readOnly (.pure _)
      | ok dd => exact .createWithDomainData o generated request dd hvalid (name_of_getDomainData_reply hr)
  | createWithDomainData o generated request dd hvalid hdd =>
    obtain ⟨hok, hself, hcontroller⟩ := newGrant_ok common generated validateK8sName dd hvalid
    simp only [KusciaGrant.createWithDomainData, KusciaGrant.createGrantObject] at hp
    split at hp
    · cases hp
      refine ⟨.read rfl, fun r _ _ _ => ?_⟩
      cases r with
      | error => exact .createGrantObject o generated request dd hvalid hdd
      | ok => exact .readOnly (.pure _)
    · cases hp
      exact ⟨.create hok hself hcontroller rfl ⟨generated, request, dd, rfl⟩
        (newGrant_owners common generated dd hdd),
        fun r _ _ _ => by cases r <;> exact .readOnly (.pure _)⟩
  | createGrantObject _ generated request dd hvalid hdd =>
    obtain ⟨hok, hself, hcontroller⟩ := newGrant_ok common generated validateK8sName dd hvalid
    cases hp
    exact ⟨.create hok hself hcontroller rfl ⟨generated, request, dd, rfl⟩
        (newGrant_owners common generated dd hdd),
      fun r _ _ _ => by cases r <;> exact .readOnly (.pure _)⟩
  | update o generated request =>
    simp only [updateDomainDataGrant] at hp
    split at hp
    · cases hp
    · rename_i hid
      cases hp
      refine ⟨.read rfl, fun r hr _ _ => ?_⟩
      cases r with
      | error => exact .readOnly (.pure _)
      | ok dd => exact .updateWithDomainData o generated request dd hid (name_of_getDomainData_reply hr)
  | updateWithDomainData o generated request dd hid hdd =>
    simp only [KusciaGrant.updateWithDomainData] at hp
    split at hp
    · cases hp
    · split at hp
      · cases hp
      · rename_i hdomain hgrant
        cases hp
        refine ⟨.read rfl, fun r hr st' hst' => ?_⟩
        cases r with
        | error => exact .readOnly (.pure _)
        | ok dg =>
          have hread := getGrant_of_reply hr
          rw [hst' rfl]
          exact .updateWithGrant o generated request dd dg hid hdomain hgrant (findGrant_some hread).1
            (hgrants _ (findGrant_some hread).2) (Snapshot.of_getGrant hstore hread) hdd
  | updateWithGrant _ generated request dd dg hid hdomain hgrant hname hdg hsnap hdd =>
    simp only [KusciaGrant.updateWithGrant] at hp
    split at hp
    · cases hp
    · rename_i hsame
      cases hp
      refine ⟨.update (updatedGrant_ok common generated dd dg hid hdomain) hdg hsnap ?_ rfl ?_ rfl
        (controllerCount_updatedGrant common generated request dd dg) ⟨generated, request, dd, rfl⟩
        (updatedGrant_owners common generated dd dg hdd),
        fun r _ _ _ => by cases r <;> exact .readOnly (.pure _)⟩
      · simp [updatedGrant, hgrant, hname]
      · simpa [updatedGrant] using (not_not.mp hsame).symm
  | delete =>
    cases hp
    exact ⟨.delete, fun r _ _ _ => by cases r <;> exact .readOnly (.pure _)⟩
  | recordUse ns name record =>
    cases hp
    refine ⟨.read rfl, fun r hr st' hst' => ?_⟩
    cases r with
    | error => exact .readOnly (.pure _)
    | ok dg =>
      have hread := getGrant_of_reply hr
      rw [hst' rfl]
      exact .recordUseWithGrant ns name record dg (findGrant_some hread).1
        (Snapshot.of_getGrant hstore hread)
  | recordUseWithGrant _ _ _ _ hname hsnap =>
    cases hp
    exact ⟨.recordUse rfl hname hsnap, fun _ _ _ _ => .readOnly (.pure _)⟩

end Stages

theorem GrantsOk.effect {common : Common} {st st' : Store} {c : Call} {t : Thread}
    (h : GrantsOk common st)
    (he : st.Effect c st') (hc : NextCall common st t c) : GrantsOk common st' := by
  cases he with
  | keep => exact h
  | create =>
    cases hc with
    | read hc => cases hc
    | create hok =>
      intro e he
      rcases List.mem_append.mp he with he | he
      · exact h e he
      · rw [List.mem_singleton.mp he]
        exact ⟨hok.1, hok.2, hok.3, hok.4, controllerCount_pos_of_dedup rfl hok.5⟩
  | update =>
    cases hc with
    | read hc => cases hc
    | update hok =>
      intro e he
      rcases mem_replaceGrant he with he | rfl
      · exact h e he
      · exact ⟨hok.1, hok.2, hok.3, hok.4, controllerCount_pos_of_dedup rfl hok.5⟩
  | updateStatus hold =>
    intro e he
    rcases mem_replaceGrant he with he | rfl
    · exact h e he
    · have hok := h _ (findGrant_some hold).2
      exact ⟨hok.1, hok.2, hok.3, hok.4, hok.5⟩
  | delete => exact fun e he => h e (List.mem_filter.mp he).1

section System

variable (common : Common) (validateK8sName : String → String → Option String)

/-- The invariant of the system: the store's bookkeeping, what the service's checks give every
stored grant, and the stage of every request in flight. -/
structure SystemOk (s : System) : Prop where
  store : StoreOk s.store
  grants : GrantsOk common s.store
  threads : ∀ t ∈ s.threads, Stage common validateK8sName s.store t

variable {common validateK8sName}

theorem SystemOk.nextCall {s : System} (h : SystemOk common validateK8sName s) {t : Thread}
    (ht : t ∈ s.threads) {c : Call} {k : Except StatusError c.Ret → Prog t.resp}
    (hp : t.prog = .call c k) : NextCall common s.store t c :=
  ((h.threads t ht).call hp h.store h.grants).1

theorem SystemOk.step {s s' : System} {l : Option (Request × Call)}
    (h : SystemOk common validateK8sName s) (hstep : Step common validateK8sName s l s') :
    SystemOk common validateK8sName s' := by
  cases hstep with
  | start r =>
    refine ⟨h.store, h.grants, fun t ht => ?_⟩
    rcases List.mem_append.mp ht with ht | ht
    · exact h.threads t ht
    · rw [List.mem_singleton.mp ht]
      exact Request.thread_stage r
  | commit i t c k ht hp r hr =>
    have hs := h.threads t (List.getElem?_mem ht)
    have he := s.store.exec_effect c
    have hcall := hs.call hp h.store h.grants
    refine ⟨h.store.effect he, h.grants.effect he hcall.1, fun t' ht' => ?_⟩
    rcases List.mem_or_eq_of_mem_set ht' with ht' | rfl
    · exact (h.threads t' ht').mono fun _ _ hsnap => hsnap.effect he
    · exact hcall.2 r hr _ fun hc => Store.exec_read hc _
  | fail i t c k ht hp e =>
    have hs := h.threads t (List.getElem?_mem ht)
    refine ⟨h.store, h.grants, fun t' ht' => ?_⟩
    rcases List.mem_or_eq_of_mem_set ht' with ht' | rfl
    · exact h.threads t' ht'
    · exact (hs.call hp h.store h.grants).2 _ (.inr ⟨e, rfl⟩) _ fun _ => rfl
  | domainData =>
    exact ⟨h.store, h.grants, fun t ht => (h.threads t ht).mono fun _ _ hsnap => hsnap⟩

theorem SystemOk.reach {s s' : System} (h : SystemOk common validateK8sName s)
    (hr : Reach common validateK8sName s s') : SystemOk common validateK8sName s' := by
  induction hr with
  | refl => exact h
  | tail _ hstep ih =>
    obtain ⟨_, hstep⟩ := hstep
    exact ih.step hstep

theorem reachable_systemOk {s : System} (hs : Reachable common validateK8sName s) :
    SystemOk common validateK8sName s := by
  obtain ⟨st, hst, hr⟩ := hs
  refine SystemOk.reach ⟨?_, ?_, ?_⟩ hr <;> simp [StoreOk, GrantsOk, hst]

end System

end KusciaGrant
