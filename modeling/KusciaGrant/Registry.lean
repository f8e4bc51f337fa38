import KusciaGrant.UpdateWrites

namespace KusciaGrant

/-- Modelled from the spec: a grant as its users see it, the domain that grants, the DomainData
it grants, the domain it is granted to, and the uses recorded against it. -/
structure Grant where
  author : String
  domainDataID : String
  grantDomain : String
  useRecords : List V1alpha1.UseRecord
deriving DecidableEq, Repr

/-- Modelled from the spec: the grants of every namespace, by name. -/
def Registry : Type := String → String → Option Grant

/-- The registry with the grant `name` of namespace `ns` set to `g`. -/
def Registry.set (a : Registry) (ns name : String) (g : Option Grant) : Registry :=
  fun ns' name' => if ns = ns' ∧ name = name' then g else a ns' name'

@[simp] theorem Registry.set_self (a : Registry) (ns name : String) (g : Option Grant) :
    a.set ns name g ns name = g := if_pos ⟨rfl, rfl⟩

/-- Modelled from the spec: what the grant service is for, a grant created by its author with no
use yet, regranted to another domain, used, or deleted. -/
inductive RegistryStep : Registry → Registry → Prop
  | create {a : Registry} {ns name : String} {g : Grant} (hfree : a ns name = none)
      (hauthor : g.author = ns) (hid : g.domainDataID ≠ "") (hdomain : g.grantDomain ≠ "")
      (hself : g.grantDomain ≠ g.author) (hrecords : g.useRecords = []) :
      RegistryStep a (a.set ns name (some g))
  | update {a : Registry} {ns name : String} {g : Grant} (grantDomain : String)
      (hold : a ns name = some g) (hdomain : grantDomain ≠ "") (hself : grantDomain ≠ g.author) :
      RegistryStep a (a.set ns name (some { g with grantDomain := grantDomain }))
  | use {a : Registry} {ns name : String} {g : Grant} (record : V1alpha1.UseRecord)
      (hold : a ns name = some g) :
      RegistryStep a (a.set ns name (some { g with useRecords := g.useRecords ++ [record] }))
  | delete (a : Registry) (ns name : String) : RegistryStep a (a.set ns name none)

/-- An update that grants a grant to its own author, which `RegistryStep` does not allow. -/
def SelfGrantUpdate (a a' : Registry) : Prop :=
  ∃ ns name g, a ns name = some g ∧ a' = a.set ns name (some { g with grantDomain := g.author })

/-- The grant a stored object is. -/
def Grant.ofObject (g : V1alpha1.DomainDataGrant) : Grant :=
  ⟨g.spec.author, g.spec.domainDataID, g.spec.grantDomain, g.status.useRecords⟩

/-- The registry a store holds: the object each lookup of a name finds. -/
def Store.registry (st : Store) : Registry :=
  fun ns name => (st.getGrant ns name).map Grant.ofObject

section Refinement

variable {st st' : Store} {ns : String}

theorem Store.registry_of_getGrant {name : String} {g : V1alpha1.DomainDataGrant}
    (h : st.getGrant ns name = some g) : st.registry ns name = some (Grant.ofObject g) := by
  simp [Store.registry, h]

theorem Store.registry_nil (h : st.grants = []) : st.registry = fun _ _ => none := by
  funext ns name
  simp [Store.registry, Store.getGrant, findGrant, h]

/-- A create adds the object under its name. -/
theorem Store.registry_append {obj : V1alpha1.DomainDataGrant}
    (hgrants : st'.grants = st.grants ++ [(ns, obj)]) (hnew : st.getGrant ns obj.name = none) :
    st'.registry = st.registry.set ns obj.name (some (Grant.ofObject obj)) := by
  funext ns' name'
  simp only [Store.registry, Store.getGrant, hgrants, findGrant_append, Registry.set]
  split
  · rename_i hk
    obtain ⟨rfl, rfl⟩ := hk
    simp only [Store.getGrant] at hnew
    simp [hnew]
  · simp

/-- An update or a status write puts the new object in place of the old. -/
theorem Store.registry_replace {name : String} {obj old : V1alpha1.DomainDataGrant}
    (hgrants : st'.grants = replaceGrant st.grants ns name obj) (hobj : obj.name = name)
    (hold : st.getGrant ns name = some old) :
    st'.registry = st.registry.set ns name (some (Grant.ofObject obj)) := by
  funext ns' name'
  simp only [Store.registry, Store.getGrant, hgrants, findGrant_replaceGrant ns name obj hobj,
    Registry.set]
  split
  · rename_i hk
    obtain ⟨rfl, rfl⟩ := hk
    simp only [Store.getGrant] at hold
    simp [hold]
  · rfl

/-- A delete removes the name. -/
theorem Store.registry_filter {name : String}
    (hgrants : st'.grants = st.grants.filter fun e => !isKey ns name e) :
    st'.registry = st.registry.set ns name none := by
  funext ns' name'
  simp only [Store.registry, Store.getGrant, hgrants, findGrant_filter, Registry.set]
  split <;> rfl

variable {common : Common} {validateK8sName : String → String → Option String}

/-- One step of the system is no step of the registry, or one, or an update that grants a grant
to its author. -/
theorem Step.registry {s s' : System} {l : Option (Request × Call)}
    (hs : SystemOk common validateK8sName s) (hstep : Step common validateK8sName s l s') :
    s'.store.registry = s.store.registry ∨ RegistryStep s.store.registry s'.store.registry ∨
      SelfGrantUpdate s.store.registry s'.store.registry := by
  cases hstep with
  | commit i t c k ht hp =>
    have hc := hs.nextCall (List.getElem?_mem ht) hp
    have he := s.store.exec_effect c
    show (s.store.exec c).2.registry = _ ∨ RegistryStep _ (s.store.exec c).2.registry ∨
      SelfGrantUpdate _ (s.store.exec c).2.registry
    generalize (s.store.exec c).2 = st' at he ⊢
    cases he with
    | keep => exact .inl rfl
    | @create ns obj hnew =>
      cases hc with
      | read hc => cases hc
      | create hok hself _ hrecords =>
        have hstatus : (s.store.created obj).status.useRecords = [] := by
          simp only [Store.created]
          split <;> simp [hrecords]
        rw [@Store.registry_append s.store _ ns (s.store.created obj) rfl hnew]
        have hfree : s.store.registry ns (s.store.created obj).name = none := by
          simp [Store.registry, Store.created, hnew]
        exact .inr (.inl (.create hfree hok.author hok.domainDataID hok.grantDomain hself hstatus))
    | @update ns obj old hold hversion hadmits =>
      cases hc with
      | read hc => cases hc
      | update hok hdg hsnap hname hversion' hid hstatus hcontroller =>
        obtain rfl := hsnap.current (hname ▸ hold) (hversion' ▸ hversion)
        have hrecords : (s.store.updated obj old).status.useRecords = old.status.useRecords := by
          simp only [Store.updated]
          split <;> simp [hstatus, hs.store.status_roundTrip hold]
        have hg : Grant.ofObject (s.store.updated obj old) =
            { Grant.ofObject old with grantDomain := obj.spec.grantDomain } := by
          show (⟨obj.spec.author, obj.spec.domainDataID, obj.spec.grantDomain,
            (s.store.updated obj old).status.useRecords⟩ : Grant) =
            ⟨old.spec.author, old.spec.domainDataID, obj.spec.grantDomain, old.status.useRecords⟩
          rw [hok.author.trans hdg.author.symm, hid, hrecords]
        have hold' := Store.registry_of_getGrant hold
        rw [@Store.registry_replace s.store _ ns obj.name (s.store.updated obj old) old rfl rfl hold, hg]
        by_cases hself : obj.spec.grantDomain = old.spec.author
        · exact .inr (.inr ⟨ns, obj.name, _, hold', by rw [hself]; rfl⟩)
        · exact .inr (.inl (.update _ hold' hok.grantDomain hself))
    | @updateStatus ns obj old hold hversion =>
      cases hc with
      | read hc => cases hc
      | @recordUse _ _ record _ _ _ hsnap =>
        obtain rfl := hsnap.current hold hversion
        have hrecords := congrArg (·.useRecords) (hs.store.status_roundTrip hold)
        simp only [V1alpha1.DomainDataGrantStatus.roundTrip_useRecords] at hrecords
        have hg : Grant.ofObject (s.store.statusUpdated (appendUseRecord old record) old) =
            { Grant.ofObject old with useRecords := old.status.useRecords ++ [record.roundTrip] } := by
          simp [Grant.ofObject, Store.statusUpdated, appendUseRecord, hrecords]
        rw [@Store.registry_replace s.store _ ns _ (s.store.statusUpdated _ _) _ rfl rfl hold, hg]
        exact .inr (.inl (.use _ (Store.registry_of_getGrant hold)))
    | delete =>
      rw [@Store.registry_filter s.store _ _ _ rfl]
      exact .inr (.inl (.delete _ _ _))
  | _ => exact .inl rfl

/-- Every run of the service and its consumers from a store without grants is, seen through the
registry, a run of the registry in which an update may also grant a grant to its author. -/
theorem reachable_registry {s : System} (hs : Reachable common validateK8sName s) :
    Relation.ReflTransGen (fun a a' => RegistryStep a a' ∨ SelfGrantUpdate a a')
      (fun _ _ => none) s.store.registry := by
  obtain ⟨st, hst, hr⟩ := hs
  induction hr with
  | refl => rw [Store.registry_nil hst]
  | @tail mid _ hmid hstep ih =>
    obtain ⟨_, hstep⟩ := hstep
    rcases hstep.registry (reachable_systemOk ⟨st, hst, hmid⟩) with h | h | h
    · exact h ▸ ih
    · exact ih.tail (.inl h)
    · exact ih.tail (.inr h)

theorem reachable_registry_after_self_grant :
    let common : Common :=
      ⟨"kuscia.secretflow/domaindatagrant-vendor", "kuscia.secretflow/domaindatagrant-domain"⟩
    let st := Store.serve common (fun _ _ => none)
      ⟨[("alice", ⟨"data-1", 1⟩)], [], 0, fun _ => true, true, fun _ => true⟩
      [.create "" { domainId := "alice", domaindataId := "data-1", grantDomain := "bob",
                    domaindatagrantId := "grant-1" },
       .update "" { domainId := "alice", domaindatagrantId := "grant-1", domaindataId := "data-1",
                    grantDomain := "alice" }]
    ∃ threads, Reachable common (fun _ _ => none) ⟨st, threads⟩ ∧
      st.registry "alice" "grant-1" = some ⟨"alice", "data-1", "alice", []⟩ ∧
      Relation.ReflTransGen (fun a a' => RegistryStep a a' ∨ SelfGrantUpdate a a')
        (fun _ _ => none) st.registry := by
  intro common st
  obtain ⟨threads, hreach⟩ : ∃ threads, Reachable common (fun _ _ => none) ⟨st, threads⟩ :=
    reachable_serve common (fun _ _ => none) _ rfl _
  have hgrant : st.registry "alice" "grant-1" = some ⟨"alice", "data-1", "alice", []⟩ := by decide
  clear_value st
  exact ⟨threads, hreach, hgrant, reachable_registry hreach⟩

end Refinement

end KusciaGrant
