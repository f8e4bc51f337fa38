import KusciaGrant.Invariant

namespace KusciaGrant

open Kusciaapi

section Lifetime

variable {common : Common} {validateK8sName : String → String → Option String}

theorem Step.revision_le {s s' : System} {l : Option (Request × Call)}
    (hstep : Step common validateK8sName s l s') : s.store.revision ≤ s'.store.revision := by
  cases hstep with
  | commit _ _ c => exact (s.store.exec_effect c).revision_le
  | _ => exact Nat.le_refl _

/-- An object under a name that was free was created by the step, with a UID drawn from the
next revision. -/
theorem Step.uid_of_getGrant_none {s s' : System} {l : Option (Request × Call)}
    (hstep : Step common validateK8sName s l s') {ns name : String} {o' : V1alpha1.DomainDataGrant}
    (ho : s.store.getGrant ns name = none) (ho' : s'.store.getGrant ns name = some o') :
    o'.uid = s.store.revision + 1 := by
  cases hstep with
  | commit _ _ c =>
    obtain ⟨obj, -, rfl⟩ := (s.store.exec_effect c).getGrant_none ho ho'
    rfl
  | _ => exact absurd (ho'.symm.trans ho) (by simp)

/-- What one step does to the grant object stored under a name before and after it: the
object keeps its UID, its DomainData and its author, and its use records are unchanged or
gain, at their end, the record of the consumer whose status write the step executes. -/
theorem step_lifetime {s s' : System} {l : Option (Request × Call)}
    (hs : SystemOk common validateK8sName s) (hstep : Step common validateK8sName s l s')
    {ns name : String} {o o' : V1alpha1.DomainDataGrant}
    (ho : s.store.getGrant ns name = some o) (ho' : s'.store.getGrant ns name = some o') :
    o'.uid = o.uid ∧ o'.spec.domainDataID = o.spec.domainDataID ∧ o'.spec.author = o.spec.author ∧
      (o'.status.useRecords = o.status.useRecords ∨
        ∃ record obj, l = some (.consume ns name record, .updateGrantStatus ns obj) ∧
          o'.status.useRecords = o.status.useRecords ++ [record.roundTrip]) := by
  cases hstep with
  | commit i t c k ht hp =>
    have hc := hs.nextCall (List.getElem?_mem ht) hp
    have hnormal := hs.store.status_roundTrip ho
    rcases (s.store.exec_effect c).getGrant_some ho ho' with
      rfl | ⟨obj, rfl, rfl, hversion, rfl⟩ | ⟨obj, rfl, rfl, hversion, rfl⟩
    · exact ⟨rfl, rfl, rfl, .inl rfl⟩
    · cases hc with
      | read hc => cases hc
      | update hok _ hsnap hname hversion' hid hstatus =>
        obtain rfl := hsnap.current (hname ▸ ho) (hversion' ▸ hversion)
        have hauthor := (hs.grants _ (findGrant_some ho).2).author
        refine ⟨rfl, hid, hok.author.trans hauthor.symm, .inl ?_⟩
        simp only [Store.updated, hstatus]
        split <;> simp only [hnormal]
    · cases hc with
      | read hc => cases hc
      | recordUse horigin hname hsnap =>
        obtain rfl := hsnap.current ho hversion
        subst hname
        refine ⟨rfl, rfl, rfl, .inr ⟨_, _, by rw [horigin]; rfl, ?_⟩⟩
        have hrecords := congrArg (·.useRecords) hnormal
        simp only [V1alpha1.DomainDataGrantStatus.roundTrip_useRecords] at hrecords
        simp [Store.statusUpdated, appendUseRecord, hrecords]
  | _ =>
    obtain rfl := Option.some.inj (ho'.symm.trans ho)
    exact ⟨rfl, rfl, rfl, .inl rfl⟩

/-- Over any run, a grant object that keeps its UID keeps its DomainData and its author, and
its use records at the start are a prefix of its use records at the end. -/
theorem reach_lifetime {s s' : System} (hs : SystemOk common validateK8sName s)
    (hr : Reach common validateK8sName s s') {ns name : String} {o o' : V1alpha1.DomainDataGrant}
    (ho : s.store.getGrant ns name = some o) (ho' : s'.store.getGrant ns name = some o')
    (huid : o'.uid = o.uid) :
    o'.spec.domainDataID = o.spec.domainDataID ∧ o'.spec.author = o.spec.author ∧
      o.status.useRecords <+: o'.status.useRecords := by
  have key : ∀ s'', Reach common validateK8sName s s'' →
      SystemOk common validateK8sName s'' ∧ o.uid ≤ s''.store.revision ∧
        ∀ o'', s''.store.getGrant ns name = some o'' → o''.uid = o.uid →
          o''.spec.domainDataID = o.spec.domainDataID ∧ o''.spec.author = o.spec.author ∧
            o.status.useRecords <+: o''.status.useRecords := by
    intro s'' hr
    induction hr with
    | refl =>
      refine ⟨hs, (hs.store _ (findGrant_some ho).2).2.2.1, fun o'' ho'' _ => ?_⟩
      obtain rfl := Option.some.inj (ho''.symm.trans ho)
      exact ⟨rfl, rfl, List.prefix_refl _⟩
    | @tail mid s'' _ hstep ih =>
      obtain ⟨_, hstep⟩ := hstep
      obtain ⟨hsys, hle, hprev⟩ := ih
      refine ⟨hsys.step hstep, Nat.le_trans hle hstep.revision_le, fun o'' ho'' huid'' => ?_⟩
      rcases hmid : mid.store.getGrant ns name with _ | om
      · have := hstep.uid_of_getGrant_none hmid ho''
        omega
      · obtain ⟨hu, hid, hauthor, hrecords⟩ := step_lifetime hsys hstep hmid ho''
        obtain ⟨hid', hauthor', hprefix⟩ := hprev om hmid (hu ▸ huid'')
        refine ⟨hid.trans hid', hauthor.trans hauthor', ?_⟩
        rcases hrecords with hrecords | ⟨_, _, _, hrecords⟩
        · exact hrecords ▸ hprefix
        · exact hrecords ▸ hprefix.trans (List.prefix_append _ _)
  exact (key s' hr).2.2 o' ho' huid

/-- A store update by the service whose object is bound to another DomainData than the grant
stored under its name is refused: the store is left as it was. -/
theorem step_update_mismatch {s s' : System} {l : Option (Request × Call)}
    (hs : SystemOk common validateK8sName s) (hstep : Step common validateK8sName s l s')
    {o : Request} {ns : String} {obj old : V1alpha1.DomainDataGrant}
    (hl : l = some (o, .updateGrant ns obj)) (hold : s.store.getGrant ns obj.name = some old)
    (hid : obj.spec.domainDataID ≠ old.spec.domainDataID) : s'.store = s.store := by
  cases hstep with
  | commit i t c k ht hp =>
    simp only [Option.some.injEq, Prod.mk.injEq] at hl
    obtain ⟨-, rfl⟩ := hl
    have hc := hs.nextCall (List.getElem?_mem ht) hp
    have he := s.store.exec_effect (.updateGrant ns obj)
    show (s.store.exec _).2 = s.store
    generalize (s.store.exec (.updateGrant ns obj)).2 = st' at he ⊢
    cases he with
    | keep => rfl
    | update hold' hversion =>
      cases hc with
      | read hc => cases hc
      | update _ _ hsnap hname hversion' hid' =>
        obtain rfl := Option.some.inj (hold'.symm.trans hold)
        obtain rfl := hsnap.current (hname ▸ hold) (hversion' ▸ hversion)
        exact absurd hid' hid
  | _ => cases hl

end Lifetime

/-- `UpdateDomainDataGrant` alone against a store whose grant is bound to another DomainData
answers `RequestValidate` and writes nothing. -/
theorem updateDomainDataGrant_mismatch_run (common : Common) (generated : String) (st : Store)
    (request : UpdateDomainDataGrantRequest) {dg : V1alpha1.DomainDataGrant}
    (hdg : st.getGrant request.domainId request.domaindatagrantId = some dg)
    (hid : dg.spec.domainDataID ≠ request.domaindataId) :
    ((updateDomainDataGrant common generated request).run st).1.status.code =
        .kusciaAPIErrRequestValidate ∧
      ((updateDomainDataGrant common generated request).run st).2 = st := by
  unfold updateDomainDataGrant
  split
  · exact ⟨rfl, rfl⟩
  · simp only [Prog.run_call, Store.exec]
    cases st.getDomainData request.domainId request.domaindataId with
    | none => exact ⟨rfl, rfl⟩
    | some dd =>
      simp only [updateWithDomainData]
      split
      · exact ⟨rfl, rfl⟩
      · split
        · exact ⟨rfl, rfl⟩
        · simp only [Prog.run_call, Store.exec, hdg, updateWithGrant, if_pos hid]
          exact ⟨rfl, rfl⟩

/-- Over any interleaving from a store without grants, a stored grant keeps its UID, DomainData
and author and gains use records only by a consumer's append, and an update bound to another
DomainData writes nothing and is answered with `RequestValidate`. -/
theorem grant_lifetime (common : Common) (validateK8sName : String → String → Option String) :
    (∀ (s s' : System) (l : Option (Request × Call)), Reachable common validateK8sName s →
      Step common validateK8sName s l s' →
      ∀ (ns name : String) (o o' : V1alpha1.DomainDataGrant),
        s.store.getGrant ns name = some o → s'.store.getGrant ns name = some o' →
        o'.uid = o.uid ∧ o'.spec.domainDataID = o.spec.domainDataID ∧
          o'.spec.author = o.spec.author ∧
          (o'.status.useRecords = o.status.useRecords ∨
            ∃ record obj, l = some (.consume ns name record, .updateGrantStatus ns obj) ∧
              o'.status.useRecords = o.status.useRecords ++ [record.roundTrip])) ∧
    (∀ s s' : System, Reachable common validateK8sName s → Reach common validateK8sName s s' →
      ∀ (ns name : String) (o o' : V1alpha1.DomainDataGrant),
        s.store.getGrant ns name = some o → s'.store.getGrant ns name = some o' → o'.uid = o.uid →
        o'.spec.domainDataID = o.spec.domainDataID ∧ o'.spec.author = o.spec.author ∧
          o.status.useRecords <+: o'.status.useRecords) ∧
    (∀ (s s' : System) (r : Request) (ns : String) (obj old : V1alpha1.DomainDataGrant),
      Reachable common validateK8sName s →
      Step common validateK8sName s (some (r, .updateGrant ns obj)) s' →
      s.store.getGrant ns obj.name = some old → obj.spec.domainDataID ≠ old.spec.domainDataID →
      s'.store = s.store) ∧
    (∀ (generated : String) (st : Store) (request : UpdateDomainDataGrantRequest)
      (dg : V1alpha1.DomainDataGrant),
      st.getGrant request.domainId request.domaindatagrantId = some dg →
      dg.spec.domainDataID ≠ request.domaindataId →
      ((updateDomainDataGrant common generated request).run st).1.status.code =
          .kusciaAPIErrRequestValidate ∧
        ((updateDomainDataGrant common generated request).run st).2 = st) :=
  ⟨fun _ _ _ hs hstep _ _ _ _ ho ho' => step_lifetime (reachable_systemOk hs) hstep ho ho',
    fun _ _ hs hr _ _ _ _ ho ho' huid => reach_lifetime (reachable_systemOk hs) hr ho ho' huid,
    fun _ _ _ _ _ _ hs hstep hold hid =>
      step_update_mismatch (reachable_systemOk hs) hstep rfl hold hid,
    fun generated st request _ hdg hid =>
      updateDomainDataGrant_mismatch_run common generated st request hdg hid⟩

/-- An update reads grant-1 on data-1, then grant-1 is deleted and created again on data-2 before
the update writes: the write, bound to data-1, leaves the store as it was. -/
theorem grant_lifetime_update_after_recreate :
    let common : Common :=
      ⟨"kuscia.secretflow/domaindatagrant-vendor", "kuscia.secretflow/domaindatagrant-domain"⟩
    ∃ s s' r obj old, Reachable common (fun _ _ => none) s ∧
      Step common (fun _ _ => none) s (some (r, .updateGrant "alice" obj)) s' ∧
      s.store.getGrant "alice" obj.name = some old ∧ obj.spec.domainDataID = "data-1" ∧
      old.spec.domainDataID = "data-2" ∧ s'.store = s.store := by
  intro common
  let st : Store := ⟨[("alice", ⟨"data-1", 1⟩), ("alice", ⟨"data-2", 2⟩)], [], 0, fun _ => true, true,
    fun _ => true⟩
  let create (domaindataId : String) := Request.create ""
    { domainId := "alice", domaindataId := domaindataId, grantDomain := "bob",
      domaindatagrantId := "grant-1" }
  let update := Request.update ""
    { domainId := "alice", domaindatagrantId := "grant-1", domaindataId := "data-1",
      grantDomain := "carol" }
  let delete := Request.delete { domainId := "alice", domaindatagrantId := "grant-1" }
  have hstarted : Reach common (fun _ _ => none) ⟨st, []⟩
      ⟨st, [update.thread common (fun _ _ => none)]⟩ := .single ⟨_, Step.start ⟨st, []⟩ update⟩
  obtain ⟨_, hcreated⟩ := Reach.serve common (fun _ _ => none) hstarted [create "data-1"]
  have hread := Reach.tail_commit common (fun _ _ => none)
    (Reach.tail_commit common (fun _ _ => none) hcreated 0 List.getElem?_cons_zero rfl) 0
    List.getElem?_cons_zero rfl
  obtain ⟨_, hrecreated⟩ := Reach.serve common (fun _ _ => none) hread [delete, create "data-2"]
  obtain ⟨s, hs, hsdef⟩ : ∃ s, Reachable common (fun _ _ => none) s ∧ s = _ :=
    ⟨_, ⟨st, rfl, hrecreated⟩, rfl⟩
  have hstep := @Step.commit common (fun _ _ => none) s 0 _ _ _
    (by rw [hsdef]; exact List.getElem?_cons_zero) (by rfl) _ (.inl rfl)
  have hmap : (s.store.getGrant "alice" "grant-1").map (·.spec.domainDataID) = some "data-2" := by
    rw [hsdef]
    dsimp only
    decide
  obtain ⟨old, hold, hold'⟩ := Option.map_eq_some'.mp hmap
  exact ⟨s, _, _, _, old, hs, hstep, hold, rfl, hold',
    (grant_lifetime common (fun _ _ => none)).2.2.1 s _ _ _ _ old hs hstep hold (by rw [hold']; decide)⟩

section Keys

variable {common : Common} {validateK8sName : String → String → Option String}

end Keys

end KusciaGrant
