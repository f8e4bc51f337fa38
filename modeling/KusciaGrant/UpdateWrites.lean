import KusciaGrant.Lifetime

namespace KusciaGrant

open Kusciaapi

section Reachable

variable {common : Common} {validateK8sName : String → String → Option String}

/-- In every reachable state each stored grant of namespace `ns` has `ns` as its author, a
DomainData id and a grant domain, the grant-domain label equal to its grant domain, and a
controller reference. -/
theorem reachable_grantOk {s : System} (hs : Reachable common validateK8sName s) :
    ∀ e ∈ s.store.grants, GrantOk common e.1 e.2 :=
  (reachable_systemOk hs).grants

theorem reachable_grantOk_after_create :
    let common : Common :=
      ⟨"kuscia.secretflow/domaindatagrant-vendor", "kuscia.secretflow/domaindatagrant-domain"⟩
    let st := Store.serve common (fun _ _ => none)
      ⟨[("alice", ⟨"data-1", 1⟩)], [], 0, fun _ => true, true, fun _ => true⟩
      [.create "" { domainId := "alice", domaindataId := "data-1", grantDomain := "bob",
                    domaindatagrantId := "grant-1" }]
    ∃ threads, Reachable common (fun _ _ => none) ⟨st, threads⟩ ∧
      ∀ e ∈ st.grants, GrantOk common e.1 e.2 := by
  intro common st
  obtain ⟨threads, hreach⟩ := reachable_serve common (fun _ _ => none)
    ⟨[("alice", ⟨"data-1", 1⟩)], [], 0, fun _ => true, true, fun _ => true⟩ rfl
    [.create "" { domainId := "alice", domaindataId := "data-1", grantDomain := "bob",
                  domaindatagrantId := "grant-1" }]
  exact ⟨threads, hreach, reachable_grantOk hreach⟩

/-- Every object the service hands to the store's create has one controller reference, and every
object it hands to the store's update has at least two: the update appends a controller
reference to a grant that already has one. -/
theorem reachable_write_controllers {s : System} (hs : Reachable common validateK8sName s)
    {t : Thread} (ht : t ∈ s.threads) {c : Call} {k : Except StatusError c.Ret → Prog t.resp}
    (hp : t.prog = .call c k) :
    (∀ ns obj, c = .createGrant ns obj → controllerCount obj = 1) ∧
      (∀ ns obj, c = .updateGrant ns obj → 2 ≤ controllerCount obj) := by
  cases (reachable_systemOk hs).nextCall ht hp with
  | create _ _ hcontroller =>
    refine ⟨fun _ _ h => ?_, fun _ _ h => by cases h⟩
    cases h
    exact hcontroller
  | update _ hdg _ _ _ _ _ hcontroller =>
    refine ⟨fun _ _ h => (by cases h), fun _ _ h => ?_⟩
    cases h
    have := hdg.controller
    omega
  | read hc => exact ⟨fun _ _ h => (by subst h; cases hc), fun _ _ h => (by subst h; cases hc)⟩
  | _ => exact ⟨fun _ _ h => (by cases h), fun _ _ h => (by cases h)⟩

/-- A create, then an update started after it and run up to its write: the object it is about
to hand to the store's update carries two controller references. -/
theorem reachable_write_controllers_update_at_write :
    let common : Common :=
      ⟨"kuscia.secretflow/domaindatagrant-vendor", "kuscia.secretflow/domaindatagrant-domain"⟩
    ∃ s t obj k, Reachable common (fun _ _ => none) s ∧ t ∈ s.threads ∧
      t.prog = .call (.updateGrant "alice" obj) k ∧
      (∀ ns obj', Call.updateGrant "alice" obj = .createGrant ns obj' → controllerCount obj' = 1) ∧
      (∀ ns obj', Call.updateGrant "alice" obj = .updateGrant ns obj' → 2 ≤ controllerCount obj') := by
  intro common
  let st : Store := ⟨[("alice", ⟨"data-1", 1⟩)], [], 0, fun _ => true, true, fun _ => true⟩
  let create := Request.create ""
    { domainId := "alice", domaindataId := "data-1", grantDomain := "bob",
      domaindatagrantId := "grant-1" }
  let update := Request.update ""
    { domainId := "alice", domaindatagrantId := "grant-1", domaindataId := "data-1",
      grantDomain := "carol" }
  have hrun := reach_run common (fun _ _ => none) ⟨st, [create.thread common (fun _ _ => none)]⟩ 0 _ rfl
  have hcreated := (Relation.ReflTransGen.single ⟨_, Step.start ⟨st, []⟩ create⟩).trans hrun
  have hread := Reach.tail_commit common (fun _ _ => none)
    (Reach.tail_commit common (fun _ _ => none) (hcreated.tail ⟨_, Step.start _ update⟩) 1 rfl rfl)
    1 rfl rfl
  have hs : Reachable common (fun _ _ => none) _ := ⟨st, rfl, hread⟩
  refine ⟨_, _, _, _, hs, @List.getElem?_mem _ _ 1 _ (by rfl), by rfl, ?_⟩
  exact reachable_write_controllers hs (@List.getElem?_mem _ _ 1 _ (by rfl)) (by rfl)

/-- An update write the store takes is a read-modify-write of the object stored at that moment:
the service computed the written object from exactly that object, so no write in between is
lost. -/
theorem reachable_update_current {s s' : System} {l : Option (Request × Call)}
    (hs : Reachable common validateK8sName s) (hstep : Step common validateK8sName s l s')
    {r : Request} {ns : String} {obj : V1alpha1.DomainDataGrant}
    (hl : l = some (r, .updateGrant ns obj)) (hchanged : s'.store ≠ s.store) :
    ∃ generated request dd old, s.store.getGrant ns obj.name = some old ∧
      obj = updatedGrant common generated request dd old ∧
      s'.store.getGrant ns obj.name = some (s.store.updated obj old) := by
  cases hstep with
  | commit i t c k ht hp =>
    simp only [Option.some.injEq, Prod.mk.injEq] at hl
    obtain ⟨-, rfl⟩ := hl
    have hc := (reachable_systemOk hs).nextCall (List.getElem?_mem ht) hp
    have he := s.store.exec_effect (.updateGrant ns obj)
    generalize (s.store.exec (.updateGrant ns obj)).2 = st' at he hchanged ⊢
    cases he with
    | keep => exact absurd rfl hchanged
    | update hold hversion =>
      cases hc with
      | read hc => cases hc
      | update _ _ hsnap hname hversion' _ _ _ hobj =>
        obtain rfl := hsnap.current (hname ▸ hold) (hversion' ▸ hversion)
        obtain ⟨generated, request, dd, hobj⟩ := hobj
        refine ⟨generated, request, dd, _, hold, hobj, ?_⟩
        simp only [Store.getGrant] at hold ⊢
        simp [findGrant_replaceGrant ns obj.name (s.store.updated obj _) rfl, hold]
  | _ => cases hl

/-- A create, then an update started after it and run up to its write: the store takes the
write, and the written object was computed from the grant stored at that moment. -/
theorem reachable_update_current_after_create :
    let common : Common :=
      ⟨"kuscia.secretflow/domaindatagrant-vendor", "kuscia.secretflow/domaindatagrant-domain"⟩
    ∃ s s' r obj, Reachable common (fun _ _ => none) s ∧
      Step common (fun _ _ => none) s (some (r, .updateGrant "alice" obj)) s' ∧ s'.store ≠ s.store ∧
      ∃ generated request dd old, s.store.getGrant "alice" obj.name = some old ∧
        obj = updatedGrant common generated request dd old ∧
        s'.store.getGrant "alice" obj.name = some (s.store.updated obj old) := by
  intro common
  let st : Store := ⟨[("alice", ⟨"data-1", 1⟩)], [], 0, fun _ => true, true, fun _ => true⟩
  let create := Request.create ""
    { domainId := "alice", domaindataId := "data-1", grantDomain := "bob",
      domaindatagrantId := "grant-1" }
  let update := Request.update ""
    { domainId := "alice", domaindatagrantId := "grant-1", domaindataId := "data-1",
      grantDomain := "carol" }
  have hrun := reach_run common (fun _ _ => none) ⟨st, [create.thread common (fun _ _ => none)]⟩ 0 _ rfl
  have hcreated := (Relation.ReflTransGen.single ⟨_, Step.start ⟨st, []⟩ create⟩).trans hrun
  have hread := Reach.tail_commit common (fun _ _ => none)
    (Reach.tail_commit common (fun _ _ => none) (hcreated.tail ⟨_, Step.start _ update⟩) 1 rfl rfl)
    1 rfl rfl
  have hs : Reachable common (fun _ _ => none) _ := ⟨st, rfl, hread⟩
  have hne : ∀ st st' : Store, st'.revision ≠ st.revision → st' ≠ st := fun _ _ h heq => h (heq ▸ rfl)
  exact ⟨_, _, _, _, hs, Step.commit _ 1 _ _ _ (by rfl) (by rfl) _ (.inl rfl), hne _ _ (by decide),
    reachable_update_current hs (Step.commit _ 1 _ _ _ (by rfl) (by rfl) _ (.inl rfl)) rfl
      (hne _ _ (by decide))⟩

/-- Every owner reference of a stored grant is a controller reference to a DomainData of the name
the grant is bound to. -/
def OwnersBound (st : Store) : Prop :=
  ∀ e ∈ st.grants, ∀ r ∈ e.2.ownerReferences,
    ∃ dd : V1alpha1.DomainData, dd.name = e.2.spec.domainDataID ∧ r = newControllerRef dd

/-- A create owns its grant by the DomainData it read by name; an update keeps the owners of the
grant it read, which the version check makes the stored one, and adds the DomainData it read by
the same name, since it refuses to change the grant's DomainData. -/
theorem OwnersBound.step {s s' : System} {l : Option (Request × Call)}
    (hsys : SystemOk common validateK8sName s) (h : OwnersBound s.store)
    (hstep : Step common validateK8sName s l s') : OwnersBound s'.store := by
  cases hstep with
  | commit i t c k ht hp =>
    have hc := hsys.nextCall (List.getElem?_mem ht) hp
    have he := s.store.exec_effect c
    show OwnersBound (s.store.exec c).2
    generalize (s.store.exec c).2 = st' at he ⊢
    cases he with
    | keep => exact h
    | create =>
      cases hc with
      | read hc => cases hc
      | create _ _ _ _ _ howners =>
        intro e he
        rcases List.mem_append.mp he with he | he
        · exact h e he
        · rw [List.mem_singleton.mp he]
          exact fun r hr => howners r (mem_dedupOwnerReferences.mp hr)
    | update hold hversion =>
      cases hc with
      | read hc => cases hc
      | update _ _ hsnap hname hversion' hid _ _ _ howners =>
        obtain rfl := hsnap.current (hname ▸ hold) (hversion' ▸ hversion)
        intro e he
        rcases mem_replaceGrant he with he | rfl
        · exact h e he
        · intro r hr
          rcases howners r (mem_dedupOwnerReferences.mp hr) with hr | hr
          · obtain ⟨dd, hdd, rfl⟩ := h _ (findGrant_some hold).2 r hr
            exact ⟨dd, hdd.trans hid.symm, rfl⟩
          · exact hr
    | @updateStatus ns obj old hold =>
      intro e he
      rcases mem_replaceGrant he with he | rfl
      · exact h e he
      · exact h (_, old) (findGrant_some hold).2
    | delete => exact fun e he => h e (List.mem_filter.mp he).1
  | _ => exact h

/-- In every reachable state, under any interleaving and whatever DomainData objects come and go
outside the service, every owner reference of every stored grant is a controller reference to a
DomainData of the name the grant is bound to. -/
theorem reachable_ownersBound {s : System} (hs : Reachable common validateK8sName s) :
    OwnersBound s.store := by
  obtain ⟨st, hst, hr⟩ := hs
  induction hr with
  | refl => simp [OwnersBound, hst]
  | @tail mid _ hmid hstep ih =>
    obtain ⟨_, hstep⟩ := hstep
    exact OwnersBound.step (reachable_systemOk ⟨st, hst, hmid⟩) ih hstep

/-- A create, then the DomainData replaced by a new object of the same name, then an update: the
grant has two controller references, to two different DomainData objects, both of the name it is
bound to. -/
theorem reachable_ownersBound_after_domainData_change :
    let common : Common :=
      ⟨"kuscia.secretflow/domaindatagrant-vendor", "kuscia.secretflow/domaindatagrant-domain"⟩
    ∃ s, Reachable common (fun _ _ => none) s ∧
      (∃ e ∈ s.store.grants, e.2.ownerReferences.map (fun r => (r.name, r.uid)) =
        [("data-1", 1), ("data-1", 2)]) ∧
      OwnersBound s.store := by
  intro common
  obtain ⟨threads, st, hst, hcreated⟩ := reachable_serve common (fun _ _ => none)
    ⟨[("alice", ⟨"data-1", 1⟩)], [], 0, fun _ => true, true, fun _ => true⟩ rfl
    [.create "" { domainId := "alice", domaindataId := "data-1", grantDomain := "bob",
                  domaindatagrantId := "grant-1" }]
  have hreplaced := hcreated.tail ⟨_, .domainData _ [("alice", ⟨"data-1", 2⟩)]⟩
  obtain ⟨threads', hupdated⟩ := reach_serve common (fun _ _ => none) _
    [.update "" { domainId := "alice", domaindatagrantId := "grant-1", domaindataId := "data-1",
                  grantDomain := "carol" }]
  have hs : Reachable common (fun _ _ => none) _ := ⟨st, hst, hreplaced.trans hupdated⟩
  exact ⟨_, hs, by dsimp only; decide, reachable_ownersBound hs⟩

end Reachable

/-- A create then an update that names the author as the grant domain, served one after the
other from a store without grants that accepts both writes, leave a self-grant. -/
theorem updateDomainDataGrant_self_grant :
    let common : Common :=
      ⟨"kuscia.secretflow/domaindatagrant-vendor", "kuscia.secretflow/domaindatagrant-domain"⟩
    let st := Store.serve common (fun _ _ => none)
      ⟨[("alice", ⟨"data-1", 1⟩)], [], 0, fun _ => true, true, fun _ => true⟩
      [.create "" { domainId := "alice", domaindataId := "data-1", grantDomain := "bob",
                    domaindatagrantId := "grant-1" },
       .update "" { domainId := "alice", domaindatagrantId := "grant-1", domaindataId := "data-1",
                    grantDomain := "alice" }]
    (∃ threads, Reachable common (fun _ _ => none) ⟨st, threads⟩) ∧
      ∃ e ∈ st.grants, e.1 = "alice" ∧ e.2.spec.author = "alice" ∧ e.2.spec.grantDomain = "alice" := by
  intro common st
  exact ⟨reachable_serve common _ _ rfl _, by decide⟩

/-- After a create, the object an update hands to the store carries the controller reference
to the DomainData twice. -/
theorem updateDomainDataGrant_second_controller_reference :
    let common : Common :=
      ⟨"kuscia.secretflow/domaindatagrant-vendor", "kuscia.secretflow/domaindatagrant-domain"⟩
    let st := Store.serve common (fun _ _ => none)
      ⟨[("alice", ⟨"data-1", 1⟩)], [], 0, fun _ => true, true, fun _ => true⟩
      [.create "" { domainId := "alice", domaindataId := "data-1", grantDomain := "bob",
                    domaindatagrantId := "grant-1" }]
    (∃ threads, Reachable common (fun _ _ => none) ⟨st, threads⟩) ∧
      ((updateDomainDataGrant common ""
          { domainId := "alice", domaindatagrantId := "grant-1", domaindataId := "data-1",
            grantDomain := "carol" }).trace st).filterMap
        (fun c => match c with
          | .updateGrant _ obj => some obj.ownerReferences
          | _ => none) =
        [[newControllerRef ⟨"data-1", 1⟩, newControllerRef ⟨"data-1", 1⟩]] := by
  intro common st
  exact ⟨reachable_serve common _ _ rfl _, by decide⟩

end KusciaGrant
