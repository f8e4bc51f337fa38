import KusciaGrant.BatchQuery
import Mathlib.Logic.Relation

namespace KusciaGrant

open Kusciaapi

/-- The status a consumer writes back: the grant read, with one more use record. -/
def appendUseRecord (dg : V1alpha1.DomainDataGrant) (record : V1alpha1.UseRecord) :
    V1alpha1.DomainDataGrant :=
  { dg with status := { dg.status with useRecords := dg.status.useRecords ++ [record] } }

def recordUseWithGrant (ns : String) (record : V1alpha1.UseRecord) (dg : V1alpha1.DomainDataGrant) :
    Prog Unit :=
  .call (.updateGrantStatus ns (appendUseRecord dg record)) fun _ => .pure ()

/-- Modelled from the spec: an external consumer records a use of the grant `name`. It reads
the grant and writes its status back with the record appended, carrying the version it read,
so that a write in between makes its own write fail. -/
def recordUse (ns name : String) (record : V1alpha1.UseRecord) : Prog Unit :=
  .call (.getGrant ns name) fun
    | .error _ => .pure ()
    | .ok dg => recordUseWithGrant ns record dg

theorem listDomainDataGrant_readOnly (common : Common) (request : ListDomainDataGrantRequest) :
    (listDomainDataGrant common request).ReadOnly := by
  simp only [listDomainDataGrant]
  split
  · exact .pure _
  · split
    · exact .pure _
    · exact .call rfl fun r => by cases r <;> exact .pure _

/-- A request to the service, or a consumer's append. Create and update carry what
`common.GenDomainDataID` returns for them. -/
inductive Request where
  | create (generated : String) (request : CreateDomainDataGrantRequest)
  | query (request : QueryDomainDataGrantRequest)
  | batchQuery (request : BatchQueryDomainDataGrantRequest)
  | update (generated : String) (request : UpdateDomainDataGrantRequest)
  | delete (request : DeleteDomainDataGrantRequest)
  | list (request : ListDomainDataGrantRequest)
  | consume (ns name : String) (record : V1alpha1.UseRecord)
deriving DecidableEq, Repr

/-- A request being served: what is left of its handler. -/
structure Thread where
  origin : Request
  resp : Type
  prog : Prog resp

/-- The store and the requests in flight. -/
structure System where
  store : Store
  threads : List Thread

section Service

variable (common : Common) (validateK8sName : String → String → Option String)

/-- The handler a request starts. -/
def Request.thread : Request → Thread
  | r@(.create generated request) =>
    ⟨r, _, createDomainDataGrant common generated validateK8sName request⟩
  | r@(.query request) => ⟨r, _, queryDomainDataGrant request⟩
  | r@(.batchQuery request) => ⟨r, _, batchQueryDomainDataGrant request⟩
  | r@(.update generated request) => ⟨r, _, updateDomainDataGrant common generated request⟩
  | r@(.delete request) => ⟨r, _, deleteDomainDataGrant request⟩
  | r@(.list request) => ⟨r, _, listDomainDataGrant common request⟩
  | r@(.consume ns name record) => ⟨r, _, recordUse ns name record⟩

/-- One step of the system: a request arrives, a handler's next call is executed atomically by
the store (labelled with the call and its request) or fails on the way, or a DomainData is
created or deleted outside the service. -/
inductive Step : System → Option (Request × Call) → System → Prop
  | start (s : System) (r : Request) :
      Step s none ⟨s.store, s.threads ++ [r.thread common validateK8sName]⟩
  | commit (s : System) (i : Nat) (t : Thread) (c : Call) (k : Except StatusError c.Ret → Prog t.resp)
      (ht : s.threads[i]? = some t) (hp : t.prog = .call c k) (r : Except StatusError c.Ret)
      (hr : r = (s.store.exec c).1 ∨ ∃ e, r = .error e) :
      Step s (some (t.origin, c)) ⟨(s.store.exec c).2, s.threads.set i ⟨t.origin, t.resp, k r⟩⟩
  | fail (s : System) (i : Nat) (t : Thread) (c : Call) (k : Except StatusError c.Ret → Prog t.resp)
      (ht : s.threads[i]? = some t) (hp : t.prog = .call c k) (e : StatusError) :
      Step s none ⟨s.store, s.threads.set i ⟨t.origin, t.resp, k (.error e)⟩⟩
  | domainData (s : System) (domainDatas : List (String × V1alpha1.DomainData)) :
      Step s none ⟨{ s.store with domainDatas := domainDatas }, s.threads⟩

/-- Any number of steps. -/
def Reach : System → System → Prop :=
  Relation.ReflTransGen fun s s' => ∃ l, Step common validateK8sName s l s'

/-- What a store without grants reaches, with any DomainData objects, any server validation
and any client requests. -/
def Reachable (s : System) : Prop :=
  ∃ st : Store, st.grants = [] ∧ Reach common validateK8sName ⟨st, []⟩ s

theorem set_self_of_getElem? {α : Type 1} {l : List α} {i : Nat} {a : α} (h : l[i]? = some a) :
    l.set i a = l :=
  List.ext_getElem? fun j => by
    rw [List.getElem?_set]
    split
    · subst_vars
      simp [(List.getElem?_eq_some_iff.mp h).1, h]
    · rfl

/-- A thread runs to its end while no other thread acts. -/
theorem reach_run (s : System) (i : Nat) (t : Thread) (ht : s.threads[i]? = some t) :
    Reach common validateK8sName s
      ⟨(t.prog.run s.store).2, s.threads.set i ⟨t.origin, t.resp, .pure (t.prog.run s.store).1⟩⟩ := by
  obtain ⟨o, α, p⟩ := t
  induction p generalizing s with
  | pure a =>
    obtain ⟨st, ts⟩ := s
    simp only [Prog.run_pure, set_self_of_getElem? ht]
    exact .refl
  | call c k ih =>
    have hi : i < s.threads.length := (List.getElem?_eq_some_iff.mp ht).1
    refine .head ⟨_, .commit s i _ c k ht rfl _ (.inl rfl)⟩ ?_
    have := ih ((s.store.exec c).1) ⟨(s.store.exec c).2, s.threads.set i ⟨o, α, k (s.store.exec c).1⟩⟩
      (by simp [hi])
    simpa [List.set_set] using this

/-- A run extended by the next call of one of its threads, answered by the store. -/
theorem Reach.tail_commit {s s' : System} (hr : Reach common validateK8sName s s') (i : Nat)
    {t : Thread} {c : Call} {k : Except StatusError c.Ret → Prog t.resp}
    (ht : s'.threads[i]? = some t) (hp : t.prog = .call c k) :
    Reach common validateK8sName s
      ⟨(s'.store.exec c).2, s'.threads.set i ⟨t.origin, t.resp, k (s'.store.exec c).1⟩⟩ :=
  hr.tail ⟨_, .commit s' i t c k ht hp _ (.inl rfl)⟩

/-- The store after serving `requests` one at a time, each handler running alone. -/
def Store.serve (st : Store) : List Request → Store
  | [] => st
  | r :: requests => Store.serve ((r.thread common validateK8sName).prog.run st).2 requests

/-- Serving requests one at a time keeps the threads in flight and appends the finished ones. -/
theorem reach_serve (s : System) (requests : List Request) :
    ∃ done, Reach common validateK8sName s
      ⟨s.store.serve common validateK8sName requests, s.threads ++ done⟩ := by
  induction requests generalizing s with
  | nil => exact ⟨[], by rw [List.append_nil]; exact .refl⟩
  | cons r requests ih =>
    have hstart : Reach common validateK8sName s
        ⟨s.store, s.threads ++ [r.thread common validateK8sName]⟩ := .single ⟨_, .start s r⟩
    have hrun := reach_run common validateK8sName ⟨s.store, _⟩ s.threads.length _
      (List.getElem?_concat_length s.threads (r.thread common validateK8sName))
    let t := r.thread common validateK8sName
    let finished : Thread := ⟨t.origin, t.resp, .pure (t.prog.run s.store).1⟩
    obtain ⟨done, hrest⟩ := ih ⟨(t.prog.run s.store).2, s.threads ++ [finished]⟩
    refine ⟨finished :: done, hstart.trans (hrun.trans ?_)⟩
    simpa using hrest

theorem Reach.serve {s s' : System} (hr : Reach common validateK8sName s s') (requests : List Request) :
    ∃ done, Reach common validateK8sName s
      ⟨s'.store.serve common validateK8sName requests, s'.threads ++ done⟩ :=
  (reach_serve common validateK8sName s' requests).imp fun _ h => hr.trans h

theorem reachable_serve (st : Store) (hst : st.grants = []) (requests : List Request) :
    ∃ threads, Reachable common validateK8sName ⟨st.serve common validateK8sName requests, threads⟩ :=
  (reach_serve common validateK8sName ⟨st, []⟩ requests).imp fun _ h => ⟨st, hst, h⟩

end Service

end KusciaGrant
