import KusciaGrant.Service

namespace KusciaGrant

open Kusciaapi

theorem queryDomainDataGrant_readOnly (request : QueryDomainDataGrantRequest) :
    (queryDomainDataGrant request).ReadOnly :=
  .call rfl fun r => by cases r <;> exact .pure _

theorem batchQueryLoop_readOnly (i : Nat) (rest : List QueryDomainDataGrantRequestData)
    (acc : BatchAcc) : (batchQueryLoop i rest acc).ReadOnly := by
  induction rest generalizing i acc with
  | nil => exact .pure _
  | cons q rest ih =>
    simp only [batchQueryLoop]
    split
    · exact ih _ _
    · exact (queryDomainDataGrant_readOnly _).bind fun _ => ih _ _

theorem batchQueryDomainDataGrant_readOnly (request : BatchQueryDomainDataGrantRequest) :
    (batchQueryDomainDataGrant request).ReadOnly := by
  simp only [batchQueryDomainDataGrant]
  split
  · exact .pure _
  · exact (batchQueryLoop_readOnly _ _ _).bind fun _ => by split <;> exact .pure _

section Batch

variable (b : (c : Call) → Except StatusError c.Ret)

/-- What one sub-request contributes to a batch: the placeholder grant and a validation status
when it is empty, and otherwise exactly what `QueryDomainDataGrant` answers for it. -/
def batchItem (q : QueryDomainDataGrantRequestData) : Option Kusciaapi.DomainDataGrant × Status :=
  if q.isEmpty then (some {}, emptyQueryStatus)
  else
    let resp := (queryDomainDataGrant ⟨q.domainId, q.domaindatagrantId⟩).runWith b
    (resp.data, resp.status)

/-- Whether a well-formed sub-request's query failed. -/
def batchItemFailed (q : QueryDomainDataGrantRequestData) : Bool :=
  !q.isEmpty && (batchItem b q).2.code ≠ .success

theorem batchQueryLoop_runWith (rest : List QueryDomainDataGrantRequestData) (i : Nat)
    (acc : BatchAcc) (pre : List (Option Status))
    (hdetail : acc.detail = pre ++ List.replicate rest.length none) (hi : pre.length = i) :
    (batchQueryLoop i rest acc).runWith b =
      ⟨acc.data ++ rest.map (fun q => (batchItem b q).1),
        pre ++ rest.map (fun q => some (batchItem b q).2),
        acc.emptyRequestCount + (rest.filter (·.isEmpty)).length,
        acc.errorResponseCount + (rest.filter (batchItemFailed b)).length⟩ := by
  induction rest generalizing i acc pre with
  | nil => cases acc; simp_all [batchQueryLoop]
  | cons q rest ih =>
    have hset : ∀ s : Status, acc.detail.set i (some s) =
        (pre ++ [some s]) ++ List.replicate rest.length none := by
      intro s
      simp [hdetail, ← hi, List.replicate_succ]
    by_cases hq : q.isEmpty
    · simp only [batchQueryLoop, hq, if_true]
      rw [ih (i + 1) _ (pre ++ [some emptyQueryStatus]) (hset _) (by simp [hi])]
      simp [batchItem, batchItemFailed, hq, List.filter_cons]
      omega
    · simp only [batchQueryLoop, hq, Bool.false_eq_true, if_false, Prog.runWith_bind]
      rw [ih (i + 1) _ _ (hset _) (by simp [hi])]
      by_cases hc : ((queryDomainDataGrant ⟨q.domainId, q.domaindatagrantId⟩).runWith b).status.code
          = .success <;> simp [batchItem, batchItemFailed, hq, hc, List.filter_cons]
      omega

/-- The answer a batch gets: one entry per sub-request in input order, and a status that counts
the empty and the failed sub-requests and details their statuses when there are any. -/
def batchQueryResponse (data : List QueryDomainDataGrantRequestData) :
    BatchQueryDomainDataGrantResponse :=
  let empty := (data.filter (·.isEmpty)).length
  let failed := (data.filter (batchItemFailed b)).length
  ⟨if empty = 0 ∧ failed = 0 then buildSuccessResponseStatus
    else
      { buildErrorResponseStatus .kusciaAPIErrQueryDomainDataGrant
          ("BatchQuery has error. Empty/Error/Total(" ++ toString empty ++ "/" ++
            toString failed ++ "/" ++ toString data.length ++ ")") with
        details := data.map fun q => some (batchItem b q).2 },
    data.map fun q => (batchItem b q).1⟩

/-- `BatchQueryDomainDataGrant` on a non-empty batch gives `batchQueryResponse` along every
behaviour of the store, and on every store it reads only, leaving the store as it was. -/
theorem batchQueryDomainDataGrant_run (request : BatchQueryDomainDataGrantRequest)
    (hne : request.data ≠ []) :
    (batchQueryDomainDataGrant request).runWith b = batchQueryResponse b request.data ∧
      ∀ st : Store, (batchQueryDomainDataGrant request).run st =
        (batchQueryResponse (fun c => (st.exec c).1) request.data, st) := by
  have hrun : ∀ b, (batchQueryDomainDataGrant request).runWith b = batchQueryResponse b request.data := by
    intro b
    have hlen : request.data.length ≠ 0 := by simpa [List.length_eq_zero] using hne
    simp only [batchQueryDomainDataGrant, hlen, if_false, Prog.runWith_bind]
    rw [batchQueryLoop_runWith b request.data 0 _ [] (by simp) rfl]
    simp only [Nat.zero_add, List.nil_append, batchQueryResponse]
    split_ifs <;> first | rfl | omega
  exact ⟨hrun b, fun st => by rw [(batchQueryDomainDataGrant_readOnly request).run_eq, hrun]⟩

end Batch

theorem batchQueryDomainDataGrant_run_found_and_empty :
    let st : Store := ⟨[], [("alice", { name := "grant-1" })], 1, fun _ => true, true, fun _ => true⟩
    let request : BatchQueryDomainDataGrantRequest := ⟨[⟨"alice", "grant-1"⟩, ⟨"", "grant-2"⟩]⟩
    request.data ≠ [] ∧
      ((batchQueryDomainDataGrant request).runWith (fun c => (st.exec c).1) =
          batchQueryResponse (fun c => (st.exec c).1) request.data ∧
        ∀ st : Store, (batchQueryDomainDataGrant request).run st =
          (batchQueryResponse (fun c => (st.exec c).1) request.data, st)) :=
  ⟨by decide, batchQueryDomainDataGrant_run _ _ (by decide)⟩

end KusciaGrant
