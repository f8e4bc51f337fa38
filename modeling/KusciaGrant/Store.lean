import KusciaGrant.LabelSelector

namespace KusciaGrant

open V1alpha1

/-- The API server behind the Kubernetes client, for the two resources the service touches. -/
structure Store where
  /-- The DomainData objects, with their namespaces. -/
  domainDatas : List (String × DomainData)
  /-- The grants, with their namespaces, in the order the store lists them. -/
  grants : List (String × DomainDataGrant)
  /-- The counter every write draws a resource version from, and a create the UID too. -/
  revision : Nat
  /-- The server's validation of the object a write would store. -/
  admits : DomainDataGrant → Bool
  /-- Whether a main-resource write leaves the status to the status subresource. -/
  statusSubresource : Bool
  /-- `strconv.IsPrint` of the server beyond Latin-1, which its field errors quote values with. -/
  isPrint : Char → Bool

/-- The client calls: `DomainDatas(ns).Get`, the `DomainDataGrants(ns)` verbs the service uses,
and `UpdateStatus`, the version-checked status write of an external consumer. -/
inductive Call where
  | getDomainData (ns name : String)
  | getGrant (ns name : String)
  | createGrant (ns : String) (obj : DomainDataGrant)
  | updateGrant (ns : String) (obj : DomainDataGrant)
  | updateGrantStatus (ns : String) (obj : DomainDataGrant)
  | deleteGrant (ns name : String)
  | listGrants (ns labelSelector : String)
deriving DecidableEq, Repr

@[reducible] def Call.Ret : Call → Type
  | .getDomainData .. => DomainData
  | .getGrant .. => DomainDataGrant
  | .createGrant .. => DomainDataGrant
  | .updateGrant .. => DomainDataGrant
  | .updateGrantStatus .. => DomainDataGrant
  | .deleteGrant .. => Unit
  | .listGrants .. => List DomainDataGrant

/-- Whether an entry is the object `name` of namespace `ns`. -/
def isKey (ns name : String) (e : String × DomainDataGrant) : Bool := e.1 = ns && e.2.name = name

def Store.getDomainData (st : Store) (ns name : String) : Option DomainData :=
  (st.domainDatas.find? (fun e => e.1 = ns && e.2.name = name)).map (·.2)

/-- The first of the `grants` entries that is the object `name` of namespace `ns`. -/
def findGrant (grants : List (String × DomainDataGrant)) (ns name : String) :
    Option DomainDataGrant :=
  (grants.find? (isKey ns name)).map (·.2)

def Store.getGrant (st : Store) (ns name : String) : Option DomainDataGrant :=
  findGrant st.grants ns name

def grantsResource : String := "domaindatagrants.kuscia.secretflow"

def notFound (resource name : String) : StatusError :=
  ⟨.notFound, resource ++ " \"" ++ name ++ "\" not found"⟩

def alreadyExists (name : String) : StatusError :=
  ⟨.alreadyExists, grantsResource ++ " \"" ++ name ++ "\" already exists"⟩

def conflict (name : String) : StatusError :=
  ⟨.conflict, "Operation cannot be fulfilled on " ++ grantsResource ++ " \"" ++ name ++
    "\": the object has been modified; please apply your changes to the latest version and try again"⟩

def invalid (name : String) : StatusError :=
  ⟨.invalid, "DomainDataGrant.kuscia.secretflow \"" ++ name ++ "\" is invalid"⟩

/-- Whether a write carrying `version` is refused against the stored `old`: a version of 0
(an empty `resourceVersion`) is an unconditional write. -/
def staleVersion (version : Nat) (old : DomainDataGrant) : Bool :=
  version ≠ 0 && version ≠ old.resourceVersion

/-- Replace the object `name` of namespace `ns`. -/
def replaceGrant (grants : List (String × DomainDataGrant)) (ns name : String)
    (obj : DomainDataGrant) : List (String × DomainDataGrant) :=
  grants.map (fun e => if isKey ns name e then (ns, obj) else e)

/-- The zero `time.Time`, 0001-01-01 00:00:00 UTC, as a Unix time. -/
def zeroTime : Time := ⟨⟨-62135596800, by decide⟩, 0⟩

/-- A `metav1.Time` after the JSON the API server keeps an object as: RFC 3339 holds whole
seconds. -/
def Time.roundTrip (t : Time) : Time := ⟨t.sec, 0⟩

/-- A `*metav1.Time` after that JSON: the zero time is written as null, which reads back as nil. -/
def Time.roundTripPtr : Option Time → Option Time
  | some t => if t = zeroTime then none else some t.roundTrip
  | none => none

/-- A positive expiration as `convertData2Spec` encodes it reads back from the store as its whole
seconds. -/
theorem Time.roundTripPtr_unix_div_mod {e : Int64} (h : 0 < e.val) :
    Time.roundTripPtr (some (Time.unix (e.div second) (e.mod second))) = some ⟨e.div second, 0⟩ := by
  obtain ⟨hsec, -⟩ := Time.unix_div_mod h
  have hne : Time.unix (e.div second) (e.mod second) ≠ zeroTime := fun heq => by
    have := congrArg (·.sec.val) heq
    simp only [hsec, Int64.div_second_val h, zeroTime] at this
    omega
  simp [Time.roundTripPtr, hne, Time.roundTrip, hsec]

def V1alpha1.GrantLimit.roundTrip (l : GrantLimit) : GrantLimit :=
  { l with expirationTime := Time.roundTripPtr l.expirationTime }

def V1alpha1.UseRecord.roundTrip (r : UseRecord) : UseRecord := { r with useTime := r.useTime.roundTrip }

def V1alpha1.DomainDataGrantSpec.roundTrip (s : DomainDataGrantSpec) : DomainDataGrantSpec :=
  { s with limit := s.limit.map GrantLimit.roundTrip }

def V1alpha1.DomainDataGrantStatus.roundTrip (s : DomainDataGrantStatus) : DomainDataGrantStatus :=
  { s with useRecords := s.useRecords.map UseRecord.roundTrip }

@[simp] theorem Time.roundTrip_roundTrip (t : Time) : t.roundTrip.roundTrip = t.roundTrip := rfl

@[simp] theorem V1alpha1.UseRecord.roundTrip_roundTrip (r : UseRecord) :
    r.roundTrip.roundTrip = r.roundTrip := rfl

@[simp] theorem V1alpha1.DomainDataGrantStatus.roundTrip_useRecords (s : DomainDataGrantStatus) :
    s.roundTrip.useRecords = s.useRecords.map UseRecord.roundTrip := rfl

@[simp] theorem V1alpha1.DomainDataGrantStatus.roundTrip_empty :
    ({} : DomainDataGrantStatus).roundTrip = {} := rfl

/-- A status read back from the store is one its JSON keeps as it is. -/
@[simp] theorem V1alpha1.DomainDataGrantStatus.roundTrip_roundTrip (s : DomainDataGrantStatus) :
    s.roundTrip.roundTrip = s.roundTrip := by
  simp [DomainDataGrantStatus.roundTrip, Function.comp_def]

/-- `dedupOwnerReferences` of the API server's create and update (Kubernetes 1.20 on): an owner
reference equal in full to one kept before it is dropped. -/
def dedupOwnerReferences (refs : List OwnerReference) : List OwnerReference :=
  refs.foldl (fun result ref => if ref ∈ result then result else result ++ [ref]) []

theorem mem_foldl_dedup (r : OwnerReference) :
    ∀ (refs result : List OwnerReference),
      r ∈ refs.foldl (fun result ref => if ref ∈ result then result else result ++ [ref]) result ↔
        r ∈ result ∨ r ∈ refs
  | [], result => by simp
  | ref :: refs, result => by
    rw [List.foldl_cons, mem_foldl_dedup r refs, List.mem_cons]
    split
    · rename_i hkept
      constructor
      · exact fun h => h.imp_right .inr
      · rintro (h | rfl | h)
        exacts [.inl h, .inl hkept, .inr h]
    · simp [or_assoc]

/-- Deduplication keeps every reference and adds none. -/
@[simp] theorem mem_dedupOwnerReferences {r : OwnerReference} {refs : List OwnerReference} :
    r ∈ dedupOwnerReferences refs ↔ r ∈ refs := by
  simp [dedupOwnerReferences, mem_foldl_dedup]

/-- The object a create stores: its owner references deduplicated, versioned and given its UID
from the next revision, its status dropped when the status is a subresource, and its times as
JSON keeps them. -/
def Store.created (st : Store) (obj : DomainDataGrant) : DomainDataGrant :=
  { obj with
    ownerReferences := dedupOwnerReferences obj.ownerReferences
    resourceVersion := st.revision + 1, uid := st.revision + 1
    spec := obj.spec.roundTrip
    status := if st.statusSubresource then {} else obj.status.roundTrip }

/-- The object an update of `old` stores: the submitted object with its owner references
deduplicated, under the next revision, keeping the UID, and keeping the old status when the
status is a subresource. -/
def Store.updated (st : Store) (obj old : DomainDataGrant) : DomainDataGrant :=
  { obj with
    ownerReferences := dedupOwnerReferences obj.ownerReferences
    resourceVersion := st.revision + 1, uid := old.uid
    spec := obj.spec.roundTrip
    status := if st.statusSubresource then old.status else obj.status.roundTrip }

/-- The object a status write on `old` stores: only the status is taken from the submission. -/
def Store.statusUpdated (st : Store) (obj old : DomainDataGrant) : DomainDataGrant :=
  { old with status := obj.status.roundTrip, resourceVersion := st.revision + 1 }

/-- One call, as one atomic step of the store. -/
def Store.exec (st : Store) : (c : Call) → Except StatusError c.Ret × Store
  | .getDomainData ns name =>
    match st.getDomainData ns name with
    | some dd => (.ok dd, st)
    | none => (.error (notFound "domaindatas.kuscia.secretflow" name), st)
  | .getGrant ns name =>
    match st.getGrant ns name with
    | some dg => (.ok dg, st)
    | none => (.error (notFound grantsResource name), st)
  | .createGrant ns obj =>
    if (st.getGrant ns obj.name).isSome then (.error (alreadyExists obj.name), st)
    else if obj.name = "" || !st.admits (st.created obj) then (.error (invalid obj.name), st)
    else
      (.ok (st.created obj),
        { st with grants := st.grants ++ [(ns, st.created obj)], revision := st.revision + 1 })
  | .updateGrant ns obj =>
    match st.getGrant ns obj.name with
    | none => (.error (notFound grantsResource obj.name), st)
    | some old =>
      if staleVersion obj.resourceVersion old then (.error (conflict obj.name), st)
      else if !st.admits (st.updated obj old) then (.error (invalid obj.name), st)
      else
        (.ok (st.updated obj old), { st with
          grants := replaceGrant st.grants ns obj.name (st.updated obj old),
          revision := st.revision + 1 })
  | .updateGrantStatus ns obj =>
    match st.getGrant ns obj.name with
    | none => (.error (notFound grantsResource obj.name), st)
    | some old =>
      if staleVersion obj.resourceVersion old then (.error (conflict obj.name), st)
      else
        (.ok (st.statusUpdated obj old), { st with
          grants := replaceGrant st.grants ns obj.name (st.statusUpdated obj old),
          revision := st.revision + 1 })
  | .deleteGrant ns name =>
    match st.getGrant ns name with
    | none => (.error (notFound grantsResource name), st)
    | some _ => (.ok (), { st with grants := st.grants.filter (fun e => !isKey ns name e) })
  | .listGrants ns labelSelector =>
    match labelsParse labelSelector with
    | .error e => (.error ⟨.badRequest, e.error st.isPrint⟩, st)
    | .ok requirements =>
      (.ok ((st.grants.filter (fun e => e.1 = ns && selectorMatches requirements e.2.labels)).map
        (·.2)), st)

/-- The calls that only read. -/
def Call.isRead : Call → Bool
  | .getDomainData .. | .getGrant .. | .listGrants .. => true
  | _ => false

theorem Store.exec_read {c : Call} (h : c.isRead = true) (st : Store) : (st.exec c).2 = st := by
  cases c with
  | getDomainData | getGrant | listGrants => simp only [Store.exec]; split <;> rfl
  | _ => simp [Call.isRead] at h

@[simp] theorem Store.exec_getDomainData_store (st : Store) (ns name : String) :
    (st.exec (.getDomainData ns name)).2 = st :=
  Store.exec_read (show (Call.getDomainData ns name).isRead = true from rfl) st

@[simp] theorem Store.exec_getGrant_store (st : Store) (ns name : String) :
    (st.exec (.getGrant ns name)).2 = st :=
  Store.exec_read (show (Call.getGrant ns name).isRead = true from rfl) st

/-- A call the store refuses leaves it as it was. -/
theorem Store.exec_error {c : Call} {st : Store} {e : StatusError} (h : (st.exec c).1 = .error e) :
    (st.exec c).2 = st := by
  cases c <;> simp only [Store.exec] at h ⊢ <;> repeat' split at h
  all_goals simp_all

end KusciaGrant
