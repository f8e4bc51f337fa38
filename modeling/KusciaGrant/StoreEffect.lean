import KusciaGrant.Store
import Mathlib.Data.List.Nodup

namespace KusciaGrant

open V1alpha1 (DomainDataGrant)

section Entries

variable {gs : List (String × DomainDataGrant)}

theorem findGrant_some {ns name : String} {g : DomainDataGrant} (h : findGrant gs ns name = some g) :
    g.name = name ∧ (ns, g) ∈ gs := by
  obtain ⟨e, he, rfl⟩ := Option.map_eq_some'.mp h
  have hkey := List.find?_some he
  simp only [isKey, Bool.and_eq_true, decide_eq_true_eq] at hkey
  obtain ⟨rfl, hname⟩ := hkey
  exact ⟨hname, List.mem_of_find?_eq_some he⟩

theorem findGrant_append (ns : String) (obj : DomainDataGrant) (ns' name' : String) :
    findGrant (gs ++ [(ns, obj)]) ns' name' =
      (findGrant gs ns' name').or (if ns = ns' ∧ obj.name = name' then some obj else none) := by
  simp only [findGrant, List.find?_append, List.find?_singleton, isKey, Bool.and_eq_true,
    decide_eq_true_eq]
  cases List.find? (isKey ns' name') gs <;> split <;> rfl

theorem isKey_replace (ns name : String) (obj : DomainDataGrant) (hobj : obj.name = name)
    (ns' name' : String) (e : String × DomainDataGrant) :
    isKey ns' name' (if isKey ns name e then (ns, obj) else e) = isKey ns' name' e := by
  split
  · rename_i he
    simp only [isKey, Bool.and_eq_true, decide_eq_true_eq] at he ⊢
    rw [he.1, he.2, hobj]
  · rfl

/-- A replaced entry keeps its key, so lookups elsewhere are untouched. -/
theorem findGrant_replaceGrant (ns name : String) (obj : DomainDataGrant) (hobj : obj.name = name)
    (ns' name' : String) :
    findGrant (replaceGrant gs ns name obj) ns' name' =
      if ns = ns' ∧ name = name' then (findGrant gs ns' name').map (fun _ => obj)
      else findGrant gs ns' name' := by
  have hkey : (isKey ns' name' ∘ fun e => if isKey ns name e then (ns, obj) else e) =
      isKey ns' name' := funext (isKey_replace ns name obj hobj ns' name')
  simp only [findGrant, replaceGrant, List.find?_map, hkey, Option.map_map]
  cases hf : List.find? (isKey ns' name') gs with
  | none => simp
  | some e =>
    have he := List.find?_some hf
    simp only [isKey, Bool.and_eq_true, decide_eq_true_eq] at he
    by_cases hk : ns = ns' ∧ name = name'
    · simp [hk, isKey, he]
    · simp only [hk, if_false, Option.map_some', Function.comp, isKey, Bool.and_eq_true,
        decide_eq_true_eq]
      rw [if_neg (by rw [he.1, he.2]; exact fun h => hk ⟨h.1.symm, h.2.symm⟩)]

/-- A lookup after a replacement finds the new object under the replaced key, or what the lookup
found before. -/
theorem findGrant_replaceGrant_some {ns name ns' name' : String} {obj g : DomainDataGrant}
    (h : findGrant (replaceGrant gs ns name obj) ns' name' = some g) (hobj : obj.name = name) :
    (ns = ns' ∧ name = name' ∧ g = obj ∧ (findGrant gs ns' name').isSome) ∨
      findGrant gs ns' name' = some g := by
  rw [findGrant_replaceGrant ns name obj hobj] at h
  split at h
  next hk =>
    obtain ⟨_, hf, rfl⟩ := Option.map_eq_some'.mp h
    exact .inl ⟨hk.1, hk.2, rfl, by simp [hf]⟩
  next => exact .inr h

theorem findGrant_filter (ns name ns' name' : String) :
    findGrant (gs.filter fun e => !isKey ns name e) ns' name' =
      if ns = ns' ∧ name = name' then none else findGrant gs ns' name' := by
  simp only [findGrant, List.find?_filter]
  split
  · rename_i hk
    obtain ⟨rfl, rfl⟩ := hk
    simp
  · rename_i hk
    congr 2
    funext e
    by_cases h1 : e.1 = ns' <;> by_cases h2 : e.2.name = name' <;> simp [isKey, h1, h2]
    exact not_and_or.mp fun h => hk ⟨h.1.symm, h.2.symm⟩

theorem mem_replaceGrant {ns name : String} {obj : DomainDataGrant} {e : String × DomainDataGrant}
    (he : e ∈ replaceGrant gs ns name obj) : e ∈ gs ∨ e = (ns, obj) := by
  obtain ⟨e', he', rfl⟩ := List.mem_map.mp he
  split
  · exact .inr rfl
  · exact .inl he'

end Entries

theorem staleVersion_eq_false {version : Nat} {old : DomainDataGrant} :
    staleVersion version old = false ↔ version = 0 ∨ version = old.resourceVersion := by
  simp only [staleVersion, Bool.and_eq_false_iff, decide_eq_false_iff_not, not_not]

/-- What one call can do to the store: nothing, or the one write that passed the store's
checks. -/
inductive Store.Effect (st : Store) : Call → Store → Prop
  | keep {c : Call} : Store.Effect st c st
  | create {ns : String} {obj : DomainDataGrant} (hnew : st.getGrant ns obj.name = none)
      (hname : obj.name ≠ "") (hadmits : st.admits (st.created obj) = true) :
      Store.Effect st (.createGrant ns obj)
        { st with grants := st.grants ++ [(ns, st.created obj)], revision := st.revision + 1 }
  | update {ns : String} {obj old : DomainDataGrant} (hold : st.getGrant ns obj.name = some old)
      (hversion : staleVersion obj.resourceVersion old = false)
      (hadmits : st.admits (st.updated obj old) = true) :
      Store.Effect st (.updateGrant ns obj)
        { st with
          grants := replaceGrant st.grants ns obj.name (st.updated obj old)
          revision := st.revision + 1 }
  | updateStatus {ns : String} {obj old : DomainDataGrant} (hold : st.getGrant ns obj.name = some old)
      (hversion : staleVersion obj.resourceVersion old = false) :
      Store.Effect st (.updateGrantStatus ns obj)
        { st with
          grants := replaceGrant st.grants ns obj.name (st.statusUpdated obj old)
          revision := st.revision + 1 }
  | delete {ns name : String} :
      Store.Effect st (.deleteGrant ns name)
        { st with grants := st.grants.filter fun e => !isKey ns name e }

theorem Store.exec_effect (st : Store) (c : Call) : st.Effect c (st.exec c).2 := by
  cases c with
  | createGrant ns obj =>
    simp only [Store.exec]
    split
    · exact .keep
    · split
      · exact .keep
      · rename_i hnew hvalid
        simp only [Bool.or_eq_true, decide_eq_true_eq, Bool.not_eq_true', not_or,
          Bool.not_eq_false] at hvalid
        exact .create (by simpa using hnew) hvalid.1 hvalid.2
  | updateGrant ns obj =>
    simp only [Store.exec]
    split
    · exact .keep
    · rename_i old hold
      split
      · exact .keep
      · split
        · exact .keep
        · rename_i hversion hadmits
          exact .update hold (by simpa using hversion) (by simpa using hadmits)
  | updateGrantStatus ns obj =>
    simp only [Store.exec]
    split
    · exact .keep
    · rename_i old hold
      split
      · exact .keep
      · rename_i hversion
        exact .updateStatus hold (by simpa using hversion)
  | deleteGrant ns name =>
    simp only [Store.exec]
    split
    · exact .keep
    · exact .delete
  | getDomainData | getGrant | listGrants =>
    simp only [Store.exec]
    split <;> exact .keep

/-- A successful read returns the stored object. -/
theorem Store.getGrant_of_exec {st : Store} {ns name : String} {dg : DomainDataGrant}
    (h : (st.exec (.getGrant ns name)).1 = .ok dg) : st.getGrant ns name = some dg := by
  simp only [Store.exec] at h
  split at h
  · cases h
    assumption
  · cases h

section Effect

variable {st st' : Store} {c : Call}

theorem Store.Effect.revision_le (he : st.Effect c st') : st.revision ≤ st'.revision := by
  cases he <;> simp

/-- After a call, the object under a name is the one before or one written by the call, under
the next revision. -/
theorem Store.Effect.getGrant_fresh (he : st.Effect c st') {ns name : String} {g : DomainDataGrant}
    (hg : st'.getGrant ns name = some g) :
    st.getGrant ns name = some g ∨ g.resourceVersion = st.revision + 1 := by
  cases he with
  | keep => exact .inl hg
  | create =>
    simp only [Store.getGrant, findGrant_append] at hg ⊢
    rcases hf : findGrant st.grants ns name with _ | g'
    · simp only [hf, Option.none_or] at hg
      split at hg
      · cases hg
        exact .inr rfl
      · cases hg
    · simp only [hf, Option.or_some] at hg
      exact .inl hg
  | @update ns' obj old =>
    simp only [Store.getGrant] at hg ⊢
    rcases findGrant_replaceGrant_some hg rfl with ⟨-, -, rfl, -⟩ | hg
    · exact .inr rfl
    · exact .inl hg
  | @updateStatus ns' obj old hold =>
    simp only [Store.getGrant] at hg ⊢
    rcases findGrant_replaceGrant_some hg (findGrant_some hold).1 with ⟨-, -, rfl, -⟩ | hg
    · exact .inr rfl
    · exact .inl hg
  | delete =>
    simp only [Store.getGrant, findGrant_filter] at hg ⊢
    split at hg
    · cases hg
    · exact .inl hg

/-- A call leaves the object under a name as it was, or writes it by an update or a status
write that passed the version check against it. -/
theorem Store.Effect.getGrant_some (he : st.Effect c st') {ns name : String}
    {o o' : DomainDataGrant} (ho : st.getGrant ns name = some o) (ho' : st'.getGrant ns name = some o') :
    o' = o ∨
      (∃ obj, c = .updateGrant ns obj ∧ obj.name = name ∧
        staleVersion obj.resourceVersion o = false ∧ o' = st.updated obj o) ∨
      (∃ obj, c = .updateGrantStatus ns obj ∧ obj.name = name ∧
        staleVersion obj.resourceVersion o = false ∧ o' = st.statusUpdated obj o) := by
  cases he with
  | keep => exact .inl (Option.some.inj (ho'.symm.trans ho))
  | create =>
    simp only [Store.getGrant, findGrant_append] at ho ho'
    simp only [ho, Option.or_some, Option.some.injEq] at ho'
    exact .inl ho'.symm
  | @update ns' obj old hold hversion =>
    simp only [Store.getGrant] at ho ho' hold
    rcases findGrant_replaceGrant_some ho' rfl with ⟨rfl, rfl, rfl, -⟩ | ho'
    · obtain rfl : old = o := Option.some.inj (hold.symm.trans ho)
      exact .inr (.inl ⟨obj, rfl, rfl, hversion, rfl⟩)
    · exact .inl (Option.some.inj (ho'.symm.trans ho))
  | @updateStatus ns' obj old hold hversion =>
    simp only [Store.getGrant] at ho ho' hold
    rcases findGrant_replaceGrant_some ho' (findGrant_some hold).1 with ⟨rfl, rfl, rfl, -⟩ | ho'
    · obtain rfl : old = o := Option.some.inj (hold.symm.trans ho)
      exact .inr (.inr ⟨obj, rfl, rfl, hversion, rfl⟩)
    · exact .inl (Option.some.inj (ho'.symm.trans ho))
  | delete =>
    simp only [Store.getGrant, findGrant_filter] at ho'
    split at ho'
    · cases ho'
    · exact .inl (Option.some.inj (ho'.symm.trans ho))

/-- An object under a name that was free was created by the call. -/
theorem Store.Effect.getGrant_none (he : st.Effect c st') {ns name : String} {o' : DomainDataGrant}
    (ho : st.getGrant ns name = none) (ho' : st'.getGrant ns name = some o') :
    ∃ obj, c = .createGrant ns obj ∧ o' = st.created obj := by
  simp only [Store.getGrant] at ho
  cases he with
  | keep => exact absurd (ho'.symm.trans ho) (by simp)
  | @create ns' obj =>
    simp only [Store.getGrant, findGrant_append, ho, Option.none_or] at ho'
    split at ho'
    · rename_i hk
      obtain ⟨rfl, -⟩ := hk
      exact ⟨obj, rfl, (Option.some.inj ho').symm⟩
    · cases ho'
  | update =>
    rcases findGrant_replaceGrant_some ho' rfl with ⟨-, -, -, h⟩ | h <;> simp [ho] at h
  | updateStatus hold =>
    rcases findGrant_replaceGrant_some ho' (findGrant_some hold).1 with ⟨-, -, -, h⟩ | h <;>
      simp [ho] at h
  | delete =>
    simp only [Store.getGrant, findGrant_filter, ho] at ho'
    split at ho' <;> cases ho'

end Effect

end KusciaGrant
