import KusciaGrant.Store

namespace KusciaGrant

/-- A request handler as the calls it makes to the store: a result, or a call and what to do
with its reply. Each call is one atomic step of the store; other clients may act between two
calls of one handler. -/
inductive Prog (α : Type) where
  | pure (a : α)
  | call (c : Call) (k : Except StatusError c.Ret → Prog α)

namespace Prog

variable {α β : Type}

def bind : Prog α → (α → Prog β) → Prog β
  | pure a, f => f a
  | call c k, f => call c fun r => (k r).bind f

/-- The handler running alone against the store. -/
def run : Prog α → Store → α × Store
  | pure a, st => (a, st)
  | call c k, st => (k (st.exec c).1).run (st.exec c).2

/-- The calls the handler makes when it runs alone. -/
def trace : Prog α → Store → List Call
  | pure _, _ => []
  | call c k, st => c :: (k (st.exec c).1).trace (st.exec c).2

/-- The handler against a store that answers each call by `b`; failures included, this is any
behaviour of the store along a handler that makes no call twice. -/
def runWith (b : (c : Call) → Except StatusError c.Ret) : Prog α → α
  | pure a => a
  | call c k => (k (b c)).runWith b

/-- A handler that makes no call but reads. -/
inductive ReadOnly : Prog α → Prop
  | pure (a : α) : ReadOnly (pure a)
  | call {c : Call} {k : Except StatusError c.Ret → Prog α} (hc : c.isRead = true)
      (hk : ∀ r, ReadOnly (k r)) : ReadOnly (call c k)

@[simp] theorem run_pure (a : α) (st : Store) : (pure a).run st = (a, st) := rfl

@[simp] theorem run_call (c : Call) (k : Except StatusError c.Ret → Prog α) (st : Store) :
    (call c k).run st = (k (st.exec c).1).run (st.exec c).2 := rfl

@[simp] theorem runWith_pure (b : (c : Call) → Except StatusError c.Ret) (a : α) :
    (pure a).runWith b = a := rfl

@[simp] theorem runWith_call (b : (c : Call) → Except StatusError c.Ret) (c : Call)
    (k : Except StatusError c.Ret → Prog α) : (call c k).runWith b = (k (b c)).runWith b := rfl

@[simp] theorem bind_pure (a : α) (f : α → Prog β) : (pure a).bind f = f a := rfl

theorem run_bind (p : Prog α) (f : α → Prog β) (st : Store) :
    (p.bind f).run st = (f (p.run st).1).run (p.run st).2 := by
  induction p generalizing st with
  | pure a => rfl
  | call c k ih => exact ih _ _

theorem runWith_bind (b : (c : Call) → Except StatusError c.Ret) (p : Prog α) (f : α → Prog β) :
    (p.bind f).runWith b = (f (p.runWith b)).runWith b := by
  induction p with
  | pure a => rfl
  | call c k ih => exact ih _

theorem ReadOnly.bind {p : Prog α} {f : α → Prog β} (hp : p.ReadOnly)
    (hf : ∀ a, (f a).ReadOnly) : (p.bind f).ReadOnly := by
  induction hp with
  | pure a => exact hf a
  | call hc _ ih => exact .call hc ih

/-- A handler that only reads runs against the store as against the store's answers, and leaves
it as it was. -/
theorem ReadOnly.run_eq {p : Prog α} (h : p.ReadOnly) (st : Store) :
    p.run st = (p.runWith fun c => (st.exec c).1, st) := by
  induction h with
  | pure a => rfl
  | call hc _ ih => rw [run_call, runWith_call, Store.exec_read hc, ih]

theorem ReadOnly.run_store {p : Prog α} (h : p.ReadOnly) (st : Store) : (p.run st).2 = st := by
  rw [h.run_eq]

end Prog

end KusciaGrant
