import Mathlib.Data.Int.Defs

namespace KusciaGrant

/-- A value of Go's `int64` (also Go's `int`, 64 bits wide on the deployment targets). -/
@[ext] structure Int64 where
  val : Int
  isLt : -9223372036854775808 ≤ val ∧ val < 9223372036854775808
deriving DecidableEq, Repr

/-- A value of Go's `int32`. -/
structure Int32 where
  val : Int
  isLt : -2147483648 ≤ val ∧ val < 2147483648
deriving DecidableEq, Repr

instance : Inhabited Int64 := ⟨⟨0, by decide⟩⟩

instance : Inhabited Int32 := ⟨⟨0, by decide⟩⟩

/-- The two's complement wrap-around Go applies when a result leaves `int64`. -/
def Int64.ofInt (x : Int) : Int64 := ⟨(x + 9223372036854775808) % 18446744073709551616 - 9223372036854775808, by omega⟩

/-- The conversion `int32(x)`: the low 32 bits, read as two's complement. -/
def Int32.ofInt (x : Int) : Int32 := ⟨(x + 2147483648) % 4294967296 - 2147483648, by omega⟩

/-- The conversion `int(x)` of an `int32`, which is exact. -/
def Int32.toInt64 (x : Int32) : Int64 := ⟨x.val, by have := x.isLt; omega⟩

/-- Go's `x / y` on `int64`: truncated division. -/
def Int64.div (x y : Int64) : Int64 := Int64.ofInt (x.val.tdiv y.val)

/-- Go's `x % y` on `int64`: the remainder of truncated division. -/
def Int64.mod (x y : Int64) : Int64 := Int64.ofInt (x.val.tmod y.val)

/-- `int64(time.Second)`. -/
def second : Int64 := ⟨1000000000, by decide⟩

theorem Int64.ofInt_val {x : Int} (h : -9223372036854775808 ≤ x ∧ x < 9223372036854775808) : (Int64.ofInt x).val = x := by
  simp only [Int64.ofInt]
  omega

@[simp] theorem Int64.ofInt_self (x : Int64) : Int64.ofInt x.val = x := by
  cases x with
  | mk v h => simp only [Int64.ofInt, Int64.mk.injEq]; omega

@[simp] theorem Int32.ofInt_toInt64 (x : Int32) : Int32.ofInt x.toInt64.val = x := by
  cases x with
  | mk v h => simp only [Int32.ofInt, Int32.toInt64, Int32.mk.injEq]; omega

theorem neg_lt_tmod (a : Int) {b : Int} (hb : 0 < b) : -b < a.tmod b := by
  cases a with
  | ofNat m =>
    have := Int.tmod_nonneg b (Int.ofNat_nonneg m)
    simp only [Int.ofNat_eq_coe] at this ⊢
    omega
  | negSucc m =>
    obtain ⟨k, rfl⟩ := Int.eq_ofNat_of_zero_le (Int.le_of_lt hb)
    have hk : m.succ % k < k := Nat.mod_lt _ (by omega)
    simp only [Int.tmod, Int.natAbs_ofNat, Int.ofNat_eq_coe]
    omega

/-- `time.Time` as the service reads it: the Unix second and the nanosecond within it. -/
structure Time where
  sec : Int64
  nsec : Fin 1000000000
deriving DecidableEq, Repr

/-- `time.Unix(sec, nsec)`: a nanosecond count outside `[0, 1e9)` is carried into the
seconds, with Go's truncated division and a final borrow for a negative remainder. -/
def Time.unix (sec nsec : Int64) : Time :=
  if hout : nsec.val < 0 ∨ 1000000000 ≤ nsec.val then
    let n := nsec.val.tdiv 1000000000
    let sec' := Int64.ofInt (sec.val + n)
    let nsec' := nsec.val - n * 1000000000
    have hlo : -1000000000 < nsec' := by
      have := neg_lt_tmod nsec.val (b := 1000000000) (by decide)
      rw [Int.tmod_def] at this; omega
    have hhi : nsec' < 1000000000 := by
      have := Int.tmod_lt_of_pos nsec.val (b := 1000000000) (by decide)
      rw [Int.tmod_def] at this; omega
    if hneg : nsec' < 0 then ⟨Int64.ofInt (sec'.val - 1), ⟨(nsec' + 1000000000).toNat, by omega⟩⟩
    else ⟨sec', ⟨nsec'.toNat, by omega⟩⟩
  else ⟨sec, ⟨nsec.val.toNat, by omega⟩⟩

/-- `t.UnixNano()`: seconds times `1e9` plus the nanoseconds, in `int64` arithmetic. -/
def Time.unixNano (t : Time) : Int64 := Int64.ofInt (t.sec.val * 1000000000 + t.nsec.val)

theorem Int64.div_second_val {e : Int64} (h : 0 < e.val) : (e.div second).val = e.val / 1000000000 := by
  have := e.isLt
  simp only [Int64.div, second]
  rw [Int.tdiv_eq_ediv (by omega) (by decide)]
  exact Int64.ofInt_val (by omega)

theorem Int64.mod_second_val {e : Int64} (h : 0 < e.val) : (e.mod second).val = e.val % 1000000000 := by
  have := e.isLt
  have hr := Int.emod_lt_of_pos e.val (b := 1000000000) (by decide)
  have hr0 := Int.emod_nonneg e.val (b := 1000000000) (by decide)
  simp only [Int64.mod, second]
  rw [Int.tmod_eq_emod (by omega) (by decide)]
  exact Int64.ofInt_val (by omega)

/-- The seconds and nanoseconds `convertData2Spec` splits a positive expiration into are already
in range, so `time.Unix` keeps them. -/
theorem Time.unix_div_mod {e : Int64} (h : 0 < e.val) :
    (Time.unix (e.div second) (e.mod second)).sec = e.div second ∧
      ((Time.unix (e.div second) (e.mod second)).nsec : Int) = e.val % 1000000000 := by
  have hr := Int.emod_lt_of_pos e.val (b := 1000000000) (by decide)
  have hr0 := Int.emod_nonneg e.val (b := 1000000000) (by decide)
  have hmod := Int64.mod_second_val h
  have hnorm : ¬((e.mod second).val < 0 ∨ 1000000000 ≤ (e.mod second).val) := by omega
  rw [Time.unix, dif_neg hnorm]
  exact ⟨rfl, by simp only [Fin.val_mk]; omega⟩

@[simp] theorem Time.unixNano_whole (sec : Int64) :
    (⟨sec, 0⟩ : Time).unixNano = Int64.ofInt (sec.val * 1000000000) := by
  simp [Time.unixNano]

/-- The expiration encoding of `convertData2Spec` is undone by `UnixNano` for every
positive `int64`, the limits of the seconds/nanoseconds split included. -/
theorem Time.unixNano_unix_div_mod {e : Int64} (h : 0 < e.val) :
    (Time.unix (e.div second) (e.mod second)).unixNano = e := by
  have hq := Int.ediv_add_emod e.val 1000000000
  have he := e.isLt
  obtain ⟨hsec, hnsec⟩ := Time.unix_div_mod h
  simp only [Time.unixNano, hsec, Int64.div_second_val h, hnsec]
  apply Int64.ext
  rw [Int64.ofInt_val (by omega)]
  omega

end KusciaGrant
