import Mathlib.Data.List.Nodup
import Mathlib.Tactic.IntervalCases
/-! `OrchestratorV2.nextExecutionID`. Under `executionCounterMu` it increments the `int64`
counter and formats `exec-<nanos>-<counter>` with `%d`, so the calls of any interleaving form
one sequence, each with its own clock reading. The format is injective: the digits of the clock
reading hold no `-`, so the separator before the counter is found again. Two calls therefore
return the same id exactly when their counters agree, which takes `2^64` increments. -/
namespace Workflows.Dispatch

/-! ### `%d` -/

def digitChar (d : Nat) : Char := Char.ofNat (d + 48)

def decimalDigits (n : Nat) : List Char :=
  if n < 10 then [digitChar n] else decimalDigits (n / 10) ++ [digitChar (n % 10)]
termination_by n
decreasing_by exact Nat.div_lt_self (by omega) (by omega)

def formatDecimal (x : Int) : String := ⟨(if x < 0 then ['-'] else []) ++ decimalDigits x.natAbs⟩

def decimalValue (cs : List Char) : Nat := cs.foldl (fun acc c => acc * 10 + (c.toNat - 48)) 0

theorem toNatDigitChar {d : Nat} (small : d < 10) : (digitChar d).toNat = d + 48 := by
  interval_cases d <;> rfl

theorem decimalDigitsAll {p : Char → Prop} (digit : ∀ d < 10, p (digitChar d)) (n : Nat) :
    ∀ c ∈ decimalDigits n, p c := by
  induction n using Nat.strong_induction_on with
  | _ n ih =>
    rw [decimalDigits]
    split
    · rename_i small; intro c member
      rw [List.mem_singleton.mp member]; exact digit n small
    · intro c member
      rcases List.mem_append.mp member with high | low
      · exact ih (n / 10) (Nat.div_lt_self (by omega) (by omega)) c high
      · rw [List.mem_singleton.mp low]; exact digit _ (Nat.mod_lt _ (by omega))

theorem decimalDigitsAvoid {x : Char} (notDigit : ∀ d < 10, digitChar d ≠ x) (n : Nat) :
    ∀ c ∈ decimalDigits n, c ≠ x :=
  decimalDigitsAll notDigit n

theorem decimalDigitsNoDash (n : Nat) : ∀ c ∈ decimalDigits n, c ≠ '-' :=
  decimalDigitsAvoid (by decide) n

theorem decimalDigitsNeNil (n : Nat) : decimalDigits n ≠ [] := by
  rw [decimalDigits]; split <;> simp

theorem decimalValueDigits (n : Nat) : decimalValue (decimalDigits n) = n := by
  induction n using Nat.strong_induction_on with
  | _ n ih =>
    rw [decimalDigits]
    split
    · rename_i small; simp [decimalValue,toNatDigitChar small]
    · have high := ih (n / 10) (Nat.div_lt_self (by omega) (by omega))
      simp only [decimalValue,List.foldl_append,List.foldl_cons,List.foldl_nil] at high ⊢
      rw [high,toNatDigitChar (Nat.mod_lt _ (by omega))]
      omega

theorem decimalDigitsInj {n m : Nat} (same : decimalDigits n = decimalDigits m) : n = m := by
  rw [← decimalValueDigits n,← decimalValueDigits m,same]

theorem splitAtFirst {x : Char} {D D' B B' : List Char} (free : ∀ c ∈ D, c ≠ x) (free' : ∀ c ∈ D', c ≠ x)
    (h : D ++ x :: B = D' ++ x :: B') : D = D' ∧ B = B' := by
  induction D generalizing D' with
  | nil =>
    cases D' with
    | nil => exact ⟨rfl,(List.cons.inj h).2⟩
    | cons d ds => exact absurd (List.cons.inj h).1.symm (free' d (List.mem_cons_self d ds))
  | cons d ds ih =>
    cases D' with
    | nil => exact absurd (List.cons.inj h).1 (free d (List.mem_cons_self d ds))
    | cons d' ds' =>
      obtain ⟨head,rest⟩ := List.cons.inj h
      obtain ⟨same,tail⟩ := ih (fun c member => free c (List.mem_cons_of_mem d member))
        (fun c member => free' c (List.mem_cons_of_mem d' member)) rest
      exact ⟨by rw [head,same],tail⟩

theorem formatDecimalSplit {x y : Int} {B B' : List Char}
    (h : (formatDecimal x).data ++ '-' :: B = (formatDecimal y).data ++ '-' :: B') : x = y ∧ B = B' := by
  have dx := decimalDigitsNoDash x.natAbs
  have dy := decimalDigitsNoDash y.natAbs
  have magnitude : ∀ {D D'}, D = decimalDigits x.natAbs → D' = decimalDigits y.natAbs → D = D' →
      x.natAbs = y.natAbs := fun hx hy same => decimalDigitsInj (hx ▸ hy ▸ same)
  simp only [formatDecimal,List.append_assoc] at h
  by_cases nx : x < 0 <;> by_cases ny : y < 0 <;> simp only [nx,ny,if_true,if_false,List.singleton_append,
    List.nil_append,List.cons.injEq,true_and] at h
  · obtain ⟨same,rest⟩ := splitAtFirst dx dy h
    have := magnitude rfl rfl same; exact ⟨by omega,rest⟩
  · obtain ⟨c,cs,shape⟩ := List.exists_cons_of_ne_nil (decimalDigitsNeNil y.natAbs)
    rw [shape] at h dy
    exact absurd (List.cons.inj h).1.symm (dy c (List.mem_cons_self c cs))
  · obtain ⟨c,cs,shape⟩ := List.exists_cons_of_ne_nil (decimalDigitsNeNil x.natAbs)
    rw [shape] at h dx
    exact absurd (List.cons.inj h).1 (dx c (List.mem_cons_self c cs))
  · obtain ⟨same,rest⟩ := splitAtFirst dx dy h
    have := magnitude rfl rfl same; exact ⟨by omega,rest⟩

theorem formatDecimalInj {x y : Int} (same : formatDecimal x = formatDecimal y) : x = y :=
  (@formatDecimalSplit x y [] [] (by rw [same])).1

/-! ### `nextExecutionID` -/

def executionID (nanos executionCounter : BitVec 64) : String :=
  "exec-" ++ formatDecimal nanos.toInt ++ "-" ++ formatDecimal executionCounter.toInt

/-- One call: `o.executionCounter++` on an `int64`, then the id with the clock reading `nanos`
of `time.Now().UnixNano()`. -/
def nextExecutionID (executionCounter nanos : BitVec 64) : String × BitVec 64 :=
  (executionID nanos (executionCounter + 1),executionCounter + 1)

def mintIDs (executionCounter : BitVec 64) : List (BitVec 64) → List String
  | [] => []
  | nanos :: clock => (nextExecutionID executionCounter nanos).1 :: mintIDs (nextExecutionID executionCounter nanos).2 clock

theorem executionIDInj {nanos nanos' c c' : BitVec 64} (same : executionID nanos c = executionID nanos' c') :
    nanos = nanos' ∧ c = c' := by
  have chars := congrArg String.data same
  simp only [executionID,String.data_append,List.append_assoc] at chars
  have split := formatDecimalSplit (List.append_cancel_left chars)
  exact ⟨BitVec.toInt_inj.mp split.1,BitVec.toInt_inj.mp (formatDecimalInj (String.ext split.2))⟩

theorem mintIDsLength (executionCounter : BitVec 64) (clock : List (BitVec 64)) :
    (mintIDs executionCounter clock).length = clock.length := by
  induction clock generalizing executionCounter with
  | nil => rfl
  | cons nanos clock ih => simp [mintIDs,ih]

theorem mintIDsGet (executionCounter : BitVec 64) (clock : List (BitVec 64)) (k : Nat) :
    (mintIDs executionCounter clock)[k]? =
      clock[k]?.map fun nanos => executionID nanos (executionCounter + BitVec.ofNat 64 (k + 1)) := by
  induction clock generalizing executionCounter k with
  | nil => rfl
  | cons nanos clock ih =>
    cases k with
    | zero => simp [mintIDs,nextExecutionID]
    | succ k =>
      have shift : executionCounter + 1 + BitVec.ofNat 64 (k + 1) = executionCounter + BitVec.ofNat 64 (k + 1 + 1) := by
        apply BitVec.eq_of_toNat_eq
        have one : (1 : BitVec 64).toNat = 1 := rfl
        simp only [BitVec.toNat_add,BitVec.toNat_ofNat,one]
        omega
      simp only [mintIDs,nextExecutionID,List.getElem?_cons_succ,ih,shift]

/-- Among any `2^64` consecutive calls the ids are pairwise distinct, whatever the clock readings. -/
theorem executionIDsDistinct (executionCounter : BitVec 64) {clock : List (BitVec 64)} (bounded : clock.length ≤ 2 ^ 64) :
    (mintIDs executionCounter clock).Nodup := by
  refine List.nodup_iff_getElem?_ne_getElem?.mpr fun i j earlier inside same => ?_
  rw [mintIDsLength] at inside
  rw [mintIDsGet,mintIDsGet,List.getElem?_eq_getElem (by omega),List.getElem?_eq_getElem inside] at same
  have counters := congrArg BitVec.toNat (executionIDInj (Option.some.inj same)).2
  simp only [BitVec.toNat_add,BitVec.toNat_ofNat] at counters
  have := executionCounter.isLt
  omega

theorem executionIDsDistinctOnRepeatedClock : [5,5,3].length ≤ 2 ^ 64 ∧ (mintIDs 0 [5,5,3]).Nodup :=
  ⟨by norm_num,@executionIDsDistinct 0 [5,5,3] (by norm_num)⟩

theorem executionIDRepeatsAfterWrap : ¬(mintIDs 0 (List.replicate (2 ^ 64 + 1) 0)).Nodup := by
  intro distinct
  refine List.nodup_iff_getElem?_ne_getElem?.mp distinct 0 (2 ^ 64) (by norm_num)
    (by rw [mintIDsLength,List.length_replicate]; norm_num) ?_
  rw [mintIDsGet,mintIDsGet,List.getElem?_replicate,List.getElem?_replicate,if_pos (by norm_num),
    if_pos (by norm_num)]
  rfl

end Workflows.Dispatch
