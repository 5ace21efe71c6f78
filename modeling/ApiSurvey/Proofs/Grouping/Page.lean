import ApiSurvey.Grouping.Page
import ApiSurvey.Proofs.FieldPath.Replace
import ApiSurvey.Proofs.Grouping.WholeNumbers

/-!
# Pages of whole numbers

Whether a page is complete is decided in doubles.  Where the numbers of the response are whole and
at most `2^53` in magnitude, and so is the place at which the page ends, nothing is rounded on the
way: the decision is that of the comparison of integers.
-/

namespace ApiSurvey.Grouping.Page

/-- What a response says under a key at its top level: a whole number that doubles have room for,
held as an integer or as a double, or nothing, if there is no number. -/
inductive Says (response : Json) (key : String) : Option Int → Prop
  | nothing (h : ∀ n, response.get? key ≠ some (.number n)) : Says response key none
  | number {n : Number} {i : Int} (h : response.get? key = some (.number n))
      (hvalue : n.units = i * Binary64.one) (hsmall : i.natAbs ≤ 2 ^ 53) :
      Says response key (some i)

/-- An optional double has the value of an optional whole number. -/
def Holds (x : Option Binary64) (i : Option Int) : Prop :=
  x.map Binary64.units = i.map (· * (Binary64.one : Int))

variable {response v : Json} {key : String} {x : Option Binary64} {y z : Binary64}
  {i count offset limit : Option Int} {j : Int} {returned : Nat}

/-! ## Numbers that are read -/

/-- A whole number is the same as a double. -/
lemma holds_toBinary64? {n : Number} (h : n.units = j * Binary64.one) (hj : j.natAbs ≤ 2 ^ 53) :
    Holds n.toBinary64? (some j) := by
  cases n with
  | integer k =>
    obtain rfl : k = j := Int.eq_of_mul_eq_mul_right (Int.natCast_ne_zero.2 Binary64.one_pos.ne') h
    obtain ⟨x, hx, hunits⟩ := Binary64.exists_ofInt hj
    rw [Number.toBinary64?, hx, Holds, Option.map_some, hunits, Option.map_some]
  | double x => exact congrArg some h

/-- What is no number gives no double. -/
lemma double?_eq_none (h : ∀ n, v ≠ .number n) : v.double? = none := by
  cases v with
  | number n => exact absurd rfl (h n)
  | _ => rfl

/-- A number of the page is the one under its key at the top level. -/
lemma Says.holds (hkey : FieldPath.tokens key = [key])
    (harray : ∀ xs, (Json.array xs).child? key = none) (h : Says response key i) :
    Holds ((response.resolve? key).bind Json.double?) i := by
  have hget : response.resolve? key = response.get? key := by
    rw [Json.resolve?_of_tokens hkey]
    cases response with
    | array xs => exact harray xs
    | _ => rfl
  rw [hget]
  cases h with
  | nothing hnone =>
    cases hmember : response.get? key with
    | none => rfl
    | some v =>
      rw [Option.bind_some, double?_eq_none fun n hn => hnone n (hn ▸ hmember)]
      rfl
  | number hmember hvalue hsmall =>
    rw [hmember]
    exact holds_toBinary64? hvalue hsmall

lemma holds_ofResponse (hcount : Says response "count" count)
    (hoffset : Says response "offset" offset) (hlimit : Says response "limit" limit) :
    Holds (ofResponse response).count count ∧ Holds (ofResponse response).offset offset
      ∧ Holds (ofResponse response).limit limit :=
  ⟨hcount.holds (by decide) fun _ => rfl, hoffset.holds (by decide) fun _ => rfl,
    hlimit.holds (by decide) fun _ => rfl⟩

/-! ## The decision -/

lemma Holds.getD (h : Holds x i) :
    (x.getD (.zero false)).units = i.getD 0 * Binary64.one := by
  cases x with
  | none =>
    cases i with
    | none => exact (Int.zero_mul _).symm
    | some j => contradiction
  | some y =>
    cases i with
    | none => contradiction
    | some j => exact Option.some.inj h

lemma Holds.any {p : Binary64 → Bool} {q : Int → Prop} (h : Holds x i)
    (hpq : ∀ (y : Binary64) (j : Int), y.units = j * Binary64.one → (p y = true ↔ q j)) :
    x.any p = true ↔ ∃ j, i = some j ∧ q j := by
  cases x with
  | none =>
    cases i with
    | none => simp
    | some j => contradiction
  | some y =>
    cases i with
    | none => contradiction
    | some j => simpa using hpq y j (Option.some.inj h)

section

variable {p : Page} {n : Binary64}

/-- The decision, as an equation of functions: opened for a single page it would set off the
conversion of a number that is not known. -/
lemma isIncomplete_eq : isIncomplete = fun p returned => match Binary64.ofNat returned with
    | some n => p.endsBeforeCount n || p.limit.any n.sameValue
    | none => false := by
  delta isIncomplete
  rfl

lemma isIncomplete_of_ofNat (h : Binary64.ofNat returned = some n) :
    p.isIncomplete returned = (p.endsBeforeCount n || p.limit.any n.sameValue) := by
  rw [isIncomplete_eq]
  simp only [h]

variable (hn : n.units = returned * Binary64.one)

include hn

lemma endsBeforeCount_iff (hcount : Holds p.count count) (hoffset : Holds p.offset offset)
    (hend : (offset.getD 0 + returned).natAbs ≤ 2 ^ 53) :
    p.endsBeforeCount n = true ↔ ∃ c, count = some c ∧ offset.getD 0 + returned < c := by
  obtain ⟨reached, hadd, hreached⟩ := Binary64.exists_add hoffset.getD hn hend
  rw [endsBeforeCount, hadd]
  exact hcount.any fun _ _ hc => Binary64.lt_iff_of_units hreached hc

lemma fillsLimit_iff (hlimit : Holds p.limit limit) :
    p.limit.any n.sameValue = true ↔ limit = some (returned : Int) := by
  rw [hlimit.any fun _ _ hl => Binary64.sameValue_iff_of_units hn hl]
  simp

end

/-- **A page looks incomplete just if it ends before the count or is filled to its limit, as
integers compare**, if all of its numbers are whole and at most `2^53` in magnitude. -/
theorem isIncomplete_iff (hcount : Says response "count" count)
    (hoffset : Says response "offset" offset) (hlimit : Says response "limit" limit)
    (hend : (offset.getD 0).natAbs + returned ≤ 2 ^ 53) :
    (ofResponse response).isIncomplete returned = true
      ↔ (∃ c, count = some c ∧ offset.getD 0 + returned < c) ∨ limit = some (returned : Int) := by
  obtain ⟨hcount', hoffset', hlimit'⟩ := holds_ofResponse hcount hoffset hlimit
  have hreturned : returned ≤ 2 ^ 53 := by omega
  obtain ⟨n, hn, hunits⟩ := Binary64.exists_ofNat hreturned
  have hsum : (offset.getD 0 + returned).natAbs ≤ 2 ^ 53 := by omega
  rw [isIncomplete_of_ofNat hn, Bool.or_eq_true, endsBeforeCount_iff hunits hcount' hoffset' hsum,
    fillsLimit_iff hunits hlimit']

/-! A page up to one item before the greatest count for which this holds. -/

def twoTo53 : Binary64 := ⟨false, 4503599627370496, 1075, by decide⟩

def lastPage : Json :=
  .object [("offset", .number (.integer 9007199254740990)), ("limit", .string "none"),
    ("count", .number (.double twoTo53))]

theorem isIncomplete_lastPage :
    Says lastPage "count" (some 9007199254740992) ∧ Says lastPage "offset" (some 9007199254740990)
      ∧ Says lastPage "limit" none
      ∧ (ofResponse lastPage).isIncomplete 1 = true
      ∧ (ofResponse lastPage).isIncomplete 2 = false := by
  have hcount : Says lastPage "count" (some 9007199254740992) :=
    .number rfl (by decide +kernel : (Number.double twoTo53).units = _) (by decide)
  have hoffset : Says lastPage "offset" (some 9007199254740990) := .number rfl rfl (by decide)
  have hlimit : Says lastPage "limit" none := .nothing nofun
  refine ⟨hcount, hoffset, hlimit, ?_, ?_⟩
  · exact (isIncomplete_iff hcount hoffset hlimit (by decide)).2 (.inl ⟨_, rfl, by decide⟩)
  · rw [← Bool.not_eq_true, isIncomplete_iff hcount hoffset hlimit (by decide)]
    simp

/-- Beyond the bound a limit is rounded, and a page of one item less fills it. -/
example : (ofResponse (.object [("limit", .number (.integer 9007199254740993))])).isIncomplete
    9007199254740992 = true := by decide +kernel

end ApiSurvey.Grouping.Page
