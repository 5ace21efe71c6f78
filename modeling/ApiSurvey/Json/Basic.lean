import ApiSurvey.Number.Binary64

/-!
# JSON values

A value keeps the members of an object in document order, because listings, serialized values and
tables of examples show that order.  Equality of values as data is coarser than identity: it
disregards the order of members, and it tells integers from doubles but not the two zeros apart.
-/

namespace ApiSurvey

/-- A number is an integer as long as it is written as one and fits in 64 bits, else a double. -/
inductive Number
  | integer (value : Int)
  | double (value : Binary64)
deriving DecidableEq, Inhabited

namespace Number

/-- Equality as data. -/
def same : Number → Number → Bool
  | integer m, integer n => m == n
  | double x, double y => x.sameValue y
  | _, _ => false

/-- The nearest double. -/
def toBinary64? : Number → Option Binary64
  | integer n => Binary64.ofInt n
  | double x => some x

end Number

inductive Json
  | null
  | bool (value : Bool)
  | number (value : Number)
  | string (value : String)
  | array (items : List Json)
  | object (members : List (String × Json))
deriving Inhabited

namespace Json

/-- The members of an object in document order. -/
abbrev Members := List (String × Json)

mutual

/-- Whether two values are identical, the order of members included. -/
def decEq : (v w : Json) → Decidable (v = w)
  | .null, w => by cases w <;> first | exact isTrue rfl | exact isFalse nofun
  | .bool a, w => match w with
    | .bool b => decidable_of_iff (a = b) (by simp)
    | .null | .number _ | .string _ | .array _ | .object _ => isFalse nofun
  | .number a, w => match w with
    | .number b => decidable_of_iff (a = b) (by simp)
    | .null | .bool _ | .string _ | .array _ | .object _ => isFalse nofun
  | .string a, w => match w with
    | .string b => decidable_of_iff (a = b) (by simp)
    | .null | .bool _ | .number _ | .array _ | .object _ => isFalse nofun
  | .array a, w => match w with
    | .array b => match decEqItems a b with
      | isTrue h => isTrue (h ▸ rfl)
      | isFalse h => isFalse fun e => h (by injection e)
    | .null | .bool _ | .number _ | .string _ | .object _ => isFalse nofun
  | .object a, w => match w with
    | .object b => match decEqMembers a b with
      | isTrue h => isTrue (h ▸ rfl)
      | isFalse h => isFalse fun e => h (by injection e)
    | .null | .bool _ | .number _ | .string _ | .array _ => isFalse nofun

def decEqItems : (vs ws : List Json) → Decidable (vs = ws)
  | [], [] => isTrue rfl
  | [], _ :: _ => isFalse nofun
  | _ :: _, [] => isFalse nofun
  | v :: vs, w :: ws => match decEq v w, decEqItems vs ws with
    | isTrue h, isTrue hs => isTrue (h ▸ hs ▸ rfl)
    | isFalse h, _ => isFalse fun e => h (by injection e)
    | _, isFalse hs => isFalse fun e => hs (by injection e)

def decEqMembers : (ms ns : Members) → Decidable (ms = ns)
  | [], [] => isTrue rfl
  | [], _ :: _ => isFalse nofun
  | _ :: _, [] => isFalse nofun
  | (k, v) :: ms, (l, w) :: ns =>
    match decEq v w, decEqMembers ms ns with
    | isTrue h, isTrue hs =>
      if hk : k = l then isTrue (hk ▸ h ▸ hs ▸ rfl)
      else isFalse fun e => hk (by injection e with e; injection e)
    | isFalse h, _ => isFalse fun e => h (by injection e with e; injection e)
    | _, isFalse hs => isFalse fun e => hs (by injection e)

end

instance : DecidableEq Json := decEq

mutual

/-- Equality as data: members are compared by key, in any order. -/
def same : Json → Json → Bool
  | null, null => true
  | bool a, bool b => a == b
  | number a, number b => a.same b
  | string a, string b => a == b
  | array a, array b => sameItems a b
  | object a, object b => a.length == b.length && sameMembers a b
  | _, _ => false

def sameItems : List Json → List Json → Bool
  | [], [] => true
  | v :: vs, w :: ws => same v w && sameItems vs ws
  | _, _ => false

/-- Whether each member on the left has an equal one of its key on the right. -/
def sameMembers : Members → Members → Bool
  | [], _ => true
  | (key, v) :: ms, ns =>
    (match ns.lookup key with
      | some w => same v w
      | none => false) && sameMembers ms ns

end

/-- The member of an object; nothing for any other value. -/
def get? (v : Json) (key : String) : Option Json :=
  match v with
  | object members => members.lookup key
  | _ => none

def members? : Json → Option Members
  | object members => some members
  | _ => none

theorem members?_eq_some_iff {v : Json} {members : Members} :
    v.members? = some members ↔ v = object members := by
  cases v <;> simp [members?]

def items? : Json → Option (List Json)
  | array items => some items
  | _ => none

theorem items?_eq_some_iff {v : Json} {items : List Json} :
    v.items? = some items ↔ v = array items := by
  cases v <;> simp [items?]

def string? : Json → Option String
  | string s => some s
  | _ => none

theorem string?_eq_some_iff {v : Json} {s : String} : v.string? = some s ↔ v = string s := by
  cases v <;> simp [string?]

def bool? : Json → Option Bool
  | bool b => some b
  | _ => none

/-- A number that is a whole one by its very form: doubles are none, even integral ones. -/
def size? : Json → Option Nat
  | number (.integer n) => if 0 ≤ n then some n.toNat else none
  | _ => none

/-- The number, as the nearest double. -/
def double? : Json → Option Binary64
  | number n => n.toBinary64?
  | _ => none

def ofNat (n : Nat) : Json :=
  number (.integer n)

theorem size?_ofNat (n : Nat) : (ofNat n).size? = some n := by
  simp [ofNat, size?]

def isArray (v : Json) : Bool :=
  v.items?.isSome

def isNull : Json → Bool
  | null => true
  | _ => false

/-- The members with `key` bound to `v`: in the place of its first appearance if it is there, else
at the end. -/
def insertMember (members : Members) (key : String) (v : Json) : Members :=
  match members with
  | [] => [(key, v)]
  | (k, w) :: rest => if k = key then (k, v) :: rest else (k, w) :: insertMember rest key v

theorem lookup_cons {β : Type} (key k : String) (b : β) (entries : List (String × β)) :
    List.lookup k ((key, b) :: entries) = if k = key then some b else entries.lookup k := by
  by_cases h : k = key
  · simp [h]
  · have hb : (k == key) = false := by simpa using h
    simp [List.lookup_cons, h, hb]

theorem lookup_insertMember (members : Members) (key k : String) (v : Json) :
    (insertMember members key v).lookup k = if k = key then some v else members.lookup k := by
  induction members with
  | nil => rw [insertMember, lookup_cons]
  | cons entry members ih =>
    obtain ⟨l, w⟩ := entry
    by_cases hl : l = key
    · subst hl
      simp only [insertMember, if_true, lookup_cons]
      split <;> rfl
    · simp only [insertMember, if_neg hl, lookup_cons, ih]
      split
      · next h => subst h; simp [hl]
      · rfl

end Json

end ApiSurvey
