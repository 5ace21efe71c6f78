import ApiSurvey.Json.Parser
import ApiSurvey.Proofs.Json.Scanning
import Mathlib.Data.List.Nodup

/-!
# Values read back from their text

What the compact text of a value does to the reader is followed from state to state.  Where a value
is due, the text of a value leads to the state after this value, by induction on the value: within a
container the reader goes from one element to the next, with the elements before it read.  Doubles
are left out, since the text of a double is not always read as this double.
-/

namespace ApiSurvey.Json

open Token Json.Parser

/-- What is read back from its text, within `n` levels of nesting: integers that are held as such,
and objects with distinct keys. -/
inductive Restorable : Nat → Json → Prop
  | null (n : Nat) : Restorable n null
  | bool (n : Nat) (b : Bool) : Restorable n (bool b)
  | integer (n : Nat) {i : Int} (hi : Number.Fits i) : Restorable n (number (.integer i))
  | string (n : Nat) (s : String) : Restorable n (string s)
  | array {n : Nat} {items : List Json} (hitems : ∀ v ∈ items, Restorable n v) :
      Restorable (n + 1) (array items)
  | object {n : Nat} {members : Members} (hkeys : (members.map Prod.fst).Nodup)
      (hmembers : ∀ entry ∈ members, Restorable n entry.2) : Restorable (n + 1) (object members)

/-- The text takes the reader from one state to another, if what follows it is delimited. -/
def Takes (limit : Nat) (cs : List Char) (s t : State) : Prop :=
  ∃ tokens : List Token,
    (∀ rest, Delimited rest →
      scanFrom .between (cs ++ rest) = (scanFrom .between rest).map (tokens ++ ·))
    ∧ tokens.foldlM (step? limit) s = some t

section

variable {limit : Nat} {s t u : State} {cs ds : List Char} {c : Char} {token : Token}

lemma takes_nil : Takes limit [] s s :=
  ⟨[], fun _ _ => Option.map_id'.symm, rfl⟩

/-- A text that is one token. -/
lemma takes_token (hscan : ∀ rest, Delimited rest →
      scanFrom .between (cs ++ rest) = (scanFrom .between rest).map (token :: ·))
    (hstep : step? limit s token = some t) : Takes limit cs s t :=
  ⟨[token], hscan, by simp [hstep]⟩

/-- A sign is a token whatever follows it. -/
lemma Takes.sign (h : Takes limit cs t u) (hc : step .between c = some (.between, [token]))
    (hstep : step? limit s token = some t) : Takes limit (c :: cs) s u := by
  obtain ⟨tokens, hscan, hrun⟩ := h
  refine ⟨token :: tokens, fun rest hrest => ?_, by simp [hstep, hrun]⟩
  rw [List.cons_append, scanFrom_cons hc, hscan rest hrest, Option.map_map]
  rfl

/-- One text after another, which begins with a delimiter. -/
lemma Takes.append (h : Takes limit cs s t) (h' : Takes limit (c :: ds) t u)
    (hc : isNumberChar c = false ∧ isLetter c = false) : Takes limit (cs ++ c :: ds) s u := by
  obtain ⟨tokens, hscan, hrun⟩ := h
  obtain ⟨tokens', hscan', hrun'⟩ := h'
  refine ⟨tokens ++ tokens', fun rest hrest => ?_, by simp [hrun, hrun']⟩
  have hdelimited : Delimited (c :: ds ++ rest) := by
    rintro d ⟨⟩
    exact hc
  rw [List.append_assoc, hscan _ hdelimited, hscan' rest hrest, Option.map_map]
  congr 1
  funext read
  exact (List.append_assoc ..).symm

end

/-! ## Values where they are due -/

/-- A value may come next. -/
def AwaitsValue (place : Place) : Prop :=
  place = .value ∨ place = .valueOrClose

/-- Where a value is due within `n` levels of the limit, the text of `v` is read as `v`. -/
def ReadBack (limit n : Nat) (v : Json) : Prop :=
  ∀ frames place, AwaitsValue place → frames.length + n ≤ limit →
    Takes limit v.compactChars ⟨frames, place⟩ (.accept frames v)

variable {limit n : Nat} {frames : List Frame} {place : Place}

lemma step?_of_awaitsValue (token : Token) (hplace : AwaitsValue place)
    (htoken : token ≠ .closeBracket) :
    step? limit ⟨frames, place⟩ token = startValue? limit frames token := by
  obtain rfl | rfl := hplace
  · rfl
  · cases frames with
    | nil => rfl
    | cons frame frames => cases frame <;> cases token <;> first | rfl | contradiction

lemma enter?_of_le {frame : Frame} (h : frames.length + (n + 1) ≤ limit) :
    State.enter? limit frames frame place = some ⟨frame :: frames, place⟩ :=
  if_pos (by omega)

lemma readBack_scalar {v : Json} (h : ∀ rest, Delimited rest →
    scanFrom .between (v.compactChars ++ rest) = (scanFrom .between rest).map (.scalar v :: ·)) :
    ReadBack limit n v :=
  fun _ _ hplace _ => takes_token h (step?_of_awaitsValue _ hplace nofun)

lemma readBack_string (text : String) : ReadBack limit n (string text) :=
  fun _ _ hplace _ =>
    takes_token (fun _ _ => scanFrom_quote text) (step?_of_awaitsValue _ hplace nofun)

/-! ## Arrays -/

lemma depth_cons {frame : Frame} (h : frames.length + (n + 1) ≤ limit) :
    (frame :: frames).length + n ≤ limit := by
  rw [List.length_cons]
  omega

/-- One item, with those before it read. -/
lemma takes_item {v : Json} (read : List Json) (hv : ReadBack limit n v)
    (hplace : AwaitsValue place) (hlimit : frames.length + (n + 1) ≤ limit) :
    Takes limit v.compactChars ⟨.array read :: frames, place⟩
      ⟨.array (v :: read) :: frames, .commaOrClose⟩ :=
  hv _ _ hplace (depth_cons hlimit)

/-- The items that are left, with those before them read. -/
lemma takes_items {v : Json} {vs read : List Json} (hread : ∀ w ∈ v :: vs, ReadBack limit n w)
    (hplace : AwaitsValue place) (hlimit : frames.length + (n + 1) ≤ limit) :
    Takes limit (Text.joinWith [','] (compactItems (v :: vs)) ++ [']'])
      ⟨.array read :: frames, place⟩ (.accept frames (array (read.reverse ++ v :: vs))) := by
  induction vs generalizing v read place with
  | nil =>
    have hv := takes_item read (hread v List.mem_cons_self) hplace hlimit
    have hclose : step? limit ⟨.array (v :: read) :: frames, .commaOrClose⟩ .closeBracket
        = some (.accept frames (array (read.reverse ++ [v]))) := by
      rw [← List.reverse_cons]
      rfl
    exact hv.append (takes_nil.sign rfl hclose) ⟨rfl, rfl⟩
  | cons w vs ih =>
    have hv := takes_item read (hread v List.mem_cons_self) hplace hlimit
    have hnext : Takes limit (Text.joinWith [','] (compactItems (w :: vs)) ++ [']'])
        ⟨.array (v :: read) :: frames, .value⟩
        (.accept frames (array ((v :: read).reverse ++ w :: vs))) :=
      ih (fun x hx => hread x (List.mem_cons_of_mem v hx)) (.inl rfl)
    rw [List.reverse_cons, List.append_assoc] at hnext
    have hcomma := hv.append (c := ',') (hnext.sign rfl rfl) ⟨rfl, rfl⟩
    simpa [compactItems, Text.joinWith] using hcomma

lemma readBack_array {items : List Json} (hread : ∀ v ∈ items, ReadBack limit n v) :
    ReadBack limit (n + 1) (array items) := by
  intro frames place hplace hlimit
  have hopen : step? limit ⟨frames, place⟩ .openBracket
      = some ⟨.array [] :: frames, .valueOrClose⟩ := by
    rw [step?_of_awaitsValue .openBracket hplace nofun]
    exact enter?_of_le hlimit
  cases items with
  | nil => exact (takes_nil.sign rfl rfl).sign rfl hopen
  | cons v vs => exact (takes_items hread (.inr rfl) hlimit).sign rfl hopen

/-! ## Objects -/

lemma insertMember_of_notMem {members : Members} {key : String} {v : Json}
    (h : key ∉ members.map Prod.fst) : insertMember members key v = members ++ [(key, v)] := by
  induction members with
  | nil => rfl
  | cons entry members ih =>
    obtain ⟨k, w⟩ := entry
    rw [List.map_cons, List.mem_cons, not_or] at h
    rw [insertMember, if_neg (Ne.symm h.1), ih h.2, List.cons_append]

lemma notMem_keys {before members : Members} {entry : String × Json}
    (h : ((before ++ entry :: members).map Prod.fst).Nodup) : entry.1 ∉ before.map Prod.fst := by
  rw [List.map_append, List.nodup_append] at h
  exact fun hmem => h.2.2 _ hmem _ List.mem_cons_self rfl

/-- One member, with those before it read. -/
lemma takes_member {before : Members} {k key : String} {v : Json} (hv : ReadBack limit n v)
    (hplace : place = .key ∨ place = .keyOrClose) (hlimit : frames.length + (n + 1) ≤ limit)
    (hkey : key ∉ before.map Prod.fst) :
    Takes limit (quote key ++ ':' :: v.compactChars) ⟨.object before k :: frames, place⟩
      ⟨.object (before ++ [(key, v)]) key :: frames, .commaOrClose⟩ := by
  have hquote : Takes limit (quote key) ⟨.object before k :: frames, place⟩
      ⟨.object before key :: frames, .colon⟩ := by
    refine takes_token (fun _ _ => scanFrom_quote key) ?_
    obtain rfl | rfl := hplace <;> rfl
  have hvalue := hv (.object before key :: frames) .value (.inl rfl) (depth_cons hlimit)
  rw [State.accept, insertMember_of_notMem hkey] at hvalue
  exact hquote.append (hvalue.sign rfl rfl) ⟨rfl, rfl⟩

/-- The members that are left, with those before them read. -/
lemma takes_members {entry : String × Json} {members before : Members} {k : String}
    (hread : ∀ e ∈ entry :: members, ReadBack limit n e.2)
    (hplace : place = .key ∨ place = .keyOrClose) (hlimit : frames.length + (n + 1) ≤ limit)
    (hkeys : ((before ++ entry :: members).map Prod.fst).Nodup) :
    Takes limit (Text.joinWith [','] (compactMembers (entry :: members)) ++ ['\x7d'])
      ⟨.object before k :: frames, place⟩
      (.accept frames (object (before ++ entry :: members))) := by
  induction members generalizing entry before k place with
  | nil =>
    have hentry := takes_member (k := k) (hread entry List.mem_cons_self) hplace hlimit
      (notMem_keys hkeys)
    exact hentry.append (takes_nil.sign rfl rfl) ⟨rfl, rfl⟩
  | cons next members ih =>
    have hentry := takes_member (k := k) (hread entry List.mem_cons_self) hplace hlimit
      (notMem_keys hkeys)
    have hsplit : before ++ entry :: next :: members
        = (before ++ [entry]) ++ next :: members := by simp
    rw [hsplit] at hkeys ⊢
    have hnext : Takes limit (Text.joinWith [','] (compactMembers (next :: members)) ++ ['\x7d'])
        ⟨.object (before ++ [entry]) entry.1 :: frames, .key⟩
        (.accept frames (object ((before ++ [entry]) ++ next :: members))) :=
      ih (fun e he => hread e (List.mem_cons_of_mem entry he)) (.inl rfl) hkeys
    have hcomma := hentry.append (c := ',') (hnext.sign rfl rfl) ⟨rfl, rfl⟩
    simpa [compactMembers, Text.joinWith] using hcomma

lemma readBack_object {members : Members} (hkeys : (members.map Prod.fst).Nodup)
    (hread : ∀ entry ∈ members, ReadBack limit n entry.2) :
    ReadBack limit (n + 1) (object members) := by
  intro frames place hplace hlimit
  have hopen : step? limit ⟨frames, place⟩ .openBrace
      = some ⟨.object [] "" :: frames, .keyOrClose⟩ := by
    rw [step?_of_awaitsValue .openBrace hplace nofun]
    exact enter?_of_le hlimit
  cases members with
  | nil => exact (takes_nil.sign rfl rfl).sign rfl hopen
  | cons entry members => exact (takes_members hread (.inr rfl) hlimit hkeys).sign rfl hopen

/-! ## All values -/

lemma Restorable.readBack {v : Json} (h : Restorable n v) : ReadBack limit n v := by
  induction h with
  | null n => exact readBack_scalar fun _ => scanFrom_letters rfl rfl rfl
  | bool n b =>
    cases b with
    | false => exact readBack_scalar fun _ => scanFrom_letters rfl rfl rfl
    | true => exact readBack_scalar fun _ => scanFrom_letters rfl rfl rfl
  | integer n hi => exact readBack_scalar fun _ => scanFrom_numeral hi
  | string n s => exact readBack_string s
  | array _ ih => exact readBack_array ih
  | object hkeys _ ih => exact readBack_object hkeys ih

/-- **A value is read back from its compact text**, if it has only integers that are held as such,
no object with a key twice, and is not nested too deep. -/
theorem parse?_compact {v : Json} (h : Restorable n v) (hn : n ≤ nestingLimit) :
    parse? v.compact = some v := by
  obtain ⟨tokens, hscan, hrun⟩ := h.readBack [] .value (.inl rfl) (Nat.zero_add n ▸ hn)
  have htokens : scan? v.compactChars = some tokens := by
    have hend := hscan [] nofun
    rw [List.append_nil] at hend
    rw [scan?_eq, hend]
    simp [scanFrom, finish]
  rw [parse?, parseWithin?, compact, String.toList_ofList, htokens]
  simp only [Option.bind_eq_bind, Option.bind_some, ofTokens?, hrun]
  rfl

end ApiSurvey.Json
