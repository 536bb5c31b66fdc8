import Mathlib

/-!
# Go strings and `strconv`

The client's `deriveHTTPForwardAddress` slices its argument by byte (`addr[1:]`) and hands
both the whole string and the slice to `strconv.Atoi`, so its model needs Go strings as
they are: sequences of bytes, not necessarily valid UTF-8. This module models them as
`List UInt8`, and models the pieces of Go's library that the repository calls on them:

* `strconv.ParseUint(s, 10, 64)` and `strconv.ParseInt(s, 10, 64)` as Go writes them, a
  digit loop with an overflow cutoff that returns early, so that the value returned with an
  error is the one Go returns (`0` on a syntax error, the clamped bound on a range error);
* `strconv.Atoi`, which Go documents as "equivalent to `ParseInt(s, 10, 0)`, converted to
  type int", on a 64-bit platform;
* `fmt.Sprintf("%d", v)` and `strings.Contains`.

## What is proved

* `parseInt_ok_mem` — a string that `ParseInt` accepts holds only digits and signs.
* `parseUintDigits_eq_foldl` — on digits, the loop computes the decimal value as long as it
  fits in 64 bits; `parseInt_digits` gives `ParseInt` of a digit string below `2 ^ 63`.
* `atoi_formatInt` — `Atoi` reads back what `%d` prints, for every value of `int64`.
-/

namespace Pgrok

/-- A Go `string`: its bytes. -/
abbrev Bytes := List UInt8

/-- The bytes of an ASCII literal of the source. -/
def ascii (s : String) : Bytes := s.toList.map fun c => c.toNat.toUInt8

/-- `'0' <= c && c <= '9'`. -/
def isDigit (c : UInt8) : Bool := 48 ≤ c && c ≤ 57

/-- `c - '0'`, for a digit `c`. -/
def digitVal (c : UInt8) : Nat := c.toNat - 48

/-- The decimal value of a string of digits, read left to right. -/
def decimalValue (ds : Bytes) : Nat := ds.foldl (fun n c => n * 10 + digitVal c) 0

namespace Strconv

/-- What a failed conversion reports (`strconv.NumError.Err`). -/
inductive NumError where
  /-- `strconv.ErrSyntax`, "invalid syntax". -/
  | errSyntax
  /-- `strconv.ErrRange`, "value out of range". -/
  | errRange
  deriving DecidableEq, Repr

/-- `maxVal` of `ParseUint` for `bitSize = 64`. -/
def maxUint64 : Nat := 2 ^ 64 - 1

/-- `cutoff` of `ParseUint` for base 10: the smallest `n` with `n * 10 > maxUint64`. -/
def cutoff : Nat := maxUint64 / 10 + 1

/-- The loop of `ParseUint(s, 10, 64)` over the bytes of `s`, from the accumulator `n`.
A non-digit is a syntax error; an accumulator that would leave 64 bits stops the loop
at once with a range error and `maxVal`, before the bytes after it are looked at. -/
def parseUintDigits : Nat → Bytes → Nat × Option NumError
  | n, [] => (n, none)
  | n, c :: cs =>
    if isDigit c then
      if cutoff ≤ n then (maxUint64, some .errRange)
      else if maxUint64 < n * 10 + digitVal c then (maxUint64, some .errRange)
      else parseUintDigits (n * 10 + digitVal c) cs
    else (0, some .errSyntax)

/-- `strconv.ParseUint(s, 10, 64)`. -/
def parseUint (s : Bytes) : Nat × Option NumError :=
  if s = [] then (0, some .errSyntax) else parseUintDigits 0 s

/-- `strconv.ParseInt(s, 10, 64)`: the value Go returns, and its error. The sign byte
(`'+'` is 43, `'-'` is 45) is picked off, the rest is read by `ParseUint`, and a magnitude
that does not fit in `int64` is clamped with a range error. -/
def parseInt : Bytes → Int × Option NumError
  | [] => (0, some .errSyntax)
  | c :: cs =>
    let neg := c == 45
    let body := if c == 43 || c == 45 then cs else c :: cs
    match parseUint body with
    | (_, some .errSyntax) => (0, some .errSyntax)
    | (un, _) =>
      if !neg && 2 ^ 63 ≤ un then (2 ^ 63 - 1, some .errRange)
      else if neg && 2 ^ 63 < un then (-2 ^ 63, some .errRange)
      else (if neg then -(un : Int) else un, none)

/-- `strconv.Atoi(s)` on a 64-bit platform, "equivalent to `ParseInt(s, 10, 0)`". -/
def atoi (s : Bytes) : Int × Option NumError := parseInt s

/-- `strconv.FormatUint(n, 10)`. -/
def formatNat (n : Nat) : Bytes := (Nat.toDigits 10 n).map fun c => c.toNat.toUInt8

/-- `fmt.Sprintf("%d", v)`. -/
def formatInt (v : Int) : Bytes :=
  if v < 0 then 45 :: formatNat v.natAbs else formatNat v.toNat

end Strconv

/-- `strings.Contains(s, substr)`. -/
def contains (s substr : Bytes) : Bool := decide (substr <:+: s)

@[simp] theorem contains_iff (s substr : Bytes) : contains s substr = true ↔ substr <:+: s := by
  simp [contains]

theorem contains_append_left {s substr : Bytes} (a : Bytes) (h : contains s substr = true) :
    contains (a ++ s) substr = true := by
  simp only [contains_iff] at *
  exact h.trans (List.suffix_append a s).isInfix

theorem contains_append_right {s substr : Bytes} (b : Bytes) (h : contains s substr = true) :
    contains (s ++ b) substr = true := by
  simp only [contains_iff] at *
  exact h.trans (List.prefix_append s b).isInfix

namespace Strconv

/-! ### Accepted strings -/

theorem parseUintDigits_ok_mem {n : Nat} {ds : Bytes} {v : Nat}
    (h : parseUintDigits n ds = (v, none)) : ∀ c ∈ ds, isDigit c = true := by
  induction ds generalizing n with
  | nil => simp
  | cons c cs ih =>
    simp only [parseUintDigits] at h
    split_ifs at h with hc h1 h2
    · simp at h
    · simp at h
    · simpa [hc] using ih h
    · simp at h

theorem parseUint_ok_mem {s : Bytes} {v : Nat} (h : parseUint s = (v, none)) :
    s ≠ [] ∧ ∀ c ∈ s, isDigit c = true := by
  unfold parseUint at h
  split_ifs at h with hs
  · simp at h
  · exact ⟨hs, parseUintDigits_ok_mem h⟩

theorem parseUintDigits_range {n : Nat} {ds : Bytes} {u : Nat}
    (h : parseUintDigits n ds = (u, some .errRange)) : u = maxUint64 := by
  induction ds generalizing n with
  | nil => simp [parseUintDigits] at h
  | cons c cs ih =>
    simp only [parseUintDigits] at h
    split_ifs at h
    · exact (Prod.mk.inj h).1.symm
    · exact (Prod.mk.inj h).1.symm
    · exact ih h
    · simp at h

theorem parseUint_range {s : Bytes} {u : Nat} (h : parseUint s = (u, some .errRange)) :
    u = maxUint64 := by
  unfold parseUint at h
  split_ifs at h
  · simp at h
  · exact parseUintDigits_range h

/-- `ParseInt` succeeds only where `ParseUint` succeeds on the bytes after the sign. -/
theorem parseInt_ok {s : Bytes} {v : Int} (h : parseInt s = (v, none)) :
    ∃ c cs u, s = c :: cs ∧ parseUint (if c == 43 || c == 45 then cs else c :: cs) = (u, none) := by
  match s, h with
  | c :: cs, h =>
    simp only [parseInt] at h
    generalize hp : parseUint (if c == 43 || c == 45 then cs else c :: cs) = p at h
    obtain ⟨un, _ | _ | _⟩ := p
    · exact ⟨c, cs, un, rfl, hp⟩
    · simp at h
    · rw [parseUint_range hp] at h
      split_ifs at h <;> simp_all [maxUint64]

/-- A string `ParseInt` accepts is a sign or a digit, then digits. -/
theorem parseInt_ok_mem {s : Bytes} {v : Int} (h : parseInt s = (v, none)) :
    ∀ c ∈ s, isDigit c = true ∨ c = 43 ∨ c = 45 := by
  obtain ⟨c, cs, u, rfl, hu⟩ := parseInt_ok h
  have hd := (parseUint_ok_mem hu).2
  intro x hx
  by_cases hs : (c == 43 || c == 45) = true
  · simp only [hs, if_true] at hd
    rcases List.mem_cons.1 hx with rfl | hx
    · simp only [Bool.or_eq_true, beq_iff_eq] at hs
      exact .inr hs
    · exact .inl (hd x hx)
  · simp only [hs] at hd
    exact .inl (hd x (by simpa using hx))

/-! ### Digit strings -/

/-- One step of the decimal accumulator. -/
theorem decimal_step_le (n : Nat) (ds : Bytes) :
    n ≤ ds.foldl (fun n c => n * 10 + digitVal c) n := by
  induction ds generalizing n with
  | nil => exact le_rfl
  | cons c cs ih => exact (by omega : n ≤ n * 10 + digitVal c).trans (ih _)

/-- On digits, the loop of `ParseUint` computes the decimal value while it fits in 64 bits. -/
theorem parseUintDigits_eq_foldl {n : Nat} {ds : Bytes} (hd : ∀ c ∈ ds, isDigit c = true)
    (h : ds.foldl (fun n c => n * 10 + digitVal c) n ≤ maxUint64) :
    parseUintDigits n ds = (ds.foldl (fun n c => n * 10 + digitVal c) n, none) := by
  induction ds generalizing n with
  | nil => rfl
  | cons c cs ih =>
    have hstep := decimal_step_le (n * 10 + digitVal c) cs
    simp only [List.foldl_cons] at h ⊢
    have hn : ¬cutoff ≤ n := by simp only [cutoff, maxUint64] at h hstep ⊢; omega
    simp only [parseUintDigits, hd c (List.mem_cons_self c cs), if_true, hn, if_false,
      show ¬maxUint64 < n * 10 + digitVal c by omega]
    exact ih (fun x hx => hd x (List.mem_cons_of_mem c hx)) h

/-- `ParseUint` of a string of digits whose value fits in 64 bits is that value. -/
theorem parseUint_digits {ds : Bytes} (hne : ds ≠ []) (hd : ∀ c ∈ ds, isDigit c = true)
    (hv : decimalValue ds ≤ maxUint64) : parseUint ds = (decimalValue ds, none) := by
  simp only [parseUint, hne, if_false]
  exact parseUintDigits_eq_foldl hd hv

/-- `ParseInt` of a string of digits whose value is below `2 ^ 63` is that value. -/
theorem parseInt_digits {ds : Bytes} (hne : ds ≠ []) (hd : ∀ c ∈ ds, isDigit c = true)
    (hv : decimalValue ds < 2 ^ 63) : parseInt ds = ((decimalValue ds : Int), none) := by
  obtain ⟨c, cs, rfl⟩ := List.exists_cons_of_ne_nil hne
  have hc := hd c (List.mem_cons_self c cs)
  have h43 : (c == 43) = false := beq_false_of_ne (by rintro rfl; simp [isDigit] at hc)
  have h45 : (c == 45) = false := beq_false_of_ne (by rintro rfl; simp [isDigit] at hc)
  have hu : parseUint (c :: cs) = (decimalValue (c :: cs), none) :=
    parseUint_digits hne hd (by simp only [maxUint64]; omega)
  have hv' : ¬2 ^ 63 ≤ decimalValue (c :: cs) := Nat.not_le.2 hv
  simp only [parseInt, h43, h45, Bool.or_self, Bool.false_eq_true, if_false, hu,
    Bool.not_false, Bool.true_and, Bool.false_and, decide_eq_true_eq, hv']

/-! ### The loop against the plain reading -/

/-- `ParseUint(s, 10, 64)` read without its early exits: the decimal value of the leading
digits over unbounded naturals, then the checks in the order the loop meets them, so that an
overflow in the digits is reported before a non-digit after them. -/
def parseUintSpec (s : Bytes) : Nat × Option NumError :=
  if s = [] then (0, some .errSyntax)
  else if maxUint64 < decimalValue (s.takeWhile isDigit) then (maxUint64, some .errRange)
  else if s.takeWhile isDigit = s then (decimalValue s, none)
  else (0, some .errSyntax)

/-- The loop from accumulator `n` against the plain reading of its bytes. -/
theorem parseUintDigits_spec {n : Nat} (hn : n ≤ maxUint64) (s : Bytes) :
    parseUintDigits n s =
      if maxUint64 < (s.takeWhile isDigit).foldl (fun n c => n * 10 + digitVal c) n then
        (maxUint64, some .errRange)
      else if s.takeWhile isDigit = s then (s.foldl (fun n c => n * 10 + digitVal c) n, none)
      else (0, some .errSyntax) := by
  induction s generalizing n with
  | nil => simp [parseUintDigits, not_lt.2 hn]
  | cons c cs ih =>
    by_cases hc : isDigit c = true
    · have hstep := decimal_step_le (n * 10 + digitVal c) (cs.takeWhile isDigit)
      simp only [parseUintDigits, hc, if_true, List.takeWhile_cons_of_pos hc, List.foldl_cons,
        List.cons.injEq, true_and]
      by_cases hcut : cutoff ≤ n
      · rw [if_pos hcut, if_pos (by simp only [cutoff, maxUint64] at hcut hstep ⊢; omega)]
      rw [if_neg hcut]
      by_cases hov : maxUint64 < n * 10 + digitVal c
      · rw [if_pos hov, if_pos (by omega)]
      · rw [if_neg hov]
        exact ih (by omega)
    · simp [parseUintDigits, hc, not_lt.2 hn]

/-- **The early cutoff is an optimisation**: the loop of `ParseUint`, with its cutoff and its
early returns, computes the plain reading, for every string. -/
theorem parseUint_eq_spec (s : Bytes) : parseUint s = parseUintSpec s := by
  unfold parseUint parseUintSpec
  by_cases hs : s = []
  · simp only [hs, if_true]
  · simp only [hs, if_false]
    exact parseUintDigits_spec (Nat.zero_le _) s

/-- `ParseUint` accepts exactly the non-empty digit strings whose value fits in 64 bits. -/
theorem parseUint_ok_iff (s : Bytes) (u : Nat) :
    parseUint s = (u, none) ↔
      s ≠ [] ∧ (∀ c ∈ s, isDigit c = true) ∧ decimalValue s ≤ maxUint64 ∧ u = decimalValue s := by
  by_cases hs : s = []
  · simp [hs, parseUint]
  rw [parseUint, if_neg hs, parseUintDigits_spec (Nat.zero_le _)]
  change (if maxUint64 < decimalValue (s.takeWhile isDigit) then _ else
    if s.takeWhile isDigit = s then (decimalValue s, none) else _) = _ ↔ _
  by_cases hd : s.takeWhile isDigit = s
  · have hall := List.takeWhile_eq_self_iff.1 hd
    rw [hd]
    by_cases hv : maxUint64 < decimalValue s
    · simp [hs, hv]
    · simp only [hv, if_false, if_true, Prod.mk.injEq, and_true]
      exact ⟨fun h => ⟨hs, hall, not_lt.1 hv, h.symm⟩, fun h => h.2.2.2.symm⟩
  · have hnot : ¬∀ c ∈ s, isDigit c = true := fun h => hd (List.takeWhile_eq_self_iff.2 h)
    split_ifs <;> simp [hs, hnot]

/-- `ParseInt` of a non-empty string succeeds exactly when `ParseUint` succeeds on the bytes
after the sign and the signed value fits in `int64`. -/
theorem parseInt_cons_ok_iff (c : UInt8) (cs : Bytes) (v : Int) :
    parseInt (c :: cs) = (v, none) ↔
      ∃ u, parseUint (if c == 43 || c == 45 then cs else c :: cs) = (u, none) ∧
        v = (if c == 45 then -(u : Int) else u) ∧ -2 ^ 63 ≤ v ∧ v < 2 ^ 63 := by
  simp only [parseInt]
  generalize hp : parseUint (if c == 43 || c == 45 then cs else c :: cs) = p
  obtain ⟨un, _ | _ | _⟩ := p
  · cases c == 45 <;> simp only [Bool.not_false, Bool.not_true, Bool.true_and, Bool.false_and,
      decide_eq_true_eq, Bool.false_eq_true, if_false, if_true] <;> split_ifs <;>
      simp only [Prod.mk.injEq, reduceCtorEq, and_false, false_iff, and_true, exists_eq_left'] <;> omega
  · simp
  · rw [parseUint_range hp]
    cases c == 45 <;> simp [maxUint64]

/-- **What `ParseInt` accepts**: an optional sign, then a non-empty string of digits whose
signed value fits in `int64`; it returns that value. -/
theorem parseInt_ok_iff (s : Bytes) (v : Int) :
    parseInt s = (v, none) ↔ ∃ sign ds, s = sign ++ ds ∧ (sign = [] ∨ sign = [43] ∨ sign = [45]) ∧
      ds ≠ [] ∧ (∀ c ∈ ds, isDigit c = true) ∧
      v = (if sign = [45] then -(decimalValue ds : Int) else decimalValue ds) ∧
      -2 ^ 63 ≤ v ∧ v < 2 ^ 63 := by
  constructor
  · intro h
    obtain ⟨c, cs, -, rfl, -⟩ := parseInt_ok h
    obtain ⟨u, hu, rfl, hlo, hhi⟩ := (parseInt_cons_ok_iff c cs v).1 h
    obtain ⟨hne, hd, -, rfl⟩ := (parseUint_ok_iff _ _).1 hu
    -- the sign byte, if there is one, is not read as a digit
    by_cases h45 : c = 45
    · subst h45
      refine ⟨[45], cs, rfl, .inr (.inr rfl), ?_⟩
      simp only [beq_self_eq_true, Bool.or_true, if_true] at hne hd hlo hhi ⊢
      exact ⟨hne, hd, trivial, hlo, hhi⟩
    by_cases h43 : c = 43
    · subst h43
      refine ⟨[43], cs, rfl, .inr (.inl rfl), ?_⟩
      simp only [beq_self_eq_true, Bool.true_or, if_true, show ((43 : UInt8) == 45) = false from rfl,
        Bool.false_eq_true, if_false] at hne hd hlo hhi ⊢
      exact ⟨hne, hd, by simp, hlo, hhi⟩
    · refine ⟨[], c :: cs, rfl, .inl rfl, ?_⟩
      simp only [beq_false_of_ne h43, beq_false_of_ne h45, Bool.or_self, Bool.false_eq_true,
        if_false] at hne hd hlo hhi ⊢
      exact ⟨hne, hd, by simp, hlo, hhi⟩
  · rintro ⟨sign, ds, rfl, hsign, hne, hd, rfl, hlo, hhi⟩
    have hu : parseUint ds = (decimalValue ds, none) :=
      parseUint_digits hne hd (by simp only [maxUint64]; split_ifs at hlo hhi <;> omega)
    rcases hsign with rfl | rfl | rfl
    · simp only [List.nil_append, if_neg (show ([] : Bytes) ≠ [45] by decide)] at hhi ⊢
      exact parseInt_digits hne hd (by omega)
    · exact (parseInt_cons_ok_iff 43 ds _).2 ⟨_, hu, by simp, hlo, hhi⟩
    · exact (parseInt_cons_ok_iff 45 ds _).2 ⟨_, hu, by simp, hlo, hhi⟩

/-! ### Printing and reading back -/

/-- The digit characters are the bytes `'0'` to `'9'`, of their value. -/
theorem digitChar_byte : ∀ d < 10, isDigit (Nat.digitChar d).toNat.toUInt8 = true ∧
    digitVal (Nat.digitChar d).toNat.toUInt8 = d := by
  decide

theorem decimalValue_append_singleton (ds : Bytes) (c : UInt8) :
    decimalValue (ds ++ [c]) = decimalValue ds * 10 + digitVal c := by
  simp [decimalValue, List.foldl_append]

/-- With enough fuel, `toDigitsCore` puts the decimal digits of `n` before `acc`. -/
theorem toDigitsCore_digits (f n : Nat) (acc : List Char) (hn : n < f) :
    ∃ L : List Char, Nat.toDigitsCore 10 f n acc = L ++ acc ∧ L ≠ [] ∧
      (∀ c ∈ L.map (·.toNat.toUInt8), isDigit c = true) ∧
      decimalValue (L.map (·.toNat.toUInt8)) = n := by
  induction f generalizing n acc with
  | zero => omega
  | succ f ih =>
    obtain ⟨hd, hv⟩ := digitChar_byte (n % 10) (Nat.mod_lt _ (by omega))
    simp only [Nat.toDigitsCore]
    split
    · refine ⟨[Nat.digitChar (n % 10)], rfl, List.cons_ne_nil _ _, by simpa using hd, ?_⟩
      simp only [List.map_cons, List.map_nil, decimalValue, List.foldl_cons, List.foldl_nil, hv]
      omega
    · obtain ⟨L, hL, -, hds, hval⟩ := ih (n / 10) (Nat.digitChar (n % 10) :: acc) (by omega)
      refine ⟨L ++ [Nat.digitChar (n % 10)], by simpa using hL, by simp, ?_, ?_⟩
      · rw [List.map_append, List.forall_mem_append]
        exact ⟨hds, by simpa using hd⟩
      · rw [List.map_append, List.map_singleton, decimalValue_append_singleton, hval, hv]
        omega

/-- `FormatUint` prints a non-empty string of digits whose value is `n`. -/
theorem formatNat_digits (n : Nat) :
    formatNat n ≠ [] ∧ (∀ c ∈ formatNat n, isDigit c = true) ∧ decimalValue (formatNat n) = n := by
  obtain ⟨L, hL, hne, hd, hv⟩ := toDigitsCore_digits (n + 1) n [] (by omega)
  simp only [formatNat, Nat.toDigits, hL, List.append_nil]
  exact ⟨by simpa using hne, hd, hv⟩

/-- `Atoi` reads back what `%d` prints, for every value of `int64`. -/
theorem atoi_formatInt {v : Int} (hlo : -2 ^ 63 ≤ v) (hhi : v < 2 ^ 63) :
    atoi (formatInt v) = (v, none) := by
  obtain ⟨hne, hd, hval⟩ := formatNat_digits v.natAbs
  unfold atoi formatInt
  split
  · have hu : parseUint (formatNat v.natAbs) = (v.natAbs, none) := by
      rw [parseUint_digits hne hd (by simp only [hval, maxUint64]; omega), hval]
    have hv' : ¬2 ^ 63 < v.natAbs := by omega
    simp only [parseInt, beq_self_eq_true, Bool.or_true, if_true, hu, Bool.not_true,
      Bool.false_and, Bool.true_and, decide_eq_true_eq, hv', if_false, Bool.false_eq_true,
      Prod.mk.injEq, and_true]
    omega
  · rw [show v.toNat = v.natAbs by omega, parseInt_digits hne hd (by rw [hval]; omega), hval]
    simp only [Prod.mk.injEq, and_true]
    omega

/-- The hypotheses are met: the port `-8080` that `Atoi` accepts. -/
theorem atoi_formatInt_neg :
    -2 ^ 63 ≤ (-8080 : Int) ∧ (-8080 : Int) < 2 ^ 63 ∧ atoi (formatInt (-8080)) = (-8080, none) :=
  ⟨by decide, by decide, atoi_formatInt (by decide) (by decide)⟩

end Strconv

end Pgrok
