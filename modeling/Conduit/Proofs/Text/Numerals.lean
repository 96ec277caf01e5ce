import Conduit.Text.Digits
set_option autoImplicit false

namespace Conduit.Text

variable {base : Nat}

theorem digitValue?_digitChar (upper : base ≤ 16) {n : Nat} (below : n < base) :
    digitValue? base n.digitChar = some n := by
  have all : ∀ n < 16, letterValue? (Nat.digitChar n) = some n := by decide
  rw [digitValue?, all n (Nat.lt_of_lt_of_le below upper), Option.filter_some,
    if_pos (by simpa using below)]

theorem isDigit_of_mem_toDigits (lower : 1 < base) (upper : base ≤ 16) {n : Nat} {c : Char}
    (among : c ∈ Nat.toDigits base n) : isDigit base c = true := by
  induction n using Nat.strongRecOn with
  | ind n ih =>
    have positive : 0 < base := Nat.zero_lt_of_lt lower
    rcases Nat.lt_or_ge n base with small | large
    next =>
      rw [Nat.toDigits_of_lt_base small, List.mem_singleton] at among
      rw [among, isDigit, digitValue?_digitChar upper small, Option.isSome_some]
    next =>
      rw [Nat.toDigits_of_base_le lower large, List.mem_append, List.mem_singleton] at among
      rcases among with before | rfl
      next => exact ih _ (Nat.div_lt_self (Nat.lt_of_lt_of_le positive large) lower) before
      next => rw [isDigit, digitValue?_digitChar upper (Nat.mod_lt n positive), Option.isSome_some]

theorem digitsValue_toDigits (lower : 1 < base) (upper : base ≤ 16) (n : Nat) :
    digitsValue base (Nat.toDigits base n) = n := by
  induction n using Nat.strongRecOn with
  | ind n ih =>
    have positive : 0 < base := Nat.zero_lt_of_lt lower
    rcases Nat.lt_or_ge n base with small | large
    next =>
      rw [Nat.toDigits_of_lt_base small, digitsValue, List.foldl_cons, List.foldl_nil, Nat.zero_mul,
        Nat.zero_add, digitValue?_digitChar upper small, Option.getD_some]
    next =>
      have before := ih _ (Nat.div_lt_self (Nat.lt_of_lt_of_le positive large) lower)
      rw [digitsValue] at before
      rw [Nat.toDigits_of_base_le lower large, digitsValue, List.foldl_append, before, List.foldl_cons,
        List.foldl_nil, digitValue?_digitChar upper (Nat.mod_lt n positive), Option.getD_some,
        Nat.div_add_mod']

theorem head?_toDigits (lower : 1 < base) {n : Nat} (positive : 0 < n) :
    (Nat.toDigits base n).head? ≠ some '0' := by
  induction n using Nat.strongRecOn with
  | ind n ih =>
    rcases Nat.lt_or_ge n base with small | large
    next =>
      rw [Nat.toDigits_of_lt_base small]
      simpa using Nat.ne_of_gt positive
    next =>
      have before := ih _ (Nat.div_lt_self positive lower)
        (Nat.div_pos large (Nat.zero_lt_of_lt lower))
      rw [Nat.toDigits_of_base_le lower large, List.head?_append]
      cases head : (Nat.toDigits base (n / base)).head? with
      | none => exact absurd (List.head?_eq_none_iff.mp head) Nat.toDigits_ne_nil
      | some c => rwa [head] at before

theorem digitValue?_of_isDigit {c : Char} (digit : c.isDigit = true) :
    digitValue? 10 c = some (c.toNat - '0'.toNat) := by
  obtain ⟨low, high⟩ := Char.isDigit_iff_toNat.mp digit
  have below : c.toNat - '0'.toNat < 10 := by
    have : '9'.toNat = 57 := rfl
    have : '0'.toNat = 48 := rfl
    omega
  rw [digitValue?, letterValue?, if_pos ⟨low, high⟩, Option.filter_some, if_pos (by simpa using below)]

theorem isDigit_ten (c : Char) : isDigit 10 c = c.isDigit := by
  cases digit : c.isDigit with
  | true => rw [isDigit, digitValue?_of_isDigit digit, Option.isSome_some]
  | false =>
    have none : ¬('0' ≤ c ∧ c ≤ '9') := by
      rintro ⟨low, high⟩
      rw [Char.isDigit_iff_toNat.mpr ⟨low, high⟩] at digit
      cases digit
    -- A letter stands for ten at least.
    rw [isDigit, digitValue?, letterValue?, if_neg none]
    split
    next => simp
    next => split <;> simp

theorem digitsValue_eq_ofDigitChars {digits : List Char} (all : ∀ c ∈ digits, c.isDigit = true) :
    digitsValue 10 digits = Nat.ofDigitChars 10 digits 0 := by
  have same (start : Nat) : digits.foldl (fun value c => value * 10 + (digitValue? 10 c).getD 0) start =
      Nat.ofDigitChars 10 digits start := by
    induction digits generalizing start with
    | nil => rfl
    | cons c digits ih =>
      rw [List.foldl_cons, Nat.ofDigitChars_cons, ih (fun c among => all c (List.mem_cons_of_mem _ among)),
        digitValue?_of_isDigit (all c List.mem_cons_self), Option.getD_some, Nat.mul_comm]
  exact same 0

def Unsigned (text : String) (n : Nat) : Prop :=
  ∃ digits, (text.toList = digits ∨ text.toList = '+' :: digits) ∧ digits ≠ [] ∧
    (∀ c ∈ digits, c.isDigit = true) ∧ n = Nat.ofDigitChars 10 digits 0

theorem digits_eq_some_iff {limit : Nat} {digits : List Char} {n : Nat} :
    (if digits.isEmpty || !digits.all (isDigit 10) then none
      else (some (digitsValue 10 digits)).filter (· < limit)) = some n ↔
      (digits ≠ [] ∧ (∀ c ∈ digits, c.isDigit = true) ∧ n = Nat.ofDigitChars 10 digits 0) ∧
        n < limit := by
  have accepted : (digits.isEmpty || !digits.all (isDigit 10)) = false ↔
      digits ≠ [] ∧ ∀ c ∈ digits, c.isDigit = true := by
    simp [isDigit_ten]
  split
  next bad =>
    refine ⟨nofun, ?_⟩
    rintro ⟨⟨some_digit, all, -⟩, -⟩
    rw [accepted.mpr ⟨some_digit, all⟩] at bad
    cases bad
  next good =>
    obtain ⟨some_digit, all⟩ := accepted.mp (Bool.eq_false_iff.mpr good)
    rw [digitsValue_eq_ofDigitChars all, Option.filter_eq_some_iff, Option.some_inj, decide_eq_true_eq]
    constructor
    next =>
      rintro ⟨rfl, below⟩
      exact ⟨⟨some_digit, all, rfl⟩, below⟩
    next =>
      rintro ⟨⟨-, -, rfl⟩, below⟩
      exact ⟨rfl, below⟩

theorem unsigned?_eq_some_iff {limit : Nat} {text : String} {n : Nat} :
    unsigned? limit text = some n ↔ Unsigned text n ∧ n < limit := by
  unfold unsigned? Unsigned
  split
  next rest plus =>
    rw [digits_eq_some_iff]
    refine and_congr_left fun _ => ⟨fun reading => ⟨rest, .inr plus, reading⟩, ?_⟩
    rintro ⟨digits, same | same, reading⟩
    next =>
      -- A plus sign is no digit.
      have sign := reading.2.1 '+' (same ▸ plus ▸ List.mem_cons_self)
      exact absurd sign (by decide)
    next => rwa [(List.cons.inj (plus.symm.trans same)).2]
  next plain =>
    rw [digits_eq_some_iff]
    refine and_congr_left fun _ => ⟨fun reading => ⟨_, .inl rfl, reading⟩, ?_⟩
    rintro ⟨digits, same | same, reading⟩
    next => rwa [same]
    next => exact absurd same (plain digits)

theorem Unsigned.unique {text : String} {m n : Nat} (first : Unsigned text m) (second : Unsigned text n) :
    m = n := by
  have below : m < m + n + 1 ∧ n < m + n + 1 := by omega
  have left := unsigned?_eq_some_iff.mpr ⟨first, below.1⟩
  have right := unsigned?_eq_some_iff.mpr ⟨second, below.2⟩
  exact Option.some_inj.mp (left.symm.trans right)

theorem Unsigned.characters {text : String} {n : Nat} (number : Unsigned text n) :
    (∃ c ∈ text.toList, c.isDigit = true) ∧ ∀ c ∈ text.toList, c = '+' ∨ c.isDigit = true := by
  obtain ⟨digits, shape, some_digit, all, -⟩ := number
  obtain ⟨c, more, rfl⟩ := List.exists_cons_of_ne_nil some_digit
  rcases shape with same | same <;> rw [same]
  next => exact ⟨⟨c, List.mem_cons_self, all c List.mem_cons_self⟩, fun d among => .inr (all d among)⟩
  next =>
    refine ⟨⟨c, List.mem_cons_of_mem _ List.mem_cons_self, all c List.mem_cons_self⟩, ?_⟩
    exact List.forall_mem_cons.mpr ⟨.inl rfl, fun d among => .inr (all d among)⟩

theorem unsigned?_toString {limit n : Nat} (below : n < limit) :
    unsigned? limit (toString n) = some n := by
  refine unsigned?_eq_some_iff.mpr ⟨⟨Nat.toDigits 10 n, .inl ?_, Nat.toDigits_ne_nil, ?_, ?_⟩, below⟩
  next => rw [Nat.toString_eq_ofList_toDigits, String.toList_ofList]
  next => exact fun c => Nat.isDigit_of_mem_toDigits (by decide) (by decide)
  next => exact Nat.ofDigitChars_ten_toDigits.symm

end Conduit.Text
