import Mathlib.Data.List.Basic

set_option autoImplicit false

namespace SprAccelProfiling.ShellText

def digits (n : Nat) : List Char := Nat.toDigits 10 n

-- A constant of shell arithmetic: a leading zero makes it octal.
def number (word : List Char) : Option Nat :=
  if word = [] ∨ word.all Char.isDigit = false then none
  else if word.head? ≠ some '0' then some (Nat.ofDigitChars 10 word 0)
  else if word.all (fun c => decide (c < '8')) then some (Nat.ofDigitChars 8 word 0)
  else none

def isBlank (c : Char) : Bool := c == ' ' || c == '\t' || c == '\n'

-- tr "," " " and the word splitting of an unquoted expansion.
def fields (text : List Char) : List (List Char) :=
  ((text.map (fun c => if c = ',' then ' ' else c)).splitOnP isBlank).filter (fun word => decide (word ≠ []))

theorem digits_inj (a b : Nat) (same : digits a = digits b) : a = b := by
  have read := congrArg (fun word => Nat.ofDigitChars 10 word 0) same
  simpa only [digits, Nat.ofDigitChars_ten_toDigits] using read

theorem digits_digit (n : Nat) (c : Char) (inside : c ∈ digits n) : c.isDigit = true :=
  Nat.isDigit_of_mem_toDigits (by decide) (by decide) inside

theorem digits_nonempty (n : Nat) : digits n ≠ [] := Nat.toDigits_ne_nil

theorem digits_step (n : Nat) (large : 10 ≤ n) : digits n = digits (n / 10) ++ [Nat.digitChar (n % 10)] := by
  rw [digits, Nat.toDigits_eq_if (by decide), if_neg (by omega), digits]

theorem digits_small (n : Nat) (small : n < 10) : digits n = [Nat.digitChar n] := by
  rw [digits, Nat.toDigits_of_lt_base small]

theorem digit_char_nonzero : ∀ n, n < 10 → 0 < n → Nat.digitChar n ≠ '0' := by decide

-- No leading zero: the induction follows the digits from the last one.
theorem digits_head (n : Nat) (positive : 0 < n) : ∃ first rest, digits n = first :: rest ∧ first ≠ '0' := by
  induction n using Nat.strongRecOn with
  | ind n ih =>
      by_cases small : n < 10
      · exact ⟨Nat.digitChar n, [], digits_small n small, digit_char_nonzero n small positive⟩
      · obtain ⟨first, rest, read, nonzero⟩ := ih (n / 10) (by omega) (by omega)
        exact ⟨first, rest ++ [Nat.digitChar (n % 10)], by rw [digits_step n (by omega), read, List.cons_append], nonzero⟩

theorem number_digits (n : Nat) : number (digits n) = some n := by
  by_cases zero : n = 0
  · subst n
    decide
  · obtain ⟨first, rest, read, nonzero⟩ := digits_head n (by omega)
    have decimal : (digits n).all Char.isDigit = true := List.all_eq_true.mpr (digits_digit n)
    have plain : ¬ (digits n = [] ∨ (digits n).all Char.isDigit = false) := by
      rw [decimal]
      exact fun bad => bad.elim (digits_nonempty n) Bool.noConfusion
    have head : (digits n).head? ≠ some '0' := by simp [read, nonzero]
    rw [number, if_neg plain, if_pos head, digits, Nat.ofDigitChars_ten_toDigits]

theorem digit_plain (c : Char) (digit : c.isDigit = true) : c ≠ ',' ∧ isBlank c = false := by
  have at_least : 48 ≤ c.val := by
    simp only [Char.isDigit, Bool.and_eq_true, decide_eq_true_eq] at digit
    exact digit.1
  refine ⟨fun comma => ?_, ?_⟩
  · subst c
    exact absurd at_least (by decide)
  · by_contra blank
    simp only [isBlank, Bool.not_eq_false, Bool.or_eq_true, beq_iff_eq] at blank
    rcases blank with (space | tab) | newline
    · subst c
      exact absurd at_least (by decide)
    · subst c
      exact absurd at_least (by decide)
    · subst c
      exact absurd at_least (by decide)

theorem digits_plain (n : Nat) : (digits n).map (fun c => if c = ',' then ' ' else c) = digits n := by
  have same : ∀ c ∈ digits n, (if c = ',' then ' ' else c) = id c := fun c inside =>
    if_neg (digit_plain c (digits_digit n c inside)).1
  rw [List.map_congr_left same, List.map_id]

theorem digits_unsplit (n : Nat) : ∀ c ∈ digits n, isBlank c = false :=
  fun c inside => (digit_plain c (digits_digit n c inside)).2

theorem fields_single (n : Nat) : fields (digits n) = [digits n] := by
  rw [fields, digits_plain, List.splitOnP_eq_singleton (digits_unsplit n)]
  simp [digits_nonempty]

theorem fields_pair (a b : Nat) : fields (digits a ++ ',' :: digits b) = [digits a, digits b] := by
  rw [fields, List.map_append, List.map_cons, digits_plain, digits_plain, if_pos rfl,
    List.splitOnP_append_cons_of_forall_mem (digits_unsplit a) ' ' (by decide),
    List.splitOnP_eq_singleton (digits_unsplit b)]
  simp [digits_nonempty]

theorem pair_ne_digits (a b n : Nat) : digits a ++ ',' :: digits b ≠ digits n := by
  intro same
  have comma : ',' ∈ digits n := by simp [← same]
  exact (digit_plain ',' (digits_digit n ',' comma)).1 rfl

theorem last_mark (a b u v : List Char) (c d : Char) (run : Char → Prop) (left : ∀ x ∈ u, run x)
    (right : ∀ x ∈ v, run x) (markC : ¬ run c) (markD : ¬ run d) (same : a ++ c :: u = b ++ d :: v) :
    a = b ∧ c = d ∧ u = v := by
  rcases List.append_eq_append_iff.mp same with ⟨extra, longer, tail⟩ | ⟨extra, shorter, tail⟩
  · cases extra with
    | nil =>
        obtain ⟨mark, rest⟩ := List.cons.inj tail
        exact ⟨by rw [longer, List.append_nil], mark, rest⟩
    | cons head more =>
        obtain ⟨_, rest⟩ := List.cons.inj tail
        exact absurd (left d (by simp [rest])) markD
  · cases extra with
    | nil =>
        obtain ⟨mark, rest⟩ := List.cons.inj tail
        exact ⟨by rw [shorter, List.append_nil], mark.symm, rest.symm⟩
    | cons head more =>
        obtain ⟨_, rest⟩ := List.cons.inj tail
        exact absurd (right c (by simp [rest])) markC

theorem to_string_digits (n : Nat) : (toString n).toList = digits n := by
  rw [Nat.toString_eq_repr, Nat.toList_repr, digits]

theorem to_string_negative (n : Nat) : (toString (Int.negSucc n)).toList = '-' :: digits (n + 1) := by
  simp [toString, Int.repr, digits]

theorem to_string_signed (level : Int) : ∀ c ∈ (toString level).toList, c.isDigit = true ∨ c = '-' := by
  intro c member
  cases level with
  | ofNat n => exact .inl (digits_digit n c (by rw [← to_string_digits]; exact member))
  | negSucc n =>
      rw [to_string_negative] at member
      rcases List.mem_cons.mp member with minus | digit
      · exact .inr minus
      · exact .inl (digits_digit (n + 1) c digit)

theorem minus_undigit (n m : Nat) : '-' :: digits n ≠ digits m := by
  intro same
  have minus : '-' ∈ digits m := by simp [← same]
  exact absurd (digits_digit m '-' minus) (by decide)

theorem to_string_int_inj (a b : Int) (same : (toString a).toList = (toString b).toList) : a = b := by
  cases a with
  | ofNat n =>
      have left : (toString (Int.ofNat n)).toList = digits n := to_string_digits n
      rw [left] at same
      cases b with
      | ofNat m => rw [digits_inj n m (same.trans (to_string_digits m))]
      | negSucc m => exact absurd (same.trans (to_string_negative m)).symm (minus_undigit (m + 1) n)
  | negSucc n =>
      rw [to_string_negative] at same
      cases b with
      | ofNat m => exact absurd (same.trans (to_string_digits m)) (minus_undigit (n + 1) m)
      | negSucc m =>
          have read := digits_inj _ _ (List.cons.inj (same.trans (to_string_negative m))).2
          rw [Nat.succ.inj read]

end SprAccelProfiling.ShellText
