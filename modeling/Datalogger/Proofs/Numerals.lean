import Datalogger.Decimal.Reading
import Datalogger.Proofs.NameCheck

/-!
Numbers in a text, as a grammar: one or more ASCII digits, before which a plus sign may stand. Reading a
number accepts this grammar up to a limit.
-/

namespace Datalogger

inductive Digits : List Char → Nat → Prop
  | one (c : Char) (digit : IsDigit c) : Digits [c] (c.toNat - '0'.toNat)
  | more (cs : List Char) (n : Nat) (c : Char) (front : Digits cs n) (digit : IsDigit c) :
      Digits (cs ++ [c]) (10 * n + (c.toNat - '0'.toNat))

inductive Numeral (cs : List Char) (n : Nat) : Prop
  | plain (digits : Digits cs n)
  | signed (rest : List Char) (split : cs = '+' :: rest) (digits : Digits rest n)

namespace Decimal

theorem isDigit_iff {c : Char} : isDigit c = true ↔ IsDigit c := by
  simp [isDigit, IsDigit]

theorem valueOf_concat (cs : List Char) (c : Char) :
    valueOf (cs ++ [c]) = 10 * valueOf cs + digitValue c := by
  rw [valueOf, valueOf, List.foldl_append, List.foldl_cons, List.foldl_nil]

theorem readDigits_iff {cs : List Char} {n : Nat} : readDigits cs = some n ↔ Digits cs n := by
  rw [readDigits_eq_some_iff]
  constructor
  · rintro ⟨⟨filled, digits⟩, rfl⟩
    induction cs using List.reverseRecOn with
    | nil => exact absurd rfl filled
    | append_singleton cs c ih =>
      rw [List.all_append, List.all_cons, List.all_nil, Bool.and_true, Bool.and_eq_true,
        isDigit_iff] at digits
      rw [valueOf_concat]
      cases cs with
      | nil => simpa [valueOf, digitValue] using Digits.one c digits.2
      | cons d cs => exact .more _ _ c (ih (by simp) digits.1) digits.2
  · intro digits
    induction digits with
    | one c digit => simp [isDigit_iff.2 digit, valueOf, digitValue]
    | more cs n c _ digit ih =>
      obtain ⟨⟨_, digits⟩, rfl⟩ := ih
      refine ⟨⟨by simp, ?_⟩, valueOf_concat cs c⟩
      rw [List.all_append, digits, List.all_cons, isDigit_iff.2 digit, List.all_nil]
      rfl

end Decimal

namespace Digits

variable {cs : List Char} {n : Nat}

theorem isDigit (digits : Digits cs n) : ∀ c ∈ cs, IsDigit c := by
  induction digits with
  | one c digit => simpa using digit
  | more cs n c _ digit ih => simpa [or_imp, forall_and] using ⟨ih, digit⟩

theorem all_isDigit (digits : Digits cs n) : cs.all Decimal.isDigit = true :=
  List.all_eq_true.2 fun c member => Decimal.isDigit_iff.2 (digits.isDigit c member)

theorem ne_nil (digits : Digits cs n) : cs ≠ [] := by
  cases digits <;> simp

end Digits

theorem Decimal.readNat_iff {limit : Nat} {cs : List Char} {n : Nat} :
    readNat limit cs = some n ↔ Numeral cs n ∧ n ≤ limit := by
  have filtered : ∀ body, (readDigits body).filter (· ≤ limit) = some n ↔ Digits body n ∧ n ≤ limit := by
    intro body
    rw [Option.filter_eq_some_iff, readDigits_iff, decide_eq_true_iff]
  unfold readNat
  split
  · rename_i rest
    rw [filtered]
    refine and_congr_left fun _ => ⟨.signed rest rfl, fun numeral => ?_⟩
    cases numeral with
    | plain digits => exact absurd (digits.isDigit '+' List.mem_cons_self) (by unfold IsDigit; decide)
    | signed rest' split digits =>
      cases split
      exact digits
  · rename_i unsigned
    rw [filtered]
    refine and_congr_left fun _ => ⟨.plain, fun numeral => ?_⟩
    cases numeral with
    | plain digits => exact digits
    | signed rest split digits => exact absurd split (unsigned rest)

def opensNumber (c : Char) : Bool :=
  c = '+' || Decimal.isDigit c

theorem Digits.exists_cons {cs : List Char} {n : Nat} (digits : Digits cs n) :
    ∃ c rest, cs = c :: rest ∧ opensNumber c = true := by
  obtain ⟨c, rest, rfl⟩ := List.exists_cons_of_ne_nil digits.ne_nil
  refine ⟨c, rest, rfl, ?_⟩
  rw [opensNumber, Decimal.isDigit_iff.2 (digits.isDigit c List.mem_cons_self), Bool.or_true]

theorem Numeral.exists_cons {cs : List Char} {n : Nat} (numeral : Numeral cs n) :
    ∃ c rest, cs = c :: rest ∧ opensNumber c = true := by
  cases numeral with
  | plain digits => exact digits.exists_cons
  | signed rest split _ => exact ⟨'+', rest, split, rfl⟩

end Datalogger
