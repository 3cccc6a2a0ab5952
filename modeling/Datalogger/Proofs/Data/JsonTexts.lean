import Datalogger.Proofs.Numerals
import Datalogger.Proofs.Outcome
import Datalogger.Proofs.Decimal.Magnitude

/-!
JSON texts of numbers and booleans, as a grammar. Reading accepts this grammar, except for numbers out of
range, and gives a boolean or a finite number for nothing else. A text in quotes reads as a shorter one.
-/

namespace Datalogger.Json

open Decimal (isDigit valueOf)
open Text (trim isBlank dropBlankEnd)

structure WholePart (cs : List Char) (n : Nat) : Prop where
  digits : Digits cs n
  plain : cs.head? = some '0' → cs = ['0']

inductive FractionPart : List Char → Prop
  | none : FractionPart []
  | digits (cs : List Char) (n : Nat) (digits : Digits cs n) : FractionPart ('.' :: cs)

inductive PowerPart : List Char → Prop
  | none : PowerPart []
  | digits (mark : Char) (sign cs : List Char) (n : Nat) (marked : mark = 'e' ∨ mark = 'E')
      (signed : sign = [] ∨ sign = ['+'] ∨ sign = ['-']) (digits : Digits cs n) :
      PowerPart (mark :: (sign ++ cs))

inductive NumberText : List Char → Prop
  | plain (whole fraction power : List Char) (n : Nat) (digits : WholePart whole n)
      (after : FractionPart fraction) (raised : PowerPart power) :
      NumberText (whole ++ (fraction ++ power))
  | negative (whole fraction power : List Char) (n : Nat) (digits : WholePart whole n)
      (after : FractionPart fraction) (raised : PowerPart power) :
      NumberText ('-' :: (whole ++ (fraction ++ power)))

/-- A number without point and exponent. Zero with a minus sign is not an integer. -/
inductive IntegerText : List Char → Int → Prop
  | plain (cs : List Char) (n : Nat) (digits : WholePart cs n) : IntegerText cs n
  | negative (cs : List Char) (n : Nat) (digits : WholePart cs n) (filled : n ≠ 0) :
      IntegerText ('-' :: cs) (-n)

def Fits (n : Int) : Prop :=
  Range.leastInt64 ≤ n ∧ n ≤ Range.greatestNat64

def Ends (tail : List Char) : Prop :=
  tail.head?.any isDigit = false

theorem ends_nil : Ends [] := rfl

theorem span_digits {ds tail : List Char} {n : Nat} (digits : Digits ds n) (ends : Ends tail) :
    (ds ++ tail).takeWhile isDigit = ds ∧ (ds ++ tail).dropWhile isDigit = tail := by
  have all : ∀ c ∈ ds, isDigit c = true := List.all_eq_true.1 digits.all_isDigit
  rw [List.takeWhile_append_of_pos all, List.dropWhile_append_of_pos all]
  cases tail with
  | nil => simp
  | cons c tail =>
    have stops : isDigit c = false := ends
    simp [stops]

theorem digits_takeWhile {cs : List Char} (filled : cs.takeWhile isDigit ≠ []) :
    Digits (cs.takeWhile isDigit) (valueOf (cs.takeWhile isDigit)) :=
  Decimal.readDigits_iff.1 (Decimal.readDigits_eq_some_iff.2
    ⟨⟨filled, List.all_eq_true.2 fun _ member => List.mem_takeWhile_imp member⟩, rfl⟩)

def extended (n : Nat) (cs : List Char) : Nat :=
  cs.foldl (fun n c => 10 * n + Decimal.digitValue c) n

theorem le_extended (n : Nat) (cs : List Char) : n ≤ extended n cs := by
  induction cs generalizing n with
  | nil => exact le_rfl
  | cons c cs ih => exact le_trans (by omega) (ih (10 * n + Decimal.digitValue c))

theorem gatherWhole_of_le {n : Nat} {cs : List Char} (room : extended n cs ≤ significandLimit) :
    gatherWhole n cs = ⟨extended n cs, 0⟩ := by
  induction cs generalizing n with
  | nil => rfl
  | cons c cs ih => rw [gatherWhole, if_pos ((le_extended _ cs).trans room), ih room]; rfl

theorem extended_le_of_gatherWhole {n : Nat} {cs : List Char} (least : n ≤ significandLimit)
    (exact : (gatherWhole n cs).exponent = 0) : extended n cs ≤ significandLimit := by
  induction cs generalizing n with
  | nil => exact least
  | cons c cs ih =>
    rw [gatherWhole] at exact
    split at exact
    · rename_i fits
      exact ih fits exact
    · exact absurd exact (by simp only [Int.ofNat_eq_natCast]; omega)

theorem significand_gatherWhole_le {n : Nat} {cs : List Char} (least : n ≤ significandLimit) :
    (gatherWhole n cs).significand ≤ significandLimit := by
  induction cs generalizing n with
  | nil => exact least
  | cons c cs ih =>
    rw [gatherWhole]
    split
    · rename_i fits
      exact ih fits
    · exact least

theorem significand_gatherFraction_le {g : Gathered} {cs : List Char}
    (least : g.significand ≤ significandLimit) :
    (gatherFraction g cs).significand ≤ significandLimit := by
  induction cs generalizing g with
  | nil => exact least
  | cons c cs ih =>
    rw [gatherFraction]
    split
    · rename_i fits
      exact ih fits
    · exact least

/-- What a number with a point or an exponent stands for: a finite number, or none in range. -/
def Rounded (v : Json) : Prop :=
  v = faulty ∨ ∃ x, v = real x ∧ x.isFinite = true

theorem rounded_realOf {g : Gathered} (room : g.significand ≤ significandLimit) (negative : Bool) :
    Rounded (realOf negative g) := by
  have size : (g.significand : ℚ) ≤ significandLimit := by exact_mod_cast room
  have within := Binary64.within_ofNat size (by norm_num [significandLimit, Range.greatestNat64])
  unfold realOf
  split
  · rename_i x applied
    have finite := isFinite_of_applyPower within
      (by norm_num [significandLimit, Range.greatestNat64])
      (by norm_num [significandLimit, Range.greatestNat64]) applied
    refine .inr ⟨_, rfl, ?_⟩
    cases negative
    · exact finite
    · exact (Binary64.isFinite_neg x).trans finite
  · exact .inl rfl

theorem rounded_withPower {g : Gathered} (room : g.significand ≤ significandLimit)
    (negative minus : Bool) (power : Nat) : Rounded (withPower negative g minus power) := by
  unfold withPower
  split
  · exact rounded_realOf (by exact room) negative
  split
  · exact .inl rfl
  · exact .inr ⟨_, rfl, rfl⟩

theorem rounded_neg_ofNat {n : Nat} (room : n ≤ significandLimit) :
    Rounded (real (Binary64.ofNat n).neg) := by
  have size : (n : ℚ) ≤ significandLimit := by exact_mod_cast room
  have within := Binary64.within_ofNat size (by norm_num [significandLimit, Range.greatestNat64])
  exact .inr ⟨_, rfl, (Binary64.isFinite_neg _).trans within.isFinite⟩

/-- Digits that have no room are rounded. -/
theorem rounded_wholeNumber {ds : List Char} (large : ¬ extended 0 ds ≤ significandLimit)
    (negative : Bool) : Rounded (wholeNumber negative (gatherWhole 0 ds)) := by
  rw [wholeNumber, if_pos fun exact => large (extended_le_of_gatherWhole (Nat.zero_le _) exact)]
  exact rounded_realOf (significand_gatherWhole_le (Nat.zero_le _)) negative

theorem wholeNumber_plain (ds : List Char) :
    wholeNumber false (gatherWhole 0 ds) = int (extended 0 ds) ∧ Fits (extended 0 ds) ∨
      ¬ Fits (extended 0 ds) ∧ Rounded (wholeNumber false (gatherWhole 0 ds)) := by
  by_cases room : extended 0 ds ≤ significandLimit
  · refine .inl ⟨by rw [gatherWhole_of_le room]; rfl, ?_⟩
    unfold Fits Range.leastInt64
    unfold significandLimit at room
    omega
  · exact .inr ⟨fun fits => room (Int.ofNat_le.1 fits.2), rounded_wholeNumber room false⟩

theorem wholeNumber_negative (ds : List Char) :
    (wholeNumber true (gatherWhole 0 ds) = int (-(extended 0 ds)) ∧ extended 0 ds ≠ 0 ∧
      Fits (-(extended 0 ds))) ∨
      ¬ (extended 0 ds ≠ 0 ∧ Fits (-(extended 0 ds))) ∧
        Rounded (wholeNumber true (gatherWhole 0 ds)) := by
  by_cases room : extended 0 ds ≤ significandLimit
  · rw [gatherWhole_of_le room, wholeNumber, if_neg (by simp), if_neg (by simp)]
    by_cases real : extended 0 ds = 0 ∨ -Int.ofNat (extended 0 ds) < Range.leastInt64
    · rw [if_pos (by simpa using real)]
      exact .inr ⟨fun whole => real.elim whole.1 (not_lt.2 whole.2.1), rounded_neg_ofNat room⟩
    · rw [if_neg (by simpa using real)]
      rw [not_or, not_lt] at real
      refine .inl ⟨rfl, real.1, real.2, ?_⟩
      unfold Range.greatestNat64
      omega
  · refine .inr ⟨fun whole => ?_, rounded_wholeNumber room true⟩
    have least := whole.2.1
    unfold Range.leastInt64 at least
    unfold significandLimit Range.greatestNat64 at room
    omega

theorem splitSign_eq (cs : Rest) : ∃ sign, cs = sign ++ (Decimal.splitSign cs).2 ∧
    (sign = [] ∨ sign = ['+'] ∨ sign = ['-']) := by
  unfold Decimal.splitSign
  split
  · exact ⟨['-'], rfl, .inr (.inr rfl)⟩
  · exact ⟨['+'], rfl, .inr (.inl rfl)⟩
  · exact ⟨[], rfl, .inl rfl⟩

theorem splitSign_digits {sign cs : List Char} {n : Nat}
    (signed : sign = [] ∨ sign = ['+'] ∨ sign = ['-']) (digits : Digits cs n) :
    (Decimal.splitSign (sign ++ cs)).2 = cs := by
  rcases signed with rfl | rfl | rfl
  · obtain ⟨c, rest, rfl, _⟩ := digits.exists_cons
    have digit := digits.isDigit c List.mem_cons_self
    unfold Decimal.splitSign
    split
    · rename_i same
      cases same
      exact absurd digit (by unfold IsDigit; decide)
    · rename_i same
      cases same
      exact absurd digit (by unfold IsDigit; decide)
    · rfl
  · rfl
  · rfl

theorem isExponentMark_iff {c : Char} : isExponentMark c = true ↔ c = 'e' ∨ c = 'E' := by
  simp [isExponentMark]

theorem withExponent_sound {negative : Bool} {g : Gathered} {cs rest : Rest} {v : Json} {mark : Char}
    (room : g.significand ≤ significandLimit) (marked : isExponentMark mark = true)
    (found : withExponent negative g cs = some (v, rest)) :
    ∃ power, mark :: cs = power ++ rest ∧ PowerPart power ∧ Rounded v := by
  obtain ⟨sign, whole, signed⟩ := splitSign_eq cs
  rw [withExponent] at found
  generalize Decimal.splitSign cs = halves at found whole
  obtain ⟨minus, body⟩ := halves
  simp only [Option.ite_none_left_eq_some, Option.some.injEq, Prod.mk.injEq] at found
  obtain ⟨filled, rfl, rfl⟩ := found
  refine ⟨mark :: (sign ++ body.takeWhile isDigit), ?_,
    .digits mark sign _ _ (isExponentMark_iff.1 marked) signed (digits_takeWhile filled),
    rounded_withPower room _ _ _⟩
  rw [whole, List.cons_append, List.append_assoc, List.takeWhile_append_dropWhile]

theorem withExponent_complete {sign cs : List Char} {n : Nat}
    (signed : sign = [] ∨ sign = ['+'] ∨ sign = ['-']) (digits : Digits cs n) (negative : Bool)
    (g : Gathered) : ∃ v, withExponent negative g (sign ++ cs) = some (v, []) := by
  obtain ⟨taken, left⟩ := span_digits digits ends_nil
  rw [List.append_nil] at taken left
  have body := splitSign_digits signed digits
  rw [withExponent]
  generalize Decimal.splitSign (sign ++ cs) = halves at body
  obtain ⟨minus, rest⟩ := halves
  cases body
  simp only [taken, left, if_neg digits.ne_nil]
  exact ⟨_, rfl⟩

theorem afterWhole_sound {negative : Bool} {g : Gathered} {cs rest : Rest} {v : Json}
    (room : g.significand ≤ significandLimit) (found : afterWhole negative g cs = some (v, rest)) :
    ∃ fraction power, cs = fraction ++ (power ++ rest) ∧ FractionPart fraction ∧ PowerPart power ∧
      (fraction ++ power = [] ∧ v = wholeNumber negative g ∨ Rounded v) := by
  unfold afterWhole at found
  split at found
  case h_1 cs =>
    have room' : (gatherFraction g (cs.takeWhile isDigit)).significand ≤ significandLimit :=
      significand_gatherFraction_le room
    have whole := List.takeWhile_append_dropWhile (p := isDigit) (l := cs)
    simp only [Option.ite_none_left_eq_some] at found
    obtain ⟨filled, found⟩ := found
    have digits := FractionPart.digits _ _ (digits_takeWhile filled)
    generalize gatherFraction g _ = g' at *
    generalize cs.dropWhile isDigit = tail at *
    generalize cs.takeWhile isDigit = ds at *
    subst whole
    cases tail with
    | nil =>
      cases found
      exact ⟨'.' :: ds, [], rfl, digits, .none, .inr (rounded_realOf room' negative)⟩
    | cons c tail =>
      simp only at found
      split at found
      · rename_i marked
        obtain ⟨power, split, raised, rounded⟩ := withExponent_sound room' marked found
        exact ⟨'.' :: ds, power, by rw [← split]; rfl, digits, raised, .inr rounded⟩
      · cases found
        exact ⟨'.' :: ds, [], rfl, digits, .none, .inr (rounded_realOf room' negative)⟩
  case h_2 c cs _ =>
    split at found
    · rename_i marked
      obtain ⟨power, split, raised, rounded⟩ := withExponent_sound room marked found
      exact ⟨[], power, split, .none, raised, .inr rounded⟩
    · cases found
      exact ⟨[], [], rfl, .none, .none, .inl ⟨rfl, rfl⟩⟩
  case h_3 =>
    cases found
    exact ⟨[], [], rfl, .none, .none, .inl ⟨rfl, rfl⟩⟩

theorem ends_after {fraction power : List Char} (after : FractionPart fraction)
    (raised : PowerPart power) : Ends (fraction ++ power) := by
  cases after with
  | digits => rfl
  | none =>
    cases raised with
    | none => rfl
    | digits mark _ _ _ marked _ _ => rcases marked with rfl | rfl <;> rfl

theorem afterWhole_complete {fraction power : List Char} (after : FractionPart fraction)
    (raised : PowerPart power) (negative : Bool) (g : Gathered) :
    ∃ v, afterWhole negative g (fraction ++ power) = some (v, []) := by
  cases after with
  | none =>
    cases raised with
    | none => exact ⟨_, rfl⟩
    | digits mark sign cs n marked signed digits =>
      obtain ⟨v, found⟩ := withExponent_complete signed digits negative g
      refine ⟨v, ?_⟩
      rcases marked with rfl | rfl <;> exact found
  | digits ds n digits =>
    have ends : Ends power := ends_after .none raised
    obtain ⟨taken, left⟩ := span_digits digits ends
    rw [List.cons_append, afterWhole]
    simp only [taken, left, if_neg digits.ne_nil]
    cases raised with
    | none => exact ⟨_, rfl⟩
    | digits mark sign cs n marked signed digits =>
      obtain ⟨v, found⟩ := withExponent_complete signed digits negative (gatherFraction g ds)
      exact ⟨v, by rw [← found]; simp [isExponentMark_iff.2 marked]⟩

def unsignedNumber (negative : Bool) (body : Rest) : Option (Json × Rest) :=
  let ds := body.takeWhile isDigit
  match ds with
  | [] => none
  | '0' :: _ :: _ => none
  | _ => afterWhole negative (gatherWhole 0 ds) (body.dropWhile isDigit)

theorem readNumber_minus (body : Rest) : readNumber ('-' :: body) = unsignedNumber true body := by
  unfold readNumber unsignedNumber
  rfl

theorem readNumber_plain {body : Rest} (unsigned : body.head? ≠ some '-') :
    readNumber body = unsignedNumber false body := by
  unfold readNumber unsignedNumber
  split
  rename_i found
  split at found
  · exact absurd rfl unsigned
  · cases found
    rfl

theorem unsignedNumber_sound {negative : Bool} {body rest : Rest} {v : Json}
    (found : unsignedNumber negative body = some (v, rest)) :
    ∃ ds fraction power, body = ds ++ (fraction ++ (power ++ rest)) ∧
      WholePart ds (extended 0 ds) ∧ FractionPart fraction ∧ PowerPart power ∧
        (fraction ++ power = [] ∧ v = wholeNumber negative (gatherWhole 0 ds) ∨ Rounded v) := by
  have split := List.takeWhile_append_dropWhile (p := isDigit) (l := body)
  have digits := @digits_takeWhile body
  unfold unsignedNumber at found
  generalize body.takeWhile isDigit = ds at *
  generalize body.dropWhile isDigit = tail at *
  subst split
  simp only at found
  split at found
  · cases found
  · cases found
  · rename_i filled many
    obtain ⟨fraction, power, rfl, after, raised, value⟩ :=
      afterWhole_sound (significand_gatherWhole_le (Nat.zero_le _)) found
    refine ⟨ds, fraction, power, rfl, ⟨digits filled, fun zero => ?_⟩, after, raised, value⟩
    obtain ⟨_, more, rfl⟩ := List.exists_cons_of_ne_nil filled
    cases zero
    cases more with
    | nil => rfl
    | cons c cs => exact absurd rfl (many c cs)

theorem unsignedNumber_digits {ds tail : List Char} {n : Nat} (whole : WholePart ds n)
    (ends : Ends tail) (negative : Bool) :
    unsignedNumber negative (ds ++ tail) = afterWhole negative (gatherWhole 0 ds) tail := by
  obtain ⟨taken, left⟩ := span_digits whole.digits ends
  unfold unsignedNumber
  simp only [taken, left]
  split
  · exact absurd rfl whole.digits.ne_nil
  · exact absurd (whole.plain rfl) (by simp)
  · rfl

theorem readNumber_sound {cs rest : Rest} {v : Json} (found : readNumber cs = some (v, rest)) :
    ∃ text, cs = text ++ rest ∧ NumberText text ∧
      (Rounded v ∨ ∃ n, v = int n ∧ IntegerText text n ∧ Fits n) := by
  by_cases minus : cs.head? = some '-'
  · obtain ⟨body, rfl⟩ : ∃ body, cs = '-' :: body := by
      cases cs <;> simp_all
    rw [readNumber_minus] at found
    obtain ⟨ds, fraction, power, rfl, whole, after, raised, value⟩ := unsignedNumber_sound found
    refine ⟨'-' :: (ds ++ (fraction ++ power)), by simp,
      .negative ds fraction power _ whole after raised, ?_⟩
    rcases value with ⟨ended, rfl⟩ | rounded
    · rw [ended, List.append_nil]
      rcases wholeNumber_negative ds with ⟨exact, filled, fits⟩ | ⟨_, rounded⟩
      · exact .inr ⟨_, exact, .negative ds _ whole filled, fits⟩
      · exact .inl rounded
    · exact .inl rounded
  · rw [readNumber_plain minus] at found
    obtain ⟨ds, fraction, power, rfl, whole, after, raised, value⟩ := unsignedNumber_sound found
    refine ⟨ds ++ (fraction ++ power), by simp, .plain ds fraction power _ whole after raised, ?_⟩
    rcases value with ⟨ended, rfl⟩ | rounded
    · rw [ended, List.append_nil]
      rcases wholeNumber_plain ds with ⟨exact, fits⟩ | ⟨_, rounded⟩
      · exact .inr ⟨_, exact, .plain ds _ whole, fits⟩
      · exact .inl rounded
    · exact .inl rounded

theorem WholePart.head?_append {ds : List Char} {n : Nat} (whole : WholePart ds n)
    (tail : List Char) : (ds ++ tail).head? ≠ some '-' := by
  obtain ⟨c, rest, rfl⟩ := List.exists_cons_of_ne_nil whole.digits.ne_nil
  have digit := whole.digits.isDigit c List.mem_cons_self
  rintro ⟨⟩
  exact absurd digit (by unfold IsDigit; decide)

theorem readNumber_complete {cs : Rest} (text : NumberText cs) :
    ∃ v, readNumber cs = some (v, []) := by
  cases text with
  | plain whole fraction power n digits after raised =>
    rw [readNumber_plain (digits.head?_append _), unsignedNumber_digits digits (ends_after after raised)]
    exact afterWhole_complete after raised _ _
  | negative whole fraction power n digits after raised =>
    rw [readNumber_minus, unsignedNumber_digits digits (ends_after after raised)]
    exact afterWhole_complete after raised _ _

theorem WholePart.extended_eq {ds : List Char} {n : Nat} (whole : WholePart ds n) :
    extended 0 ds = n :=
  (Decimal.readDigits_eq_some_iff.1 (Decimal.readDigits_iff.2 whole.digits)).2

theorem readNumber_integer {cs : Rest} {n : Int} (text : IntegerText cs n) (fits : Fits n) :
    readNumber cs = some (int n, []) := by
  cases text with
  | plain _ n whole =>
    have same := whole.extended_eq
    have value := unsignedNumber_digits whole ends_nil false
    rw [List.append_nil] at value
    rw [readNumber_plain (by simpa using whole.head?_append []), value, afterWhole]
    rcases wholeNumber_plain cs with ⟨exact, _⟩ | ⟨never, _⟩
    · rw [exact, same]
    · exact absurd (same ▸ fits) never
  | negative ds n whole filled =>
    have same := whole.extended_eq
    have value := unsignedNumber_digits whole ends_nil true
    rw [List.append_nil] at value
    rw [readNumber_minus, value, afterWhole]
    rcases wholeNumber_negative ds with ⟨exact, _⟩ | ⟨never, _⟩
    · rw [exact, same]
    · exact absurd (same ▸ ⟨filled, fits⟩) never

theorem length_lt_of_readHex4 {cs rest : Rest} {n : Nat} (found : readHex4 cs = some (n, rest)) :
    rest.length < cs.length := by
  unfold readHex4 at found
  split at found
  · simp only [Option.bind_eq_bind, Option.bind_eq_some_iff] at found
    obtain ⟨_, _, _, _, _, _, _, _, found⟩ := found
    cases found
    simp only [List.length_cons]
    omega
  · cases found

theorem length_lt_of_readUnicode {cs rest : Rest} {e : Option Char}
    (found : readUnicode cs = some (e, rest)) : rest.length < cs.length := by
  rw [readUnicode] at found
  obtain ⟨⟨n, left⟩, digits, found⟩ := Option.bind_eq_some_iff.1 found
  have shorter := length_lt_of_readHex4 digits
  simp only at found
  split at found
  · cases found
    exact shorter
  split at found
  · split at found
    · rename_i more
      obtain ⟨⟨m, after⟩, low, found⟩ := Option.bind_eq_some_iff.1 found
      have second := length_lt_of_readHex4 low
      simp only at found
      split at found
      · cases found
        simp only [List.length_cons] at shorter
        omega
      · cases found
        exact shorter
    · cases found
      exact shorter
  · cases found
    exact shorter

theorem length_lt_of_readEscape {cs rest : Rest} {e : Option Char}
    (found : readEscape cs = some (e, rest)) : rest.length < cs.length := by
  unfold readEscape at found
  split at found
  case h_9 => exact (length_lt_of_readUnicode found).trans (Nat.lt_succ_self _)
  case h_10 => cases found
  all_goals
    cases found
    exact Nat.lt_succ_self _

/-- A string has no more characters than are written for it before the closing quote. -/
theorem length_of_readString {fuel : Nat} {seen out : List (Option Char)} {cs rest : Rest}
    (found : readString fuel seen cs = some (out, rest)) :
    out.length + rest.length < seen.length + cs.length := by
  induction fuel generalizing seen cs with
  | zero => cases found
  | succ fuel ih =>
    cases cs with
    | nil => cases found
    | cons c cs =>
      rw [readString] at found
      split at found
      · cases found
        simp
      split at found
      · obtain ⟨⟨e, left⟩, escape, found⟩ := Option.bind_eq_some_iff.1 found
        have shorter := length_lt_of_readEscape escape
        have later := ih found
        simp only [List.length_cons] at later ⊢
        omega
      split at found
      · cases found
      · have later := ih found
        simp only [List.length_cons] at later ⊢
        omega

theorem length_of_textOf {cs : List (Option Char)} {t : String} (spelled : textOf cs = some t) :
    t.length = cs.length := by
  obtain ⟨all, chars, rfl⟩ := Option.map_eq_some_iff.1 spelled
  rw [String.length_ofList, (Outcome.mapM_eq_some_iff.1 chars).length_eq]

theorem readItems_arr {fuel depth : Nat} {seen : List Json} {cs rest : Rest} {v : Json}
    (found : readItems fuel depth seen cs = some (v, rest)) : ∃ items, v = arr items := by
  induction fuel generalizing seen cs with
  | zero => simp [readItems] at found
  | succ fuel ih =>
    rw [readItems] at found
    obtain ⟨⟨w, left⟩, _, found⟩ := Option.bind_eq_some_iff.1 found
    simp only at found
    split at found
    · exact ih found
    · cases found
      exact ⟨_, rfl⟩
    · cases found

theorem objectOf_cases (fields : List (Option String × Json)) :
    objectOf fields = faulty ∨ ∃ named, objectOf fields = obj named := by
  unfold objectOf
  split
  · exact .inr ⟨_, rfl⟩
  · exact .inl rfl

theorem readFields_obj {fuel depth : Nat} {seen : List (Option String × Json)} {cs rest : Rest}
    {v : Json} (found : readFields fuel depth seen cs = some (v, rest)) :
    v = faulty ∨ ∃ fields, v = obj fields := by
  induction fuel generalizing seen cs with
  | zero => simp [readFields] at found
  | succ fuel ih =>
    rw [readFields] at found
    split at found
    · obtain ⟨⟨k, left⟩, _, found⟩ := Option.bind_eq_some_iff.1 found
      simp only at found
      split at found
      · obtain ⟨⟨w, left⟩, _, found⟩ := Option.bind_eq_some_iff.1 found
        simp only at found
        split at found
        · exact ih found
        · cases found
          exact objectOf_cases _
        · cases found
      · cases found
    · cases found

def isScalar : Json → Bool
  | bool _ | int _ | real _ => true
  | _ => false

/-- The values that a text can stand for, by the text as a whole. -/
inductive Reads (cs : Rest) : Json → Prop
  | null (spelled : cs = "null".toList) : Reads cs null
  | bool (b : Bool) (spelled : cs = (if b then "true" else "false").toList) : Reads cs (bool b)
  | int (n : Int) (spelled : IntegerText cs n) (fits : Fits n) : Reads cs (int n)
  | real (x : Binary64) (spelled : NumberText cs) (finite : x.isFinite = true) : Reads cs (real x)
  | str (t : String) (opens : cs.head? = some '"') (shorter : t.length < cs.length) : Reads cs (str t)
  | arr (items : List Json) (opens : cs.head? = some '[') : Reads cs (arr items)
  | obj (fields : List (String × Json)) (opens : cs.head? = some '\x7b') : Reads cs (obj fields)
  | faulty : Reads cs faulty

theorem reads_container {cs : Rest} {v : Json} (depth : Nat) (reads : Reads cs v) :
    Reads cs (container depth v) := by
  unfold container
  split
  · exact .faulty
  · exact reads

theorem eq_append_of_word {expected cs rest : Rest} {v w : Json}
    (found : word expected v cs = some (w, rest)) : cs = expected ++ rest ∧ w = v := by
  rw [word] at found
  split at found
  · rename_i starts
    cases found
    obtain ⟨tail, rfl⟩ := List.isPrefixOf_iff_prefix.1 starts
    simp
  · cases found

structure Tight (cs : Rest) : Prop where
  front : skipBlank cs = cs
  back : ∀ text rest, cs = text ++ rest → skipBlank rest = [] → rest = []

theorem Tight.eq_of_append {cs text rest : Rest} (tight : Tight cs) (split : cs = text ++ rest)
    (ended : skipBlank rest = []) : cs = text := by
  rw [split, tight.back text rest split ended, List.append_nil]

theorem eq_of_word {c : Char} {expected cs rest : Rest} {v w : Json} (tight : Tight (c :: cs))
    (found : word expected v cs = some (w, rest)) (ended : skipBlank rest = []) :
    c :: cs = c :: expected ∧ w = v := by
  obtain ⟨split, same⟩ := eq_append_of_word found
  exact ⟨tight.eq_of_append (congrArg (c :: ·) split) ended, same⟩

theorem reads_of_readString {fuel : Nat} {cs rest : Rest} {out : List (Option Char)}
    (found : readString fuel [] cs = some (out, rest)) :
    Reads ('"' :: cs) ((textOf out).elim faulty str) := by
  have shorter := length_of_readString found
  cases spelled : textOf out with
  | none => exact .faulty
  | some t =>
    refine .str t rfl ?_
    rw [length_of_textOf spelled]
    simp only [List.length_cons, List.length_nil] at shorter ⊢
    omega

theorem reads_of_readNumber {cs rest : Rest} {v : Json} (tight : Tight cs)
    (found : readNumber cs = some (v, rest)) (ended : skipBlank rest = []) : Reads cs v := by
  obtain ⟨text, split, form, value⟩ := readNumber_sound found
  obtain rfl := tight.eq_of_append split ended
  rcases value with (rfl | ⟨x, rfl, finite⟩) | ⟨n, rfl, integer, fits⟩
  · exact .faulty
  · exact .real x form finite
  · exact .int n integer fits

/-- Words and numbers go up to the end of the text; of the other values the first character tells enough. -/
theorem reads_of_readValue {fuel depth : Nat} {cs rest : Rest} {v : Json} (tight : Tight cs)
    (found : readValue fuel depth cs = some (v, rest)) (ended : skipBlank rest = []) :
    Reads cs v := by
  cases fuel with
  | zero => simp [readValue] at found
  | succ fuel =>
    rw [readValue, tight.front] at found
    split at found
    · cases found
    case h_2 =>
      obtain ⟨spelled, rfl⟩ := eq_of_word tight found ended
      exact .null spelled
    case h_3 =>
      obtain ⟨spelled, rfl⟩ := eq_of_word tight found ended
      exact .bool true spelled
    case h_4 =>
      obtain ⟨spelled, rfl⟩ := eq_of_word tight found ended
      exact .bool false spelled
    case h_5 =>
      obtain ⟨⟨_, _⟩, inner, same⟩ := Option.map_eq_some_iff.1 found
      cases same
      exact reads_of_readString inner
    case h_6 =>
      split at found
      · cases found
        exact reads_container depth (.arr _ rfl)
      · obtain ⟨⟨_, _⟩, inner, same⟩ := Option.map_eq_some_iff.1 found
        cases same
        obtain ⟨items, rfl⟩ := readItems_arr inner
        exact reads_container depth (.arr items rfl)
    case h_7 =>
      split at found
      · cases found
        exact reads_container depth (.obj _ rfl)
      · obtain ⟨⟨_, _⟩, inner, same⟩ := Option.map_eq_some_iff.1 found
        cases same
        rcases readFields_obj inner with rfl | ⟨fields, rfl⟩
        · exact reads_container depth .faulty
        · exact reads_container depth (.obj fields rfl)
    case h_8 => exact reads_of_readNumber tight found ended

theorem isBlank_of_isJsonBlank {c : Char} (blank : isJsonBlank c = true) : isBlank c = true := by
  refine Text.isBlank_of_isWhitespace ?_
  simp only [isJsonBlank, Char.isWhitespace, Bool.or_eq_true] at blank ⊢
  tauto

theorem dropBlankEnd_starts (cs : List Char) : dropBlankEnd cs <+: cs := by
  rw [dropBlankEnd, ← List.reverse_suffix, List.reverse_reverse]
  exact List.dropWhile_suffix _

theorem dropBlankEnd_dropBlankEnd (cs : List Char) :
    dropBlankEnd (dropBlankEnd cs) = dropBlankEnd cs := by
  rw [dropBlankEnd, dropBlankEnd, List.reverse_reverse, List.dropWhile_idempotent]

theorem skipBlank_cons {c : Char} (visible : isJsonBlank c = false) (cs : Rest) :
    skipBlank (c :: cs) = c :: cs := by
  rw [skipBlank, List.dropWhile_cons_of_neg (by simp [visible])]

theorem tight_trim (s : String) : Tight (trim s).toList where
  front := by
    rw [Text.toList_trim]
    obtain ⟨tail, whole⟩ := dropBlankEnd_starts (s.toList.dropWhile isBlank)
    cases kept : dropBlankEnd (s.toList.dropWhile isBlank) with
    | nil => rfl
    | cons c cs =>
      refine skipBlank_cons (Bool.eq_false_iff.2 fun blank => ?_) cs
      rw [kept] at whole
      have visible := List.head_dropWhile_not (p := isBlank) (l := s.toList) (by simp [← whole])
      simp [← whole, isBlank_of_isJsonBlank blank] at visible
  back := by
    intro text rest split ended
    have blank : rest.all isBlank = true := List.all_eq_true.2 fun c member =>
      isBlank_of_isJsonBlank (List.dropWhile_eq_nil_iff.1 ended c member)
    have kept : dropBlankEnd (text ++ rest) = text ++ rest := by
      rw [← split, Text.toList_trim, dropBlankEnd_dropBlankEnd]
    rw [Text.dropBlankEnd_append_of_blank text blank] at kept
    have shorter := (dropBlankEnd_starts text).length_le
    rw [kept, List.length_append] at shorter
    exact List.eq_nil_of_length_eq_zero (by omega)

/-- The boolean or number that a text writes. A number with a point or an exponent, or one that is too
large for an integer, is rounded by the reader. -/
inductive ScalarText (r : String) : Json → Prop
  | boolean (b : Bool) (spelled : r = if b then "true" else "false") : ScalarText r (bool b)
  | integer (n : Int) (spelled : IntegerText r.toList n) (fits : Fits n) : ScalarText r (int n)
  | rounded (x : Binary64) (spelled : NumberText r.toList) (finite : x.isFinite = true)
      (read : read? r = some (real x)) : ScalarText r (real x)

theorem IntegerText.numberText {cs : Rest} {n : Int} (text : IntegerText cs n) : NumberText cs := by
  cases text with
  | plain _ n whole => simpa using NumberText.plain cs [] [] n whole .none .none
  | negative ds n whole _ => simpa using NumberText.negative ds [] [] n whole .none .none

theorem reads_of_read? {s : String} {v : Json} (read : read? (trim s) = some v) :
    Reads (trim s).toList v ∧ v.sound = true := by
  obtain ⟨scanned, sound⟩ := Option.filter_eq_some_iff.1 read
  refine ⟨?_, sound⟩
  unfold scan? at scanned
  simp only at scanned
  split at scanned
  · rename_i found
    simp only [Option.ite_none_right_eq_some, Option.some.injEq] at scanned
    obtain ⟨ended, rfl⟩ := scanned
    exact reads_of_readValue (tight_trim s) found ended
  · cases scanned

def OpensNumber (c : Char) : Prop :=
  c = '-' ∨ IsDigit c

theorem NumberText.exists_cons {cs : Rest} (text : NumberText cs) :
    ∃ c rest, cs = c :: rest ∧ OpensNumber c := by
  cases text with
  | plain whole _ _ _ digits =>
    obtain ⟨c, rest, rfl⟩ := List.exists_cons_of_ne_nil digits.digits.ne_nil
    exact ⟨c, _, rfl, .inr (digits.digits.isDigit c List.mem_cons_self)⟩
  | negative => exact ⟨'-', _, rfl, .inl rfl⟩

theorem readValue_number {c : Char} (opens : OpensNumber c) (fuel depth : Nat) (cs : Rest) :
    readValue (fuel + 1) depth (c :: cs) = readNumber (c :: cs) := by
  have visible : isJsonBlank c = false := by
    rcases opens with rfl | digit
    · rfl
    · refine Bool.eq_false_iff.2 fun blank => ?_
      simp only [isJsonBlank, Bool.or_eq_true, decide_eq_true_eq] at blank
      rcases blank with ((rfl | rfl) | rfl) | rfl <;> exact absurd digit (by unfold IsDigit; decide)
  rw [readValue, skipBlank_cons visible]
  split
  case h_8 =>
    rename_i same
    cases same
    rfl
  case h_1 same => cases same
  all_goals
    rename_i same
    cases same
    exact absurd opens (by unfold OpensNumber IsDigit; decide)

theorem scan?_number {r : String} (text : NumberText r.toList) {v : Json}
    (read : readNumber r.toList = some (v, [])) : scan? r = some v := by
  obtain ⟨c, rest, same, opens⟩ := text.exists_cons
  rw [scan?]
  simp only [same] at read ⊢
  rw [readValue_number opens, read]
  rfl

theorem ScalarText.read? {r : String} {v : Json} (text : ScalarText r v) : read? r = some v := by
  cases text with
  | boolean b spelled =>
    rw [spelled]
    cases b <;> rfl
  | integer n spelled fits =>
    rw [Json.read?, scan?_number spelled.numberText (readNumber_integer spelled fits)]
    rfl
  | rounded x _ _ read => exact read

theorem ScalarText.isScalar {r : String} {v : Json} (text : ScalarText r v) : v.isScalar = true := by
  cases text <;> rfl

/-- The reader takes for a boolean or a number what is written as one. -/
theorem scalarText_iff {s : String} {v : Json} :
    ScalarText (trim s) v ↔ read? (trim s) = some v ∧ v.isScalar = true := by
  constructor
  · exact fun text => ⟨text.read?, text.isScalar⟩
  · rintro ⟨read, scalar⟩
    obtain ⟨reads, _⟩ := reads_of_read? read
    cases reads with
    | bool b spelled => exact .boolean b (String.toList_inj.1 spelled)
    | int n spelled fits => exact .integer n spelled fits
    | real x spelled finite => exact .rounded x spelled finite read
    | _ => cases scalar

/-- A number that is not read is out of range. -/
theorem NumberText.read {s : String} (text : NumberText (trim s).toList) :
    (∃ v, ScalarText (trim s) v) ∨ scan? (trim s) = some faulty := by
  obtain ⟨v, found⟩ := readNumber_complete text
  have scanned := scan?_number text found
  have read : v.sound = true → read? (trim s) = some v := fun sound => by
    rw [read?, scanned, Option.filter_some, if_pos sound]
  obtain ⟨_, _, _, (rfl | ⟨x, rfl, _⟩) | ⟨n, rfl, _⟩⟩ := readNumber_sound found
  · exact .inr scanned
  · exact .inl ⟨_, scalarText_iff.2 ⟨read rfl, rfl⟩⟩
  · exact .inl ⟨_, scalarText_iff.2 ⟨read rfl, rfl⟩⟩

theorem normal_of_scalarText {r : String} {v : Json} (text : ScalarText r v) : v.normal = v := by
  cases text with
  | boolean => rfl
  | integer => rfl
  | rounded x _ finite => rw [normal, if_pos finite]

/-- No text is a JSON string of itself. -/
theorem read?_ne_str (s : String) : read? (trim s) ≠ some (str (trim s)) := by
  intro read
  obtain ⟨reads, _⟩ := reads_of_read? read
  cases reads with
  | str _ _ shorter => exact absurd shorter (by rw [String.length_toList]; exact lt_irrefl _)

/-- A text that reads as anything but a boolean or a number is `null`, or begins with a quote or bracket. -/
theorem opens_of_read? {s : String} {v : Json} (read : read? (trim s) = some v)
    (other : v.isScalar = false) :
    trim s = "null" ∨ ∃ c ∈ ['"', '[', '\x7b'], (trim s).toList.head? = some c := by
  obtain ⟨reads, sound⟩ := reads_of_read? read
  cases reads with
  | null spelled => exact .inl (String.toList_inj.1 spelled)
  | str _ opens => exact .inr ⟨_, by simp, opens⟩
  | arr _ opens => exact .inr ⟨_, by simp, opens⟩
  | obj _ opens => exact .inr ⟨_, by simp, opens⟩
  | faulty => cases sound
  | _ => cases other

end Datalogger.Json
