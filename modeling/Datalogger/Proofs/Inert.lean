import Datalogger.Proofs.SingleLines
import Datalogger.Proofs.Text.Replacement
import Datalogger.Proofs.Text.Words

/-!
Inert texts: none of their words is one of given names, and none of their brackets opens a placeholder.
Neither a suffix on those names nor a bound dependency changes them.
-/

namespace Datalogger

structure Inert (names : List String) (s : String) : Prop where
  words : ∀ w ∈ wordsOf s, String.ofList w ∉ names
  brackets : marksPlaceholder s.toList = false

def Rewriting.Keeps (ρ : Rewriting) (names : List String) : Prop :=
  ∀ s, Inert names s → ρ.text s = s

theorem of_mem_wordsFrom {word cs w : List Char} (all : ∀ c ∈ word, isWordChar c = true)
    (member : w ∈ wordsFrom word cs) :
    (∀ c ∈ w, isWordChar c = true) ∧ ∀ c ∈ w, c ∈ word ∨ c ∈ cs := by
  induction cs generalizing word with
  | nil =>
    rw [wordsFrom] at member
    split at member
    · cases member
    · rw [List.mem_singleton.1 member]
      exact ⟨all, fun _ => .inl⟩
  | cons c cs ih =>
    rw [wordsFrom] at member
    split at member
    · rename_i isWord
      have grown : ∀ x ∈ word ++ [c], isWordChar x = true := by
        simpa [or_imp, forall_and, isWord] using all
      obtain ⟨chars, inside⟩ := ih grown member
      refine ⟨chars, fun x hx => ?_⟩
      rcases inside x hx with there | there
      · rcases List.mem_append.1 there with there | there
        · exact .inl there
        · exact .inr (List.mem_singleton.1 there ▸ List.mem_cons_self)
      · exact .inr (List.mem_cons_of_mem c there)
    · rcases List.mem_append.1 member with member | member
      · split at member
        · cases member
        · rw [List.mem_singleton.1 member]
          exact ⟨all, fun _ => .inl⟩
      · obtain ⟨chars, inside⟩ := @ih [] (by simp) member
        refine ⟨chars, fun x hx => .inr ?_⟩
        rcases inside x hx with never | there
        · cases never
        · exact List.mem_cons_of_mem c there

theorem bytes_of_wordChars {w : List Char} (all : ∀ c ∈ w, isWordChar c = true) :
    Text.bytes (String.ofList w) = w.map Char.toNat := by
  have each : ∀ c ∈ w, Text.charBytes c = [c.toNat] := fun c member =>
    Text.charBytes_of_lt (Nat.lt_succ_of_le (val_le_of_isWordChar (all c member)))
  rw [Text.bytes_eq, String.toList_ofList, List.flatMap_def, List.map_congr_left each,
    ← List.flatMap_def]
  exact List.map_eq_flatMap.symm

def inertBytes (names : List String) (bs : List Nat) : Bool :=
  bs.all (· < 128) && !marksPlaceholder (bs.map Char.ofNat) &&
    (wordsFrom [] (bs.map Char.ofNat)).all fun w =>
      !(names.map Text.bytes).contains (w.map Char.toNat)

theorem Inert.of_test {names : List String} {s : String}
    (test : inertBytes names (Text.bytes s) = true) : Inert names s := by
  simp only [inertBytes, Bool.and_eq_true, List.all_eq_true, Bool.not_eq_true',
    decide_eq_true_eq] at test
  obtain ⟨⟨small, brackets⟩, words⟩ := test
  have chars := Text.toList_eq_of_bytes small
  refine ⟨fun w member listed => ?_, by rw [chars, brackets]⟩
  rw [wordsOf, chars] at member
  have there : w.map Char.toNat ∈ names.map Text.bytes := by
    rw [← bytes_of_wordChars (of_mem_wordsFrom (by simp) member).1]
    exact List.mem_map_of_mem listed
  have absent := words w member
  rw [List.contains_eq_mem, decide_eq_false_iff_not] at absent
  exact absent there

theorem Rewriting.Keeps.text_eq {ρ : Rewriting} {names : List String} (keep : ρ.Keeps names)
    {s : String} (test : inertBytes names (Text.bytes s) = true) : ρ.text s = s :=
  keep s (.of_test test)

theorem marksPlaceholder_of_not_mem {cs : List Char} (none : '<' ∉ cs) :
    marksPlaceholder cs = false := by
  induction cs with
  | nil => rfl
  | cons c cs ih =>
    cases cs with
    | nil => rfl
    | cons d cs =>
      have other : c ≠ '<' := by rintro rfl; simp at none
      rw [marksPlaceholder, ih fun member => none (List.mem_cons_of_mem c member)]
      simp [other]

def letters (cs : List Char) : List Char :=
  cs.filter fun c => !c.isDigit

/-- What remains of the codes of terminals and of numbers without their digits. -/
def codeLetters : List (List Char) :=
  [[], ['C'], ['C', 'o', 'm', 'C'], ['P'], ['V', 'x'], ['S', 'E'], ['D', 'I', 'F', 'F', 'H'],
    ['D', 'I', 'F', 'F', 'L'], ['S', 'W', '_'], ['R', 'G'], ['A', 'G'], ['G'], ['V'], ['N', 'a', 'N'],
    ['i', 'n', 'f']]

def Distinctive (names : List String) : Prop :=
  ∀ n ∈ names, letters n.toList ∉ codeLetters

def distinctiveBytes (names : List String) : Bool :=
  names.all fun n => (Text.bytes n).all (· < 128) &&
    !codeLetters.contains (letters ((Text.bytes n).map Char.ofNat))

theorem Distinctive.of_test {names : List String} (test : distinctiveBytes names = true) :
    Distinctive names := by
  intro n member
  have passed := List.all_eq_true.1 test n member
  simp only [Bool.and_eq_true, List.all_eq_true, decide_eq_true_eq, Bool.not_eq_true'] at passed
  rw [Text.toList_eq_of_bytes passed.1]
  simpa using passed.2

theorem letters_append (a b : List Char) : letters (a ++ b) = letters a ++ letters b :=
  List.filter_append ..

theorem letters_of_digits {cs : List Char} (all : ∀ c ∈ cs, c.isDigit = true) : letters cs = [] := by
  rw [letters, List.filter_eq_nil_iff]
  intro c member
  simp [all c member]

theorem letters_natText (n : Nat) : letters (natText n).toList = [] :=
  letters_of_digits fun _ => natText_digits

theorem code_cases (t : Terminal) : (∃ n, t.code = natText n) ∨ t.code = t.label := by
  unfold Terminal.code
  split
  · exact .inl ⟨_, rfl⟩
  · exact .inl ⟨_, rfl⟩
  · exact .inl ⟨_, rfl⟩
  · exact .inr rfl

theorem letters_code (t : Terminal) : letters t.code.toList ∈ codeLetters := by
  rcases code_cases t with ⟨n, same⟩ | same
  · rw [same, letters_natText]
    decide
  · rw [same]
    cases t with
    | rail r => cases r <;> decide
    | channel bank n =>
      rw [Terminal.label, String.toList_append, String.toList_append, letters_append, letters_append,
        letters_natText, List.append_nil]
      cases bank <;> decide

theorem wordChars_of_test {s : String} (test : wordBytes (Text.bytes s) = true) :
    ∀ c ∈ s.toList, isWordChar c = true := by
  rw [toList_of_wordBytes test, List.forall_mem_map]
  exact List.all_eq_true.1 test

theorem word_rail (r : Rail) : Word r.label := by
  have ag : Word "AG" := .of_test (by decide) (by decide)
  have g : Word "G" := .of_test (by decide) (by decide)
  have v12 : Word "12V" := .of_test (by decide) (by decide)
  have v5 : Word "5V" := .of_test (by decide) (by decide)
  cases r with
  | analogGround => exact ag
  | ground => exact g
  | power12 => exact v12
  | power5 => exact v5

theorem word_code (t : Terminal) : Word t.code := by
  rcases code_cases t with ⟨n, same⟩ | same
  · exact same ▸ natText_word n
  rw [same]
  cases t with
  | rail r => exact word_rail r
  | channel bank n =>
    have marking : (∀ c ∈ bank.marking.1.toList, isWordChar c = true) ∧
        ∀ c ∈ bank.marking.2.toList, isWordChar c = true := by
      cases bank <;> exact ⟨wordChars_of_test (by decide), wordChars_of_test (by decide)⟩
    refine ⟨by simp [Terminal.label, (natText_word n).nonempty], fun c member => ?_⟩
    rw [Terminal.label, String.toList_append, String.toList_append, List.mem_append,
      List.mem_append] at member
    rcases member with (member | member) | member
    · exact marking.1 c member
    · exact (natText_word n).chars c member
    · exact marking.2 c member

theorem Inert.of_word {names : List String} {s : String} (word : Word s) (other : s ∉ names) :
    Inert names s := by
  refine ⟨fun w member => ?_, marksPlaceholder_of_word word⟩
  have ne : s.toList ≠ [] := by simpa using word.nonempty
  rw [wordsOf, wordsFrom_of_word word.chars, List.nil_append, if_neg ne, List.mem_singleton] at member
  rwa [member, String.ofList_toList]

theorem inert_code {names : List String} (distinct : Distinctive names) (t : Terminal) :
    Inert names t.code :=
  .of_word (word_code t) fun listed => distinct _ listed (letters_code t)

theorem chars_finite {negative : Bool} {m : Nat} {e : Int} {c : Char}
    (member : c ∈ (Binary64.finite negative m e).text.toList) :
    c.isDigit = true ∨ c = '.' ∨ c = '-' := by
  have digits := @isDigit_of_mem_positional (Decimal.shortest .greater m e)
  rw [Binary64.text] at member
  generalize (Decimal.shortest .greater m e).positional = parts at digits member
  have unsigned : ∀ c ∈ (if parts.2 = [] then parts.1 else parts.1 ++ '.' :: parts.2),
      c.isDigit = true ∨ c = '.' := by
    intro c member
    split at member
    · exact .inl (digits (.inl member))
    · rcases List.mem_append.1 member with whole | member
      · exact .inl (digits (.inl whole))
      · rcases List.mem_cons.1 member with rfl | fraction
        · exact .inr rfl
        · exact .inl (digits (.inr fraction))
  cases negative with
  | false =>
    rcases unsigned c (by simpa [Binary64.signed] using member) with digit | point
    · exact .inl digit
    · exact .inr (.inl point)
  | true =>
    rcases List.mem_cons.1 (by simpa [Binary64.signed] using member) with rfl | member
    · exact .inr (.inr rfl)
    · rcases unsigned c member with digit | point
      · exact .inl digit
      · exact .inr (.inl point)

theorem inert_number {names : List String} (distinct : Distinctive names) (x : Binary64) :
    Inert names x.text := by
  cases x with
  | nan => exact .of_word (.of_test (by decide) (by decide)) fun listed => distinct _ listed (by decide)
  | infinite negative =>
    have other : "inf" ∉ names := fun listed => distinct _ listed (by decide)
    cases negative with
    | false => exact .of_word (.of_test (by decide) (by decide)) other
    | true =>
      refine ⟨fun w member => ?_, by decide⟩
      obtain rfl : w = ['i', 'n', 'f'] := by
        have words : wordsOf (Binary64.infinite true).text = [['i', 'n', 'f']] := by decide
        rw [words] at member
        exact List.mem_singleton.1 member
      exact other
  | finite negative m e =>
    refine ⟨fun w member listed => ?_, marksPlaceholder_of_not_mem fun member => ?_⟩
    · obtain ⟨chars, inside⟩ := of_mem_wordsFrom (by simp) member
      have digits : ∀ c ∈ w, c.isDigit = true := by
        intro c hc
        rcases inside c hc with never | there
        · cases never
        · rcases chars_finite there with digit | rfl | rfl
          · exact digit
          · exact absurd (chars _ hc) (by decide)
          · exact absurd (chars _ hc) (by decide)
      refine distinct _ listed ?_
      rw [String.toList_ofList, letters_of_digits digits]
      decide
    · rcases chars_finite member with digit | never | never
      · exact absurd digit (by decide)
      · exact absurd never (by decide)
      · exact absurd never (by decide)

theorem inert_address {names : List String} (long : ∀ n ∈ names, (Text.bytes n).length ≠ 1)
    (address : Sdi12Address) : Inert names address.text := by
  have word : Word address.text := ⟨by simp [Sdi12Address.text], address.text_chars⟩
  refine .of_word word fun listed => long _ listed ?_
  have bytes := bytes_of_wordChars address.text_chars
  rw [String.ofList_toList] at bytes
  rw [bytes, List.length_map, address.length_text]

end Datalogger
