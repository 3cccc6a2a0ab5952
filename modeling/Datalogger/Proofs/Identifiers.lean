import Datalogger.Decimal.Range
import Datalogger.Proofs.Outcome
import Datalogger.Proofs.Text.LineBreaks
import Datalogger.Settings

/-!
Identifiers and words. A word is made of letters, digits and underscores; identifiers are words, and an
identifier stays one when the settings of an instrument add a suffix to it, as long as it leaves room
for the longest suffix.
-/

namespace Datalogger

open Text (OneLine)

theorem isIdentifier_iff {name : String} :
    isIdentifier name = true ↔ name.utf8ByteSize ≤ 39 ∧
      ∃ c cs, name.toList = c :: cs ∧ c.isAlpha = true ∧ ∀ x ∈ cs, isWordChar x = true := by
  unfold isIdentifier
  rw [Bool.and_eq_true, decide_eq_true_iff]
  cases name.toList with
  | nil => simp
  | cons c cs =>
    simp only [identifierLimit, Bool.and_eq_true, List.all_eq_true]
    constructor
    · rintro ⟨short, letter, others⟩
      exact ⟨short, c, cs, rfl, letter, others⟩
    · rintro ⟨short, _, _, same, letter, others⟩
      cases same
      exact ⟨short, letter, others⟩

structure Word (s : String) : Prop where
  nonempty : s ≠ ""
  chars : ∀ c ∈ s.toList, isWordChar c = true

theorem isWordChar_of_isIdentifier {name : String} (h : isIdentifier name = true) {c : Char}
    (member : c ∈ name.toList) : isWordChar c = true := by
  obtain ⟨_, first, rest, chars, letter, others⟩ := isIdentifier_iff.1 h
  rw [chars] at member
  rcases List.mem_cons.1 member with rfl | member
  · simp [isWordChar, Char.isAlphanum, letter]
  · exact others c member

theorem word_of_isIdentifier {name : String} (h : isIdentifier name = true) : Word name := by
  refine ⟨?_, fun c member => isWordChar_of_isIdentifier h member⟩
  rintro rfl
  simp [isIdentifier] at h

theorem isWordChar_ne {c d : Char} (h : isWordChar c = true) (hd : isWordChar d = false) : c ≠ d := by
  rintro rfl
  rw [h] at hd
  cases hd

theorem Word.oneLine {s : String} (h : Word s) : OneLine s := by
  intro c member
  exact ⟨isWordChar_ne (h.chars c member) (by decide), isWordChar_ne (h.chars c member) (by decide)⟩

theorem natText_digits {n : Nat} {c : Char} (member : c ∈ (natText n).toList) : c.isDigit = true := by
  have : c ∈ Nat.toDigits 10 n := by simpa [natText, digitsOf] using member
  exact Nat.isDigit_of_mem_toDigits (by decide) (by decide) this

theorem natText_word (n : Nat) : Word (natText n) := by
  constructor
  · intro empty
    have none : (Nat.toDigits 10 n).length = 0 := by
      simpa [natText, digitsOf] using congrArg (fun s => s.toList.length) empty
    have some := @Nat.length_toDigits_pos 10 n
    omega
  · intro c member
    simp [isWordChar, Char.isAlphanum, natText_digits member]

theorem wordChars_append {a b : String} (ha : ∀ c ∈ a.toList, isWordChar c = true)
    (hb : ∀ c ∈ b.toList, isWordChar c = true) : ∀ c ∈ (a ++ b).toList, isWordChar c = true := by
  intro c member
  rw [String.toList_append, List.mem_append] at member
  exact member.elim (ha c) (hb c)

theorem toNat_of_isWordChar {c : Char} (h : isWordChar c = true) :
    (48 ≤ c.toNat ∧ c.toNat ≤ 57) ∨ (65 ≤ c.toNat ∧ c.toNat ≤ 90) ∨ c.toNat = 95 ∨
      (97 ≤ c.toNat ∧ c.toNat ≤ 122) := by
  simp only [isWordChar, Char.isAlphanum, Char.isAlpha, Char.isUpper, Char.isLower, Char.isDigit,
    Bool.or_eq_true, Bool.and_eq_true, decide_eq_true_eq, UInt32.le_iff_toNat_le] at h
  rcases h with ((upper | lower) | digit) | rfl
  · exact .inr (.inl upper)
  · exact .inr (.inr (.inr lower))
  · exact .inl digit
  · exact .inr (.inr (.inl rfl))

theorem val_le_of_isWordChar {c : Char} (h : isWordChar c = true) : c.val ≤ 127 := by
  have range := toNat_of_isWordChar h
  have small : c.toNat ≤ 127 := by omega
  exact small

theorem isBlank_of_isWordChar {c : Char} (h : isWordChar c = true) : Text.isBlank c = false := by
  have range := toNat_of_isWordChar h
  simp only [Text.isBlank, Bool.or_eq_false_iff, Bool.and_eq_false_iff, decide_eq_false_iff_not,
    beq_eq_false_iff_ne]
  omega

theorem lt_of_isWordChar_ofNat {n : Nat} (h : isWordChar (Char.ofNat n) = true) : n < 128 := by
  by_cases valid : n.isValidChar
  · have small : (Char.ofNat n).toNat ≤ 127 := val_le_of_isWordChar h
    have same : (Char.ofNat n).toNat = n := by
      rw [Char.ofNat, dif_pos valid]
      rfl
    omega
  · rw [Char.ofNat, dif_neg valid] at h
    exact absurd h (by decide)

def wordBytes (bs : List Nat) : Bool :=
  bs.all fun n => isWordChar (Char.ofNat n)

theorem toList_of_wordBytes {s : String} (test : wordBytes (Text.bytes s) = true) :
    s.toList = (Text.bytes s).map Char.ofNat :=
  Text.toList_eq_of_bytes fun n member => lt_of_isWordChar_ofNat (List.all_eq_true.1 test n member)

def foldBytes (bs : List Nat) : List Nat :=
  bs.map fun n => (Char.ofNat n).toLower.toNat

theorem foldBytes_eq {s : String} (test : wordBytes (Text.bytes s) = true) :
    foldBytes (Text.bytes s) = (Text.fold s).toList.map Char.toNat := by
  rw [Text.fold, String.toList_map, toList_of_wordBytes test, List.map_map, List.map_map]
  rfl

theorem Word.of_test {s : String} (nonempty : s ≠ "") (test : wordBytes (Text.bytes s) = true) :
    Word s := by
  refine ⟨nonempty, ?_⟩
  rw [toList_of_wordBytes test, List.forall_mem_map]
  exact List.all_eq_true.1 test

theorem utf8Size_of_isWordChar {c : Char} (h : isWordChar c = true) : c.utf8Size = 1 := by
  have small := val_le_of_isWordChar h
  simp [Char.utf8Size, small]

theorem utf8ByteSize_of_word {s : String} (h : ∀ c ∈ s.toList, isWordChar c = true) :
    s.utf8ByteSize = s.toList.length := by
  generalize chars : s.toList = cs at h
  obtain rfl : s = String.ofList cs := by rw [← chars, String.ofList_toList]
  clear chars
  induction cs with
  | nil => rfl
  | cons c cs ih =>
    have rest := ih fun x member => h x (List.mem_cons_of_mem c member)
    rw [String.ofList_cons, String.utf8ByteSize_append, String.utf8ByteSize_singleton, rest,
      utf8Size_of_isWordChar (h c List.mem_cons_self), List.length_cons, Nat.add_comm]

structure SuffixPart (limit : Nat) (s : String) : Prop where
  chars : ∀ c ∈ s.toList, isWordChar c = true
  short : s.toList.length ≤ limit

theorem suffixPart_underscore : SuffixPart 1 "_" := ⟨List.all_eq_true.1 (by decide), by decide⟩

structure Roomy (name : String) : Prop where
  valid : isIdentifier name = true
  short : name.toList.length ≤ 25

def roomyBytes : List Nat → Bool
  | [] => false
  | n :: ns => ns.length < 25 && (Char.ofNat n).isAlpha && wordBytes ns

theorem wordBytes_of_roomyBytes {bs : List Nat} (test : roomyBytes bs = true) :
    wordBytes bs = true := by
  cases bs with
  | nil => rfl
  | cons n ns =>
    simp only [roomyBytes, Bool.and_eq_true] at test
    simp only [wordBytes, List.all_cons, Bool.and_eq_true]
    exact ⟨by simp [isWordChar, Char.isAlphanum, test.1.2], test.2⟩

theorem Roomy.of_test {name : String} (test : roomyBytes (Text.bytes name) = true) : Roomy name := by
  have word := wordBytes_of_roomyBytes test
  have chars := toList_of_wordBytes word
  cases bytes : Text.bytes name with
  | nil => simp [bytes, roomyBytes] at test
  | cons n ns =>
    rw [bytes] at test word chars
    simp only [roomyBytes, Bool.and_eq_true, decide_eq_true_eq] at test
    have others : ∀ x ∈ name.toList, isWordChar x = true := by
      rw [chars, List.forall_mem_map]
      exact List.all_eq_true.1 word
    have length : name.toList.length ≤ 25 := by
      rw [chars, List.length_map, List.length_cons]
      omega
    refine ⟨isIdentifier_iff.2 ⟨?_, Char.ofNat n, ns.map Char.ofNat, chars, test.1.2, ?_⟩, length⟩
    · rw [utf8ByteSize_of_word others]
      omega
    · intro x member
      exact others x (chars ▸ List.mem_cons_of_mem _ member)

theorem Roomy.append {name suffix : String} (h : Roomy name) (hs : SuffixPart 14 suffix) :
    isIdentifier (name ++ suffix) = true := by
  obtain ⟨_, c, cs, chars, letter, others⟩ := isIdentifier_iff.1 h.valid
  have word := wordChars_append (fun _ => isWordChar_of_isIdentifier h.valid) hs.chars
  refine isIdentifier_iff.2 ⟨?_, c, cs ++ suffix.toList, by simp [chars], letter, ?_⟩
  · have first := h.short
    have second := hs.short
    rw [utf8ByteSize_of_word word, String.toList_append, List.length_append]
    omega
  · intro x member
    refine word x ?_
    rw [String.toList_append, chars, List.cons_append]
    exact List.mem_cons_of_mem c member

/-- The elevation fits a signed integer of 32 bits. -/
def InstrumentSettings.Bounded (s : InstrumentSettings) : Prop :=
  ∀ e, s.elevation = some e → Range.leastInt32 ≤ e ∧ e ≤ Range.greatestInt32

theorem length_natText_le {n : Nat} (h : n < 10 ^ 10) : (natText n).toList.length ≤ 10 := by
  have bound : (Nat.toDigits 10 n).length ≤ 10 :=
    (Nat.length_toDigits_le_iff (by decide) (by decide)).2 h
  simpa [natText, digitsOf] using bound

theorem elevationToken_word (e : Int) : ∀ c ∈ (NameInclusion.elevationToken e).toList,
    isWordChar c = true := by
  have sign : ∀ c ∈ "n".toList, isWordChar c = true := List.all_eq_true.1 (by decide)
  unfold NameInclusion.elevationToken
  split
  · exact wordChars_append sign (natText_word _).chars
  · exact (natText_word _).chars

theorem length_elevationToken {e : Int} (least : Range.leastInt32 ≤ e)
    (greatest : e ≤ Range.greatestInt32) :
    (NameInclusion.elevationToken e).toList.length ≤ 11 := by
  simp only [Range.leastInt32, Range.greatestInt32] at least greatest
  have digits : (natText e.natAbs).toList.length ≤ 10 := length_natText_le (by omega)
  unfold NameInclusion.elevationToken
  split
  · rw [String.toList_append, List.length_append]
    have one : "n".toList.length = 1 := rfl
    omega
  · omega

theorem Sdi12Address.text_chars (a : Sdi12Address) :
    ∀ c ∈ a.text.toList, isWordChar c = true := by
  intro c member
  obtain rfl : c = a.symbol := by simpa [text] using member
  simp [isWordChar, a.alphanumeric]

theorem Sdi12Address.length_text (a : Sdi12Address) : a.text.toList.length = 1 := by
  simp [text]

section Suffixes

open NameInclusion (elevationToken)

variable {s : InstrumentSettings} {instrument t : String}

inductive SuffixForm (s : InstrumentSettings) : String → Prop where
  | address (a : Sdi12Address) (given : s.address = some a) : SuffixForm s ("_" ++ a.text)
  | elevation (e : Int) (given : s.elevation = some e) : SuffixForm s ("_" ++ elevationToken e)
  | both (a : Sdi12Address) (e : Int) (here : s.address = some a) (there : s.elevation = some e) :
    SuffixForm s ("_" ++ a.text ++ "_" ++ elevationToken e)

theorem exists_of_addressPart {address : Option Sdi12Address}
    (made : NameInclusion.addressPart instrument (address.map Sdi12Address.text) = .ok t) :
    ∃ a, address = some a ∧ t = a.text := by
  cases address with
  | none => cases made
  | some a =>
    cases made
    exact ⟨a, rfl, rfl⟩

theorem exists_of_elevationPart {elevation : Option Int}
    (made : NameInclusion.elevationPart instrument elevation = .ok t) :
    ∃ e, elevation = some e ∧ t = elevationToken e := by
  cases elevation with
  | none => cases made
  | some e =>
    cases made
    exact ⟨e, rfl, rfl⟩

theorem suffixForm_of_settings {suffix : Option String} (made : s.suffix instrument = .ok suffix) :
    (s.nameInclusion = .none ∧ suffix = none) ∨
      s.nameInclusion ≠ .none ∧ ∃ t, suffix = some t ∧ SuffixForm s t := by
  unfold InstrumentSettings.suffix at made
  cases mode : s.nameInclusion with
  | none =>
    rw [mode] at made
    cases made
    exact .inl ⟨rfl, rfl⟩
  | sdi12 =>
    rw [mode] at made
    obtain ⟨_, part, same⟩ := Outcome.bind_eq_ok_iff.1 made
    cases same
    obtain ⟨a, given, rfl⟩ := exists_of_addressPart part
    exact .inr ⟨nofun, _, rfl, .address a given⟩
  | elevation =>
    rw [mode] at made
    obtain ⟨_, part, same⟩ := Outcome.bind_eq_ok_iff.1 made
    cases same
    obtain ⟨e, given, rfl⟩ := exists_of_elevationPart part
    exact .inr ⟨nofun, _, rfl, .elevation e given⟩
  | both =>
    rw [mode] at made
    obtain ⟨_, first, made⟩ := Outcome.bind_eq_ok_iff.1 made
    obtain ⟨_, second, same⟩ := Outcome.bind_eq_ok_iff.1 made
    cases same
    obtain ⟨a, here, rfl⟩ := exists_of_addressPart first
    obtain ⟨e, there, rfl⟩ := exists_of_elevationPart second
    exact .inr ⟨nofun, _, rfl, .both a e here there⟩

theorem SuffixForm.chars (form : SuffixForm s t) : ∀ c ∈ t.toList, isWordChar c = true := by
  have mark := suffixPart_underscore.chars
  cases form with
  | address a => exact wordChars_append mark a.text_chars
  | elevation e => exact wordChars_append mark (elevationToken_word e)
  | both a e =>
    have front := wordChars_append mark a.text_chars
    exact wordChars_append (wordChars_append front mark) (elevationToken_word e)

theorem suffix_of_settings (bounded : s.Bounded) {suffix : Option String}
    (made : s.suffix instrument = .ok suffix) : ∀ t, suffix = some t → SuffixPart 14 t := by
  rintro t rfl
  rcases suffixForm_of_settings made with ⟨_, never⟩ | ⟨_, _, same, form⟩
  · cases never
  cases same
  refine ⟨form.chars, ?_⟩
  have one : "_".toList.length = 1 := rfl
  have token : ∀ e, s.elevation = some e → (elevationToken e).toList.length ≤ 11 := by
    intro e given
    obtain ⟨least, greatest⟩ := bounded e given
    exact length_elevationToken least greatest
  cases form with
  | address a =>
    rw [String.toList_append, List.length_append, one, a.length_text]
    decide
  | elevation e given =>
    have short := token e given
    rw [String.toList_append, List.length_append, one]
    omega
  | both a e _ there =>
    have short := token e there
    simp only [String.toList_append, List.length_append, one, a.length_text]
    omega

end Suffixes

end Datalogger
