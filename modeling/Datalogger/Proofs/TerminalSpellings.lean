import Datalogger.Proofs.Exchange.RoundTrip
import Datalogger.Proofs.Numerals

/-!
How terminals are spelled. A rail goes by its names and a channel by a marking around its number; a number
alone names a single-ended channel. Reading accepts these spellings and no other text. Markings overlap, so
the order in which they are tried matters: no marking fits what is spelled with one that is tried later.
-/

namespace Datalogger.Terminal

open Text (trim raise)

structure Form where
  front : String
  back : String
  bank : Bank
  numbers : List Nat
  deriving DecidableEq

def forms : List Form :=
  [⟨"SW12_", "", .switchedPower, [1, 2]⟩, ⟨"VX", "", .excitation, [1, 2]⟩,
    ⟨"RG", "", .serialGround, [1, 2]⟩, ⟨"COMC", "", .serial, [1, 3, 5, 7]⟩,
    ⟨"COM", "", .serial, [1, 3, 5, 7]⟩, ⟨"DIFF", "H", .differentialHigh, .range' 1 8⟩,
    ⟨"DIFF", "L", .differentialLow, .range' 1 8⟩, ⟨"C", "", .control, .range' 1 8⟩,
    ⟨"P", "", .pulse, .range' 1 7⟩, ⟨"SE", "", .singleEnded, .range' 1 16⟩]

def railNames : List (String × Rail) :=
  [("AG", .analogGround), ("G", .ground), ("GND", .ground), ("12V", .power12), ("5V", .power5)]

/-- A spelling in capitals, without blanks around it, and the terminal that it names. -/
inductive Spelling (upper : String) : Terminal → Prop
  | rail (r : Rail) (named : (upper, r) ∈ railNames) : Spelling upper (.rail r)
  | channel (f : Form) (cs : List Char) (n : Nat) (known : f ∈ forms) (there : n ∈ f.numbers)
      (numeral : Numeral cs n) (spelled : upper.toList = f.front.toList ++ cs ++ f.back.toList) :
      Spelling upper (.channel f.bank n)
  | bare (n : Nat) (there : n ∈ List.range' 1 16) (digits : Digits upper.toList n) :
      Spelling upper (.channel .singleEnded n)

theorem inRange_of_spelling {upper : String} {t : Terminal} (spelling : Spelling upper t) :
    t.inRange = true := by
  cases spelling with
  | rail r _ => rfl
  | channel f cs n known there _ _ =>
    have numbers : ∀ f ∈ forms, f.numbers = f.bank.channels := by decide +kernel
    rw [inRange, List.contains_iff_mem, ← numbers f known]
    exact there
  | bare n there _ => exact List.contains_iff_mem.2 there

theorem railOf?_eq_some_iff {upper : String} {r : Rail} :
    railOf? upper = some r ↔ (upper, r) ∈ railNames := by
  simp only [railNames, List.mem_cons, Prod.mk.injEq, List.not_mem_nil, or_false]
  constructor
  · intro found
    unfold railOf? at found
    split at found
    · cases found
      simp_all
    split at found
    · cases found
      simp_all
    split at found
    · cases found
      simp_all
    split at found
    · cases found
      simp_all
    · cases found
  · rintro (⟨rfl, rfl⟩ | ⟨rfl, rfl⟩ | ⟨rfl, rfl⟩ | ⟨rfl, rfl⟩ | ⟨rfl, rfl⟩) <;> rfl

theorem between_append (front back : String) (cs : List Char) :
    between front back (front.toList ++ cs ++ back.toList) = some cs := by
  have rest : (front.toList ++ cs ++ back.toList).drop front.length = cs ++ back.toList := by
    rw [List.append_assoc, ← String.length_toList, List.drop_left]
  have starts : front.toList.isPrefixOf (front.toList ++ cs ++ back.toList) = true := by
    rw [List.isPrefixOf_iff_prefix, List.append_assoc]
    exact List.prefix_append _ _
  have ends : back.toList.isSuffixOf (cs ++ back.toList) = true :=
    List.isSuffixOf_iff_suffix.2 (List.suffix_append cs back.toList)
  have middle : (cs ++ back.toList).length - back.length = cs.length := by
    simp [← String.length_toList]
  rw [between, rest, starts, ends, middle, List.take_left]
  rfl

theorem eq_append_of_between {front back : String} {cs middle : List Char}
    (found : between front back cs = some middle) : cs = front.toList ++ middle ++ back.toList := by
  rw [between] at found
  split at found
  · rename_i fits
    rw [Bool.and_eq_true, List.isPrefixOf_iff_prefix, List.isSuffixOf_iff_suffix] at fits
    obtain ⟨⟨tail, rfl⟩, ends⟩ := fits
    rw [← String.length_toList, List.drop_left] at found ends
    obtain ⟨inner, rfl⟩ := ends
    have size : (inner ++ back.toList).length - back.length = inner.length := by
      simp [← String.length_toList]
    rw [size, List.take_left, Option.some.injEq] at found
    rw [found, List.append_assoc]
  · cases found

/-- No text that starts with the second marking and goes on with a number starts with the first. -/
def diverges : List Char → List Char → Bool
  | [], _ => false
  | c :: _, [] => !opensNumber c
  | c :: cs, d :: ds => c ≠ d || diverges cs ds

theorem not_prefix_of_diverges {front marking : List Char} (apart : diverges front marking = true)
    {c : Char} (opens : opensNumber c = true) (rest : List Char) :
    ¬ front <+: marking ++ c :: rest := by
  induction front generalizing marking with
  | nil => cases apart
  | cons d ds ih =>
    cases marking with
    | nil =>
      rw [List.nil_append, List.cons_prefix_cons]
      rintro ⟨rfl, _⟩
      simp [diverges, opens] at apart
    | cons e es =>
      rw [List.cons_append, List.cons_prefix_cons]
      rintro ⟨rfl, starts⟩
      rw [diverges, decide_eq_false (by simp), Bool.false_or] at apart
      exact ih apart starts

/-- A number with the markings of the second spelling does not fit the first. -/
def toldApart (x y : String × String × Bank) : Bool :=
  diverges x.1.toList y.1.toList || (x.2.1.length = y.2.1.length && x.2.1 ≠ y.2.1)

/-- Longer markings come before those with which they begin. -/
theorem pairwise_toldApart : spellings.Pairwise fun x y => toldApart x y = true := by
  decide +kernel

theorem between_of_toldApart {x y : String × String × Bank} (apart : toldApart x y = true) {c : Char}
    (opens : opensNumber c = true) (rest : List Char) :
    between x.1 x.2.1 (y.1.toList ++ c :: rest ++ y.2.1.toList) = none := by
  rw [Option.eq_none_iff_forall_ne_some]
  intro middle found
  have split := eq_append_of_between found
  rw [toldApart, Bool.or_eq_true, Bool.and_eq_true, decide_eq_true_iff, decide_eq_true_iff] at apart
  rcases apart with apart | ⟨size, other⟩
  · refine not_prefix_of_diverges apart opens (rest ++ y.2.1.toList) ?_
    rw [← List.cons_append, ← List.append_assoc, split, List.append_assoc]
    exact List.prefix_append _ _
  · rw [← String.length_toList, ← String.length_toList] at size
    exact other (String.toList_inj.1 (List.append_inj_right' split size.symm).symm)

theorem findSome?_spellings {front back : String} {bank : Bank}
    (listed : (front, back, bank) ∈ spellings) {c : Char} (opens : opensNumber c = true)
    (rest : List Char) :
    (spellings.findSome? fun (f, b, k) =>
      (between f b (front.toList ++ c :: rest ++ back.toList)).map (·, k)) = some (c :: rest, bank) := by
  obtain ⟨earlier, later, split⟩ := List.append_of_mem listed
  refine List.findSome?_eq_some_iff.2 ⟨earlier, _, later, split, ?_, fun x member => ?_⟩
  · change (between front back _).map _ = _
    rw [between_append, Option.map_some]
  · have apart := pairwise_toldApart
    rw [split, List.pairwise_append] at apart
    have passed := between_of_toldApart (apart.2.2 x member _ List.mem_cons_self) opens rest
    change (between x.1 x.2.1 _).map _ = none
    rw [passed, Option.map_none]

theorem findSome?_digits {cs : List Char} {n : Nat} (digits : Digits cs n) :
    (spellings.findSome? fun (f, b, k) => (between f b cs).map (·, k)) = none := by
  obtain ⟨c, rest, rfl, opens⟩ := digits.exists_cons
  have apart : ∀ x ∈ spellings, diverges x.1.toList [] = true := by decide +kernel
  rw [List.findSome?_eq_none_iff]
  intro x member
  rw [Option.map_eq_none_iff, Option.eq_none_iff_forall_ne_some]
  intro middle found
  refine not_prefix_of_diverges (apart x member) opens rest ?_
  rw [List.nil_append, eq_append_of_between found, List.append_assoc]
  exact List.prefix_append _ _

theorem railOf?_of_channel {upper : String} {bank : Bank} {n : Nat}
    (spelling : Spelling upper (.channel bank n)) : railOf? upper = none := by
  rw [Option.eq_none_iff_forall_ne_some]
  intro r found
  have named := railOf?_eq_some_iff.1 found
  cases spelling with
  | channel f cs n known there numeral spelled =>
    have other : ∀ f ∈ forms, f.front.toList ≠ [] ∧
        ∀ x ∈ railNames, x.1.toList.head? ≠ f.front.toList.head? := by decide +kernel
    obtain ⟨filled, differs⟩ := other f known
    refine differs _ named ?_
    rw [spelled, List.append_assoc, List.head?_append_of_ne_nil _ filled]
  | bare n there digits =>
    have letters : ∀ x ∈ railNames, x.1.toList.all Decimal.isDigit = false := by decide +kernel
    have never := letters _ named
    rw [digits.all_isDigit] at never
    cases never

theorem channelOf?_of_spelling {upper : String} {bank : Bank} {n : Nat}
    (spelling : Spelling upper (.channel bank n)) :
    channelOf? upper.toList = some (.channel bank n) := by
  cases spelling with
  | channel f cs n known there numeral spelled =>
    have listed : ∀ f ∈ forms, (f.front, f.back, f.bank) ∈ spellings ∧ ∀ n ∈ f.numbers, n ≤ 255 := by
      decide +kernel
    obtain ⟨spelt, small⟩ := listed f known
    obtain ⟨c, rest, rfl, opens⟩ := numeral.exists_cons
    have number : readNumber (c :: rest) = some n := Decimal.readNat_iff.2 ⟨numeral, small n there⟩
    rw [channelOf?, spelled, findSome?_spellings spelt opens rest]
    change (readNumber (c :: rest)).map _ = _
    rw [number, Option.map_some]
  | bare n there digits =>
    have small : n ≤ 255 := by
      rw [List.mem_range'] at there
      omega
    have number : readNumber upper.toList = some n := Decimal.readNat_iff.2 ⟨.plain digits, small⟩
    rw [channelOf?, findSome?_digits digits, digits.all_isDigit, number]
    rfl

theorem spelling_of_channelOf? {upper : String} {t : Terminal}
    (found : channelOf? upper.toList = some t) (there : t.inRange = true) : Spelling upper t := by
  unfold channelOf? at found
  split at found
  · rename_i digits bank fits
    obtain ⟨n, number, rfl⟩ := Option.map_eq_some_iff.1 found
    obtain ⟨x, listed, fits⟩ := List.exists_of_findSome?_eq_some fits
    obtain ⟨middle, inner, same⟩ := Option.map_eq_some_iff.1 fits
    cases same
    have known : ∀ x ∈ spellings, ⟨x.1, x.2.1, x.2.2, x.2.2.channels⟩ ∈ forms := by decide +kernel
    exact .channel _ digits n (known x listed) (List.contains_iff_mem.1 there)
      (Decimal.readNat_iff.1 number).1 (eq_append_of_between inner)
  · split at found
    · rename_i all
      obtain ⟨n, number, rfl⟩ := Option.map_eq_some_iff.1 found
      cases (Decimal.readNat_iff.1 number).1 with
      | plain digits => exact .bare n (List.contains_iff_mem.1 there) digits
      | signed rest split _ =>
        rw [split] at all
        cases all
    · cases found

theorem read?_eq_some_iff {text : String} {t : Terminal} :
    read? text = some t ↔ Spelling (raise (trim text)) t := by
  rw [read?]
  generalize raise (trim text) = upper
  constructor
  · intro found
    split at found
    · rename_i r named
      cases found
      exact .rail r (railOf?_eq_some_iff.1 named)
    · obtain ⟨channel, there⟩ := Option.filter_eq_some_iff.1 found
      exact spelling_of_channelOf? channel there
  · intro spelling
    have there := inRange_of_spelling spelling
    cases t with
    | rail r =>
      cases spelling with
      | rail _ named => rw [railOf?_eq_some_iff.2 named]
    | channel bank n =>
      rw [railOf?_of_channel spelling, channelOf?_of_spelling spelling]
      exact Option.filter_eq_some_iff.2 ⟨rfl, there⟩

theorem read_of_read? {text : String} {t : Terminal} (found : read? text = some t) :
    read text = .ok t := by
  rw [read, found]

theorem read_exact (text : String) :
    (∀ t, read text = .ok t ↔ Spelling (raise (trim text)) t) ∧
      ∀ e, read text = .error e ↔
        e = .invalidTerminal text ∧ ∀ t, ¬ Spelling (raise (trim text)) t := by
  refine Outcome.exact_of_exhaustive ?_ ?_ ?_
  · exact fun t spelling => read_of_read? (read?_eq_some_iff.2 spelling)
  · rintro e ⟨rfl, never⟩
    have missing : read? text = none := by
      rw [Option.eq_none_iff_forall_ne_some]
      exact fun t found => never t (read?_eq_some_iff.1 found)
    rw [read, missing]
  · by_cases some : ∃ t, Spelling (raise (trim text)) t
    · exact .inl some
    · exact .inr ⟨_, rfl, not_exists.1 some⟩

/-- A text has a part between two byte offsets: they are in order, and neither splits a character. -/
def HasSlice (text : String) (start finish : Nat) : Prop :=
  start ≤ finish ∧ String.Pos.Raw.IsValid text ⟨start⟩ ∧ String.Pos.Raw.IsValid text ⟨finish⟩

theorem hasSlice_append (front middle back : String) :
    HasSlice (front ++ middle ++ back) front.utf8ByteSize
      ((front ++ middle ++ back).utf8ByteSize - back.utf8ByteSize) := by
  rw [String.utf8ByteSize_append, Nat.add_sub_cancel]
  refine ⟨?_, ?_, ?_⟩
  · rw [String.utf8ByteSize_append]
    exact Nat.le_add_right _ _
  · refine String.Pos.Raw.isValid_iff_exists_append.2 ⟨front, middle ++ back, ?_, rfl⟩
    rw [String.append_assoc]
  · exact String.Pos.Raw.isValid_iff_exists_append.2 ⟨front ++ middle, back, rfl, rfl⟩

/-- What stands behind a number is at most one character, and no marking in front ends in it. -/
theorem exists_middle {x : String × String × Bank} (listed : x ∈ spellings) {upper : String}
    (starts : x.1.toList <+: upper.toList) (ends : x.2.1.toList <:+ upper.toList) :
    ∃ middle, upper = x.1 ++ middle ++ x.2.1 := by
  have clear : ∀ x ∈ spellings, x.2.1.toList = [] ∨
      x.2.1.toList.length = 1 ∧ x.2.1.toList.getLast? ≠ x.1.toList.getLast? := by decide +kernel
  obtain ⟨tail, split⟩ := starts
  have behind : x.2.1.toList <:+ tail := by
    rcases clear x listed with nothing | ⟨single, other⟩
    · rw [nothing]
      exact List.nil_suffix
    · rw [← split] at ends
      refine List.suffix_of_suffix_length_le ends (List.suffix_append _ tail) ?_
      rw [single, Nat.one_le_iff_ne_zero, ne_eq, List.length_eq_zero_iff]
      rintro rfl
      obtain ⟨inner, whole⟩ := ends
      have filled : x.2.1.toList ≠ [] := List.ne_nil_of_length_pos (by rw [single]; decide)
      rw [List.append_nil] at whole
      rw [← whole, List.getLast?_append_of_ne_nil _ filled] at other
      exact other rfl
  obtain ⟨middle, rfl⟩ := behind
  refine ⟨String.ofList middle, String.toList_inj.1 ?_⟩
  rw [← split, String.toList_append, String.toList_append, String.toList_ofList, List.append_assoc]

/-- Reading gives a terminal exactly if its spelling was written, up to the blanks around it and the case
of its letters, and any other text is reported as it was given. The terminal is one that the panel has,
its label reads back, and where both markings of a spelling are found there is a text between them. -/
theorem reading_outcome (text : String) :
    (∀ t, read text = .ok t ↔ Spelling (raise (trim text)) t) ∧
      (∀ e, read text = .error e ↔
        e = .invalidTerminal text ∧ ∀ t, ¬ Spelling (raise (trim text)) t) ∧
      (∀ t, read text = .ok t → t.inRange = true ∧ read t.label = .ok t) ∧
      ∀ x ∈ spellings, x.1.toList <+: (raise (trim text)).toList →
        x.2.1.toList <:+ (raise (trim text)).toList →
          HasSlice (raise (trim text)) x.1.utf8ByteSize
            ((raise (trim text)).utf8ByteSize - x.2.1.utf8ByteSize) := by
  obtain ⟨result, error⟩ := read_exact text
  refine ⟨result, error, fun t found => ?_, fun x listed starts ends => ?_⟩
  · have there := inRange_of_spelling ((result t).1 found)
    exact ⟨there, read_of_read? (read?_label there)⟩
  · obtain ⟨middle, split⟩ := exists_middle listed starts ends
    rw [split]
    exact hasSlice_append x.1 middle x.2.1

theorem padded_channel_read :
    read " diff+03h" = .ok (.channel .differentialHigh 3) ∧
      read (Terminal.channel .differentialHigh 3).label = .ok (.channel .differentialHigh 3) ∧
      HasSlice (raise (trim " diff+03h")) 4 7 ∧
      read "C9" = .error (.invalidTerminal "C9") ∧ ∀ t, ¬ Spelling (raise (trim "C9")) t := by
  have upper : (raise (trim " diff+03h")).toList = "DIFF+03H".toList := by decide +kernel
  have digits : Digits ['0', '3'] 3 :=
    .more ['0'] 0 '3' (.one '0' (by unfold IsDigit; decide)) (by unfold IsDigit; decide)
  obtain ⟨result, _, kept, slice⟩ := reading_outcome " diff+03h"
  have found := (result (.channel .differentialHigh 3)).2
    (.channel ⟨"DIFF", "H", .differentialHigh, .range' 1 8⟩ ['+', '0', '3'] 3 (by decide +kernel)
      (by decide) (.signed _ rfl digits) (by rw [upper]; decide +kernel))
  have starts : "DIFF".toList <+: (raise (trim " diff+03h")).toList := by
    rw [upper]
    decide +kernel
  have ends : "H".toList <:+ (raise (trim " diff+03h")).toList := by
    rw [upper]
    decide +kernel
  have cut := slice ("DIFF", "H", .differentialHigh) (by decide +kernel) starts ends
  rw [String.toList_inj.1 upper] at cut ⊢
  have failed : read "C9" = .error (.invalidTerminal "C9") := by decide +kernel
  exact ⟨found, (kept _ found).2, cut, failed, (((reading_outcome "C9").2.1 _).1 failed).2⟩

end Datalogger.Terminal
