import Datalogger.CalendarDate
import Datalogger.Proofs.Identifiers
import Datalogger.Table
import Datalogger.Wiring

/-!
Texts that stay on one line: numbers, dates, cadences, terminals and the lines of a wiring diagram.
-/

namespace Datalogger

open Text (OneLine)

theorem oneLine_natText (n : Nat) : OneLine (natText n) :=
  (natText_word n).oneLine

theorem oneLine_intText (n : Int) : OneLine (intText n) := by
  cases n with
  | ofNat n => exact oneLine_natText n
  | negSucc n => exact Text.oneLine_append.2 ⟨by decide, oneLine_natText (n + 1)⟩

theorem isDigit_of_mem_digitsOf {n : Nat} {c : Char} (member : c ∈ digitsOf n) : c.isDigit = true :=
  natText_digits (by simpa [natText] using member)

theorem isDigit_of_mem_zeros {n : Nat} {c : Char} (member : c ∈ Decimal.zeros n) :
    c.isDigit = true := by
  rw [List.eq_of_mem_replicate member]
  decide

theorem isDigit_of_mem_positional {d : Decimal} {c : Char}
    (member : c ∈ d.positional.1 ∨ c ∈ d.positional.2) : c.isDigit = true := by
  have zero : ∀ {x : Char}, x ∈ ['0'] → x.isDigit = true := by
    intro x hx
    rw [List.mem_singleton.1 hx]
    decide
  unfold Decimal.positional at member
  split at member
  · rcases member with whole | none
    · split at whole
      · exact zero whole
      · rcases List.mem_append.1 whole with digit | filler
        · exact isDigit_of_mem_digitsOf digit
        · exact isDigit_of_mem_zeros filler
    · cases none
  · dsimp only at member
    split at member
    · rcases member with whole | fraction
      · exact zero whole
      · rcases List.mem_append.1 fraction with filler | digit
        · exact isDigit_of_mem_zeros filler
        · exact isDigit_of_mem_digitsOf digit
    · rcases member with whole | fraction
      · exact isDigit_of_mem_digitsOf (List.mem_of_mem_take whole)
      · exact isDigit_of_mem_digitsOf (List.mem_of_mem_drop fraction)

theorem oneLine_signed {negative : Bool} {cs : List Char} (h : ∀ c ∈ cs, c ≠ '\n' ∧ c ≠ '\r') :
    OneLine (Binary64.signed negative cs) := by
  intro c member
  cases negative with
  | false => exact h c (by simpa [Binary64.signed] using member)
  | true =>
    rcases List.mem_cons.1 (by simpa [Binary64.signed] using member) with rfl | member
    · decide
    · exact h c member

theorem oneLine_number (x : Binary64) : OneLine x.text := by
  have digit : ∀ {c : Char}, c.isDigit = true → c ≠ '\n' ∧ c ≠ '\r' := by
    intro c h
    constructor <;> · rintro rfl; exact absurd h (by decide)
  cases x with
  | nan => decide
  | infinite negative => cases negative <;> decide
  | finite negative m e =>
    have digits := @isDigit_of_mem_positional (Decimal.shortest .greater m e)
    rw [Binary64.text]
    generalize (Decimal.shortest .greater m e).positional = parts at digits ⊢
    refine oneLine_signed fun c member => ?_
    split at member
    · exact digit (digits (.inl member))
    · rcases List.mem_append.1 member with whole | member
      · exact digit (digits (.inl whole))
      · rcases List.mem_cons.1 member with rfl | fraction
        · decide
        · exact digit (digits (.inr fraction))

theorem oneLine_zeroPadded (width n : Nat) : OneLine (CalendarDate.zeroPadded width n) := by
  intro c member
  rw [CalendarDate.zeroPadded, String.toList_ofList, List.mem_append] at member
  have digit : c.isDigit = true := by
    rcases member with filler | digit
    · rw [List.eq_of_mem_replicate filler]
      decide
    · exact isDigit_of_mem_digitsOf digit
  constructor <;> · rintro rfl; exact absurd digit (by decide)

theorem oneLine_date (d : CalendarDate) : OneLine d.text := by
  have year : OneLine (CalendarDate.yearText d.year) := by
    unfold CalendarDate.yearText
    split
    · exact Text.oneLine_append.2 ⟨by decide, oneLine_zeroPadded _ _⟩
    · split
      · exact oneLine_zeroPadded _ _
      · exact Text.oneLine_append.2 ⟨by decide, oneLine_zeroPadded _ _⟩
  have hyphen : OneLine "-" := by decide
  simp only [CalendarDate.text, Text.oneLine_append]
  exact ⟨⟨⟨⟨year, hyphen⟩, oneLine_zeroPadded _ _⟩, hyphen⟩, oneLine_zeroPadded _ _⟩

theorem oneLine_unit (u : TimeUnit) : OneLine u.text := by
  cases u <;> decide

theorem oneLine_scan (s : Scan) : OneLine s.text := by
  have front : OneLine "Scan(" := by decide
  have comma : OneLine "," := by decide
  have close : OneLine ")" := by decide
  simp [Scan.text, oneLine_natText, oneLine_unit, front, comma, close]

theorem oneLine_interval (d : DataInterval) : OneLine d.text := by
  have front : OneLine "DataInterval(" := by decide
  have comma : OneLine "," := by decide
  have close : OneLine ")" := by decide
  unfold DataInterval.text
  simp [oneLine_natText, oneLine_unit, front, comma, close]

theorem oneLine_cardOut (c : CardOut) : OneLine c.text := by
  have front : OneLine "CardOut(" := by decide
  have comma : OneLine "," := by decide
  have close : OneLine ")" := by decide
  simp [CardOut.text, oneLine_natText, oneLine_intText, front, comma, close]

theorem oneLine_marking (b : Bank) : OneLine b.marking.1 ∧ OneLine b.marking.2 := by
  cases b <;> decide

theorem oneLine_label (t : Terminal) : OneLine t.label := by
  cases t with
  | rail r => cases r <;> decide
  | channel bank n =>
    rw [Terminal.label, Text.oneLine_append, Text.oneLine_append]
    exact ⟨⟨(oneLine_marking bank).1, oneLine_natText n⟩, (oneLine_marking bank).2⟩

theorem oneLine_code (t : Terminal) : OneLine t.code := by
  unfold Terminal.code
  split
  · exact oneLine_natText _
  · exact oneLine_natText _
  · exact oneLine_natText _
  · exact oneLine_label t

theorem oneLine_padEnd {width : Nat} {s : String} (h : OneLine s) : OneLine (Text.padEnd width s) := by
  refine Text.oneLine_append.2 ⟨h, ?_⟩
  intro c member
  rw [String.toList_ofList] at member
  rw [List.eq_of_mem_replicate member]
  decide

theorem oneLine_trimEnd {s : String} (h : OneLine s) : OneLine (Text.trimEnd s) := by
  intro c member
  rw [Text.toList_trimEnd, Text.dropBlankEnd, List.mem_reverse] at member
  exact h c (List.mem_reverse.1 ((List.dropWhile_sublist _).mem member))

theorem oneLine_diagramLine {w : Wire} (role : OneLine w.role) (description : OneLine w.description) :
    OneLine w.diagramLine := by
  have terminal : OneLine (w.terminal.elim "--" Terminal.label) := by
    cases w.terminal with
    | none => decide
    | some t => exact oneLine_label t
  refine oneLine_trimEnd ?_
  simp only [Text.oneLine_append]
  have space : OneLine " " := by decide
  exact ⟨⟨⟨⟨⟨by decide, oneLine_padEnd (Text.oneLine_append.2 ⟨role, by decide⟩)⟩, space⟩,
    oneLine_padEnd terminal⟩, space⟩, description⟩

end Datalogger
