import Datalogger.Proofs.Instance
import Datalogger.Proofs.NameCheck

/-!
Suffixes keep instances apart. What a suffix says behind an underscore contains no underscore itself, so a
name with a suffix can be taken apart again, also where case does not count. Two names that were
renamed under one mode are therefore the same only if they were the same before and the settings that
the mode uses are the same; sets with different settings never share a name.
-/

namespace Datalogger

open Text (fold)
open NameInclusion (elevationToken)

theorem append_underscore_inj {xs ys ts us : List Char} (left : '_' ∉ ts) (right : '_' ∉ us) :
    xs ++ '_' :: ts = ys ++ '_' :: us ↔ xs = ys ∧ ts = us := by
  constructor
  · intro same
    rcases List.append_eq_append_iff.1 same with ⟨gap, longer, rest⟩ | ⟨gap, longer, rest⟩
    · cases gap with
      | nil => simp_all
      | cons c gap =>
        rw [List.cons_append, List.cons.injEq] at rest
        exact absurd (rest.2 ▸ by simp) left
    · cases gap with
      | nil => simp_all
      | cons c gap =>
        rw [List.cons_append, List.cons.injEq] at rest
        exact absurd (rest.2 ▸ by simp) right
  · rintro ⟨rfl, rfl⟩
    rfl

theorem toLower_of_not_isAlpha {c : Char} (h : c.isAlpha = false) : c.toLower = c := by
  refine Char.toLower_eq_of_not_isUpper ?_
  rw [Char.isAlpha, Bool.or_eq_false_iff] at h
  simp [h.1]

theorem eq_underscore_of_toLower {c : Char} (h : c.toLower = '_') : c = '_' := by
  have alpha : c.isAlpha = false := by
    rw [← Char.isAlpha_toLower_eq_isAlpha, h]
    rfl
  rwa [toLower_of_not_isAlpha alpha] at h

theorem underscore_not_mem_fold {t : String} (h : '_' ∉ t.toList) : '_' ∉ (fold t).toList := by
  rw [fold, String.toList_map, List.mem_map]
  rintro ⟨c, member, lower⟩
  rw [eq_underscore_of_toLower lower] at member
  exact h member

/-- The last underscore parts a name from what was put behind it. -/
theorem fold_append_underscore_inj {n k t u : String} (left : '_' ∉ t.toList) (right : '_' ∉ u.toList) :
    fold (n ++ ("_" ++ t)) = fold (k ++ ("_" ++ u)) ↔ fold n = fold k ∧ fold t = fold u := by
  have parted := @append_underscore_inj (fold n).toList (fold k).toList (fold t).toList (fold u).toList
    (underscore_not_mem_fold left) (underscore_not_mem_fold right)
  have mark : (fold "_").toList = ['_'] := by
    rw [fold, String.toList_map]
    rfl
  simp only [← String.toList_inj, Text.fold_append, String.toList_append, mark]
  exact parted

theorem natText_inj {m n : Nat} : natText m = natText n ↔ m = n := by
  constructor
  · intro same
    have digits : Nat.toDigits 10 m = Nat.toDigits 10 n := by
      simpa [natText, digitsOf, ← String.toList_inj] using same
    have read := congrArg (fun ds => Nat.ofDigitChars 10 ds 0) digits
    simpa [Nat.ofDigitChars_toDigits] using read
  · rintro rfl
    rfl

structure Marks where
  address : Option Sdi12Address
  elevation : Option Int

namespace Marks

def suffix (a : Marks) (m : NameInclusion) (instrument : String) : Except Error (Option String) :=
  m.suffix instrument (a.address.map Sdi12Address.text) a.elevation

/-- The same address, for letters in either case. -/
def SameAddress (a b : Marks) : Prop :=
  (a.address.map fun x => fold x.text) = b.address.map fun x => fold x.text

def Coincide (m : NameInclusion) (a b : Marks) : Prop :=
  match m with
  | .none => True
  | .sdi12 => a.SameAddress b
  | .elevation => a.elevation = b.elevation
  | .both => a.SameAddress b ∧ a.elevation = b.elevation

inductive Written (a : Marks) : NameInclusion → String → Prop
  | address (x : Sdi12Address) (given : a.address = some x) : Written a .sdi12 ("_" ++ x.text)
  | elevation (e : Int) (given : a.elevation = some e) :
      Written a .elevation ("_" ++ elevationToken e)
  | both (x : Sdi12Address) (e : Int) (here : a.address = some x) (there : a.elevation = some e) :
      Written a .both ("_" ++ x.text ++ "_" ++ elevationToken e)

theorem written_of_suffix {a : Marks} {m : NameInclusion} {instrument t : String}
    (asked : a.suffix m instrument = .ok (some t)) : a.Written m t := by
  cases m with
  | none => cases asked
  | sdi12 =>
    obtain ⟨_, part, same⟩ := Outcome.bind_eq_ok_iff.1 asked
    cases same
    obtain ⟨x, given, rfl⟩ := exists_of_addressPart part
    exact .address x given
  | elevation =>
    obtain ⟨_, part, same⟩ := Outcome.bind_eq_ok_iff.1 asked
    cases same
    obtain ⟨e, given, rfl⟩ := exists_of_elevationPart part
    exact .elevation e given
  | both =>
    obtain ⟨_, first, asked⟩ := Outcome.bind_eq_ok_iff.1 asked
    obtain ⟨_, second, same⟩ := Outcome.bind_eq_ok_iff.1 asked
    cases same
    obtain ⟨x, here, rfl⟩ := exists_of_addressPart first
    obtain ⟨e, there, rfl⟩ := exists_of_elevationPart second
    exact .both x e here there

/-- Every mode but one asks for a suffix, and has what it takes if both settings are given. -/
theorem exists_suffix_iff (m : NameInclusion) (instrument : String) (x : Sdi12Address) (e : Int) :
    (∃ t, suffix ⟨some x, some e⟩ m instrument = .ok (some t)) ↔ m ≠ .none := by
  cases m with
  | none => simp [suffix, NameInclusion.suffix]
  | sdi12 => exact ⟨fun _ => nofun, fun _ => ⟨_, rfl⟩⟩
  | elevation => exact ⟨fun _ => nofun, fun _ => ⟨_, rfl⟩⟩
  | both => exact ⟨fun _ => nofun, fun _ => ⟨_, rfl⟩⟩

end Marks

theorem underscore_not_mem_address (x : Sdi12Address) : '_' ∉ x.text.toList := by
  intro member
  have same : '_' = x.symbol := by simpa [Sdi12Address.text] using member
  have word := x.alphanumeric
  rw [← same] at word
  cases word

theorem underscore_not_mem_elevationToken (e : Int) : '_' ∉ (elevationToken e).toList := by
  have digits : '_' ∉ (natText e.natAbs).toList := fun member => by
    have digit := natText_digits member
    cases digit
  unfold elevationToken
  split
  · simpa using digits
  · exact digits

theorem isAlpha_of_isDigit {c : Char} (h : c.isDigit = true) : c.isAlpha = false := by
  simp only [Char.isDigit, Bool.and_eq_true, decide_eq_true_eq, UInt32.le_iff_toNat_le] at h
  simp only [Char.isAlpha, Char.isUpper, Char.isLower, Bool.or_eq_false_iff, Bool.and_eq_false_iff,
    decide_eq_false_iff_not, UInt32.le_iff_toNat_le]
  have nine : '9'.val.toNat < 'A'.val.toNat ∧ '9'.val.toNat < 'a'.val.toNat := by decide
  omega

theorem fold_natText (n : Nat) : fold (natText n) = natText n := by
  have each : ∀ c ∈ (natText n).toList, c.toLower = c := fun c member =>
    toLower_of_not_isAlpha (isAlpha_of_isDigit (natText_digits member))
  rw [← String.toList_inj, fold, String.toList_map, List.map_congr_left each, List.map_id']

theorem fold_elevationToken (e : Int) : fold (elevationToken e) = elevationToken e := by
  have sign : fold "n" = "n" := by
    rw [← String.toList_inj, fold, String.toList_map]
    rfl
  unfold elevationToken
  split
  · rw [Text.fold_append, sign, fold_natText]
  · exact fold_natText _

/-- Elevations are told apart by their tokens. -/
theorem elevationToken_inj {d e : Int} : elevationToken d = elevationToken e ↔ d = e := by
  have signed : ∀ i j : Nat, "n" ++ natText i ≠ natText j := by
    intro i j same
    have member : 'n' ∈ (natText j).toList := by
      rw [← same]
      simp
    have digit := natText_digits member
    cases digit
  constructor
  · intro same
    unfold elevationToken at same
    by_cases hd : d < 0 <;> by_cases he : e < 0
    · rw [if_pos hd, if_pos he, String.append_right_inj, natText_inj] at same
      omega
    · rw [if_pos hd, if_neg he] at same
      exact absurd same (signed _ _)
    · rw [if_neg hd, if_pos he] at same
      exact absurd same.symm (signed _ _)
    · rw [if_neg hd, if_neg he, natText_inj] at same
      omega
  · rintro rfl
    rfl

/-- Names with suffixes of one mode are the same, ignoring case, if they were the same before and so
are the settings that the mode uses. -/
theorem fold_append_suffix_inj {a b : Marks} {m : NameInclusion} {n k t u : String}
    (first : a.Written m t) (second : b.Written m u) :
    fold (n ++ t) = fold (k ++ u) ↔ fold n = fold k ∧ Marks.Coincide m a b := by
  cases first with
  | address x hx =>
    cases second with
    | address y hy =>
      rw [fold_append_underscore_inj (underscore_not_mem_address x) (underscore_not_mem_address y)]
      simp [Marks.Coincide, Marks.SameAddress, hx, hy]
  | elevation d hd =>
    cases second with
    | elevation e he =>
      rw [fold_append_underscore_inj (underscore_not_mem_elevationToken d)
        (underscore_not_mem_elevationToken e), fold_elevationToken, fold_elevationToken,
        elevationToken_inj]
      simp [Marks.Coincide, hd, he]
  | both x d hx hd =>
    cases second with
    | both y e hy he =>
      have outer : ∀ (p q : String) (i : Int), p ++ ("_" ++ q ++ "_" ++ elevationToken i) =
          (p ++ ("_" ++ q)) ++ ("_" ++ elevationToken i) := by
        intro p q i
        simp only [String.append_assoc]
      rw [outer, outer, fold_append_underscore_inj (underscore_not_mem_elevationToken d)
        (underscore_not_mem_elevationToken e), fold_elevationToken, fold_elevationToken,
        elevationToken_inj,
        fold_append_underscore_inj (underscore_not_mem_address x) (underscore_not_mem_address y)]
      simp [Marks.Coincide, Marks.SameAddress, hx, hy, hd, he, and_assoc]

namespace VariableSet

inductive Renamed (m : NameInclusion) (a : Marks) : VariableSet → Prop
  | intro (owner instrument t : String) (declarations : List Declaration) (s : VariableSet)
      (built : build owner declarations = .ok s) (asked : a.suffix m instrument = .ok (some t)) :
      Renamed m a (s.suffixed t)

theorem effectiveName_of_suffixable {s : VariableSet} {t : String} {v : Variable}
    (member : v ∈ (s.suffixed t).suffixable) : v.effectiveName = v.name ++ t := by
  rw [suffixable, suffixed, List.flatMap_map] at member
  obtain ⟨d, _, there⟩ := List.mem_flatMap.1 member
  cases d with
  | scalar w =>
    obtain rfl : v = w.suffixed t := List.mem_singleton.1 there
    rfl
  | register r =>
    simp only [Declaration.suffixed, Declaration.suffixable, Register.suffixed, List.map_map,
      List.mem_map] at there
    obtain ⟨x, _, rfl⟩ := there
    rfl

theorem suffixable_of_no_registers {s : VariableSet} (none : s.registers = []) :
    s.suffixable = s.vars := by
  rw [registers, List.filterMap_eq_nil_iff] at none
  refine List.flatMap_congr fun d member => ?_
  cases d with
  | scalar v => rfl
  | register r => cases none _ member

theorem nodup_fold_suffixed {s : VariableSet} (distinct : (s.vars.map fun v => fold v.name).Nodup)
    (t : String) : ((s.suffixed t).vars.map fun v => fold v.name).Nodup := by
  have names := congrArg (List.map fold) (map_name_suffixed t s)
  rw [List.map_map, List.map_map] at names
  exact names ▸ distinct

variable {m : NameInclusion} {a b : Marks} {s s' : VariableSet}

theorem Renamed.exists_suffix (renamed : Renamed m a s) :
    ∃ t, a.Written m t ∧ ∀ v ∈ s.suffixable, v.effectiveName = v.name ++ t := by
  cases renamed with
  | intro owner instrument t declarations s built asked =>
    exact ⟨t, Marks.written_of_suffix asked, fun v member => effectiveName_of_suffixable member⟩

theorem Renamed.nodup (renamed : Renamed m a s) : (s.vars.map fun v => fold v.name).Nodup := by
  cases renamed with
  | intro owner instrument t declarations s built asked =>
    exact nodup_fold_suffixed (nodup_of_build built) t

/-- Two renamed variables have one name exactly if they had one name before and the settings that the
mode uses coincide. -/
theorem Renamed.fold_effectiveName_eq_iff (first : Renamed m a s) (second : Renamed m b s')
    {v w : Variable} (hv : v ∈ s.suffixable) (hw : w ∈ s'.suffixable) :
    fold v.effectiveName = fold w.effectiveName ↔ fold v.name = fold w.name ∧ a.Coincide m b := by
  obtain ⟨t, left, names⟩ := first.exists_suffix
  obtain ⟨u, right, names'⟩ := second.exists_suffix
  rw [names v hv, names' w hw]
  exact fold_append_suffix_inj left right

theorem Renamed.pairwise (renamed : Renamed m a s) (free : s.registers = []) :
    s.vars.Pairwise fun v w => fold v.effectiveName ≠ fold w.effectiveName := by
  have distinct := renamed.nodup
  have every := suffixable_of_no_registers free
  rw [List.Nodup, List.pairwise_map] at distinct
  refine distinct.imp_of_mem fun {v w} hv hw differ same => differ ?_
  exact ((renamed.fold_effectiveName_eq_iff renamed (every ▸ hv) (every ▸ hw)).1 same).1

theorem pairwise_of_renamed {sets : List (Marks × VariableSet)}
    (renamed : ∀ p ∈ sets, p.2.Renamed m p.1 ∧ p.2.registers = [])
    (differ : sets.Pairwise fun p q => ¬ p.1.Coincide m q.1) :
    (ownedVariables (sets.map Prod.snd)).Pairwise fun x y => Visited.key x ≠ Visited.key y := by
  rw [ownedVariables, List.flatMap_map, List.pairwise_flatMap]
  constructor
  · intro p member
    rw [List.pairwise_map]
    exact (renamed p member).1.pairwise (renamed p member).2
  · refine differ.imp_of_mem fun {p q} hp hq other x hx y hy same => other ?_
    obtain ⟨v, hv, rfl⟩ := List.mem_map.1 hx
    obtain ⟨w, hw, rfl⟩ := List.mem_map.1 hy
    obtain ⟨first, free⟩ := renamed p hp
    obtain ⟨second, free'⟩ := renamed q hq
    rw [← suffixable_of_no_registers free] at hv
    rw [← suffixable_of_no_registers free'] at hw
    exact ((first.fold_effectiveName_eq_iff second hv hw).1 same).2

end VariableSet

/-- A mode that asks for suffixes keeps the names of two sets apart, ignoring case, exactly where their
declared names or the settings that it uses differ; so sets without registers whose settings differ
never give the same name twice. -/
theorem suffixes_keep_apart (m : NameInclusion) :
    (∀ instrument x e, (∃ t, Marks.suffix ⟨some x, some e⟩ m instrument = .ok (some t)) ↔ m ≠ .none) ∧
    (∀ (a b : Marks) (s s' : VariableSet), s.Renamed m a → s'.Renamed m b →
      ∀ v ∈ s.suffixable, ∀ w ∈ s'.suffixable,
        (fold v.effectiveName = fold w.effectiveName ↔ fold v.name = fold w.name ∧ a.Coincide m b)) ∧
    ∀ sets : List (Marks × VariableSet), (∀ p ∈ sets, p.2.Renamed m p.1 ∧ p.2.registers = []) →
      sets.Pairwise (fun p q => ¬ p.1.Coincide m q.1) → ∀ name first second,
        ensureUnique (sets.map Prod.snd) ≠ .error (.duplicateVariableName name first second) := by
  refine ⟨Marks.exists_suffix_iff m, ?_, ?_⟩
  · intro a b s s' first second v hv w hw
    exact first.fold_effectiveName_eq_iff second hv hw
  · intro sets renamed differ
    exact ensureUnique_ne_duplicate (VariableSet.pairwise_of_renamed renamed differ)

/-! Two barometers a metre apart that have one bus address in different cases. -/

namespace SuffixDistinctness

def low : Marks := ⟨some ⟨'k', by decide⟩, some (-50)⟩

def high : Marks := ⟨some ⟨'K', by decide⟩, some 50⟩

def lowSet : VariableSet := ⟨"low", [.scalar (.published "bp")]⟩

def highSet : VariableSet := ⟨"high", [.scalar (.published "BP")]⟩

end SuffixDistinctness

open SuffixDistinctness in
theorem barometers_keep_apart :
    (lowSet.suffixed "_k_n50").Renamed .both low ∧ (highSet.suffixed "_K_50").Renamed .both high ∧
      ¬ low.Coincide .both high ∧ ∀ name first second,
        ensureUnique [lowSet.suffixed "_k_n50", highSet.suffixed "_K_50"] ≠
          .error (.duplicateVariableName name first second) := by
  have lower : (lowSet.suffixed "_k_n50").Renamed .both low :=
    .intro "low" "low" "_k_n50" lowSet.declarations lowSet (by decide +kernel) (by decide +kernel)
  have upper : (highSet.suffixed "_K_50").Renamed .both high :=
    .intro "high" "high" "_K_50" highSet.declarations highSet (by decide +kernel) (by decide +kernel)
  have differ : ¬ low.Coincide .both high := fun same => absurd same.2 (by decide)
  have free : ∀ p ∈ [(low, lowSet.suffixed "_k_n50"), (high, highSet.suffixed "_K_50")],
      p.2.Renamed .both p.1 ∧ p.2.registers = [] := by
    simp only [List.forall_mem_cons]
    exact ⟨⟨lower, rfl⟩, ⟨upper, rfl⟩, nofun⟩
  exact ⟨lower, upper, differ, (suffixes_keep_apart .both).2.2 _ free (by simpa using differ)⟩

end Datalogger
