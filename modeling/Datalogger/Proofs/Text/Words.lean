import Datalogger.Proofs.Identifiers
import Datalogger.Proofs.Text.Rewriting

/-!
Renaming in a text, word by word. A word is a maximal run of letters, digits and underscores; those that
are listed get a suffix and everything else stays as it is.
-/

namespace Datalogger

/-- Changes every word of a text, of which `word` was read already. -/
def mapWordsFrom (f : List Char → List Char) : List Char → List Char → List Char
  | word, [] => if word = [] then [] else f word
  | word, c :: cs =>
    if isWordChar c then mapWordsFrom f (word ++ [c]) cs
    else (if word = [] then [] else f word) ++ c :: mapWordsFrom f [] cs

def mapWords (f : List Char → List Char) (cs : List Char) : List Char :=
  mapWordsFrom f [] cs

def wordsFrom : List Char → List Char → List (List Char)
  | word, [] => if word = [] then [] else [word]
  | word, c :: cs =>
    if isWordChar c then wordsFrom (word ++ [c]) cs
    else (if word = [] then [] else [word]) ++ wordsFrom [] cs

def wordsOf (text : String) : List (List Char) :=
  wordsFrom [] text.toList

def suffixWord (names : List String) (suffix : String) (word : List Char) : List Char :=
  if String.ofList word ∈ names then word ++ suffix.toList else word

/-- Puts a suffix on every word that is one of the names. -/
def suffixNames (names : List String) (suffix text : String) : String :=
  String.ofList (mapWords (suffixWord names suffix) text.toList)

section Words

variable {f : List Char → List Char}

theorem mapWordsFrom_split {c : Char} (other : isWordChar c = false) (word a b : List Char) :
    mapWordsFrom f word (a ++ c :: b) = mapWordsFrom f word a ++ c :: mapWords f b := by
  induction a generalizing word with
  | nil => simp [mapWordsFrom, mapWords, other]
  | cons x a ih =>
    rw [List.cons_append, mapWordsFrom, mapWordsFrom]
    split
    · exact ih _
    · rw [ih, List.append_assoc, List.cons_append]

theorem mapWordsFrom_of_word {w : List Char} (all : ∀ c ∈ w, isWordChar c = true) (word : List Char) :
    mapWordsFrom f word w = if word ++ w = [] then [] else f (word ++ w) := by
  induction w generalizing word with
  | nil => simp [mapWordsFrom]
  | cons c w ih =>
    have first := all c List.mem_cons_self
    rw [mapWordsFrom, if_pos first, ih fun x member => all x (List.mem_cons_of_mem c member)]
    simp

theorem mapWords_of_word {w : List Char} (ne : w ≠ []) (all : ∀ c ∈ w, isWordChar c = true) :
    mapWords f w = f w := by
  rw [mapWords, mapWordsFrom_of_word all, List.nil_append, if_neg ne]

theorem mapWordsFrom_eq_self {word cs : List Char} (kept : ∀ w ∈ wordsFrom word cs, f w = w) :
    mapWordsFrom f word cs = word ++ cs := by
  have first : ∀ {word : List Char} {rest : List (List Char)},
      (∀ w ∈ (if word = [] then [] else [word]) ++ rest, f w = w) →
        (if word = [] then [] else f word) = word := by
    intro word rest kept
    split
    · rename_i empty
      exact empty.symm
    · rename_i some
      exact kept word (by simp [some])
  induction cs generalizing word with
  | nil =>
    rw [mapWordsFrom, List.append_nil]
    exact @first word [] (by simpa [wordsFrom] using kept)
  | cons c cs ih =>
    rw [wordsFrom] at kept
    rw [mapWordsFrom]
    split at kept
    · rename_i isWord
      rw [if_pos isWord, ih kept, List.append_assoc, List.singleton_append]
    · rename_i other
      rw [if_neg other, first kept, ih fun w member => kept w (List.mem_append_right _ member),
        List.nil_append]

theorem wordsFrom_split {c : Char} (other : isWordChar c = false) (word a b : List Char) :
    wordsFrom word (a ++ c :: b) = wordsFrom word a ++ wordsFrom [] b := by
  induction a generalizing word with
  | nil => simp [wordsFrom, other]
  | cons x a ih =>
    rw [List.cons_append, wordsFrom, wordsFrom]
    split
    · exact ih _
    · rw [ih, List.append_assoc]

theorem wordsFrom_of_word {w : List Char} (all : ∀ c ∈ w, isWordChar c = true) (word : List Char) :
    wordsFrom word w = if word ++ w = [] then [] else [word ++ w] := by
  induction w generalizing word with
  | nil => simp [wordsFrom]
  | cons c w ih =>
    have first := all c List.mem_cons_self
    rw [wordsFrom, if_pos first, ih fun x member => all x (List.mem_cons_of_mem c member)]
    simp

theorem mapWordsFrom_run
    (words : ∀ w, w ≠ [] → (∀ c ∈ w, isWordChar c = true) → f w ≠ [] ∧ ∀ c ∈ f w, isWordChar c = true)
    {word cs : List Char} (all : ∀ c ∈ word, isWordChar c = true) (apart : Rewriting.IsRun cs) :
    (mapWordsFrom f word cs = [] → word ++ cs = []) ∧ Rewriting.IsRun (mapWordsFrom f word cs) := by
  have first : ∀ {word : List Char}, (∀ c ∈ word, isWordChar c = true) →
      Rewriting.IsRun (if word = [] then [] else f word) := by
    intro word all c member
    split at member
    · cases member
    · rename_i some
      simp [isSeparator, (words word some all).2 c member]
  induction cs generalizing word with
  | nil =>
    rw [mapWordsFrom]
    refine ⟨fun empty => ?_, first all⟩
    split at empty
    · rename_i none
      rw [none, List.append_nil]
    · rename_i some
      exact absurd empty (words word some all).1
  | cons c cs ih =>
    have later : Rewriting.IsRun cs := fun x member => apart x (List.mem_cons_of_mem c member)
    rw [mapWordsFrom]
    split
    · rename_i isWord
      have grown : ∀ x ∈ word ++ [c], isWordChar x = true := by
        simpa [or_imp, forall_and, isWord] using all
      refine ⟨fun empty => ?_, (ih grown later).2⟩
      simpa using (ih grown later).1 empty
    · refine ⟨by simp, ?_⟩
      have rest := (@ih [] (by simp) later).2
      intro x member
      rcases List.mem_append.1 member with member | member
      · exact first all x member
      · rcases List.mem_cons.1 member with rfl | member
        · exact apart _ List.mem_cons_self
        · exact rest x member

end Words

theorem suffixWord_word {names : List String} {suffix : String}
    (chars : ∀ c ∈ suffix.toList, isWordChar c = true) {w : List Char} (ne : w ≠ [])
    (all : ∀ c ∈ w, isWordChar c = true) :
    suffixWord names suffix w ≠ [] ∧ ∀ c ∈ suffixWord names suffix w, isWordChar c = true := by
  unfold suffixWord
  split
  · refine ⟨by simp [ne], fun c member => ?_⟩
    rcases List.mem_append.1 member with member | member
    · exact all c member
    · exact chars c member
  · exact ⟨ne, all⟩

def Rewriting.suffixing (names : List String) (suffix : String)
    (chars : ∀ c ∈ suffix.toList, isWordChar c = true) : Rewriting where
  apply := mapWords (suffixWord names suffix)
  nil := rfl
  split a c b sep := by
    have other : isWordChar c = false := by
      simp only [isSeparator, Bool.not_eq_true', Bool.or_eq_false_iff] at sep
      exact sep.1.1
    exact mapWordsFrom_split other [] a b
  run w ne apart := by
    have kept := @mapWordsFrom_run (suffixWord names suffix) (fun w ne all => suffixWord_word chars ne all) [] w
      (by simp) apart
    exact ⟨fun empty => ne (kept.1 empty), kept.2⟩

section Suffixing

variable {names : List String} {suffix : String}

theorem suffixNames_eq_self {text : String} (none : ∀ w ∈ wordsOf text, String.ofList w ∉ names) :
    suffixNames names suffix text = text := by
  have kept : ∀ w ∈ wordsOf text, suffixWord names suffix w = w := fun w member =>
    if_neg (none w member)
  rw [suffixNames, mapWords, mapWordsFrom_eq_self kept, List.nil_append, String.ofList_toList]

theorem suffixNames_of_mem {name : String} (word : Word name) (listed : name ∈ names) :
    suffixNames names suffix name = name ++ suffix := by
  have ne : name.toList ≠ [] := by simpa using word.nonempty
  rw [suffixNames, mapWords_of_word ne word.chars, suffixWord,
    if_pos (by rwa [String.ofList_toList]), String.ofList_append, String.ofList_toList,
    String.ofList_toList]

end Suffixing

end Datalogger
