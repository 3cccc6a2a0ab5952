import Datalogger.Text.Utf8

/-!
The bytes of a text decide what it contains below 128, and they are quickly found for a given text, where
its characters are not. So what is to be decided about given texts is decided on their bytes.
-/

namespace Datalogger.Text

def bytes (s : String) : List Nat :=
  (Utf8.encode s).map UInt8.toNat

def charBytes (c : Char) : List Nat :=
  (String.utf8EncodeChar c).map UInt8.toNat

theorem bytes_eq (s : String) : bytes s = s.toList.flatMap charBytes := by
  have encoded : s.toByteArray = s.toList.utf8Encode := by
    rw [← String.toByteArray_ofList, String.ofList_toList]
  have data : Utf8.encode s = s.toList.flatMap String.utf8EncodeChar := by
    simp [Utf8.encode, String.toUTF8, encoded, List.utf8Encode]
  rw [bytes, data, List.map_flatMap]
  rfl

theorem charBytes_of_lt {c : Char} (small : c.toNat < 128) : charBytes c = [c.toNat] := by
  have low : c.val.toNat ≤ 127 := Nat.le_of_lt_succ small
  have whole : String.utf8EncodeChar c = [UInt8.ofNat c.val.toNat] := by
    rw [String.utf8EncodeChar]
    exact if_pos low
  have kept : c.val.toNat % 256 = c.val.toNat := Nat.mod_eq_of_lt (by omega)
  rw [charBytes, whole, List.map_singleton, UInt8.toNat_ofNat', kept]
  rfl

theorem le_of_mem_charBytes {c : Char} (large : 128 ≤ c.toNat) {n : Nat} (member : n ∈ charBytes c) :
    128 ≤ n := by
  have high : ¬ c.val.toNat ≤ 127 := Nat.not_le_of_lt large
  obtain ⟨b, hb, rfl⟩ := List.mem_map.1 member
  rw [String.utf8EncodeChar] at hb
  simp only [high, if_false] at hb
  split at hb
  · simp at hb
    rcases hb with rfl | rfl <;> simp <;> omega
  split at hb
  · simp at hb
    rcases hb with rfl | rfl | rfl <;> simp <;> omega
  · simp at hb
    rcases hb with rfl | rfl | rfl | rfl <;> simp <;> omega

theorem mem_bytes_iff {s : String} {c : Char} (small : c.toNat < 128) :
    c.toNat ∈ bytes s ↔ c ∈ s.toList := by
  rw [bytes_eq, List.mem_flatMap]
  constructor
  · rintro ⟨x, member, found⟩
    by_cases large : 128 ≤ x.toNat
    · have := le_of_mem_charBytes large found
      omega
    · rw [charBytes_of_lt (by omega), List.mem_singleton] at found
      exact Char.toNat_inj.1 found ▸ member
  · intro member
    exact ⟨c, member, by simp [charBytes_of_lt small]⟩

theorem toList_eq_of_bytes {s : String} (small : ∀ n ∈ bytes s, n < 128) :
    s.toList = (bytes s).map Char.ofNat := by
  have each : ∀ c ∈ s.toList, charBytes c = [c.toNat] := by
    intro c member
    by_cases large : 128 ≤ c.toNat
    · obtain ⟨b, rest, some⟩ := List.exists_cons_of_ne_nil (String.utf8EncodeChar_ne_nil (c := c))
      have found : b.toNat ∈ charBytes c := by simp [charBytes, some]
      have here := small b.toNat (by rw [bytes_eq]; exact List.mem_flatMap.2 ⟨c, member, found⟩)
      have := le_of_mem_charBytes large found
      omega
    · exact charBytes_of_lt (by omega)
  rw [bytes_eq, List.flatMap_def, List.map_congr_left each, ← List.flatMap_def]
  simp [List.map_flatMap]

theorem bytes_prefix {a b : String} (front : a.toList <+: b.toList) : bytes a <+: bytes b := by
  obtain ⟨rest, same⟩ := front
  rw [bytes_eq, bytes_eq, ← same, List.flatMap_append]
  exact List.prefix_append ..

theorem head?_eq_of_bytes {s : String} {n : Nat} (first : (bytes s).head? = some n) (small : n < 128) :
    s.toList.head? = some (Char.ofNat n) := by
  rw [bytes_eq] at first
  cases chars : s.toList with
  | nil => simp [chars] at first
  | cons c cs =>
    obtain ⟨b, rest, some⟩ := List.exists_cons_of_ne_nil (String.utf8EncodeChar_ne_nil (c := c))
    have same : b.toNat = n := by simpa [chars, charBytes, some] using first
    by_cases large : 128 ≤ c.toNat
    · have : 128 ≤ b.toNat := le_of_mem_charBytes large (by simp [charBytes, some])
      omega
    · have whole := charBytes_of_lt (c := c) (by omega)
      rw [charBytes, some, List.map_cons, List.cons.injEq] at whole
      simp [← same, whole.1]

end Datalogger.Text
