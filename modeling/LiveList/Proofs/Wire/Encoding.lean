import LiveList.Wire.Line
import Mathlib.Data.List.Infix

/-!
Text as bytes. A line feed is a byte of its own, so text and its bytes part into the same lines. The
first bytes of a text are a text again exactly if they end with a character.
-/

namespace LiveList

def octets (text : List Char) : List UInt8 := text.flatMap String.utf8EncodeChar

theorem octets_cons (char : Char) (text : List Char) :
    octets (char :: text) = String.utf8EncodeChar char ++ octets text := rfl

theorem octets_append (first second : List Char) :
    octets (first ++ second) = octets first ++ octets second :=
  List.flatMap_append

theorem octets_eq_nil {text : List Char} : octets text = [] ↔ text = [] := by
  constructor
  · intro empty
    cases text with
    | nil => rfl
    | cons char rest =>
        rw [octets_cons, List.append_eq_nil_iff] at empty
        exact absurd empty.1 String.utf8EncodeChar_ne_nil
  · rintro rfl
    rfl

theorem toByteArray_octets (text : List Char) : ⟨(octets text).toArray⟩ = text.utf8Encode := by
  apply ByteArray.ext
  simp [octets, List.utf8Encode]

theorem prefix_of_octets {front text : List Char} (early : octets front <+: octets text) :
    front <+: text := by
  obtain ⟨rest, whole⟩ := early
  apply List.isPrefix_of_utf8Encode_append_eq_utf8Encode ⟨rest.toArray⟩
  rw [← toByteArray_octets, ← toByteArray_octets, ← whole]
  apply ByteArray.ext
  simp

namespace LineState

theorem lineFeed_mem_encoded {char : Char} :
    lineFeed ∈ String.utf8EncodeChar char ↔ char = '\n' := by
  have byte (n : Nat) : lineFeed = UInt8.ofNat n ↔ n % 256 = 10 := by
    rw [← UInt8.toNat_inj, UInt8.toNat_ofNat']
    exact eq_comm
  have newline : char = '\n' ↔ char.val.toNat = 10 := by
    rw [← Char.val_inj, ← UInt32.toNat_inj]
    rfl
  rw [newline]
  -- The bytes of a longer character are 128 and more.
  fun_cases String.utf8EncodeChar char <;>
    simp only [List.mem_cons, List.not_mem_nil, or_false, byte] <;> omega

theorem lineFeed_mem_octets {text : List Char} : lineFeed ∈ octets text ↔ '\n' ∈ text := by
  simp [octets, List.mem_flatMap, lineFeed_mem_encoded]

theorem frame_octets (text : List Char) :
    frame (octets text).reverse = .line (String.ofList text) := by
  have read : String.fromUTF8? text.utf8Encode = some (String.ofList text) := by
    rw [String.fromUTF8?, dif_pos ByteArray.isValidUTF8_utf8Encode]
    rfl
  rw [frame, List.reverse_reverse, toByteArray_octets, read]

/-- What is no text is broken, and what is text is read as it is. -/
theorem frame_cases (bytes : List UInt8) :
    (∃ text, octets text = bytes ∧ frame bytes.reverse = .line (String.ofList text)) ∨
      (∀ text, octets text ≠ bytes) ∧ frame bytes.reverse = .broken := by
  by_cases encoded : ∃ text, octets text = bytes
  · obtain ⟨text, rfl⟩ := encoded
    exact .inl ⟨text, rfl, frame_octets text⟩
  · refine .inr ⟨not_exists.mp encoded, ?_⟩
    have invalid : ¬ ByteArray.IsValidUTF8 ⟨bytes.toArray⟩ := by
      rintro ⟨text, same⟩
      refine encoded ⟨text, ?_⟩
      rw [← toByteArray_octets] at same
      simpa using (congrArg (·.data.toList) same).symm
    rw [frame, List.reverse_reverse, String.fromUTF8?, dif_neg invalid]

/-- The first bytes of a text are no text exactly if they end inside a character. -/
theorem frame_broken_iff {text : List Char} {bytes : List UInt8} (early : bytes <+: octets text) :
    frame bytes.reverse = .broken ↔
      ∀ front, front <+: text → (octets front).length ≠ bytes.length := by
  rcases frame_cases bytes with ⟨front, rfl, read⟩ | ⟨none, broken⟩
  · rw [read]
    refine iff_of_false (by rintro ⟨⟩) fun apart => ?_
    exact apart front (prefix_of_octets early) rfl
  · refine iff_of_true broken fun front first same => none front ?_
    have both : octets front <+: octets text := by
      obtain ⟨rest, rfl⟩ := first
      rw [octets_append]
      exact List.prefix_append _ _
    rw [List.prefix_iff_eq_take.mp both, List.prefix_iff_eq_take.mp early, same]

end LineState

end LiveList
