set_option autoImplicit false

namespace Conduit.Text

theorem toList_loop (bytes : ByteArray) (index : Nat) (found : List UInt8) :
    ByteArray.toList.loop bytes index found = found.reverse ++ bytes.data.toList.drop index := by
  fun_induction ByteArray.toList.loop bytes index found with
  | case1 index found inside ih =>
    have here : bytes.get! index = bytes.data.toList[index] := getElem!_pos bytes.data index inside
    rw [ih, here, List.reverse_cons, List.append_assoc, List.singleton_append, List.drop_eq_getElem_cons inside]
  | case2 index found outside =>
    have beyond : bytes.data.toList.length ≤ index := Nat.not_lt.mp outside
    rw [List.drop_eq_nil_of_le beyond, List.append_nil]

theorem toUTF8_toList (text : String) :
    text.toUTF8.toList = text.toList.flatMap String.utf8EncodeChar := by
  have data : text.toUTF8.data.toList = text.toList.flatMap String.utf8EncodeChar := by
    rw [String.toUTF8, ← String.utf8Encode_toList, List.utf8Encode, List.data_toByteArray]
  rw [ByteArray.toList, toList_loop, data]
  rfl

theorem utf8EncodeChar_low_or_high (c : Char) :
    (c.toNat < 128 ∧ String.utf8EncodeChar c = [UInt8.ofNat c.toNat]) ∨
      (128 ≤ c.toNat ∧ ∀ byte ∈ String.utf8EncodeChar c, 128 ≤ byte.toNat) := by
  have high {n : Nat} (some : 128 ≤ n) (fits : n < 256) : 128 ≤ (UInt8.ofNat n).toNat := by
    rw [UInt8.toNat_ofNat_of_lt' fits]
    exact some
  unfold String.utf8EncodeChar
  show (c.toNat < 128 ∧ ite (c.toNat ≤ 127) _ _ = _) ∨ (128 ≤ c.toNat ∧ ∀ byte ∈ ite (c.toNat ≤ 127) _ _, _)
  split
  next one => exact .inl ⟨by omega, rfl⟩
  next more =>
    refine .inr ⟨by omega, ?_⟩
    split
    next =>
      simp only [List.forall_mem_cons]
      exact ⟨high (by omega) (by omega), high (by omega) (by omega), nofun⟩
    next =>
      split
      next =>
        simp only [List.forall_mem_cons]
        exact ⟨high (by omega) (by omega), high (by omega) (by omega), high (by omega) (by omega), nofun⟩
      next =>
        simp only [List.forall_mem_cons]
        exact ⟨high (by omega) (by omega), high (by omega) (by omega), high (by omega) (by omega),
          high (by omega) (by omega), nofun⟩

structure Spells (byte : UInt8) (c : Char) : Prop where
  low : byte.toNat < 128
  same : c.toNat = byte.toNat

namespace Spells

variable {byte : UInt8} {c : Char}

theorem mem_iff (spells : Spells byte c) {other : Char} :
    byte ∈ String.utf8EncodeChar other ↔ other = c := by
  have low := spells.low
  rw [← Char.toNat_inj, spells.same]
  rcases utf8EncodeChar_low_or_high other with ⟨one, encoded⟩ | ⟨more, high⟩
  next =>
    have small : (UInt8.ofNat other.toNat).toNat = other.toNat :=
      UInt8.toNat_ofNat_of_lt' (Nat.lt_trans one (by decide))
    rw [encoded, List.mem_singleton, ← UInt8.toNat_inj, small, eq_comm]
  next =>
    constructor
    next => exact fun among => absurd (high byte among) (by omega)
    next => omega

theorem encode_eq (spells : Spells byte c) : String.utf8EncodeChar c = [byte] := by
  have low := spells.low
  have same := spells.same
  rcases utf8EncodeChar_low_or_high c with ⟨-, one⟩ | ⟨more, -⟩
  next => rw [one, same, UInt8.ofNat_toNat]
  next => omega

theorem head?_iff (spells : Spells byte c) (text : List Char) :
    (text.flatMap String.utf8EncodeChar).head? = some byte ↔ text.head? = some c := by
  cases text with
  | nil => simp
  | cons other rest =>
    obtain ⟨lead, more, encoded⟩ := List.exists_cons_of_ne_nil (@String.utf8EncodeChar_ne_nil other)
    have head : ((other :: rest).flatMap String.utf8EncodeChar).head? =
        (String.utf8EncodeChar other).head? := by
      rw [List.flatMap_cons, encoded]
      rfl
    rw [head, List.head?_cons, Option.some_inj]
    constructor
    next => exact fun head => spells.mem_iff.mp (List.mem_of_mem_head? head)
    next =>
      rintro rfl
      rw [spells.encode_eq, List.head?_cons]

end Spells

end Conduit.Text
