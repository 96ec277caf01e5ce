import Conduit.Proofs.Net.AddressText
set_option autoImplicit false

namespace Conduit.Net

namespace Ipv4

theorem toNat_number (ip : Ipv4) :
    ip.number.toNat = ((ip.a.toNat * 256 + ip.b.toNat) * 256 + ip.c.toNat) * 256 + ip.d.toNat := by
  have a : ip.a.toNat < 256 := ip.a.toNat_lt
  have b : ip.b.toNat < 256 := ip.b.toNat_lt
  have c : ip.c.toNat < 256 := ip.c.toNat_lt
  have d : ip.d.toNat < 256 := ip.d.toNat_lt
  rw [number, UInt32.toNat_ofNat']
  omega

theorem number_ofNumber (n : UInt32) : (ofNumber n).number = n := by
  have below : n.toNat < 4294967296 := n.toNat_lt
  apply UInt32.toNat_inj.mp
  rw [toNat_number]
  simp only [ofNumber, UInt8.toNat_ofNat']
  omega

theorem ofNumber_number (ip : Ipv4) : ofNumber ip.number = ip := by
  obtain ⟨a, b, c, d⟩ := ip
  have byte_a : a.toNat < 256 := a.toNat_lt
  have byte_b : b.toNat < 256 := b.toNat_lt
  have byte_c : c.toNat < 256 := c.toNat_lt
  have byte_d : d.toNat < 256 := d.toNat_lt
  rw [ofNumber, toNat_number, Ipv4.mk.injEq]
  refine ⟨?_, ?_, ?_, ?_⟩
  all_goals
    apply UInt8.toNat_inj.mp
    rw [UInt8.toNat_ofNat']
    dsimp only
    omega

theorem text_ofNumber (n : UInt32) :
    (ofNumber n).text =
      ".".intercalate ([3, 2, 1, 0].map fun place => toString (n.toNat / 256 ^ place % 256)) := by
  have byte (m : Nat) : Text.digitsText 10 (UInt8.ofNat m).toNat = toString (m % 256) := by
    rw [UInt8.toNat_ofNat', Text.digitsText, Nat.toString_eq_ofList_toDigits]
  simp only [text, ofNumber, List.map_cons, List.map_nil, byte, Nat.reducePow, Nat.div_one]

end Ipv4

theorem Ipv6.number_inj {a b : Ipv6} : a.number = b.number ↔ a = b := by
  have folded {xs ys : List UInt16} (same_length : xs.length = ys.length) (m n : Nat)
      (same : xs.foldl (fun value group => value * 65536 + group.toNat) m =
        ys.foldl (fun value group => value * 65536 + group.toNat) n) : m = n ∧ xs = ys := by
    induction xs generalizing ys m n with
    | nil =>
      cases ys with
      | nil => exact ⟨same, rfl⟩
      | cons y ys => cases same_length
    | cons x xs ih =>
      cases ys with
      | nil => cases same_length
      | cons y ys =>
        obtain ⟨before, rfl⟩ := ih (Nat.succ.inj same_length) _ _ same
        dsimp only at before
        have low_x : x.toNat < 65536 := x.toNat_lt
        have low_y : y.toNat < 65536 := y.toNat_lt
        have first : x = y := UInt16.toNat_inj.mp (by omega)
        exact ⟨by omega, by rw [first]⟩
  constructor
  next =>
    intro same
    obtain ⟨groups, complete⟩ := a
    obtain ⟨others, also_complete⟩ := b
    obtain ⟨-, rfl⟩ := folded (complete.trans also_complete.symm) 0 0 same
    rfl
  next => exact congrArg Ipv6.number

namespace Address

def key (address : Address) : List Nat :=
  match address.host with
  | .v4 ip => [4, ip.number.toNat, address.port.toNat, 0]
  | .v6 ip scope => [6, ip.number, address.port.toNat, scope.toNat]

theorem key_inj {a b : Address} : a.key = b.key ↔ a = b := by
  refine ⟨fun same => ?_, congrArg key⟩
  obtain ⟨host, m⟩ := a
  obtain ⟨other, n⟩ := b
  cases host with
  | v4 a =>
    cases other with
    | v4 b =>
      simp only [key, List.cons.injEq, UInt32.toNat_inj, UInt16.toNat_inj, true_and, and_true] at same
      rw [← a.ofNumber_number, ← b.ofNumber_number, same.1, same.2]
    | v6 b scope => cases same
  | v6 a scope =>
    cases other with
    | v4 b => cases same
    | v6 b scope' =>
      simp only [key, List.cons.injEq, Ipv6.number_inj, UInt32.toNat_inj, UInt16.toNat_inj, true_and,
        and_true] at same
      rw [same.1, same.2.1, same.2.2]

theorem compare_toNat (m n : UInt32) : Ord.compare m n = Ord.compare m.toNat n.toNat := by
  simp only [Ord.compare, compareOfLessAndEq, UInt32.lt_iff_toNat_lt, ← UInt32.toNat_inj]

theorem compare_port_toNat (m n : UInt16) : Ord.compare m n = Ord.compare m.toNat n.toNat := by
  simp only [Ord.compare, compareOfLessAndEq, UInt16.lt_iff_toNat_lt, ← UInt16.toNat_inj]

theorem compare_eq_key (a b : Address) : a.compare b = Ord.compare a.key b.key := by
  obtain ⟨host, m⟩ := a
  obtain ⟨other, n⟩ := b
  cases host <;> cases other <;>
    simp only [Address.compare, key, List.compare_cons_cons, compare_toNat, compare_port_toNat,
      Ordering.then_assoc]
  case v4.v4 => simp
  case v4.v6 => rfl
  case v6.v4 => rfl
  case v6.v6 => simp

instance : Std.TransCmp Address.compare where
  eq_swap {a b} := by
    rw [compare_eq_key, compare_eq_key b a]
    exact Std.OrientedOrd.eq_swap
  isLE_trans {a b c} first second := by
    rw [compare_eq_key] at *
    exact Std.TransOrd.isLE_trans first second

instance : Std.LawfulEqCmp Address.compare where
  compare_self {a} := by
    rw [compare_eq_key]
    exact Std.ReflOrd.compare_self
  eq_of_compare {a b} same := by
    rw [compare_eq_key] at same
    exact key_inj.mp (Std.LawfulEqOrd.eq_of_compare same)

theorem compare_eq_iff {a b : Address} : a.compare b = .eq ↔ a = b :=
  ⟨Std.LawfulEqCmp.eq_of_compare, fun same => same ▸ Std.ReflCmp.compare_self⟩

def Ascending (addresses : List Address) : Prop :=
  addresses.Pairwise fun a b => (a.compare b).isLE = true

theorem sort_ascending (addresses : List Address) : Ascending (sort addresses) := by
  refine List.pairwise_mergeSort (fun a b c => Std.TransCmp.isLE_trans) (fun a b => ?_) addresses
  have swapped : b.compare a = (a.compare b).swap := Std.OrientedCmp.eq_swap
  rw [swapped]
  cases a.compare b <;> rfl

theorem Ascending.eq_of_perm {xs ys : List Address} (first : Ascending xs) (second : Ascending ys)
    (perm : xs.Perm ys) : xs = ys := by
  refine perm.eq_of_pairwise (fun a b _ _ before after => ?_) first second
  have equal : a.compare b = .eq := Std.OrientedCmp.isLE_antisymm before after
  exact compare_eq_iff.mp equal

theorem eq_sort_iff {sorted addresses : List Address} :
    sorted = sort addresses ↔ sorted.Perm addresses ∧ Ascending sorted := by
  have same := List.mergeSort_perm addresses fun a b => (a.compare b).isLE
  constructor
  next =>
    rintro rfl
    exact ⟨same, sort_ascending addresses⟩
  next =>
    rintro ⟨perm, ascending⟩
    exact ascending.eq_of_perm (sort_ascending addresses) (perm.trans same.symm)

theorem ipv4Number_eq_ok_iff {address : Address} {n : UInt32} :
    address.ipv4Number = .ok n ↔ address.host = .v4 (.ofNumber n) := by
  obtain ⟨host, port⟩ := address
  cases host with
  | v4 ip =>
    have inverse : ip.number = n ↔ ip = .ofNumber n :=
      ⟨fun same => same ▸ ip.ofNumber_number.symm, fun same => same ▸ Ipv4.number_ofNumber n⟩
    simpa [ipv4Number, ipv4Number?] using inverse
  | v6 ip scope => simp [ipv4Number, ipv4Number?]

theorem ipv4Number_eq_error_iff {address : Address} {error : TransportError} :
    address.ipv4Number = .error error ↔
      error = .notIpv4 address ∧ ∃ ip scope, address.host = .v6 ip scope := by
  obtain ⟨host, port⟩ := address
  cases host <;> simp [ipv4Number, ipv4Number?, eq_comm]

theorem compare_of_versions {a b : Address} (four : a.isV4 = true) (six : b.isV4 = false) :
    a.compare b = .lt := by
  obtain ⟨host, m⟩ := a
  obtain ⟨other, n⟩ := b
  cases host with
  | v4 a =>
    cases other with
    | v4 b => cases six
    | v6 b scope => rfl
  | v6 a scope => cases four

theorem compare_of_numbers {a b : Address} {m n : UInt32} (first : a.ipv4Number = .ok m)
    (second : b.ipv4Number = .ok n) :
    a.compare b = .lt ↔ m < n ∨ m = n ∧ a.port < b.port := by
  rw [Address.compare, ipv4Number_eq_ok_iff.mp first, ipv4Number_eq_ok_iff.mp second]
  dsimp only
  rw [Ipv4.number_ofNumber, Ipv4.number_ofNumber, Ordering.then_eq_lt, compare_toNat, compare_port_toNat,
    Nat.compare_eq_lt, Nat.compare_eq_eq, Nat.compare_eq_lt, UInt32.lt_iff_toNat_lt,
    UInt16.lt_iff_toNat_lt, UInt32.toNat_inj]

/-- How numbers, texts and the order of endpoints go together. -/
structure NumericOrder : Prop where
  unnumbered_port (n : UInt32) : (ofIpv4Number n).port = 0
  number (n : UInt32) : (ofIpv4Number n).ipv4Number = .ok n
  bytes (n : UInt32) : (ofIpv4Number n).ipText =
    ".".intercalate ([3, 2, 1, 0].map fun place => toString (n.toNat / 256 ^ place % 256))
  reread (n : UInt32) (port : UInt16) : ∃ address,
    Address.parse (ofIpv4Number n).ipText port = .ok address ∧ address.ipv4Number = .ok n
  onto (address : Address) (n : UInt32) : address.ipv4Number = .ok n →
    address.host = (ofIpv4Number n).host
  monotone (m n : UInt32) : (ofIpv4Number m).compare (ofIpv4Number n) = .lt ↔ m < n
  refused_iff (address : Address) (error : TransportError) : address.ipv4Number = .error error ↔
    error = .notIpv4 address ∧ ∃ ip scope, address.host = .v6 ip scope
  swap (a b : Address) : a.compare b = (b.compare a).swap
  equal_iff (a b : Address) : a.compare b = .eq ↔ a = b
  transitive (a b c : Address) : (a.compare b).isLE = true → (b.compare c).isLE = true →
    (a.compare c).isLE = true
  versions (a b : Address) : a.isV4 = true → b.isV4 = false → a.compare b = .lt
  lexicographic (a b : Address) (m n : UInt32) : a.ipv4Number = .ok m → b.ipv4Number = .ok n →
    (a.compare b = .lt ↔ m < n ∨ m = n ∧ a.port < b.port)
  sorted_iff (sorted addresses : List Address) : sorted = sort addresses ↔
    sorted.Perm addresses ∧ Ascending sorted
  permuted (xs ys : List Address) : xs.Perm ys → sort xs = sort ys

theorem numeric_order : NumericOrder := by
  have number (n : UInt32) : (ofIpv4Number n).ipv4Number = .ok n := ipv4Number_eq_ok_iff.mpr rfl
  constructor
  case unnumbered_port => exact fun n => rfl
  case number => exact number
  case bytes => exact Ipv4.text_ofNumber
  case reread =>
    intro n port
    let address : Address := ⟨(ofIpv4Number n).host, port⟩
    have plain : address.host.Plain := trivial
    have read : Address.parse address.ipText address.port = .ok address := parse_ipText plain
    exact ⟨address, read, ipv4Number_eq_ok_iff.mpr rfl⟩
  case onto => exact fun address n same => ipv4Number_eq_ok_iff.mp same
  case monotone =>
    intro m n
    rw [compare_of_numbers (number m) (number n), or_iff_left]
    exact fun same => absurd same.2 (UInt16.lt_irrefl 0)
  case refused_iff => exact fun address error => ipv4Number_eq_error_iff
  case swap => exact fun a b => Std.OrientedCmp.eq_swap
  case equal_iff => exact fun a b => compare_eq_iff
  case transitive => exact fun a b c => Std.TransCmp.isLE_trans
  case versions => exact fun a b => compare_of_versions
  case lexicographic => exact fun a b m n => compare_of_numbers
  case sorted_iff => exact fun sorted addresses => eq_sort_iff
  case permuted =>
    intro xs ys perm
    obtain ⟨same, ascending⟩ := eq_sort_iff.mp (rfl : sort xs = sort xs)
    exact eq_sort_iff.mpr ⟨same.trans perm, ascending⟩

-- The number that a mapped number of version 6 has inside is not its own.
theorem numeric_order_mapped :
    let plain : Address := ⟨.v4 ⟨1, 2, 3, 4⟩, 443⟩
    let mapped : Address := ⟨.v6 ⟨[0, 0, 0, 0, 0, 0xffff, 0x0102, 0x0304], rfl⟩ 0, 80⟩
    plain.ipv4Number = .ok 0x01020304 ∧ (ofIpv4Number 0x01020304).ipText = "1.2.3.4" ∧
      mapped.ipv4Number = .error (.notIpv4 mapped) ∧ sort [mapped, plain] = sort [plain, mapped] := by
  refine ⟨by decide, (numeric_order.bytes _).trans (by decide), ?_, ?_⟩
  next => exact (numeric_order.refused_iff _ _).mpr ⟨rfl, _, _, rfl⟩
  next => exact numeric_order.permuted _ _ (.swap _ _ _)

end Address

end Conduit.Net
