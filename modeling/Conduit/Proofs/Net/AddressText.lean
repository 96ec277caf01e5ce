import Conduit.Net.TransportError
import Conduit.Proofs.Net.IpReading
set_option autoImplicit false

namespace Conduit.Net

open Text (isDigit isDigit_of_mem_toDigits digitsValue_toDigits)

theorem Ipv4.text_characters (ip : Ipv4) : ∀ c ∈ ip.text.toList, isDigit 10 c = true ∨ c = '.' := by
  obtain ⟨front, same, all⟩ := Ipv4.read_consumes ip.read_text
  rwa [same, List.append_nil]

theorem Ipv6.text_characters (ip : Ipv6) : ∀ c ∈ ip.text.toList, InIp c := by
  obtain ⟨front, same, all⟩ := Ipv6.read_consumes ip.layout_text.read
  rwa [same, List.append_nil]

theorem not_mem_toString {c : Char} (other : isDigit 10 c = false) (n : Nat) : c ∉ (toString n).toList := by
  intro among
  rw [Nat.toString_eq_ofList_toDigits, String.toList_ofList] at among
  cases other.symm.trans (isDigit_of_mem_toDigits (by decide) (by decide) among)

theorem toString_inj {m n : Nat} : (toString m).toList = (toString n).toList ↔ m = n := by
  constructor
  next =>
    intro same
    rw [Nat.toString_eq_ofList_toDigits, Nat.toString_eq_ofList_toDigits, String.toList_ofList,
      String.toList_ofList] at same
    have values := congrArg (Text.digitsValue 10) same
    rwa [digitsValue_toDigits (by decide) (by decide), digitsValue_toDigits (by decide) (by decide)] at values
  next => exact fun same => same ▸ rfl

theorem append_mark_inj {mark : Char} {a b x y : List Char} (first : mark ∉ a) (second : mark ∉ b) :
    a ++ mark :: x = b ++ mark :: y ↔ a = b ∧ x = y := by
  constructor
  next =>
    intro same
    induction a generalizing b with
    | nil =>
      cases b with
      | nil => exact ⟨rfl, (List.cons.inj same).2⟩
      | cons c b => exact absurd ((List.cons.inj same).1 ▸ List.mem_cons_self) second
    | cons c a ih =>
      cases b with
      | nil => exact absurd ((List.cons.inj same).1 ▸ List.mem_cons_self) first
      | cons d b =>
        obtain ⟨rfl, later⟩ := List.cons.inj same
        obtain ⟨rfl, rest⟩ := ih (mt (List.mem_cons_of_mem _) first) (mt (List.mem_cons_of_mem _) second) later
        exact ⟨rfl, rest⟩
  next =>
    rintro ⟨rfl, rfl⟩
    rfl

theorem Host.ipText_inj {a b : Host} (first : a.Plain) (second : b.Plain) :
    a.ipText = b.ipText ↔ a = b := by
  constructor
  next =>
    intro same
    have read := parse?_ipText first
    rw [same, parse?_ipText second] at read
    exact (Option.some_inj.mp read).symm
  next => exact congrArg Host.ipText

theorem Ipv4.text_inj {a b : Ipv4} : a.text.toList = b.text.toList ↔ a = b := by
  have same := @Host.ipText_inj (.v4 a) (.v4 b) trivial trivial
  rwa [Host.v4.injEq, ← String.toList_inj] at same

theorem Ipv6.text_inj {a b : Ipv6} : a.text.toList = b.text.toList ↔ a = b := by
  have same := @Host.ipText_inj (.v6 a 0) (.v6 b 0) rfl rfl
  rwa [Host.v6.injEq, and_iff_left rfl, ← String.toList_inj] at same

def zone (scope : UInt32) : List Char :=
  if scope = 0 then [] else '%' :: (toString scope.toNat).toList

theorem zone_inj {a b : Ipv6} {m n : UInt32} :
    a.text.toList ++ zone m = b.text.toList ++ zone n ↔ a = b ∧ m = n := by
  have clean (ip : Ipv6) : '%' ∉ ip.text.toList := fun among =>
    absurd (ip.text_characters _ among) (by decide)
  -- Only one of the two texts has a percent sign.
  have apart {a b : Ipv6} {more : List Char} : a.text.toList ≠ b.text.toList ++ '%' :: more := by
    intro same
    exact clean a (same ▸ List.mem_append_right _ List.mem_cons_self)
  unfold zone
  split
  next none =>
    split
    next no_other => rw [List.append_nil, List.append_nil, Ipv6.text_inj, none, no_other, and_iff_left rfl]
    next other =>
      rw [List.append_nil, none]
      exact ⟨fun same => absurd same apart, fun same => absurd same.2.symm other⟩
  next some =>
    split
    next no_other =>
      rw [List.append_nil, no_other]
      exact ⟨fun same => absurd same.symm apart, fun same => absurd same.2 some⟩
    next => rw [append_mark_inj (clean a) (clean b), Ipv6.text_inj, toString_inj, UInt32.toNat_inj]

theorem not_mem_zone {scope : UInt32} : ']' ∉ zone scope := by
  unfold zone
  split
  next => exact List.not_mem_nil
  next =>
    rw [List.mem_cons]
    rintro (percent | digit)
    next => cases percent
    next => exact not_mem_toString rfl scope.toNat digit

namespace Address

theorem text_v4 (ip : Ipv4) (port : UInt16) :
    (Address.mk (.v4 ip) port).text.toList = ip.text.toList ++ ':' :: (toString port.toNat).toList := by
  simp [text]

theorem text_v6 (ip : Ipv6) (scope : UInt32) (port : UInt16) :
    (Address.mk (.v6 ip scope) port).text.toList =
      '[' :: (ip.text.toList ++ zone scope) ++ ']' :: ':' :: (toString port.toNat).toList := by
  by_cases none : scope = 0 <;> simp [text, zone, none]

theorem text_v4_ne_v6 (a : Ipv4) (b : Ipv6) (scope : UInt32) (m n : UInt16) :
    (Address.mk (.v4 a) m).text ≠ (Address.mk (.v6 b scope) n).text := by
  intro same
  have bracket : '[' ∈ (Address.mk (.v4 a) m).text.toList := by
    rw [same, text_v6]
    exact List.mem_cons_self
  rw [text_v4, List.mem_append, List.mem_cons] at bracket
  rcases bracket with inside | colon | port
  next => exact absurd (a.text_characters _ inside) (by decide)
  next => cases colon
  next => exact not_mem_toString rfl m.toNat port

theorem text_inj {a b : Address} : a.text = b.text ↔ a = b := by
  refine ⟨fun same => ?_, congrArg text⟩
  obtain ⟨host, m⟩ := a
  obtain ⟨other, n⟩ := b
  cases host with
  | v4 a =>
    cases other with
    | v4 b =>
      have colon (ip : Ipv4) : ':' ∉ ip.text.toList := fun among =>
        absurd (ip.text_characters _ among) (by decide)
      rw [← String.toList_inj, text_v4, text_v4, append_mark_inj (colon a) (colon b), Ipv4.text_inj,
        toString_inj, UInt16.toNat_inj] at same
      rw [same.1, same.2]
    | v6 b scope => exact absurd same (text_v4_ne_v6 a b scope m n)
  | v6 a scope =>
    cases other with
    | v4 b => exact absurd same.symm (text_v4_ne_v6 b a scope n m)
    | v6 b scope' =>
      have bracket (ip : Ipv6) (scope : UInt32) : ']' ∉ '[' :: (ip.text.toList ++ zone scope) := by
        rw [List.mem_cons, List.mem_append]
        rintro (bracket | inside | scope)
        next => cases bracket
        next => exact absurd (ip.text_characters _ inside) (by decide)
        next => exact not_mem_zone scope
      rw [← String.toList_inj, text_v6, text_v6, append_mark_inj (bracket a scope) (bracket b scope'),
        List.cons_inj_right, List.cons_inj_right, zone_inj, toString_inj, UInt16.toNat_inj] at same
      obtain ⟨⟨rfl, rfl⟩, rfl⟩ := same
      rfl

theorem parse_eq_ok_iff {ip : String} {port : UInt16} {address : Address} :
    Address.parse ip port = .ok address ↔ Host.parse? ip = some address.host ∧ address.port = port := by
  unfold Address.parse ofText?
  cases Host.parse? ip with
  | none => simp
  | some host =>
    obtain ⟨other, port'⟩ := address
    simp [eq_comm]

theorem parse_ipText {address : Address} (plain : address.host.Plain) :
    Address.parse address.ipText address.port = .ok address :=
  parse_eq_ok_iff.mpr ⟨Host.parse?_ipText plain, rfl⟩

/-- What the texts of an endpoint tell. -/
structure Legible (address : Address) : Prop where
  readable_iff : (∃ ip port, Address.parse ip port = .ok address) ↔ address.host.Plain
  reread : address.host.Plain → Address.parse address.ipText address.port = .ok address
  canonical (ip other : String) (port port' : UInt16) (address' : Address) :
    Address.parse ip port = .ok address → Address.parse other port' = .ok address' →
      (address.ipText = address'.ipText ↔ address.host = address'.host)
  unique (address' : Address) : address.text = address'.text ↔ address = address'
  with_scope (ip : Ipv6) (scope : UInt32) : address.host = .v6 ip scope → scope ≠ 0 →
    address.text =
      "[" ++ ip.text ++ "%" ++ toString scope.toNat ++ "]:" ++ toString address.port.toNat

theorem text_legible (address : Address) : Legible address := by
  constructor
  case readable_iff =>
    constructor
    next =>
      rintro ⟨ip, port, read⟩
      exact Host.plain_of_parse? (parse_eq_ok_iff.mp read).1
    next => exact fun plain => ⟨_, _, parse_ipText plain⟩
  case reread => exact parse_ipText
  case canonical =>
    intro ip other port port' address' first second
    exact Host.ipText_inj (Host.plain_of_parse? (parse_eq_ok_iff.mp first).1)
      (Host.plain_of_parse? (parse_eq_ok_iff.mp second).1)
  case unique => exact fun address' => text_inj
  case with_scope =>
    rintro ip scope same some
    simp [text, same, some, String.append_assoc]

-- The first of two runs of equal length is left out, whichever of them the text that was read left out.
def tied : Address := ⟨.v6 ⟨[1, 0, 0, 2, 0, 0, 3, 4], rfl⟩ 0, 80⟩

theorem tied_legible :
    Address.parse "1:0:0:2::3:4" 80 = .ok tied ∧ tied.ipText = "1::2:0:0:3:4" ∧
      Address.parse "1::2:0:0:3:4" 80 = .ok tied := by
  have text : tied.ipText = "1::2:0:0:3:4" := by decide +kernel
  have reread := (text_legible tied).reread rfl
  rw [text] at reread
  exact ⟨by decide +kernel, text, reread⟩

end Address

end Conduit.Net
