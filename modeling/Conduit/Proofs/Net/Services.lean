import Conduit.Net.TransportError
import Conduit.Proofs.Text.Numerals
import Mathlib.Data.List.Forall2
set_option autoImplicit false

namespace Conduit.Net

open Text (Unsigned unsigned?_eq_some_iff)

theorem isLower_iff_toNat {c : Char} : c.isLower = true ↔ 97 ≤ c.toNat ∧ c.toNat ≤ 122 := by
  show (decide (c.val ≥ 'a'.val) && decide (c.val ≤ 'z'.val)) = true ↔ _
  rw [Bool.and_eq_true, decide_eq_true_eq, decide_eq_true_eq]
  exact Iff.rfl

theorem isUpper_iff_toNat {c : Char} : c.isUpper = true ↔ 65 ≤ c.toNat ∧ c.toNat ≤ 90 := by
  show decide (c.val ≥ 'A'.val ∧ c.val ≤ 'Z'.val) = true ↔ _
  rw [decide_eq_true_eq]
  exact Iff.rfl

theorem isAlpha_iff {c : Char} : c.isAlpha = true ↔ c.isUpper = true ∨ c.isLower = true := by
  show (c.isUpper || c.isLower) = true ↔ _
  rw [Bool.or_eq_true]

theorem toNat_toLower (c : Char) :
    c.toLower.toNat = if 65 ≤ c.toNat ∧ c.toNat ≤ 90 then c.toNat + 32 else c.toNat := by
  have bounds : c.val ≥ 'A'.val ∧ c.val ≤ 'Z'.val ↔ 65 ≤ c.toNat ∧ c.toNat ≤ 90 := Iff.rfl
  split
  next capital =>
    have lowered : c.toLower = _ := dif_pos (bounds.mpr capital)
    have shifted : (c.toNat + 32) % 2 ^ 32 = c.toNat + 32 := by omega
    rw [lowered, ← shifted]
    exact UInt32.toNat_add c.val 32
  next other => exact congrArg Char.toNat (dif_neg (mt bounds.mp other))

theorem toNat_toUpper (c : Char) :
    c.toUpper.toNat = if 97 ≤ c.toNat ∧ c.toNat ≤ 122 then c.toNat - 32 else c.toNat := by
  have bounds : 'a'.val ≤ c.val ∧ c.val ≤ 'z'.val ↔ 97 ≤ c.toNat ∧ c.toNat ≤ 122 := Iff.rfl
  split
  next small =>
    have raised : c.toUpper = _ := dif_pos (bounds.mpr small)
    -- Going back by 32 is going on by all but 32 of the whole range.
    have shifted : (c.toNat + 4294967264) % 2 ^ 32 = c.toNat - 32 := by omega
    rw [raised, ← shifted]
    exact UInt32.toNat_add c.val 4294967264
  next other => exact congrArg Char.toNat (dif_neg (mt bounds.mp other))

def EitherCase (c letter : Char) : Prop := c = letter ∨ c = letter.toUpper

theorem toLower_eq_iff {c letter : Char} (lower : letter.isLower = true) :
    c.toLower = letter ↔ EitherCase c letter := by
  have bounds := isLower_iff_toNat.mp lower
  rw [EitherCase, ← Char.toNat_inj, ← Char.toNat_inj, ← Char.toNat_inj, toNat_toLower, toNat_toUpper,
    if_pos bounds]
  split <;> omega

theorem EitherCase.isAlpha {c letter : Char} (same : EitherCase c letter)
    (lower : letter.isLower = true) : c.isAlpha = true := by
  have bounds := isLower_iff_toNat.mp lower
  rw [isAlpha_iff, isUpper_iff_toNat, isLower_iff_toNat]
  rcases same with rfl | rfl
  next => exact .inr bounds
  next =>
    rw [toNat_toUpper, if_pos bounds]
    omega

theorem map_toLower_eq_iff {characters letters : List Char} (lower : ∀ c ∈ letters, c.isLower = true) :
    characters.map Char.toLower = letters ↔ List.Forall₂ EitherCase characters letters := by
  induction letters generalizing characters with
  | nil => rw [List.map_eq_nil_iff, List.forall₂_nil_right_iff]
  | cons letter letters ih =>
    cases characters with
    | nil => simp
    | cons c characters =>
      rw [List.map_cons, List.cons_eq_cons, List.forall₂_cons, toLower_eq_iff (lower _ List.mem_cons_self),
        ih fun c among => lower c (List.mem_cons_of_mem _ among)]

inductive Assigned : String → UInt16 → Prop
  | ftp : Assigned "ftp" 21
  | ssh : Assigned "ssh" 22
  | telnet : Assigned "telnet" 23
  | smtp : Assigned "smtp" 25
  | domain : Assigned "domain" 53
  | http : Assigned "http" 80
  | https : Assigned "https" 443

theorem Assigned.letters {name : String} {port : UInt16} (assigned : Assigned name port) :
    name.toList ≠ [] ∧ ∀ c ∈ name.toList, c.isLower = true := by
  cases assigned <;> exact ⟨by decide, List.all_eq_true.mp (by decide)⟩

theorem lookup_wellKnownServices {name : String} {port : UInt16} :
    wellKnownServices.lookup name = some port ↔ Assigned name port := by
  constructor
  next =>
    intro found
    obtain ⟨front, back, split, -⟩ := List.lookup_eq_some_iff.mp found
    have listed : (name, port) ∈ wellKnownServices := by simp [split]
    simp only [wellKnownServices, List.mem_cons, List.not_mem_nil, or_false, Prod.mk.injEq] at listed
    rcases listed with ⟨rfl, rfl⟩ | ⟨rfl, rfl⟩ | ⟨rfl, rfl⟩ | ⟨rfl, rfl⟩ | ⟨rfl, rfl⟩ | ⟨rfl, rfl⟩ |
      ⟨rfl, rfl⟩ <;> constructor
  next =>
    intro assigned
    cases assigned <;> rfl

def Named (service : String) (port : UInt16) : Prop :=
  ∃ name, Assigned name port ∧ List.Forall₂ EitherCase service.toList name.toList

theorem lookup_toLower {service : String} {port : UInt16} :
    wellKnownServices.lookup service.toLower = some port ↔ Named service port := by
  have spelled (name : String) (assigned : Assigned name port) :
      service.toLower = name ↔ List.Forall₂ EitherCase service.toList name.toList := by
    have characters : service.toLower.toList = service.toList.map Char.toLower := String.toList_map
    rw [← String.toList_inj, characters, map_toLower_eq_iff assigned.letters.2]
  rw [lookup_wellKnownServices]
  constructor
  next =>
    intro assigned
    exact ⟨_, assigned, (spelled _ assigned).mp rfl⟩
  next =>
    rintro ⟨name, assigned, same⟩
    rwa [(spelled name assigned).mpr same]

theorem Named.letters {service : String} {port : UInt16} (named : Named service port) :
    service.toList ≠ [] ∧ ∀ c ∈ service.toList, c.isAlpha = true := by
  obtain ⟨name, assigned, same⟩ := named
  obtain ⟨some_letter, lower⟩ := assigned.letters
  generalize service.toList = characters at same
  generalize name.toList = letters at same some_letter lower
  constructor
  next =>
    rintro rfl
    exact some_letter (List.forall₂_nil_left_iff.mp same)
  next =>
    clear some_letter
    induction same with
    | nil => nofun
    | cons either _ ih =>
      refine List.forall_mem_cons.mpr ⟨either.isAlpha (lower _ List.mem_cons_self), ?_⟩
      exact ih fun c among => lower c (List.mem_cons_of_mem _ among)

theorem isDigit_of_isAlpha {c : Char} (letter : c.isAlpha = true) : c.isDigit = false := by
  rw [Bool.eq_false_iff, Ne, Char.isDigit_iff_toNat]
  rw [isAlpha_iff, isUpper_iff_toNat, isLower_iff_toNat] at letter
  have : '9'.toNat = 57 := rfl
  omega

theorem not_named_of_unsigned {service : String} {n : Nat} {port : UInt16} (number : Unsigned service n) :
    ¬Named service port := by
  intro named
  obtain ⟨c, among, digit⟩ := number.characters.1
  rw [isDigit_of_isAlpha (named.letters.2 c among)] at digit
  cases digit

theorem servicePort?_eq_some_iff {service : String} {port : UInt16} :
    servicePort? service = some port ↔ Unsigned service port.toNat ∨ Named service port := by
  have fits : port.toNat < 65536 := port.toNat_lt
  unfold servicePort?
  split
  next n read =>
    obtain ⟨number, below⟩ := unsigned?_eq_some_iff.mp read
    have unnamed : ¬Named service port := not_named_of_unsigned number
    rw [Option.some_inj, or_iff_left unnamed]
    constructor
    next =>
      rintro rfl
      rwa [UInt16.toNat_ofNat_of_lt' below]
    next =>
      intro also
      have same := read.symm.trans (unsigned?_eq_some_iff.mpr ⟨also, fits⟩)
      rw [Option.some_inj.mp same, UInt16.ofNat_toNat]
  next unread =>
    have unsigned : ¬Unsigned service port.toNat := by
      intro number
      rw [unsigned?_eq_some_iff.mpr ⟨number, fits⟩] at unread
      cases unread
    rw [lookup_toLower, or_iff_right unsigned]

def Denotes (service : String) (port : UInt16) : Prop :=
  Unsigned service port.toNat ∨ Named service port

theorem Denotes.characters {service : String} {port : UInt16} (denotes : Denotes service port) :
    (∃ c ∈ service.toList, c.isAlphanum = true) ∧ ∀ c ∈ service.toList, c = '+' ∨ c.isAlphanum = true := by
  have either (c : Char) : c.isAlphanum = true ↔ c.isAlpha = true ∨ c.isDigit = true := by
    rw [Char.isAlphanum, Bool.or_eq_true]
  simp only [either]
  rcases denotes with number | named
  next =>
    obtain ⟨⟨c, among, digit⟩, all⟩ := number.characters
    exact ⟨⟨c, among, .inr digit⟩, fun c among => (all c among).imp_right .inr⟩
  next =>
    obtain ⟨some_letter, all⟩ := named.letters
    obtain ⟨c, among⟩ := List.exists_mem_of_ne_nil _ some_letter
    exact ⟨⟨c, among, .inl (all c among)⟩, fun c among => .inr (.inl (all c among))⟩

theorem servicePort_eq_ok_iff {service : String} {port : UInt16} :
    servicePort service = .ok port ↔ Denotes service port := by
  rw [Denotes, ← servicePort?_eq_some_iff]
  unfold servicePort
  split
  next found => simp [found]
  next none => simp [none]

theorem servicePort_eq_error_iff {service : String} {error : TransportError} :
    servicePort service = .error error ↔
      error = .unknownService service ∧ ∀ port, ¬Denotes service port := by
  simp only [Denotes, ← servicePort?_eq_some_iff, ← Option.eq_none_iff_forall_ne_some]
  unfold servicePort
  split
  next port found => simp [found]
  next none => simp [none, eq_comm]

/-- What each text is as a service. -/
structure ServiceGrammar (service : String) : Prop where
  ok_iff (port : UInt16) : servicePort service = .ok port ↔
    Unsigned service port.toNat ∨ Named service port
  error_iff (error : TransportError) : servicePort service = .error error ↔
    error = .unknownService service ∧ ∀ port, ¬(Unsigned service port.toNat ∨ Named service port)
  apart (n : Nat) (port : UInt16) : Unsigned service n → ¬Named service port
  too_large (n : Nat) : Unsigned service n → 65535 < n →
    servicePort service = .error (.unknownService service)
  foreign (c : Char) : c ∈ service.toList → c ≠ '+' → c.isAlphanum = false →
    servicePort service = .error (.unknownService service)
  bare : (∀ c ∈ service.toList, c = '+') → servicePort service = .error (.unknownService service)

theorem servicePort_grammar (service : String) : ServiceGrammar service := by
  have unknown (undenoted : ∀ port, ¬Denotes service port) :
      servicePort service = .error (.unknownService service) :=
    servicePort_eq_error_iff.mpr ⟨rfl, undenoted⟩
  constructor
  case ok_iff => exact fun port => servicePort_eq_ok_iff
  case error_iff => exact fun error => servicePort_eq_error_iff
  case apart => exact fun n port number => not_named_of_unsigned number
  case too_large =>
    intro n number large
    refine unknown fun port => ?_
    rintro (small | named)
    next =>
      have fits : port.toNat < 65536 := port.toNat_lt
      have same := number.unique small
      omega
    next => exact not_named_of_unsigned number named
  case foreign =>
    intro c among no_plus outside
    refine unknown fun port denotes => ?_
    rcases denotes.characters.2 c among with plus | inside
    next => exact no_plus plus
    next => cases outside.symm.trans inside
  case bare =>
    intro plain
    refine unknown fun port denotes => ?_
    obtain ⟨c, among, inside⟩ := denotes.characters.1
    rw [plain c among] at inside
    exact absurd inside (by decide)

-- Zeros in front count for nothing, and digits of other scripts are none.
theorem servicePort_borderline :
    servicePort "+00000065535" = .ok 65535 ∧ servicePort "hTTpS" = .ok 443 ∧
      servicePort "00000065536" = .error (.unknownService "00000065536") ∧
      servicePort "８０" = .error (.unknownService "８０") ∧
      servicePort "+" = .error (.unknownService "+") := by
  have largest : Unsigned "+00000065535" 65535 :=
    ⟨"00000065535".toList, .inr rfl, by decide, List.all_eq_true.mp (by decide), by decide⟩
  have beyond : Unsigned "00000065536" 65536 :=
    ⟨"00000065536".toList, .inl rfl, by decide, List.all_eq_true.mp (by decide), by decide⟩
  have secure : Named "hTTpS" 443 := lookup_toLower.mp (by decide +kernel)
  have sign : ∀ c ∈ "+".toList, c = '+' := fun c among => List.mem_singleton.mp among
  exact ⟨((servicePort_grammar _).ok_iff _).mpr (.inl largest),
    ((servicePort_grammar _).ok_iff _).mpr (.inr secure),
    (servicePort_grammar _).too_large _ beyond (by decide),
    (servicePort_grammar _).foreign '８' (by decide) (by decide) (by decide),
    (servicePort_grammar _).bare sign⟩

end Conduit.Net
