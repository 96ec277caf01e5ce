import Conduit.Net.Address
import Conduit.Proofs.Text.Numerals
import Mathlib.Algebra.Ring.Nat
import Mathlib.Data.List.TakeWhile
set_option autoImplicit false

namespace Conduit.Net

open Text (isDigit isDigit_of_mem_toDigits digitsValue_toDigits head?_toDigits)

variable {base : Nat} {input rest : List Char}

def Consumes (kind : Char → Prop) (input rest : List Char) : Prop :=
  ∃ front, input = front ++ rest ∧ ∀ c ∈ front, kind c

def InIp (c : Char) : Prop := isDigit 16 c = true ∨ c = '.' ∨ c = ':'

instance (c : Char) : Decidable (InIp c) :=
  inferInstanceAs (Decidable (isDigit 16 c = true ∨ c = '.' ∨ c = ':'))

namespace Consumes

variable {kind other : Char → Prop} {middle : List Char}

theorem refl (input : List Char) : Consumes kind input input := ⟨[], rfl, nofun⟩

theorem trans (first : Consumes kind input middle) (second : Consumes kind middle rest) :
    Consumes kind input rest := by
  obtain ⟨front, rfl, all⟩ := first
  obtain ⟨back, rfl, others⟩ := second
  refine ⟨front ++ back, (List.append_assoc front back rest).symm, fun c among => ?_⟩
  exact (List.mem_append.mp among).elim (all c) (others c)

theorem mono (narrow : Consumes kind input rest) (wider : ∀ c, kind c → other c) :
    Consumes other input rest := by
  obtain ⟨front, same, all⟩ := narrow
  exact ⟨front, same, fun c among => wider c (all c among)⟩

end Consumes

theorem isDigit_mono {narrow : Nat} (le : narrow ≤ base) {c : Char} (digit : isDigit narrow c = true) :
    isDigit base c = true := by
  unfold isDigit Text.digitValue? at *
  cases value : Text.letterValue? c with
  | none => rw [value] at digit; cases digit
  | some n =>
    rw [value, Option.isSome_filter, Option.any_some, decide_eq_true_eq] at digit
    rw [Option.isSome_filter, Option.any_some, decide_eq_true_eq]
    exact Nat.lt_of_lt_of_le digit le

theorem eq_dropWhile_of_readNumber {places limit n : Nat} {zeros : Bool}
    (read : readNumber base places limit zeros input = some (n, rest)) :
    rest = input.dropWhile (isDigit base) := by
  unfold readNumber at read
  grind

theorem readNumber_consumes {places limit n : Nat} {zeros : Bool}
    (read : readNumber base places limit zeros input = some (n, rest)) :
    Consumes (isDigit base · = true) input rest := by
  refine ⟨input.takeWhile (isDigit base), ?_, fun c among => List.mem_takeWhile_imp among⟩
  rw [eq_dropWhile_of_readNumber read, List.takeWhile_append_dropWhile]

theorem afterSeparator_consumes {first : Bool} {separator : Char}
    (read : afterSeparator first separator input = some rest) :
    Consumes (· = separator) input rest := by
  unfold afterSeparator at read
  split at read
  next => exact Option.some_inj.mp read ▸ .refl input
  next =>
    split at read
    next c after =>
      split at read
      next same => exact ⟨[c], by rw [Option.some_inj.mp read]; rfl, by simp [same]⟩
      next => cases read
    next => cases read

namespace Ipv4

theorem readByte_consumes {first : Bool} {byte : UInt8} (read : readByte first input = some (byte, rest)) :
    Consumes (fun c => isDigit 10 c = true ∨ c = '.') input rest := by
  obtain ⟨middle, dot, number⟩ := Option.bind_eq_some_iff.mp read
  obtain ⟨⟨n, after⟩, number, same⟩ := Option.bind_eq_some_iff.mp number
  cases same
  exact ((afterSeparator_consumes dot).mono fun c => .inr).trans
    ((readNumber_consumes number).mono fun c => .inl)

theorem read_consumes {ip : Ipv4} (read : Ipv4.read input = some (ip, rest)) :
    Consumes (fun c => isDigit 10 c = true ∨ c = '.') input rest := by
  obtain ⟨⟨a, input₁⟩, first, read⟩ := Option.bind_eq_some_iff.mp read
  obtain ⟨⟨b, input₂⟩, second, read⟩ := Option.bind_eq_some_iff.mp read
  obtain ⟨⟨c, input₃⟩, third, read⟩ := Option.bind_eq_some_iff.mp read
  obtain ⟨⟨d, input₄⟩, fourth, read⟩ := Option.bind_eq_some_iff.mp read
  cases read
  exact (((readByte_consumes first).trans (readByte_consumes second)).trans
    (readByte_consumes third)).trans (readByte_consumes fourth)

theorem read_inIp {ip : Ipv4} (read : Ipv4.read input = some (ip, rest)) : Consumes InIp input rest := by
  refine (read_consumes read).mono ?_
  rintro c (digit | dot)
  next => exact .inl (isDigit_mono (by decide) digit)
  next => exact .inr (.inl dot)

end Ipv4

namespace Ipv6

theorem readGroup_consumes {group : UInt16} (read : readGroup input = some (group, rest)) :
    Consumes InIp input rest := by
  obtain ⟨⟨n, after⟩, number, same⟩ := Option.bind_eq_some_iff.mp read
  cases same
  exact (readNumber_consumes number).mono fun c => .inl

theorem readGroups_consumes (room : Nat) (first : Bool) (input : List Char) :
    Consumes InIp input (readGroups room first input).2.2 := by
  induction room generalizing first input with
  | zero => exact .refl input
  | succ room ih =>
    have colon {after : List Char} (separated : afterSeparator first ':' input = some after) :
        Consumes InIp input after :=
      (afterSeparator_consumes separated).mono fun c same => .inr (.inr same)
    rw [readGroups]
    split
    next ip rest dotted =>
      split at dotted
      next =>
        obtain ⟨after, separated, read⟩ := Option.bind_eq_some_iff.mp dotted
        exact (colon separated).trans (Ipv4.read_inIp read)
      next => cases dotted
    next =>
      split
      next group rest found =>
        obtain ⟨after, separated, read⟩ := Option.bind_eq_some_iff.mp found
        exact ((colon separated).trans (readGroup_consumes read)).trans (ih false rest)
      next => exact .refl input

theorem read_consumes {ip : Ipv6} (read : Ipv6.read input = some (ip, rest)) :
    Consumes InIp input rest := by
  have front := readGroups_consumes 8 true input
  unfold Ipv6.read at read
  generalize readGroups 8 true input = groups at front read
  obtain ⟨groups, dotted, after⟩ := groups
  dsimp only at front read
  split at read
  next => cases read; exact front
  next =>
    split at read
    next after =>
      have colons : Consumes InIp (':' :: ':' :: after) after := ⟨[':', ':'], rfl, by simp [InIp]⟩
      have back := readGroups_consumes (7 - groups.length) true after
      obtain ⟨whole, -, same⟩ := Option.map_eq_some_iff.mp read
      cases same
      exact (front.trans colons).trans back
    next => cases read

end Ipv6

namespace Host

theorem parse?_eq_some_iff {text : String} {host : Host} :
    parse? text = some host ↔
      (∃ ip, host = v4 ip ∧ Ipv4.read text.toList = some (ip, [])) ∨
      (∃ ip, host = v6 ip 0 ∧ Ipv4.read text.toList = none ∧ Ipv6.read text.toList = some (ip, [])) := by
  unfold parse?
  dsimp only
  cases Ipv4.read text.toList with
  | some four =>
    obtain ⟨ip, rest⟩ := four
    cases rest with
    | nil => simp [eq_comm]
    | cons c rest => simp
  | none =>
    cases Ipv6.read text.toList with
    | none => simp
    | some six =>
      obtain ⟨ip, rest⟩ := six
      cases rest with
      | nil => simp [eq_comm]
      | cons c rest => simp

theorem parse?_characters {text : String} {host : Host} (literal : parse? text = some host) :
    ∀ c ∈ text.toList, InIp c := by
  have consumed : Consumes InIp text.toList [] := by
    rcases parse?_eq_some_iff.mp literal with ⟨ip, -, read⟩ | ⟨ip, -, -, read⟩
    next => exact Ipv4.read_inIp read
    next => exact Ipv6.read_consumes read
  obtain ⟨front, same, all⟩ := consumed
  rwa [same, List.append_nil]

end Host

def Halts (base : Nat) (rest : List Char) : Prop := ∀ c, rest.head? = some c → isDigit base c = false

theorem takeWhile_of_halts (halts : Halts base rest) : rest.takeWhile (isDigit base) = [] := by
  cases rest with
  | nil => rfl
  | cons c rest => rw [List.takeWhile_cons, halts c rfl, if_neg Bool.false_ne_true]

theorem dropWhile_of_halts (halts : Halts base rest) : rest.dropWhile (isDigit base) = rest := by
  cases rest with
  | nil => rfl
  | cons c rest => rw [List.dropWhile_cons, halts c rfl, if_neg Bool.false_ne_true]

theorem readNumber_of_halts {places limit : Nat} {zeros : Bool} (halts : Halts base input) :
    readNumber base places limit zeros input = none := by
  unfold readNumber
  simp only [takeWhile_of_halts halts, List.isEmpty_nil, Bool.true_or, if_true]

theorem readNumber_toDigits {places limit n : Nat} {zeros : Bool} (lower : 1 < base) (upper : base ≤ 16)
    (some_place : 0 < places) (enough : n < base ^ places) (below : n < limit) (halts : Halts base rest) :
    readNumber base places limit zeros (Nat.toDigits base n ++ rest) = some (n, rest) := by
  have all : ∀ c ∈ Nat.toDigits base n, isDigit base c = true := fun c =>
    isDigit_of_mem_toDigits lower upper
  have few : ¬places < (Nat.toDigits base n).length :=
    Nat.not_lt.mpr ((Nat.length_toDigits_le_iff lower some_place).mpr enough)
  have no_zero : ¬(1 < (Nat.toDigits base n).length ∧ (Nat.toDigits base n).head? = some '0') := by
    rintro ⟨long, zero⟩
    cases n with
    | zero =>
      rw [Nat.toDigits_of_lt_base (Nat.zero_lt_of_lt lower)] at long
      exact absurd long (Nat.lt_irrefl 1)
    | succ n => exact head?_toDigits lower (Nat.succ_pos n) zero
  unfold readNumber
  simp only [List.takeWhile_append_of_pos all, takeWhile_of_halts halts, List.append_nil,
    List.dropWhile_append_of_pos all, dropWhile_of_halts halts, digitsValue_toDigits lower upper]
  rw [if_neg (by simp [few]), if_neg (by simpa using fun _ => not_and.mp no_zero),
    if_neg (Nat.not_le.mpr below)]

namespace Ipv4

theorem text_toList (ip : Ipv4) :
    ip.text.toList = Nat.toDigits 10 ip.a.toNat ++ '.' :: (Nat.toDigits 10 ip.b.toNat ++
      '.' :: (Nat.toDigits 10 ip.c.toNat ++ '.' :: Nat.toDigits 10 ip.d.toNat)) := by
  simp [text, Text.digitsText]

theorem readByte_toDigits {first : Bool} {byte : UInt8}
    (separated : afterSeparator first '.' input = some (Nat.toDigits 10 byte.toNat ++ rest))
    (halts : Halts 10 rest) : readByte first input = some (byte, rest) := by
  have below : byte.toNat < 256 := byte.toNat_lt
  have number : readNumber 10 3 256 false (Nat.toDigits 10 byte.toNat ++ rest) = some (byte.toNat, rest) :=
    readNumber_toDigits (by decide) (by decide) (by decide) (Nat.lt_trans below (by decide)) below halts
  refine Option.bind_eq_some_iff.mpr ⟨_, separated, Option.bind_eq_some_iff.mpr ⟨_, number, ?_⟩⟩
  exact congrArg (fun byte => some (byte, rest)) UInt8.ofNat_toNat

theorem read_text (ip : Ipv4) : Ipv4.read ip.text.toList = some (ip, []) := by
  have dot (rest : List Char) : Halts 10 ('.' :: rest) := by
    rintro _ ⟨⟩
    rfl
  have behind_dot (byte : UInt8) (rest : List Char) (halts : Halts 10 rest) :
      readByte false ('.' :: (Nat.toDigits 10 byte.toNat ++ rest)) = some (byte, rest) :=
    readByte_toDigits rfl halts
  have last := behind_dot ip.d [] nofun
  rw [List.append_nil] at last
  rw [text_toList]
  exact Option.bind_eq_some_iff.mpr ⟨_, readByte_toDigits rfl (dot _),
    Option.bind_eq_some_iff.mpr ⟨_, behind_dot ip.b _ (dot _),
      Option.bind_eq_some_iff.mpr ⟨_, behind_dot ip.c _ (dot _),
        Option.bind_eq_some_iff.mpr ⟨_, last, rfl⟩⟩⟩⟩

theorem read_eq_none (undotted : (input.dropWhile (isDigit 10)).head? ≠ some '.') :
    Ipv4.read input = none := by
  cases first : readByte true input with
  | none => rw [Ipv4.read, first]; rfl
  | some taken =>
    obtain ⟨byte, rest⟩ := taken
    have left : rest = input.dropWhile (isDigit 10) := by
      obtain ⟨⟨n, after⟩, number, same⟩ := Option.bind_eq_some_iff.mp first
      cases same
      exact eq_dropWhile_of_readNumber number
    have no_separator : afterSeparator false '.' rest = none := by
      rw [← left] at undotted
      cases rest with
      | nil => rfl
      | cons c rest => exact if_neg fun same => undotted (congrArg some same)
    have second : readByte false rest = none := by rw [readByte, no_separator]; rfl
    rw [Ipv4.read, first]
    exact congrArg (Option.bind · _) second

end Ipv4

namespace Ipv6

def Pauses (rest : List Char) : Prop := ∀ c, rest.head? = some c → c = ':'

theorem Pauses.halts (pauses : Pauses rest) : Halts 16 rest := by
  intro c head
  rw [pauses c head]
  rfl

theorem readGroup_toDigits (group : UInt16) (pauses : Pauses rest) :
    readGroup (Nat.toDigits 16 group.toNat ++ rest) = some (group, rest) := by
  have below : group.toNat < 65536 := group.toNat_lt
  have number : readNumber 16 4 65536 true (Nat.toDigits 16 group.toNat ++ rest) =
      some (group.toNat, rest) :=
    readNumber_toDigits (by decide) (by decide) (by decide) below below pauses.halts
  refine Option.bind_eq_some_iff.mpr ⟨_, number, ?_⟩
  exact congrArg (fun group => some (group, rest)) UInt16.ofNat_toNat

theorem ipv4_read_of_pauses {digits : List Char} (all : ∀ c ∈ digits, isDigit 16 c = true)
    (pauses : Pauses rest) : Ipv4.read (digits ++ rest) = none := by
  refine Ipv4.read_eq_none ?_
  induction digits with
  | nil =>
    have halts : Halts 10 rest := by
      intro c head
      rw [pauses c head]
      rfl
    rw [List.nil_append, dropWhile_of_halts halts]
    intro head
    cases pauses '.' head
  | cons c digits ih =>
    rw [List.cons_append, List.dropWhile_cons]
    split
    next => exact ih fun c among => all c (List.mem_cons_of_mem _ among)
    next =>
      rintro ⟨⟩
      cases all '.' List.mem_cons_self

theorem readGroups_cons {first : Bool} {group : UInt16} (room : Nat)
    (separated : afterSeparator first ':' input = some (Nat.toDigits 16 group.toNat ++ rest))
    (pauses : Pauses rest) :
    readGroups (room + 1) first input =
      (group :: (readGroups room false rest).1, (readGroups room false rest).2) := by
  have undotted : Ipv4.read (Nat.toDigits 16 group.toNat ++ rest) = none :=
    ipv4_read_of_pauses (fun c => isDigit_of_mem_toDigits (by decide) (by decide)) pauses
  rw [readGroups, separated, Option.bind_some, Option.bind_some, undotted, ite_self,
    readGroup_toDigits group pauses]

def spelled : (first : Bool) → List UInt16 → List Char
  | _, [] => []
  | first, group :: groups =>
      (if first then [] else [':']) ++ (Nat.toDigits 16 group.toNat ++ spelled false groups)

theorem groupsText_toList (groups : List UInt16) : (groupsText groups).toList = spelled true groups := by
  have joined (group : UInt16) (groups : List UInt16) :
      [':'].intercalate
          (Nat.toDigits 16 group.toNat :: groups.map fun group => Nat.toDigits 16 group.toNat) =
        Nat.toDigits 16 group.toNat ++ spelled false groups := by
    induction groups generalizing group with
    | nil => simp [spelled]
    | cons next groups ih =>
      rw [List.map_cons, List.intercalate_cons_cons, ih, List.append_assoc]
      rfl
  have characters : (groupsText groups).toList =
      [':'].intercalate (groups.map fun group => Nat.toDigits 16 group.toNat) := by
    simp [groupsText, Text.digitsText, Function.comp_def]
  cases groups with
  | nil => rfl
  | cons group groups => exact characters.trans (joined group groups)

theorem afterSeparator_spelled (first : Bool) (group : UInt16) (groups : List UInt16) (rest : List Char) :
    afterSeparator first ':' (spelled first (group :: groups) ++ rest) =
      some (Nat.toDigits 16 group.toNat ++ (spelled false groups ++ rest)) := by
  cases first <;> simp [afterSeparator, spelled]

theorem pauses_spelled (groups : List UInt16) (pauses : Pauses rest) :
    Pauses (spelled false groups ++ rest) := by
  cases groups with
  | nil => exact pauses
  | cons group groups =>
    rintro _ ⟨⟩
    rfl

def Ends (rest : List Char) : Prop := rest = [] ∨ ∃ tail, rest = ':' :: ':' :: tail

theorem Ends.pauses (ends : Ends rest) : Pauses rest := by
  rcases ends with rfl | ⟨tail, rfl⟩
  next => nofun
  next =>
    rintro _ ⟨⟩
    rfl

theorem readGroups_of_ends (room : Nat) (first : Bool) (ends : Ends rest) :
    readGroups room first rest = ([], false, rest) := by
  have nothing {item : List Char} (pauses : Pauses item) :
      Ipv4.read item = none ∧ readGroup item = none := by
    refine ⟨ipv4_read_of_pauses (List.forall_mem_nil _) pauses, ?_⟩
    rw [readGroup, readNumber_of_halts pauses.halts]
    rfl
  have item : afterSeparator first ':' rest = none ∨
      ∃ item, afterSeparator first ':' rest = some item ∧ Pauses item := by
    cases first with
    | true => exact .inr ⟨rest, rfl, ends.pauses⟩
    | false =>
      rcases ends with rfl | ⟨tail, rfl⟩
      next => exact .inl rfl
      next => exact .inr ⟨':' :: tail, rfl, by rintro _ ⟨⟩; rfl⟩
  cases room with
  | zero => rfl
  | succ room =>
    rw [readGroups]
    rcases item with none | ⟨item, some, pauses⟩
    next => rw [none, Option.bind_none, Option.bind_none, ite_self]
    next =>
      obtain ⟨no_tail, no_group⟩ := nothing pauses
      rw [some, Option.bind_some, Option.bind_some, no_tail, no_group, ite_self]

theorem readGroups_spelled {groups : List UInt16} {room : Nat} (first : Bool)
    (fits : groups.length ≤ room) (ends : Ends rest) :
    readGroups room first (spelled first groups ++ rest) = (groups, false, rest) := by
  induction groups generalizing room first with
  | nil => exact readGroups_of_ends room first ends
  | cons group groups ih =>
    cases room with
    | zero => cases fits
    | succ room =>
      rw [readGroups_cons room (afterSeparator_spelled first group groups rest)
        (pauses_spelled groups ends.pauses), ih false (Nat.le_of_succ_le_succ fits)]

structure ZeroRun (groups : List UInt16) (run : Nat × Nat) : Prop where
  inside : run.1 + run.2 ≤ groups.length
  zeros : (groups.drop run.1).take run.2 = List.replicate run.2 0

theorem zerosAt_run {groups : List UInt16} {start : Nat} (inside : start ≤ groups.length) :
    ZeroRun groups (start, zerosAt groups start) := by
  have front := List.takeWhile_prefix (· == (0 : UInt16)) (l := groups.drop start)
  have few : zerosAt groups start ≤ (groups.drop start).length := front.length_le
  rw [List.length_drop] at few
  constructor
  case inside => exact Nat.add_le_of_le_sub' inside few
  case zeros =>
    rw [zerosAt, ← List.prefix_iff_eq_take.mp front, List.eq_replicate_iff]
    refine ⟨rfl, fun group among => ?_⟩
    simpa using List.mem_takeWhile_imp among

theorem longestZeros_run (groups : List UInt16) : ZeroRun groups (longestZeros groups) := by
  have folded (starts : List Nat) (inside : ∀ start ∈ starts, start < groups.length) (best : Nat × Nat)
      (run : ZeroRun groups best) :
      ZeroRun groups (starts.foldl (fun best start =>
        if best.2 < zerosAt groups start then (start, zerosAt groups start) else best) best) := by
    induction starts generalizing best with
    | nil => exact run
    | cons start starts ih =>
      refine ih (fun start among => inside start (List.mem_cons_of_mem _ among)) _ ?_
      dsimp only
      split
      next => exact zerosAt_run (Nat.le_of_lt (inside start List.mem_cons_self))
      next => exact run
  exact folded _ (fun start among => List.mem_range.mp among) (0, 0) ⟨Nat.zero_le _, rfl⟩

theorem ZeroRun.split {groups : List UInt16} {run : Nat × Nat} (zeros : ZeroRun groups run) :
    groups = groups.take run.1 ++ List.replicate run.2 0 ++ groups.drop (run.1 + run.2) := by
  rw [← zeros.zeros, List.append_assoc, ← List.drop_drop, List.take_append_drop, List.take_append_drop]

theorem ofGroups?_groups (ip : Ipv6) : ofGroups? ip.groups = some ip := dif_pos ip.length_eq

theorem ofGroups_groups (high low : UInt16) : (Ipv4.ofGroups high low).groups = [high, low] := by
  have whole (group : UInt16) :
      UInt16.ofNat ((UInt8.ofNat (group.toNat / 256)).toNat * 256 + (UInt8.ofNat group.toNat).toNat) =
        group := by
    have below : group.toNat < 65536 := group.toNat_lt
    apply UInt16.toNat_inj.mp
    rw [UInt8.toNat_ofNat', UInt8.toNat_ofNat', UInt16.toNat_ofNat']
    omega
  exact congrArg₂ (fun high low => [high, low]) (whole high) (whole low)

theorem groups_of_mapped {ip : Ipv6} {inner : Ipv4} (mapped : ip.mapped? = some inner) :
    ip.groups = [0, 0, 0, 0, 0] ++ 0xffff :: inner.groups := by
  unfold mapped? at mapped
  split at mapped
  next high low same =>
    rw [same, ← Option.some_inj.mp mapped, ofGroups_groups]
    rfl
  next => cases mapped

/-- A text that stands for a number: all of its groups, or the groups around a double colon for zeros. -/
inductive Layout (ip : Ipv6) : List Char → Prop
  | full : Layout ip (spelled true ip.groups)
  | gap (front back : List UInt16) (dotted : Bool) (tail : List Char) (few : front.length < 8)
      (behind : readGroups (7 - front.length) true tail = (back, dotted, []))
      (same : ip.groups = front ++ List.replicate (8 - front.length - back.length) 0 ++ back) :
      Layout ip (spelled true front ++ ':' :: ':' :: tail)

theorem Layout.read {ip : Ipv6} {text : List Char} (layout : Layout ip text) :
    Ipv6.read text = some (ip, []) := by
  cases layout with
  | full =>
    have all := readGroups_spelled true (Nat.le_of_eq ip.length_eq) (.inl rfl)
    rw [List.append_nil] at all
    rw [Ipv6.read, all]
    simp only [ofGroups?_groups]
  | gap front back dotted tail few behind same =>
    have before := readGroups_spelled true (Nat.le_of_lt few) (.inr ⟨tail, rfl⟩)
    have incomplete : ofGroups? front = none := dif_neg (Nat.ne_of_lt few)
    have complete := ofGroups?_groups ip
    rw [same] at complete
    rw [Ipv6.read, before]
    simp only [incomplete, behind, complete, Option.map_some]

theorem Layout.read_ipv4 {ip : Ipv6} {text : List Char} (layout : Layout ip text) :
    Ipv4.read text = none := by
  have undotted (groups : List UInt16) (rest : List Char) (ends : Ends rest) :
      Ipv4.read (spelled true groups ++ rest) = none := by
    cases groups with
    | nil => exact ipv4_read_of_pauses (List.forall_mem_nil _) ends.pauses
    | cons group groups =>
      rw [spelled, if_pos rfl, List.nil_append, List.append_assoc]
      exact ipv4_read_of_pauses (fun c => isDigit_of_mem_toDigits (by decide) (by decide))
        (pauses_spelled groups ends.pauses)
  cases layout with
  | full => simpa using undotted ip.groups [] (.inl rfl)
  | gap => exact undotted _ _ (.inr ⟨_, rfl⟩)

theorem layout_mapped {ip : Ipv6} {inner : Ipv4} (mapped : ip.mapped? = some inner) :
    Layout ip ("::ffff:" ++ inner.text).toList := by
  have dotted (room : Nat) : readGroups (room + 2) false (':' :: inner.text.toList) =
      (inner.groups, true, []) := by
    rw [readGroups, if_pos (Nat.le_add_left 1 room)]
    simp only [afterSeparator, Bool.false_eq_true, if_false, if_true, Option.bind_some, Ipv4.read_text]
  have marked : afterSeparator true ':' ("ffff:".toList ++ inner.text.toList) =
      some (Nat.toDigits 16 (0xffff : UInt16).toNat ++ ':' :: inner.text.toList) := rfl
  have pauses : Pauses (':' :: inner.text.toList) := by
    rintro _ ⟨⟩
    rfl
  have behind := readGroups_cons 6 marked pauses
  rw [dotted] at behind
  rw [String.toList_append]
  exact .gap [] (0xffff :: inner.groups) true _ (Nat.succ_pos 7) behind (groups_of_mapped mapped)

theorem layout_around {ip : Ipv6} {start length : Nat} (run : ZeroRun ip.groups (start, length))
    (several : 1 < length) :
    Layout ip (groupsText (ip.groups.take start) ++ "::" ++
      groupsText (ip.groups.drop (start + length))).toList := by
  have total := ip.length_eq
  have inside : start + length ≤ ip.groups.length := run.inside
  have front : (ip.groups.take start).length = start := by
    rw [List.length_take]
    omega
  have back : (ip.groups.drop (start + length)).length = 8 - (start + length) := by
    rw [List.length_drop, total]
  have fits : (ip.groups.drop (start + length)).length ≤ 7 - (ip.groups.take start).length := by omega
  have behind := readGroups_spelled true fits (.inl rfl)
  rw [List.append_nil] at behind
  have left_out : 8 - (ip.groups.take start).length - (ip.groups.drop (start + length)).length = length := by
    omega
  have same := run.split
  rw [String.toList_append, String.toList_append, groupsText_toList, groupsText_toList, List.append_assoc]
  exact .gap _ _ false _ (by omega) behind (by rwa [left_out])

theorem layout_text (ip : Ipv6) : Layout ip ip.text.toList := by
  unfold text
  split
  next inner mapped => exact layout_mapped mapped
  next =>
    have run := longestZeros_run ip.groups
    generalize longestZeros ip.groups = zeros at run
    obtain ⟨start, length⟩ := zeros
    dsimp only
    split
    next several => exact layout_around run several
    next =>
      rw [groupsText_toList]
      exact .full

end Ipv6

namespace Host

def Plain : Host → Prop
  | v4 _ => True
  | v6 _ scope => scope = 0

theorem plain_of_parse? {text : String} {host : Host} (literal : parse? text = some host) : host.Plain := by
  rcases parse?_eq_some_iff.mp literal with ⟨ip, rfl, -⟩ | ⟨ip, rfl, -⟩
  next => exact trivial
  next => exact rfl

theorem parse?_ipText {host : Host} (plain : host.Plain) : parse? host.ipText = some host := by
  cases host with
  | v4 ip => exact parse?_eq_some_iff.mpr (.inl ⟨ip, rfl, ip.read_text⟩)
  | v6 ip scope =>
    cases plain
    have layout := ip.layout_text
    exact parse?_eq_some_iff.mpr (.inr ⟨ip, rfl, layout.read_ipv4, layout.read⟩)

end Host

end Conduit.Net
