import Conduit.Toml.Document
set_option autoImplicit false

namespace Conduit.Toml

def AfterValue (rest : Input) : Prop :=
  ∀ c, rest.head? = some c → c = ' ' ∨ c = '\t' ∨ c = '#' ∨ c = '\n' ∨ c = '\r'

structure Blanks where
  text : List Char
  blank : ∀ c ∈ text, isBlank c = true

variable {rest : Input}

theorem skipBlanks_append (blanks : Blanks) (rest : Input) :
    skipBlanks (blanks.text ++ rest) = skipBlanks rest :=
  List.dropWhile_append_of_pos blanks.blank

theorem isBlank_iff {c : Char} : isBlank c = true ↔ c = ' ' ∨ c = '\t' := by
  simp [isBlank]

theorem isBlank_of_ne {c : Char} (space : c ≠ ' ') (tab : c ≠ '\t') : isBlank c = false :=
  Bool.eq_false_iff.mpr (mt isBlank_iff.mp (not_or.mpr ⟨space, tab⟩))

theorem Blanks.head_eq (blanks : Blanks) {c : Char} {more : List Char}
    (spelled : blanks.text = c :: more) : c = ' ' ∨ c = '\t' :=
  isBlank_iff.mp (blanks.blank c (spelled ▸ List.mem_cons_self))

theorem skipBlanks_cons {c : Char} (dark : isBlank c = false) (rest : Input) :
    skipBlanks (c :: rest) = c :: rest :=
  List.dropWhile_cons_of_neg (by simp [dark])

theorem skipBlanks_spelled {text more : Input} {c : Char} (spelled : text = c :: more)
    (dark : isBlank c = false) (rest : Input) : skipBlanks (text ++ rest) = text ++ rest := by
  rw [spelled]
  exact skipBlanks_cons dark _

inductive Quoting
  | bare
  | literal
  | basic

def Quoting.Suits (name : List Char) : Quoting → Prop
  | bare => name ≠ [] ∧ ∀ c ∈ name, isBare c = true
  | literal => ∀ c ∈ name, isLineChar c = true ∧ c ≠ '\''
  | basic => ∀ c ∈ name, isLineChar c = true ∧ c ≠ '"' ∧ c ≠ '\\'

structure Key where
  name : List Char
  quoting : Quoting
  suits : quoting.Suits name

namespace Key

def text (key : Key) : List Char :=
  match key.quoting with
  | .bare => key.name
  | .literal => '\'' :: (key.name ++ ['\''])
  | .basic => '"' :: (key.name ++ ['"'])

def Starts (c : Char) : Prop := isBare c = true ∨ c = '\'' ∨ c = '"'

theorem text_eq_cons (key : Key) : ∃ c more, key.text = c :: more ∧ Starts c := by
  obtain ⟨name, quoting, suits⟩ := key
  cases quoting with
  | bare =>
    obtain ⟨some_char, bare⟩ := suits
    cases name with
    | nil => exact absurd rfl some_char
    | cons c more => exact ⟨c, more, rfl, .inl (bare c List.mem_cons_self)⟩
  | literal => exact ⟨_, _, rfl, .inr (.inl rfl)⟩
  | basic => exact ⟨_, _, rfl, .inr (.inr rfl)⟩

theorem Starts.ne {c other : Char} (starts : Starts c) (bare : isBare other = false)
    (single : other ≠ '\'') (double : other ≠ '"') : c ≠ other := by
  rintro rfl
  rcases starts with own | same | same
  next => cases own.symm.trans bare
  next => exact single same
  next => exact double same

theorem Starts.dark {c : Char} (starts : Starts c) : isBlank c = false :=
  isBlank_of_ne (starts.ne rfl (by decide) (by decide)) (starts.ne rfl (by decide) (by decide))

end Key

theorem readBasicBody_plain {name : List Char} (steps : Nat)
    (plain : ∀ c ∈ name, isLineChar c = true ∧ c ≠ '"' ∧ c ≠ '\\') :
    readBasicBody (name.length + steps + 1) (name ++ '"' :: rest) = .ok (name, rest) := by
  induction name with
  | nil => rfl
  | cons c name ih =>
    obtain ⟨inside, no_quote, no_escape⟩ := plain c List.mem_cons_self
    have further := ih fun c among => plain c (List.mem_cons_of_mem _ among)
    rw [List.length_cons, Nat.add_right_comm name.length 1 steps, List.cons_append, readBasicBody,
      if_pos inside, further]
    next => rfl
    next => exact no_quote
    next => exact no_escape

theorem readLiteral_plain {name : List Char}
    (plain : ∀ c ∈ name, isLineChar c = true ∧ c ≠ '\'') :
    readLiteral (name ++ '\'' :: rest) = .ok (String.ofList name, rest) := by
  have inside : ∀ c ∈ name, (isLineChar c && c != '\'') = true := by
    intro c among
    simpa using plain c among
  have tail : (name ++ '\'' :: rest).dropWhile (fun c => isLineChar c && c != '\'') = '\'' :: rest := by
    rw [List.dropWhile_append_of_pos inside]
    rfl
  have front : (name ++ '\'' :: rest).takeWhile (fun c => isLineChar c && c != '\'') = name := by
    rw [List.takeWhile_append_of_pos inside]
    exact List.append_nil name
  simp only [readLiteral, tail, front]
  rfl

theorem readSimpleKey_text (key : Key) (ends : ∀ c, rest.head? = some c → isBare c = false) :
    readSimpleKey (key.text ++ rest) = .ok (String.ofList key.name, rest) := by
  obtain ⟨name, quoting, suits⟩ := key
  cases quoting with
  | bare =>
    obtain ⟨some_char, bare⟩ := suits
    have stop : rest.takeWhile isBare = [] ∧ rest.dropWhile isBare = rest := by
      cases rest with
      | nil => exact ⟨rfl, rfl⟩
      | cons c rest => simp [ends c rfl]
    cases name with
    | nil => exact absurd rfl some_char
    | cons c more =>
      have first := bare c List.mem_cons_self
      show readSimpleKey (c :: (more ++ rest)) = _
      rw [readSimpleKey, ← List.cons_append, List.takeWhile_append_of_pos bare,
        List.dropWhile_append_of_pos bare, stop.1, stop.2, List.append_nil]
      next => rfl
      -- Quotes are not bare.
      all_goals
        intro _ same
        rw [(List.cons.inj same).1] at first
        cases first
  | literal =>
    show readLiteral ((name ++ ['\'']) ++ rest) = _
    rw [List.append_assoc]
    exact readLiteral_plain suits
  | basic =>
    show readBasic ((name ++ ['"']) ++ rest) = _
    rw [List.append_assoc, List.singleton_append, readBasic]
    have enough : (name ++ '"' :: rest).length + 1 = name.length + (rest.length + 1) + 1 := by simp
    rw [enough, readBasicBody_plain _ suits]
    rfl

structure Digits (base : Nat) where
  first : Char
  more : List (Bool × Char)
  digits : ∀ c ∈ first :: more.map Prod.snd, Text.isDigit base c = true

namespace Digits

variable {base : Nat}

def spell (more : List (Bool × Char)) : List Char :=
  more.flatMap fun (joined, c) => if joined then ['_', c] else [c]

def text (digits : Digits base) : List Char := digits.first :: spell digits.more

def plain (digits : Digits base) : List Char := digits.first :: digits.more.map Prod.snd

end Digits

theorem isDigit_false_of_afterValue (base : Nat) (after : AfterValue rest) {c : Char}
    (head : rest.head? = some c) : Text.isDigit base c = false ∧ c ≠ '_' := by
  rcases after c head with rfl | rfl | rfl | rfl | rfl <;> exact ⟨rfl, by decide⟩

theorem moreDigits_spell {base : Nat} {more : List (Bool × Char)}
    (digits : ∀ c ∈ more.map Prod.snd, Text.isDigit base c = true) (after : AfterValue rest) :
    moreDigits base (Digits.spell more ++ rest) = .ok (more.map Prod.snd, rest) := by
  induction more with
  | nil =>
    cases rest with
    | nil => rfl
    | cons c rest =>
      obtain ⟨digit, joint⟩ := isDigit_false_of_afterValue base after rfl
      show moreDigits base (c :: rest) = _
      rw [moreDigits, digit, if_neg Bool.false_ne_true, if_neg joint]
      next => rfl
      next => exact fun _ _ same _ => joint same
  | cons entry more ih =>
    obtain ⟨joined, c⟩ := entry
    have digit := digits c List.mem_cons_self
    have further := ih fun c among => digits c (List.mem_cons_of_mem _ among)
    cases joined with
    | true =>
      show moreDigits base ('_' :: c :: (Digits.spell more ++ rest)) = _
      rw [moreDigits, if_pos digit, further]
      rfl
    | false =>
      show moreDigits base (c :: (Digits.spell more ++ rest)) = _
      rw [moreDigits, if_pos digit, further]
      next => rfl
      next =>
        rintro _ _ rfl
        cases digit

theorem readDigits_text {base : Nat} (digits : Digits base) (after : AfterValue rest) :
    readDigits base (digits.text ++ rest) = .ok (digits.plain, rest) := by
  obtain ⟨first, more, all⟩ := digits
  show readDigits base (first :: (Digits.spell more ++ rest)) = _
  rw [readDigits, if_pos (all first List.mem_cons_self),
    moreDigits_spell (fun c among => all c (List.mem_cons_of_mem _ among)) after]
  rfl

inductive Sign
  | absent
  | plus
  | minus

def Sign.text : Sign → List Char
  | absent => []
  | plus => ['+']
  | minus => ['-']

def Sign.negative : Sign → Bool
  | absent | plus => false
  | minus => true

inductive Numeral
  | decimal (sign : Sign) (digits : Digits 10)
  | hexadecimal (digits : Digits 16)
  | octal (digits : Digits 8)
  | binary (digits : Digits 2)

namespace Numeral

def text : Numeral → List Char
  | decimal sign digits => sign.text ++ digits.text
  | hexadecimal digits => '0' :: 'x' :: digits.text
  | octal digits => '0' :: 'o' :: digits.text
  | binary digits => '0' :: 'b' :: digits.text

def value : Numeral → Int
  | decimal sign digits =>
      if sign.negative then -(Text.digitsValue 10 digits.plain : Int)
      else Text.digitsValue 10 digits.plain
  | hexadecimal digits => Text.digitsValue 16 digits.plain
  | octal digits => Text.digitsValue 8 digits.plain
  | binary digits => Text.digitsValue 2 digits.plain

structure Legal (numeral : Numeral) : Prop where
  leading : ∀ sign digits, numeral = decimal sign digits → digits.first = '0' → digits.more = []
  lowest : lowestInteger ≤ numeral.value
  highest : numeral.value ≤ highestInteger

end Numeral

theorem readWholePart_text {digits : Digits 10} (leading : digits.first = '0' → digits.more = [])
    (after : AfterValue rest) :
    readWholePart (digits.text ++ rest) = .ok (digits.plain, rest) := by
  by_cases zero : digits.first = '0'
  next =>
    obtain ⟨first, more, all⟩ := digits
    cases zero
    cases leading rfl
    rfl
  next =>
    rw [← readDigits_text digits after]
    obtain ⟨first, more, all⟩ := digits
    show readWholePart (first :: (Digits.spell more ++ rest)) = _
    rw [readWholePart]
    next => rfl
    next =>
      intro _ same
      exact zero (List.cons.inj same).1

theorem startsFloat_of_afterValue (after : AfterValue rest) : startsFloat rest = false := by
  cases rest with
  | nil => rfl
  | cons c rest => rcases after c rfl with rfl | rfl | rfl | rfl | rfl <;> rfl

theorem readDecimal_text (start : Input) {sign : Sign} {digits : Digits 10}
    (legal : (Numeral.decimal sign digits).Legal) (after : AfterValue rest) :
    readDecimal start sign.negative (digits.text ++ rest) =
      .ok (.integer (Numeral.decimal sign digits).value, rest) := by
  unfold readDecimal
  rw [readWholePart_text (legal.leading sign digits rfl) after]
  show (if startsFloat rest = true then _ else _) = _
  rw [startsFloat_of_afterValue after, if_neg Bool.false_ne_true]
  exact if_pos ⟨legal.lowest, legal.highest⟩

theorem readInBase_text {base : Nat} (digits : Digits base) (start : Input) (after : AfterValue rest)
    (highest : (Text.digitsValue base digits.plain : Int) ≤ highestInteger) :
    readInBase base start (digits.text ++ rest) =
      .ok (.integer (Text.digitsValue base digits.plain), rest) := by
  unfold readInBase
  rw [readDigits_text digits after]
  exact if_pos highest

theorem ne_of_isDigit {c : Char} (digit : Text.isDigit 10 c = true) (other : Char)
    (letter : Text.isDigit 10 other = false) : c ≠ other := by
  rintro rfl
  cases digit.symm.trans letter

theorem readSpecial?_text (negative : Bool) (digits : Digits 10) (rest : Input) :
    readSpecial? negative (digits.text ++ rest) = none := by
  obtain ⟨first, more, all⟩ := digits
  have digit := all first List.mem_cons_self
  show readSpecial? negative (first :: (Digits.spell more ++ rest)) = none
  rw [readSpecial?]
  all_goals
    intro _ same
    exact ne_of_isDigit digit _ rfl (List.cons.inj same).1

theorem readSign_text (sign : Sign) (digits : Digits 10) (rest : Input) :
    readSign (sign.text ++ (digits.text ++ rest)) = (sign.negative, digits.text ++ rest) := by
  cases sign with
  | plus | minus => rfl
  | absent =>
    obtain ⟨first, more, all⟩ := digits
    have digit := all first List.mem_cons_self
    show readSign (first :: (Digits.spell more ++ rest)) = _
    rw [readSign]
    next => rfl
    all_goals
      intro _ same
      exact ne_of_isDigit digit _ rfl (List.cons.inj same).1

theorem text_ne_zero_letter {sign : Sign} {digits : Digits 10}
    (leading : digits.first = '0' → digits.more = []) (after : AfterValue rest) {letter : Char}
    (inside : ¬ AfterValue [letter]) (further : Input) :
    sign.text ++ (digits.text ++ rest) ≠ '0' :: letter :: further := by
  intro same
  cases sign with
  | plus | minus => cases (List.cons.inj same).1
  | absent =>
    obtain ⟨first, more, all⟩ := digits
    obtain ⟨zero, same⟩ := List.cons.inj same
    have none : more = [] := leading zero
    subst none
    refine inside fun c head => after c ?_
    cases head
    exact congrArg List.head? same

theorem readNumber_text {numeral : Numeral} (legal : numeral.Legal) (after : AfterValue rest) :
    readNumber (numeral.text ++ rest) = .ok (.integer numeral.value, rest) := by
  cases numeral with
  | hexadecimal digits | octal digits | binary digits =>
    exact readInBase_text digits _ after legal.highest
  | decimal sign digits =>
    have leading := legal.leading sign digits rfl
    have other (letter : Char) (inside : ¬ AfterValue [letter]) (further : Input)
        (same : sign.text ++ (digits.text ++ rest) = '0' :: letter :: further) : False :=
      text_ne_zero_letter leading after inside further same
    show readNumber ((sign.text ++ digits.text) ++ rest) = _
    rw [List.append_assoc, readNumber]
    next =>
      rw [readSign_text]
      simp only [readSpecial?_text]
      exact readDecimal_text _ legal after
    all_goals
      refine other _ fun after => ?_
      simpa using after _ rfl

theorem readField_mark_absent {places low high : Nat} {mark : Char} {input : Input}
    (unmarked : (∀ c ∈ input.take places, Text.isDigit 10 c = true) →
      (input.take places).length = places → input[places]? ≠ some mark)
    (further : Nat → Input → Except Stop Input) :
    ∃ left, (Moment.readField places low high input >>= fun (field, rest) =>
      Moment.readMark [mark] rest >>= further field) = .error ⟨left, false⟩ := by
  unfold Moment.readField
  simp only
  split
  next field =>
    simp only [Bool.and_eq_true, decide_eq_true_eq, List.all_eq_true] at field
    have next_char := unmarked field.1.1.2 field.1.1.1
    rw [← List.head?_drop] at next_char
    show ∃ left, (Moment.readMark [mark] (input.drop places) >>= _) = _
    cases dropped : input.drop places with
    | nil => exact ⟨_, rfl⟩
    | cons c rest =>
      rw [dropped] at next_char
      have other : [mark].contains c = false := by simpa [eq_comm] using next_char
      rw [Moment.readMark, other, if_neg Bool.false_ne_true]
      exact ⟨_, rfl⟩
  next => exact ⟨_, rfl⟩

theorem mem_text {base : Nat} {digits : Digits base} {c : Char} (among : c ∈ digits.text) :
    Text.isDigit base c = true ∨ c = '_' := by
  obtain ⟨first, more, all⟩ := digits
  rcases List.mem_cons.mp among with rfl | among
  next => exact .inl (all c List.mem_cons_self)
  next =>
    obtain ⟨⟨joined, digit⟩, entry, among⟩ := List.mem_flatMap.mp among
    have own := all digit (List.mem_cons_of_mem _ (List.mem_map_of_mem entry))
    cases joined <;> simp at among <;> grind

variable {numeral : Numeral} {mark : Char}

theorem not_mem_text (marks : mark = '-' ∨ mark = ':')
    (digits : ∀ c, numeral.text.head? = some c → Text.isDigit 10 c = true) :
    mark ∉ numeral.text := by
  have no_digit {base : Nat} (digits : Digits base) (letter : Text.isDigit base mark = false) :
      mark ∉ digits.text := by
    intro among
    rcases mem_text among with digit | rfl
    next => cases digit.symm.trans letter
    next => rcases marks with same | same <;> cases same
  cases numeral with
  | decimal sign text =>
    cases sign with
    | absent =>
      refine no_digit text ?_
      rcases marks with rfl | rfl <;> rfl
    | plus | minus => cases digits _ rfl
  | hexadecimal text | octal text | binary text =>
    have apart := no_digit text (by rcases marks with rfl | rfl <;> rfl)
    rcases marks with rfl | rfl <;> simpa [Numeral.text] using apart

theorem numeral_unmarked (marks : mark = '-' ∨ mark = ':') {places : Nat} (some_place : 0 < places)
    (after : AfterValue rest)
    (digits : ∀ c ∈ (numeral.text ++ rest).take places, Text.isDigit 10 c = true) :
    (numeral.text ++ rest)[places]? ≠ some mark := by
  intro marked
  have heads (c : Char) (head : numeral.text.head? = some c) : Text.isDigit 10 c = true := by
    obtain ⟨more, spelled⟩ := List.head?_eq_some_iff.mp head
    obtain ⟨fewer, rfl⟩ := Nat.exists_eq_add_of_lt some_place
    exact digits c (by simp [spelled])
  rcases Nat.lt_or_ge places numeral.text.length with inside | outside
  next =>
    rw [List.getElem?_append_left inside] at marked
    exact not_mem_text marks heads (List.mem_of_getElem? marked)
  next =>
    rw [List.getElem?_append_right outside] at marked
    cases rest with
    | nil => simp at marked
    | cons c rest =>
      by_cases here : places = numeral.text.length
      next =>
        rw [here, Nat.sub_self, List.getElem?_cons_zero] at marked
        cases marked
        rcases marks with rfl | rfl <;> simpa using after _ rfl
      next =>
        -- What comes after the value is among the digits then, and is none.
        have digit := digits c (List.mem_take_iff_getElem.mpr ⟨numeral.text.length, by simp; omega, by simp⟩)
        rw [(isDigit_false_of_afterValue 10 after rfl).1] at digit
        cases digit

theorem readMoment_text (numeral : Numeral) (after : AfterValue rest) :
    ∃ left, Moment.read (numeral.text ++ rest) = .error ⟨left, false⟩ := by
  obtain ⟨left, date⟩ : ∃ left, Moment.readDate (numeral.text ++ rest) = .error ⟨left, false⟩ := by
    refine readField_mark_absent (fun digits _ => ?_) fun year rest => must do
      let (month, rest) ← Moment.readField 2 1 12 rest
      let (_, rest) ← Moment.readField 2 1 (Moment.daysInMonth year month) (← Moment.readMark ['-'] rest)
      return rest
    exact numeral_unmarked (.inl rfl) (by decide) after digits
  obtain ⟨last, time⟩ : ∃ left, Moment.readTime (numeral.text ++ rest) = .error ⟨left, false⟩ := by
    refine readField_mark_absent (fun digits _ => ?_) fun _ rest => must do
      let (_, rest) ← Moment.readField 2 0 59 rest
      let (_, rest) ← Moment.readField 2 0 60 (← Moment.readMark [':'] rest)
      return Moment.skipFraction rest
    exact numeral_unmarked (.inr rfl) (by decide) after digits
  refine ⟨last, ?_⟩
  rw [Moment.read, date]
  exact time

namespace Numeral

def Starts (c : Char) : Prop := Text.isDigit 10 c = true ∨ c = '+' ∨ c = '-'

theorem text_eq_cons (numeral : Numeral) : ∃ c more, numeral.text = c :: more ∧ Starts c := by
  cases numeral with
  | decimal sign digits =>
    cases sign with
    | absent => exact ⟨_, _, rfl, .inl (digits.digits _ List.mem_cons_self)⟩
    | plus => exact ⟨_, _, rfl, .inr (.inl rfl)⟩
    | minus => exact ⟨_, _, rfl, .inr (.inr rfl)⟩
  | hexadecimal digits | octal digits | binary digits => exact ⟨_, _, rfl, .inl rfl⟩

theorem Starts.ne {c other : Char} (starts : Starts c) (digit : Text.isDigit 10 other = false)
    (plus : other ≠ '+') (minus : other ≠ '-') : c ≠ other := by
  rintro rfl
  rcases starts with own | same | same
  next => cases own.symm.trans digit
  next => exact plus same
  next => exact minus same

theorem Starts.dark {c : Char} (starts : Starts c) : isBlank c = false :=
  isBlank_of_ne (starts.ne rfl (by decide) (by decide)) (starts.ne rfl (by decide) (by decide))

end Numeral

theorem readLeaf_text (legal : numeral.Legal) (after : AfterValue rest) :
    readLeaf (numeral.text ++ rest) = .ok (.integer numeral.value, rest) := by
  obtain ⟨left, moment⟩ := readMoment_text numeral after
  have number := readNumber_text legal after
  obtain ⟨c, more, spelled, starts⟩ := numeral.text_eq_cons
  rw [spelled] at moment number ⊢
  show readLeaf (c :: (more ++ rest)) = _
  rw [readLeaf]
  next =>
    show orTry ((Moment.read (c :: more ++ rest)).map _) ((readNumber (c :: more ++ rest)).map _) = _
    rw [moment, number]
    rfl
  all_goals
    intro _ same
    exact starts.ne (by rfl) (by decide) (by decide) (List.cons.inj same).1

theorem readValue_text (legal : numeral.Legal) (after : AfterValue rest) (depth : Nat) :
    readValue depth (numeral.text ++ rest) = .ok (.integer numeral.value, rest) := by
  rw [← readLeaf_text legal after]
  obtain ⟨c, more, spelled, starts⟩ := numeral.text_eq_cons
  rw [spelled]
  show readValue depth (c :: (more ++ rest)) = _
  cases depth with
  | zero | succ depth =>
    rw [readValue]
    next => rfl
    all_goals
      intro _ same
      exact starts.ne (by rfl) (by decide) (by decide) (List.cons.inj same).1

end Conduit.Toml
