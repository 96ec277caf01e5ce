import Conduit.Proofs.Text.Numerals
import Conduit.Proofs.Toml.Entries
import Conduit.Proofs.Toml.Words
set_option autoImplicit false

namespace Conduit.Toml

structure Comment where
  text : List Char
  plain : ∀ c ∈ text, isLineChar c = true

structure Tail where
  blanks : Blanks
  comment : Option Comment

inductive LineEnd
  | lineFeed
  | carriageReturn

structure Assignment where
  lead : Blanks
  key : Key
  before : Blanks
  behind : Blanks
  value : Numeral
  legal : value.Legal

structure Line where
  assignment : Option Assignment
  tail : Tail

def Comment.marked (comment : Option Comment) : List Char :=
  match comment with
  | some comment => '#' :: comment.text
  | none => []

def Tail.text (tail : Tail) : List Char := tail.blanks.text ++ Comment.marked tail.comment

def LineEnd.text : LineEnd → List Char
  | lineFeed => ['\n']
  | carriageReturn => ['\r', '\n']

def Assignment.words (assignment : Assignment) (rest : Input) : Input :=
  assignment.key.text ++ (assignment.before.text ++ '=' ::
    (assignment.behind.text ++ (assignment.value.text ++ rest)))

def Line.text (line : Line) (rest : Input) : Input :=
  match line.assignment with
  | some assignment => assignment.lead.text ++ assignment.words (line.tail.text ++ rest)
  | none => line.tail.text ++ rest

def Line.settings (line : Line) : List (String × Int) :=
  (line.assignment.map fun assignment =>
    (String.ofList assignment.key.name, assignment.value.value)).toList

inductive Ended : Input → Input → Prop
  | line (lineEnd : LineEnd) (rest : Input) : Ended (lineEnd.text ++ rest) rest
  | text : Ended [] []

variable {after rest : Input}

namespace Ended

theorem head_eq (ended : Ended after rest) {c : Char} (head : after.head? = some c) :
    c = '\n' ∨ c = '\r' := by
  cases ended with
  | line lineEnd rest =>
    cases lineEnd with
    | lineFeed => exact .inl (Option.some.inj head).symm
    | carriageReturn => exact .inr (Option.some.inj head).symm
  | text => cases head

theorem length_le (ended : Ended after rest) : rest.length ≤ after.length := by
  cases ended with
  | line lineEnd rest => simp
  | text => exact Nat.le_refl _

end Ended

theorem skipBlanks_of_ended (ended : Ended after rest) : skipBlanks after = after := by
  cases after with
  | nil => rfl
  | cons c after =>
    apply skipBlanks_cons
    rcases ended.head_eq rfl with rfl | rfl <;> rfl

theorem skipComment_marked (comment : Option Comment) (ended : Ended after rest) :
    skipComment (Comment.marked comment ++ after) = after := by
  cases comment with
  | some comment =>
    show (comment.text ++ after).dropWhile isLineChar = after
    rw [List.dropWhile_append_of_pos comment.plain]
    cases after with
    | nil => rfl
    | cons c after =>
      refine List.dropWhile_cons_of_neg ?_
      rcases ended.head_eq rfl with rfl | rfl <;> decide
  | none =>
    show skipComment after = after
    cases after with
    | nil => rfl
    | cons c after =>
      rcases ended.head_eq rfl with rfl | rfl <;> rfl

theorem skipBlanks_marked (comment : Option Comment) (ended : Ended after rest) :
    skipBlanks (Comment.marked comment ++ after) = Comment.marked comment ++ after := by
  cases comment with
  | some comment => exact skipBlanks_cons rfl _
  | none => exact skipBlanks_of_ended ended

theorem skipBlanks_tail (tail : Tail) (ended : Ended after rest) :
    skipBlanks (tail.text ++ after) = Comment.marked tail.comment ++ after := by
  rw [Tail.text, List.append_assoc, skipBlanks_append, skipBlanks_marked tail.comment ended]

theorem endLine_marked (comment : Option Comment) (ended : Ended after rest) :
    endLine (Comment.marked comment ++ after) = .ok rest := by
  unfold endLine
  rw [skipBlanks_marked comment ended]
  simp only [skipComment_marked comment ended]
  cases ended with
  | line lineEnd rest => cases lineEnd <;> rfl
  | text => rfl

theorem endLine_tail (tail : Tail) (ended : Ended after rest) :
    endLine (tail.text ++ after) = .ok rest := by
  rw [← endLine_marked tail.comment ended]
  unfold endLine
  rw [skipBlanks_tail tail ended, skipBlanks_marked tail.comment ended]

theorem afterValue_tail (tail : Tail) (ended : Ended after rest) : AfterValue (tail.text ++ after) := by
  intro c head
  rw [Tail.text] at head
  cases spelled : tail.blanks.text with
  | cons first blanks =>
    rw [spelled] at head
    cases head
    exact (tail.blanks.head_eq spelled).imp id .inl
  | nil =>
    rw [spelled] at head
    cases comment : tail.comment with
    | some comment =>
      rw [comment] at head
      cases head
      simp
    | none =>
      rw [comment] at head
      rcases ended.head_eq head with rfl | rfl <;> simp

variable {assignment : Assignment} {builder : Builder}

theorem skipBlanks_key (key : Key) (rest : Input) :
    skipBlanks (key.text ++ rest) = key.text ++ rest := by
  obtain ⟨c, more, spelled, starts⟩ := key.text_eq_cons
  exact skipBlanks_spelled spelled starts.dark rest

theorem skipBlanks_numeral (numeral : Numeral) (rest : Input) :
    skipBlanks (numeral.text ++ rest) = numeral.text ++ rest := by
  obtain ⟨c, more, spelled, starts⟩ := numeral.text_eq_cons
  exact skipBlanks_spelled spelled starts.dark rest

def Assignment.valueWords (assignment : Assignment) (rest : Input) : Input :=
  '=' :: (assignment.behind.text ++ (assignment.value.text ++ rest))

def Assignment.label (assignment : Assignment) (rest : Input) : Label :=
  ⟨String.ofList assignment.key.name, (assignment.words rest).length, (assignment.words rest).length⟩

theorem readSimpleKey_words (assignment : Assignment) (rest : Input) :
    readSimpleKey (assignment.words rest) =
      .ok (String.ofList assignment.key.name,
        assignment.before.text ++ assignment.valueWords rest) := by
  apply readSimpleKey_text
  intro c head
  cases spelled : assignment.before.text with
  | nil =>
    rw [spelled] at head
    cases head
    rfl
  | cons first blanks =>
    rw [spelled] at head
    cases head
    rcases assignment.before.head_eq spelled with rfl | rfl <;> rfl

theorem readKeyPath_words (parts : Nat) (assignment : Assignment) (rest : Input) :
    readKeyPath (parts + 1) (assignment.words rest) =
      .ok ([assignment.label rest], assignment.valueWords rest) := by
  have start : skipBlanks (assignment.words rest) = assignment.words rest := skipBlanks_key _ _
  have blanks : skipBlanks (assignment.before.text ++ assignment.valueWords rest) =
      assignment.valueWords rest :=
    (skipBlanks_append _ _).trans (skipBlanks_cons rfl _)
  rw [readKeyPath, start, readSimpleKey_words]
  show Except.bind (.ok _) _ = _
  simp only [Except.bind, blanks]
  rfl

theorem readPair_words (assignment : Assignment) (after : AfterValue rest) :
    ∃ label : Label, label.name = String.ofList assignment.key.name ∧
      readPair (readValue maxDepth) (assignment.words rest) =
        .ok (⟨[], label, .integer assignment.value.value⟩, rest) := by
  have key : readKey (assignment.words rest) =
      .ok (([], assignment.label rest), assignment.valueWords rest) := by
    rw [readKey, readKeyPath_words]
    rfl
  have blanks : skipBlanks (assignment.behind.text ++ (assignment.value.text ++ rest)) =
      assignment.value.text ++ rest :=
    (skipBlanks_append _ _).trans (skipBlanks_numeral _ _)
  have value : readValue maxDepth
        (skipBlanks (assignment.behind.text ++ (assignment.value.text ++ rest))) =
      .ok (.integer assignment.value.value, rest) := by
    rw [blanks]
    exact readValue_text assignment.legal after maxDepth
  refine ⟨{ assignment.label rest with
    valueAt := (skipBlanks (assignment.behind.text ++ (assignment.value.text ++ rest))).length }, rfl, ?_⟩
  rw [readPair, key]
  show must (readValue maxDepth
    (skipBlanks (assignment.behind.text ++ (assignment.value.text ++ rest))) >>= _) = _
  rw [value]
  rfl

theorem add_here (builder : Builder) (key : Label) (node : Node) :
    builder.add [] key node =
      if key.name ∈ builder.current.names then none
      else some { builder with current := builder.current ++ [(key, node)] } := by
  by_cases known : key.name ∈ builder.current.names
  next =>
    have found : (builder.current.find? key.name).isSome = true := by
      rw [Option.isSome_iff_ne_none]
      exact fun none => Entries.find?_eq_none_iff.mp none known
    rw [if_pos known]
    simp [Builder.add, Entries.insert, Entries.within, Entries.addKey, found]
  next =>
    have missing := Entries.find?_eq_none_iff.mpr known
    rw [if_neg known]
    simp [Builder.add, Entries.insert, Entries.within, Entries.addKey, missing]

def Entries.view (entries : Entries) : List (String × Node) :=
  entries.map fun entry => (entry.1.name, entry.2)

inductive Listed (builder : Builder) (settings : List (String × Int)) : Except Stop Builder → Prop
  | done (after : Builder) (distinct : (builder.current.names ++ settings.map Prod.fst).Nodup)
      (target_eq : after.target = builder.target)
      (view_eq : after.current.view =
        builder.current.view ++ settings.map fun setting => (setting.1, .integer setting.2)) :
      Listed builder settings (.ok after)
  | repeated (stop : Stop) (repeats : ¬ (builder.current.names ++ settings.map Prod.fst).Nodup) :
      Listed builder settings (.error stop)

theorem listed_nil (distinct : builder.current.names.Nodup) : Listed builder [] (.ok builder) :=
  .done builder (by simpa using distinct) rfl (by simp)

theorem words_eq_cons (assignment : Assignment) (rest : Input) :
    ∃ c more, assignment.words rest = c :: more ∧ Key.Starts c := by
  obtain ⟨c, more, spelled, starts⟩ := assignment.key.text_eq_cons
  refine ⟨c, more ++ (assignment.before.text ++ assignment.valueWords rest), ?_, starts⟩
  show assignment.key.text ++ _ = _
  rw [spelled]
  rfl

theorem readLine_words (builder : Builder) (assignment : Assignment) (rest : Input) :
    readLine builder (assignment.words rest) = readAssignment builder (assignment.words rest) := by
  obtain ⟨c, more, words, starts⟩ := words_eq_cons assignment rest
  have no_comment : c ≠ '#' := starts.ne rfl (by decide) (by decide)
  have no_bracket : c ≠ '[' := starts.ne rfl (by decide) (by decide)
  have no_end : newline? (c :: more) = none := by
    rw [newline?]
    all_goals
      intro _ same
      exact absurd (List.cons.inj same).1 (starts.ne rfl (by decide) (by decide))
  rw [words, readLine]
  next => simp [no_comment, no_end]
  all_goals
    intros
    exact no_bracket ‹_›

theorem readLine_marked (builder : Builder) (comment : Option Comment) (ended : Ended after rest)
    (something : Comment.marked comment ++ after ≠ []) :
    readLine builder (Comment.marked comment ++ after) = .ok (builder, rest) := by
  have read := endLine_marked comment ended
  cases comment with
  | some comment =>
    show (endLine ('#' :: (comment.text ++ after))).map _ = _
    rw [show endLine ('#' :: (comment.text ++ after)) = .ok rest from read]
    rfl
  | none =>
    cases ended with
    | line lineEnd rest => cases lineEnd <;> rfl
    | text => exact absurd rfl something

def Reads (settings : List (String × Int)) (rest : Input) : Prop :=
  ∀ builder lines, builder.current.names.Nodup → rest.length < lines →
    Listed builder settings (readLines lines builder rest)

theorem reads_nil : Reads [] [] := by
  intro builder lines distinct enough
  obtain ⟨fewer, rfl⟩ := Nat.exists_eq_add_of_lt enough
  exact listed_nil distinct

theorem Ended.length_lt_marked (ended : Ended after rest) {comment : Option Comment}
    (something : Comment.marked comment ++ after ≠ []) :
    rest.length < (Comment.marked comment ++ after).length := by
  cases ended with
  | line lineEnd rest =>
    have positive : 0 < lineEnd.text.length := by cases lineEnd <;> decide
    rw [List.length_append, List.length_append]
    omega
  | text => exact List.length_pos_iff.mpr something

theorem Reads.blank {settings : List (String × Int)} (reads : Reads settings rest) (tail : Tail)
    (ended : Ended after rest) : Reads settings (tail.text ++ after) := by
  intro builder lines distinct enough
  obtain ⟨lines, rfl⟩ : ∃ fewer, lines = fewer + 1 := ⟨lines - 1, by omega⟩
  rw [readLines, skipBlanks_tail tail ended]
  cases start : Comment.marked tail.comment ++ after with
  | nil =>
    obtain ⟨-, rfl⟩ := List.append_eq_nil_iff.mp start
    have finished : rest = [] := List.length_eq_zero_iff.mp (Nat.le_zero.mp ended.length_le)
    subst finished
    exact reads builder 1 distinct (by simp)
  | cons c more =>
    have something : Comment.marked tail.comment ++ after ≠ [] := by simp [start]
    have line := readLine_marked builder tail.comment ended something
    have shorter := ended.length_lt_marked something
    rw [start] at line
    show Listed builder settings (readLine builder (c :: more) >>= _)
    rw [line]
    refine reads builder lines distinct ?_
    simp only [Tail.text, List.length_append] at enough shorter
    omega

theorem Listed.cons {settings : List (String × Int)} {label : Label} {value : Int}
    {result : Except Stop Builder}
    (listed : Listed { builder with current := builder.current ++ [(label, .integer value)] } settings
      result) : Listed builder ((label.name, value) :: settings) result := by
  cases listed with
  | done after distinct target_eq view_eq =>
    refine .done after ?_ target_eq ?_
    next => simpa [Entries.names] using distinct
    next => simpa [Entries.view] using view_eq
  | repeated stop repeats =>
    refine .repeated stop ?_
    simpa [Entries.names] using repeats

theorem readAssignment_words (builder : Builder) (assignment : Assignment) (tail : Tail)
    (ended : Ended after rest) :
    ∃ label : Label, label.name = String.ofList assignment.key.name ∧
      readAssignment builder (assignment.words (tail.text ++ after)) =
        if label.name ∈ builder.current.names then
          .error (.broken (assignment.words (tail.text ++ after)))
        else
          .ok ({ builder with current := builder.current ++ [(label, .integer assignment.value.value)] },
            rest) := by
  obtain ⟨label, named, pair⟩ := readPair_words assignment (afterValue_tail tail ended)
  refine ⟨label, named, ?_⟩
  rw [readAssignment, pair]
  show endLine (tail.text ++ after) >>= _ = _
  rw [endLine_tail tail ended]
  show agreed _ (builder.add [] label (.integer assignment.value.value)) >>= _ = _
  rw [add_here]
  split <;> rfl

theorem Reads.assign {settings : List (String × Int)} (reads : Reads settings rest)
    (assignment : Assignment) (tail : Tail) (ended : Ended after rest) :
    Reads ((String.ofList assignment.key.name, assignment.value.value) :: settings)
      (assignment.lead.text ++ assignment.words (tail.text ++ after)) := by
  intro builder lines distinct enough
  obtain ⟨lines, rfl⟩ : ∃ fewer, lines = fewer + 1 := ⟨lines - 1, by omega⟩
  obtain ⟨label, named, assigned⟩ := readAssignment_words builder assignment tail ended
  rw [← readLine_words] at assigned
  have start : skipBlanks (assignment.lead.text ++ assignment.words (tail.text ++ after)) =
      assignment.words (tail.text ++ after) := (skipBlanks_append _ _).trans (skipBlanks_key _ _)
  have line : readLines (lines + 1) builder
        (assignment.lead.text ++ assignment.words (tail.text ++ after)) =
      readLine builder (assignment.words (tail.text ++ after)) >>= fun read =>
        readLines lines read.1 read.2 := by
    obtain ⟨c, more, words, -⟩ := words_eq_cons assignment (tail.text ++ after)
    rw [readLines, start, words]
  rw [line, assigned, ← named]
  split
  next known =>
    refine .repeated _ fun distinct => ?_
    exact (List.nodup_append.mp distinct).2.2 _ known _ List.mem_cons_self rfl
  next new =>
    apply Listed.cons
    refine reads _ lines ?_ ?_
    next =>
      rw [Entries.names, List.map_append, List.nodup_append]
      refine ⟨distinct, by simp, ?_⟩
      rintro name among _ isNew rfl
      have same := List.mem_singleton.mp isNew
      subst same
      exact new among
    next =>
      have shorter := ended.length_le
      simp only [Assignment.words, List.length_append, List.length_cons] at enough
      omega

/-- A flat document: lines with their ends, and the last line without one. -/
structure Listing where
  marked : Bool
  lines : List (Line × LineEnd)
  last : Line

namespace Listing

def body (lines : List (Line × LineEnd)) (last : Line) : Input :=
  lines.foldr (fun (line, lineEnd) rest => line.text (lineEnd.text ++ rest)) (last.text [])

def text (listing : Listing) : String :=
  String.ofList ((if listing.marked then ['\ufeff'] else []) ++ body listing.lines listing.last)

def settings (listing : Listing) : List (String × Int) :=
  listing.lines.flatMap (·.1.settings) ++ listing.last.settings

end Listing

theorem Reads.line {settings : List (String × Int)} (reads : Reads settings rest) (line : Line)
    (ended : Ended after rest) : Reads (line.settings ++ settings) (line.text after) := by
  obtain ⟨assignment, tail⟩ := line
  cases assignment with
  | none => exact reads.blank tail ended
  | some assignment => exact reads.assign assignment tail ended

theorem reads_body (lines : List (Line × LineEnd)) (last : Line) :
    Reads (lines.flatMap (·.1.settings) ++ last.settings) (Listing.body lines last) := by
  induction lines with
  | nil =>
    have whole := reads_nil.line last .text
    rwa [List.append_nil] at whole
  | cons line lines ih =>
    rw [List.flatMap_cons, List.append_assoc]
    exact ih.line line.1 (.line line.2 _)

theorem text_ne_mark (line : Line) (ended : Ended after rest) (further : Input) :
    line.text after ≠ '\ufeff' :: further := by
  intro same
  have head := congrArg List.head? same
  obtain ⟨assignment, tail⟩ := line
  cases assignment with
  | none => simpa using afterValue_tail tail ended _ head
  | some assignment =>
    obtain ⟨⟨lead, blank⟩, key, before, behind, value, legal⟩ := assignment
    cases lead with
    | nil =>
      obtain ⟨c, more, words, starts⟩ :=
        words_eq_cons ⟨⟨[], blank⟩, key, before, behind, value, legal⟩ (tail.text ++ after)
      have first : (c :: more).head? = some '\ufeff' := words ▸ head
      exact starts.ne rfl (by decide) (by decide) (Option.some.inj first)
    | cons c lead =>
      cases head
      cases blank _ List.mem_cons_self

theorem skipMark_text (listing : Listing) :
    skipMark listing.text.toList = Listing.body listing.lines listing.last := by
  obtain ⟨marked, lines, last⟩ := listing
  rw [Listing.text, String.toList_ofList]
  cases marked with
  | true => rfl
  | false =>
    show skipMark (Listing.body lines last) = _
    rw [skipMark]
    cases lines with
    | nil => exact text_ne_mark last .text
    | cons line lines => exact text_ne_mark line.1 (.line line.2 _)

theorem read_listing (listing : Listing) :
    ((listing.settings.map Prod.fst).Nodup → ∃ entries, read listing.text = .ok entries ∧
      entries.view = listing.settings.map fun setting => (setting.1, .integer setting.2)) ∧
    (¬ (listing.settings.map Prod.fst).Nodup → ∃ stop, read listing.text = .error stop) := by
  have listed := reads_body listing.lines listing.last .start
    ((Listing.body listing.lines listing.last).length + 1) List.nodup_nil (Nat.lt_succ_self _)
  have reading : read listing.text =
      readLines ((Listing.body listing.lines listing.last).length + 1) .start
        (Listing.body listing.lines listing.last) >>= fun builder => agreed [] builder.close := by
    rw [← skipMark_text]
    rfl
  rw [reading]
  generalize readLines _ _ _ = result at *
  cases listed with
  | done after distinct target_eq view_eq =>
    refine ⟨fun _ => ⟨after.current, ?_, view_eq⟩, fun repeats => absurd distinct repeats⟩
    have closed : after.close = some after.current := by rw [Builder.close, target_eq]; rfl
    show agreed [] after.close = _
    rw [closed]
    rfl
  | repeated stop repeats => exact ⟨fun distinct => absurd distinct repeats, fun _ => ⟨stop, rfl⟩⟩

theorem exists_numeral {n : Nat} (fits : (n : Int) ≤ highestInteger) :
    ∃ numeral : Numeral, numeral.Legal ∧ numeral.value = n := by
  cases spelled : Nat.toDigits 10 n with
  | nil => exact absurd spelled Nat.toDigits_ne_nil
  | cons first more =>
    have plain : first :: (more.map (false, ·)).map Prod.snd = Nat.toDigits 10 n := by
      simp [spelled, Function.comp_def]
    have digits : ∀ c ∈ first :: (more.map (false, ·)).map Prod.snd, Text.isDigit 10 c = true := by
      rw [plain]
      exact fun c => Text.isDigit_of_mem_toDigits (by decide) (by decide)
    have value : (Numeral.decimal .absent ⟨first, more.map (false, ·), digits⟩).value = n := by
      show ((Text.digitsValue 10 (first :: (more.map (false, ·)).map Prod.snd) : Nat) : Int) = n
      rw [plain, Text.digitsValue_toDigits (by decide) (by decide)]
    refine ⟨_, ⟨?_, ?_, ?_⟩, value⟩
    next =>
      rintro _ _ ⟨⟩ zero
      cases n with
      | zero =>
        cases spelled
        rfl
      | succ n =>
        refine absurd ?_ (Text.head?_toDigits (show 1 < 10 by decide) (Nat.succ_pos n))
        rw [spelled]
        exact congrArg some zero
    next => exact value ▸ Int.le_trans (by decide) (Int.natCast_nonneg n)
    next => exact value ▸ fits

def IsBare (name : String) : Prop := Quoting.bare.Suits name.toList

theorem exists_listing {settings : List (String × Int)}
    (plain : ∀ name value, (name, value) ∈ settings →
      IsBare name ∧ 0 ≤ value ∧ value ≤ highestInteger) :
    ∃ listing : Listing, listing.settings = settings := by
  have nothing : Blanks := ⟨[], nofun⟩
  induction settings with
  | nil => exact ⟨⟨false, [], ⟨none, ⟨nothing, none⟩⟩⟩, rfl⟩
  | cons setting settings ih =>
    obtain ⟨name, value⟩ := setting
    obtain ⟨listing, same⟩ := ih fun name value among => plain name value (List.mem_cons_of_mem _ among)
    obtain ⟨bare, positive, fits⟩ := plain name value List.mem_cons_self
    obtain ⟨n, rfl⟩ := Int.eq_ofNat_of_zero_le positive
    obtain ⟨numeral, legal, value_eq⟩ := exists_numeral fits
    let assignment : Assignment := ⟨nothing, ⟨name.toList, .bare, bare⟩, nothing, nothing, numeral, legal⟩
    refine ⟨⟨false, (⟨some assignment, ⟨nothing, none⟩⟩, .lineFeed) :: listing.lines, listing.last⟩, ?_⟩
    have head : (String.ofList name.toList, numeral.value) = (name, (n : Int)) := by
      rw [String.ofList_toList, value_eq]
    rw [← same, ← head]
    rfl

end Conduit.Toml
